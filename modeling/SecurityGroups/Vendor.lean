/-
SecurityGroups/Vendor.lean

The clouds that are inventoried and the two directions of traffic.

`Vendor.find?` and `Direction.find?` are the inverses of the names:
`find?_name` says that every name is found again.
-/
namespace SecurityGroups

/-- A cloud. -/
inductive Vendor where
  | tcloud | aws | gcp | azure | huawei
  deriving Repr, DecidableEq

namespace Vendor

/-- Every cloud. -/
def all : List Vendor := [tcloud, aws, gcp, azure, huawei]

/-- A tour of the clouds, which comes to each of them once. -/
structure Tour where
  stops : List Vendor
  perm : stops.Perm all

/-- The tour in the order in which the clouds are listed. -/
def Tour.listed : Tour := ⟨all, .refl all⟩

/-- The name under which a cloud is stored and written. -/
def name : Vendor → String
  | tcloud => "tcloud"
  | aws => "aws"
  | gcp => "gcp"
  | azure => "azure"
  | huawei => "huawei"

/-- The cloud of a name. -/
def find? (s : String) : Option Vendor := all.find? (·.name == s)

/-- Whether the rules of security groups are kept for a cloud. -/
def keepsRules : Vendor → Bool
  | gcp => false
  | _ => true

@[simp] theorem find?_name (v : Vendor) : find? v.name = some v := by cases v <;> decide

/-- Only the name of a cloud finds it. -/
theorem name_of_find? {s : String} {v : Vendor} (h : find? s = some v) : v.name = s := by
  simpa using List.find?_some h

/-- The wording for a name that no cloud has. -/
def unknownMessage (s : String) : String := "unsupported vendor: " ++ s

end Vendor

/-- The direction of the traffic that a rule is about. -/
inductive Direction where
  | egress | ingress
  deriving Repr, DecidableEq

namespace Direction

/-- Both directions. -/
def all : List Direction := [egress, ingress]

/-- The name under which a direction is stored and written. -/
def name : Direction → String
  | egress => "egress"
  | ingress => "ingress"

/-- The direction of a name. -/
def find? (s : String) : Option Direction := all.find? (·.name == s)

@[simp] theorem find?_name (d : Direction) : find? d.name = some d := by cases d <;> decide

/-- Only the name of a direction finds it. -/
theorem name_of_find? {s : String} {d : Direction} (h : find? s = some d) : d.name = s := by
  simpa using List.find?_some h

/-- The wording for a name that no direction has. -/
def unknownMessage (s : String) : String := "unknown security group rule type: " ++ s

end Direction

end SecurityGroups
