/-
SecurityGroups/Rule/Any.lean

Rules of any cloud that keeps rules.

`Rule.ofJson` reads a rule for a cloud that is known.  `Rule.tagged?` reads
a rule that names its cloud, in the member `vendor` beside the fields or as
the first item before them, and `Rule.toJson` writes the member.
-/
import SecurityGroups.Rule.Aws
import SecurityGroups.Rule.Azure
import SecurityGroups.Rule.HuaWei
import SecurityGroups.Rule.TCloud

namespace SecurityGroups

/-- Why a body is not a rule, or a request about rules, of a cloud. -/
inductive DecodeError where
  | unsupported (vendor : Vendor)
  | unknownVendor (name : String)
  | malformed
  deriving Repr, DecidableEq

/-- The wording of a decoding error. -/
def DecodeError.message : DecodeError → String
  | unsupported vendor => "security group rules are not supported for vendor " ++ vendor.name
  | unknownVendor name => Vendor.unknownMessage name
  | malformed => "invalid rule body"

/-- What could be read, or that the body was malformed. -/
def DecodeError.ofOption {α : Type} : Option α → Except DecodeError α
  | some x => .ok x
  | none => .error .malformed

/-- A rule of one of the clouds that keep rules. -/
inductive Rule where
  | tcloud (rule : TCloud.Rule)
  | aws (rule : Aws.Rule)
  | huawei (rule : HuaWei.Rule)
  | azure (rule : Azure.Rule)
  deriving Repr, DecidableEq

namespace Rule

/-- The cloud of a rule. -/
def vendor : Rule → Vendor
  | tcloud _ => .tcloud
  | aws _ => .aws
  | huawei _ => .huawei
  | azure _ => .azure

/-- What is wrong with a rule. -/
def check : Rule → Verdict
  | tcloud rule => rule.check
  | aws rule => rule.check
  | huawei rule => rule.check
  | azure rule => rule.check

/-- Reads a rule of a cloud. -/
def ofJson (vendor : Vendor) (body : Json) : Except DecodeError Rule :=
  match vendor with
  | .tcloud => DecodeError.ofOption ((Shape.record? body).map tcloud)
  | .aws => DecodeError.ofOption ((Shape.record? body).map aws)
  | .huawei => DecodeError.ofOption ((Shape.record? body).map huawei)
  | .azure => DecodeError.ofOption ((Shape.record? body).map azure)
  | .gcp => .error (.unsupported .gcp)

/-- Reads a rule of the cloud with the given name. -/
def named? (name : String) (body : Json) : Option Rule :=
  (Vendor.find? name).bind fun v => (ofJson v body).toOption

/-- Reads a rule with its cloud beside its fields: a member of an object, or the first of the
items.  A name among the fields may carry an empty object. -/
def tagged? : Json → Option Rule
  | .obj ms =>
    match Members.find? "vendor" ms with
    | some (.str s) => named? s (.obj (ms.map fun (name, j) => (name, j.bareName)))
    | _ => none
  | .arr (.str s :: items) => named? s (.arr (items.map Json.bareName))
  | _ => none

/-- The JSON members of the fields of a rule. -/
def members : Rule → Members
  | tcloud rule => Shape.members rule
  | aws rule => Shape.members rule
  | huawei rule => Shape.members rule
  | azure rule => Shape.members rule

/-- Writes a rule with its cloud beside its fields. -/
def toJson (r : Rule) : Json := .obj (("vendor", .str r.vendor.name) :: r.members)

end Rule

end SecurityGroups
