/-
SecurityGroups/Entity/Group.lean

Security groups.

A group belongs to a cloud that keeps rules.  Until it is assigned to a
business its business is -1; zero stands for "unchanged" in an update, as an
empty name and a missing memo do.
-/
import SecurityGroups.Entity.Basic

namespace SecurityGroups

/-- A security group. -/
structure Group where
  id : String := ""
  vendor : Option Vendor := none
  cloudId : String := ""
  business : Int64 := 0
  region : String := ""
  name : String := ""
  memo : Option String := none
  accountId : String := ""
  audit : Audit := {}
  deriving Repr, DecidableEq

namespace Group

/-- The business of a group that is not assigned. -/
def unassigned : Int64 := -1

/-- Whether a group is assigned to a business. -/
def isAssigned (g : Group) : Bool := 0 < g.business

/-! ### Columns -/

/-- The columns of a group without the audit part. -/
def ownAttributes : List (Attribute Group) :=
  [{ name := "id", kind := .text, get := id,
      set := fun v g => { g with id := v } },
    { name := "vendor", kind := .optVendor, get := vendor,
      set := fun v g => { g with vendor := v } },
    { name := "cloud_id", kind := .text, get := cloudId,
      set := fun v g => { g with cloudId := v } },
    { name := "bk_biz_id", kind := .number, get := business,
      set := fun v g => { g with business := v } },
    { name := "region", kind := .text, get := region,
      set := fun v g => { g with region := v } },
    { name := "name", kind := .text, get := name,
      set := fun v g => { g with name := v } },
    { name := "memo", kind := .optText, get := memo,
      set := fun v g => { g with memo := v } },
    { name := "account_id", kind := .text, get := accountId,
      set := fun v g => { g with accountId := v } }]

/-- The columns of a group. -/
def attributes : List (Attribute Group) :=
  ownAttributes ++ Audit.attributes.map (·.lift audit fun v g => { g with audit := v })

/-- The columns that an update may write. -/
def changeable : List (Attribute Group) :=
  ownAttributes.filter fun a => a.name = "name" ∨ a.name = "memo" ∨ a.name = "bk_biz_id"

/-! ### Checks -/

/-- The most characters of the id of a group at its cloud. -/
def cloudIdMaxLength : Nat := 255

/-- The most characters of a region. -/
def regionMaxLength : Nat := 20

/-- The most characters of the id of an account. -/
def accountIdMaxLength : Nat := 64

/-- A group belongs to a cloud that keeps rules. -/
def checkVendor (g : Group) : Verdict :=
  match g.vendor with
  | none => .error (.invariant "vendor can not be empty")
  | some v => .provided v.keepsRules
      (.invariant ("vendor " ++ v.name ++ " does not support security groups"))

/-- What is wrong with the fields one by one. -/
def checks (g : Group) : List Verdict :=
  [Check.mustBeEmpty "id" g.id,
    Check.maxLength "cloud_id" g.cloudId cloudIdMaxLength,
    Check.range "bk_biz_id" g.business unassigned Int64.maxValue,
    Check.maxLength "region" g.region regionMaxLength,
    if g.name = "" then .fine else Naming.groupName g.name,
    Check.optional g.memo Naming.groupMemo,
    Check.maxLength "account_id" g.accountId accountIdMaxLength]
  ++ g.audit.checks

/-- What is wrong with a new group. -/
def insertCheck (g : Group) : Verdict := .first
  ([g.checkVendor,
    .provided (g.cloudId ≠ "") (.invariant "cloud id can not be empty"),
    .provided (g.accountId ≠ "") (.invariant "account id can not be empty"),
    .provided (g.name ≠ "") (.invariant "name can not be empty"),
    g.audit.hasCreator,
    .provided (g.business ≠ 0) (.invariant "bk_biz_id should be -1 or a business id")]
    ++ g.checks)

/-- What is wrong with an update. -/
def updateCheck (g : Group) : Verdict := .first (g.checks ++ g.checkVendor :: g.audit.revises)

/-- The cells that an update writes: the reviser, and what is present. -/
def updateRow (g : Group) : Row :=
  Attribute.writeAllPresent changeable g (Row.empty.set "reviser" (.string g.audit.reviser))

instance : Entity Group where
  table := .groups
  attributes := attributes
  schema := (Schema.ofColumns (Attribute.columns ownAttributes)).merge Audit.columns
  blank := {}
  ofRow := fun row => Attribute.readAll attributes row {}
  insertCheck := insertCheck
  updateCheck := updateCheck
  updateRow := updateRow
  ofJson? := Attribute.record? attributes {}
  toJson := fun g => .obj (Attribute.dumpAll attributes g)

end Group

end SecurityGroups
