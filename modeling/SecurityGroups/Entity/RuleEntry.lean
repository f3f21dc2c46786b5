/-
SecurityGroups/Entity/RuleEntry.lean

Stored rules.

An entry holds a rule of one cloud together with its owner, which is a
security group, and its direction.  All fields stand side by side in JSON
and in rows.  The name `type` is that of the entry's direction: a direction
that the rule itself declares is not stored, and is written as JSON in its
place.  Once an entry is stored, an update writes the rule and nothing else.
-/
import SecurityGroups.Entity.Basic
import SecurityGroups.Rule.Shape

namespace SecurityGroups

/-- A stored rule. -/
structure RuleEntry (R : Type) where
  id : String := ""
  /-- The id of the rule at its cloud, empty as long as it is not known. -/
  cloudId : String := ""
  groupId : String := ""
  cloudGroupId : String := ""
  accountId : String := ""
  region : String := ""
  direction : Option Direction := none
  rule : R
  audit : Audit := {}
  deriving Repr, DecidableEq

namespace RuleEntry

variable {R : Type}

/-! ### Columns -/

/-- The column of the direction. -/
def directionAttribute : Attribute (RuleEntry R) where
  name := "type"
  kind := .optDirection
  get := direction
  set := fun v e => { e with direction := v }
  field := "rule_type"

/-- The columns that say whose rule it is. -/
def ownerAttributes : List (Attribute (RuleEntry R)) :=
  [{ name := "id", kind := .text, get := id,
      set := fun v e => { e with id := v } },
    { name := "cloud_id", kind := .text, get := cloudId,
      set := fun v e => { e with cloudId := v } },
    { name := "security_group_id", kind := .text, get := groupId,
      set := fun v e => { e with groupId := v } },
    { name := "cloud_security_group_id", kind := .text, get := cloudGroupId,
      set := fun v e => { e with cloudGroupId := v } },
    { name := "account_id", kind := .text, get := accountId,
      set := fun v e => { e with accountId := v } },
    { name := "region", kind := .text, get := region,
      set := fun v e => { e with region := v } },
    directionAttribute]

/-- The columns of the rule itself. -/
def ruleAttributes [Shape R] : List (Attribute (RuleEntry R)) :=
  (Shape.stored R).map (·.lift rule fun v e => { e with rule := v })

/-- The columns of the audit part. -/
def auditAttributes : List (Attribute (RuleEntry R)) :=
  Audit.attributes.map (·.lift audit fun v e => { e with audit := v })

/-- The columns of an entry. -/
def attributes [Shape R] : List (Attribute (RuleEntry R)) :=
  ownerAttributes ++ ruleAttributes ++ auditAttributes

/-- The columns that every cloud's entries have, before those of the rule. -/
def baseColumns : List Column := Attribute.columns (ownerAttributes (R := Unit))

/-- The columns of entries whose rules have the columns `extension`. -/
def schemaWith (extension : List Column) : Schema :=
  ((Schema.ofColumns baseColumns).merge extension).merge Audit.columns

/-! ### Checks -/

/-- The most characters of an id at a cloud. -/
def cloudIdMaxLength : Nat := 255

/-- The most characters of an id. -/
def idMaxLength : Nat := 64

/-- The most characters of a region. -/
def regionMaxLength : Nat := 20

variable [Shape R]

/-- A direction that the rule declares agrees with that of the entry. -/
def checkDirection (e : RuleEntry R) : Verdict :=
  match Shape.declared e.rule, e.direction with
  | some declared, some direction => .provided (declared = direction)
      (.invariant ("rule type " ++ declared.name ++ " conflicts with " ++ direction.name
        ++ " rule set"))
  | _, _ => .fine

/-- What is wrong with the fields one by one. -/
def checks (e : RuleEntry R) : List Verdict :=
  [Check.mustBeEmpty "id" e.id,
    Check.maxLength "cloud_id" e.cloudId cloudIdMaxLength,
    Check.maxLength "security_group_id" e.groupId idMaxLength,
    Check.maxLength "cloud_security_group_id" e.cloudGroupId cloudIdMaxLength,
    Check.maxLength "account_id" e.accountId idMaxLength,
    Check.maxLength "region" e.region regionMaxLength,
    Shape.check e.rule,
    e.checkDirection]
  ++ e.audit.checks

/-- What is wrong with a new entry. -/
def insertCheck (e : RuleEntry R) : Verdict := .first
  ([.provided (e.groupId ≠ "") (.invariant "security group id can not be empty"),
    .provided (e.accountId ≠ "") (.invariant "account id can not be empty"),
    Check.requiredSome "type" e.direction,
    e.audit.hasCreator] ++ e.checks)

/-- What is wrong with an update. -/
def updateCheck (e : RuleEntry R) : Verdict := .first (e.checks ++ e.audit.revises)

/-- The cells that an update writes: the reviser and the rule. -/
def updateRow (e : RuleEntry R) : Row :=
  Shape.write e.rule (Row.empty.set "reviser" (.string e.audit.reviser))

/-! ### Forms -/

/-- The entry without any field. -/
def blank : RuleEntry R := { rule := Shape.blank }

/-- Reads an entry from a row, the direction first. -/
def ofRow (row : Row) : Except Attribute.ColumnFault (RuleEntry R) :=
  Attribute.readAll (directionAttribute :: attributes) row blank

/-- Reads an entry from a JSON object. -/
def ofJson? : Json → Option (RuleEntry R)
  | .obj ms => Attribute.loadAll attributes ms blank
  | _ => none

/-- Writes an entry as a JSON object. -/
def toJson (e : RuleEntry R) : Json :=
  let ms := Attribute.dumpAll attributes e
  .obj (match Shape.declared e.rule with
    | some d => ms.put "type" (.str d.name)
    | none => ms)

instance : Entity (RuleEntry R) where
  table := Shape.table R
  attributes := attributes
  schema := schemaWith (Shape.columns R)
  blank := blank
  ofRow := ofRow
  insertCheck := insertCheck
  updateCheck := updateCheck
  updateRow := updateRow
  ofJson? := ofJson?
  toJson := toJson

end RuleEntry

end SecurityGroups
