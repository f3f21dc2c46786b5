/-
SecurityGroups/Rule/Shape.lean

What the rules of one cloud look like.

Each cloud has a record of its own for rules, an instance of `Shape`, and a
record of partial updates for them, an instance of `Change`.  Requests and
services are written once, over any shape.
-/
import SecurityGroups.Record.Attribute
import SecurityGroups.TableName
import SecurityGroups.Violation

namespace SecurityGroups

/-- The rules of one cloud. -/
class Shape (R : Type) where
  vendor : Vendor
  /-- The table that keeps the rules. -/
  table : TableName
  /-- The fields of a rule in JSON, in order. -/
  attributes : List (Attribute R)
  /-- The rule without any field. -/
  blank : R
  /-- What is wrong with a rule. -/
  check : R → Verdict
  /-- The direction that a rule itself declares. -/
  declared : R → Option Direction := fun _ => none

/-- The partial updates of the rules of one cloud. -/
class Change (U : Type) (R : outParam Type) where
  /-- The fields of an update in JSON, in order. -/
  attributes : List (Attribute U)
  /-- The update that changes nothing. -/
  blank : U
  /-- Whether names that are no field are refused. -/
  closed : Bool := false
  /-- What is wrong with an update. -/
  check : U → Verdict
  /-- A rule with the fields that the update has. -/
  apply : U → R → R

namespace Shape

variable (R : Type) [Shape R]

/-- The fields of a rule that are columns: all but a direction, which is kept beside the rule. -/
def stored : List (Attribute R) := (attributes (R := R)).filter (·.name ≠ "type")

/-- The columns of the rules of a cloud. -/
def columns : List Column := Attribute.columns (stored R)

variable {R}

/-- Reads a rule. -/
def record? (json : Json) : Option R := Attribute.record? attributes blank json

/-- The JSON members of a rule. -/
def members (rule : R) : Members := Attribute.dumpAll attributes rule

/-- Writes the columns of a rule. -/
def write (rule : R) (row : Row) : Row := Attribute.writeAll (stored R) rule row

/-- Reads the columns of a rule. -/
def read (row : Row) : Except Attribute.ColumnFault R :=
  Attribute.readAll (stored R) row blank

end Shape

namespace Change

variable {U R : Type} [Change U R]

/-- Whether every name of an object is a field. -/
def known (U : Type) {R : Type} [Change U R] : Json → Bool
  | .obj ms => (Members.names ms).all (Attribute.names (attributes (U := U))).contains
  | _ => true

/-- Reads an update. -/
def record? (json : Json) : Option U :=
  if closed (U := U) && !known U json then none else Attribute.record? attributes blank json

/-- The JSON members of an update. -/
def members (update : U) : Members := Attribute.dumpAll attributes update

end Change

end SecurityGroups
