/-
SecurityGroups/Record/Attribute.lean

Records described by their attributes.

An attribute has a name and a kind, and reads and writes one place of a
record.  A list of attributes says how the record looks in JSON, how it is
stored in a row and what the columns of the row are; the three can not
drift apart because they come from one list.
-/
import SecurityGroups.Column.Schema
import SecurityGroups.Record.Kind

namespace SecurityGroups

/-- One place of a record. -/
structure Attribute (α : Type) where
  name : String
  kind : Kind
  get : α → kind.Carrier
  set : kind.Carrier → α → α
  /-- The name to which the column is bound. -/
  field : String := name
  /-- Left out of JSON objects when there is nothing to say. -/
  quiet : Bool := false

namespace Attribute

variable {α β : Type}

/-! ### One attribute -/

/-- The attribute of a record within a larger one. -/
def lift (a : Attribute α) (get : β → α) (set : α → β → β) : Attribute β where
  name := a.name
  kind := a.kind
  get := fun x => a.get (get x)
  set := fun v x => set (a.set v (get x)) x
  field := a.field
  quiet := a.quiet

/-- The column in which the attribute is stored. -/
def column (a : Attribute α) : Column := ⟨a.name, a.field, a.kind.columnType⟩

/-- Takes the value of the attribute from JSON members; a missing one changes nothing. -/
def load (a : Attribute α) (ms : Members) (x : α) : Option α :=
  ms.readOr a.name x fun j => (a.kind.ofJson? j).map (a.set · x)

/-- The JSON member of the attribute. -/
def dump (a : Attribute α) (x : α) : Members :=
  if a.quiet && a.get x = a.kind.blank then [] else [(a.name, a.kind.toJson (a.get x))]

/-- Why a row is not a record: a column and what is wrong in it. -/
abbrev ColumnFault := String × CellFault

/-- Takes the value of the attribute from its column; a missing cell is an empty one. -/
def read (a : Attribute α) (row : Row) (x : α) : Except ColumnFault α :=
  match a.kind.ofCell (row.cell a.name) with
  | .ok v => .ok (a.set v x)
  | .error fault => .error (a.name, fault)

/-- Writes the value of the attribute into its column. -/
def write (a : Attribute α) (x : α) (row : Row) : Row := row.set a.name (a.kind.toCell (a.get x))

/-- Writes the value of the attribute into its column unless it stands for absence. -/
def writePresent (a : Attribute α) (x : α) (row : Row) : Row :=
  if a.get x = a.kind.blank then row else a.write x row

/-! ### Many attributes -/

/-- Takes the values of some attributes from JSON members, one after the other. -/
def loadAll : List (Attribute α) → Members → α → Option α
  | [], _, x => some x
  | a :: rest, ms, x => (a.load ms x).bind (loadAll rest ms)

/-- The JSON members of some attributes. -/
def dumpAll (attributes : List (Attribute α)) (x : α) : Members :=
  attributes.flatMap (·.dump x)

/-- Takes the values of some attributes from a row, up to the first that is wrong. -/
def readAll : List (Attribute α) → Row → α → Except ColumnFault α
  | [], _, x => .ok x
  | a :: rest, row, x =>
    match a.read row x with
    | .ok x => readAll rest row x
    | .error fault => .error fault

/-- Writes the values of some attributes into a row. -/
def writeAll : List (Attribute α) → α → Row → Row
  | [], _, row => row
  | a :: rest, x, row => writeAll rest x (a.write x row)

/-- Writes the values of those attributes that do not stand for absence. -/
def writeAllPresent : List (Attribute α) → α → Row → Row
  | [], _, row => row
  | a :: rest, x, row => writeAllPresent rest x (a.writePresent x row)

/-- The columns of some attributes. -/
def columns (attributes : List (Attribute α)) : List Column := attributes.map column

/-- The names of some attributes. -/
def names (attributes : List (Attribute α)) : List String := attributes.map name

/-- A record written as an object or as an array in the order of the attributes. -/
def record? (attributes : List (Attribute α)) (blank : α) (json : Json) : Option α :=
  (json.record? (names attributes)).bind fun ms => loadAll attributes ms blank

end Attribute

end SecurityGroups
