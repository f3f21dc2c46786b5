/-
SecurityGroups/Entity/Basic.lean

Records that are stored in a table.

An entity comes with the columns of its table, in the order in which they
are read, and with two checks: one for a new row and one for an update.
They differ because the creator is required on the one and forbidden on
the other, and because the inventory itself stamps ids and times.

`Audit` is the part that every entity has: who wrote the row, and when.
-/
import SecurityGroups.Naming
import SecurityGroups.Record.Attribute
import SecurityGroups.TableName

namespace SecurityGroups

/-! ### The audit part -/

/-- Who wrote a row, and when. -/
structure Audit where
  creator : String := ""
  reviser : String := ""
  createdAt : Option Instant := none
  updatedAt : Option Instant := none
  deriving Repr, DecidableEq

namespace Audit

/-- The columns of the audit part. -/
def attributes : List (Attribute Audit) :=
  [{ name := "creator", kind := .text, get := creator,
      set := fun v a => { a with creator := v } },
    { name := "reviser", kind := .text, get := reviser,
      set := fun v a => { a with reviser := v } },
    { name := "created_at", kind := .optTime, get := createdAt,
      set := fun v a => { a with createdAt := v } },
    { name := "updated_at", kind := .optTime, get := updatedAt,
      set := fun v a => { a with updatedAt := v } }]

/-- What is wrong with the audit part of a row that is to be written. -/
def checks (a : Audit) : List Verdict :=
  [Check.maxLength "creator" a.creator Naming.userMaxLength,
    Check.maxLength "reviser" a.reviser Naming.userMaxLength,
    Check.absent "created_at" a.createdAt,
    Check.absent "updated_at" a.updatedAt]

/-- A new row names its creator. -/
def hasCreator (a : Audit) : Verdict :=
  .provided (a.creator ≠ "") (.invariant "creator can not be empty")

/-- An update names its reviser and no creator. -/
def revises (a : Audit) : List Verdict :=
  [.provided (a.creator = "") (.invariant "creator can not update"),
    .provided (a.reviser ≠ "") (.invariant "reviser can not be empty")]

/-- The columns of the audit part in a table. -/
def columns : List Column := Attribute.columns attributes

end Audit

/-! ### Entities -/

/-- A record that is stored in a table. -/
class Entity (α : Type) where
  /-- The table. -/
  table : TableName
  /-- The columns, in the order in which JSON and rows list them. -/
  attributes : List (Attribute α)
  /-- The columns of the table. -/
  schema : Schema
  /-- The entity whose columns are all empty. -/
  blank : α
  /-- Reads an entity from a row. -/
  ofRow : Row → Except Attribute.ColumnFault α
  /-- What is wrong with an entity that is to be inserted. -/
  insertCheck : α → Verdict
  /-- What is wrong with an entity that is to update another. -/
  updateCheck : α → Verdict
  /-- The cells that an update writes. -/
  updateRow : α → Row
  /-- Reads an entity from JSON. -/
  ofJson? : Json → Option α
  /-- Writes an entity as JSON. -/
  toJson : α → Json

namespace Entity

variable {α : Type} [Entity α]

/-- The row of an entity: one cell for each column. -/
def toRow (e : α) : Row := Attribute.writeAll attributes e Row.empty

end Entity

end SecurityGroups
