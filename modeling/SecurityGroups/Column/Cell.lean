/-
SecurityGroups/Column/Cell.lean

The cells of stored rows and the types of their columns.

`Cell.sameAs` is the loose equality of a cell and a JSON value that filters
use: a time is the same as any strict timestamp of that instant, and a cell
of JSON is the same as the JSON value.
-/
import SecurityGroups.Json.Basic
import SecurityGroups.Time.Timestamp

namespace SecurityGroups

/-- A stored value. -/
inductive Cell where
  | string (s : String)
  | numeric (n : Int64)
  | boolean (b : Bool)
  | time (t : Instant)
  | json (j : Json)
  | null
  deriving Inhabited

namespace Cell

/-- The name of the type of a cell. -/
def typeName : Cell → String
  | string _ => "string"
  | numeric _ => "numeric"
  | boolean _ => "boolean"
  | time _ => "time"
  | json _ => "json"
  | null => "null"

/-- Whether a cell is empty. -/
def isNull : Cell → Bool
  | null => true
  | _ => false

/-- The text of a string cell. -/
def string? : Cell → Option String
  | string s => some s
  | _ => none

/-- The number of a numeric cell. -/
def numeric? : Cell → Option Int64
  | numeric n => some n
  | _ => none

/-- The instant of a time cell. -/
def time? : Cell → Option Instant
  | time t => some t
  | _ => none

/-- The value of a JSON cell. -/
def json? : Cell → Option Json
  | json j => some j
  | _ => none

/-- Whether a cell is the same as a JSON value. -/
def sameAs : Cell → Json → Bool
  | string a, .str b => a == b
  | numeric a, b => b.int64? == some a
  | boolean a, .bool b => a == b
  | time a, .str b => Instant.read? .strict b == some a
  | json a, b => a.same b
  | null, .null => true
  | _, _ => false

end Cell

/-- The type of a column. -/
inductive ColumnType where
  | string | numeric | boolean | time
  /-- A string out of a fixed set. -/
  | enum
  | json
  deriving Repr, DecidableEq

namespace ColumnType

/-- Every type. -/
def all : List ColumnType := [string, numeric, boolean, time, enum, json]

/-- The name of a type. -/
def name : ColumnType → String
  | string => "string"
  | numeric => "numeric"
  | boolean => "boolean"
  | time => "time"
  | enum => "enum"
  | json => "json"

/-- The type of a name. -/
def find? (s : String) : Option ColumnType := all.find? (·.name == s)

@[simp] theorem find?_name (t : ColumnType) : find? t.name = some t := by cases t <;> decide

/-- Whether a cell may stand in a column of a type; an empty one always may. -/
def accepts : ColumnType → Cell → Bool
  | _, .null => true
  | string, .string _ => true
  | enum, .string _ => true
  | numeric, .numeric _ => true
  | boolean, .boolean _ => true
  | time, .time _ => true
  | json, _ => true
  | _, _ => false

@[simp] theorem accepts_null (t : ColumnType) : t.accepts .null = true := by cases t <;> rfl

@[simp] theorem json_accepts (c : Cell) : json.accepts c = true := by cases c <;> rfl

end ColumnType

end SecurityGroups
