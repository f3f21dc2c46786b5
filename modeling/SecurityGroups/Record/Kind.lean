/-
SecurityGroups/Record/Kind.lean

The kinds of data that an attribute of a record can hold.

A kind fixes how its data look in JSON and in a cell, and what stands for
absence.  `ofCell_toCell` says that cells read back, and `accepts_toCell`
that they fit the column of their kind.
-/
import SecurityGroups.Column.Row
import SecurityGroups.Json.Members
import SecurityGroups.Vendor

namespace SecurityGroups

/-- A kind of data. -/
inductive Kind where
  | text | optText | number | optNumber | texts | optTexts | optTime | optVendor | optDirection
  deriving Repr, DecidableEq

/-- Why a cell does not hold what is asked for. -/
inductive CellFault where
  | wrongType (actual : String)
  | unknownVendor (name : String)
  | unknownDirection (name : String)
  /-- A JSON value that is no array of strings. -/
  | notTexts
  deriving Repr, DecidableEq

/-- The wording of a fault. -/
def CellFault.reason : CellFault → String
  | wrongType actual => actual
  | unknownVendor name => Vendor.unknownMessage name
  | unknownDirection name => Direction.unknownMessage name
  | notTexts => "expected an array of strings"

namespace Kind

/-- The data of a kind. -/
@[reducible] def Carrier : Kind → Type
  | text => String
  | optText => Option String
  | number => Int64
  | optNumber => Option Int64
  | texts => List String
  | optTexts => Option (List String)
  | optTime => Option Instant
  | optVendor => Option Vendor
  | optDirection => Option Direction

/-- The value that stands for absence. -/
def blank : (k : Kind) → k.Carrier
  | text => ""
  | optText => none
  | number => (0 : Int64)
  | optNumber => none
  | texts => []
  | optTexts => none
  | optTime => none
  | optVendor => none
  | optDirection => none

instance : (k : Kind) → DecidableEq k.Carrier
  | text => inferInstanceAs (DecidableEq String)
  | optText => inferInstanceAs (DecidableEq (Option String))
  | number => inferInstanceAs (DecidableEq Int64)
  | optNumber => inferInstanceAs (DecidableEq (Option Int64))
  | texts => inferInstanceAs (DecidableEq (List String))
  | optTexts => inferInstanceAs (DecidableEq (Option (List String)))
  | optTime => inferInstanceAs (DecidableEq (Option Instant))
  | optVendor => inferInstanceAs (DecidableEq (Option Vendor))
  | optDirection => inferInstanceAs (DecidableEq (Option Direction))

/-! ### JSON -/

/-- The JSON value of some data. -/
def toJson : (k : Kind) → k.Carrier → Json
  | text => Json.str
  | optText => Json.ofOption Json.str
  | number => Json.ofInt64
  | optNumber => Json.ofOption Json.ofInt64
  | texts => Json.ofTexts
  | optTexts => Json.ofOption Json.ofTexts
  | optTime => Json.ofOption fun t => .str (Instant.text t)
  | optVendor => Json.ofOption fun v => .str (Vendor.name v)
  | optDirection => Json.ofOption fun d => .str (Direction.name d)

/-- The data of a JSON value. -/
def ofJson? : (k : Kind) → Json → Option k.Carrier
  | text => Json.text?
  | optText => Json.optional? Json.text?
  | number => Json.int64?
  | optNumber => Json.optional? Json.int64?
  | texts => Json.list? Json.text?
  | optTexts => Json.optional? (Json.list? Json.text?)
  | optTime => Json.optional? fun j => j.text?.bind (Instant.read? .lenient)
  | optVendor => Json.optional? (Json.choice? Vendor.find?)
  | optDirection => Json.optional? (Json.choice? Direction.find?)

/-! ### Cells -/

/-- The type of the column for a kind. -/
def columnType : Kind → ColumnType
  | text | optText => .string
  | number | optNumber => .numeric
  | texts | optTexts => .json
  | optTime => .time
  | optVendor | optDirection => .enum

/-- A cell for what is there, an empty one for what is not. -/
def cellOf {α : Type} (write : α → Cell) : Option α → Cell
  | some x => write x
  | none => .null

/-- The cell of a list; the empty list has an empty cell. -/
def cellOfTexts (texts : List String) : Cell :=
  if texts.isEmpty then .null else .json (Json.ofTexts texts)

/-- The cell of some data. -/
def toCell : (k : Kind) → k.Carrier → Cell
  | text => Cell.string
  | optText => cellOf Cell.string
  | number => Cell.numeric
  | optNumber => cellOf Cell.numeric
  | texts => cellOfTexts
  | optTexts => cellOf fun texts => .json (Json.ofTexts texts)
  | optTime => cellOf Cell.time
  | optVendor => cellOf fun v => .string (Vendor.name v)
  | optDirection => cellOf fun d => .string (Direction.name d)

/-- The string of a cell; an empty cell has none. -/
def cellText : Cell → Except CellFault (Option String)
  | .null => .ok none
  | .string s => .ok (some s)
  | c => .error (.wrongType c.typeName)

/-- The number of a cell; an empty cell has none. -/
def cellNumber : Cell → Except CellFault (Option Int64)
  | .null => .ok none
  | .numeric n => .ok (some n)
  | c => .error (.wrongType c.typeName)

/-- The instant of a cell; an empty cell has none. -/
def cellTime : Cell → Except CellFault (Option Instant)
  | .null => .ok none
  | .time t => .ok (some t)
  | c => .error (.wrongType c.typeName)

/-- The strings of a cell; an empty cell has none. -/
def cellTexts : Cell → Except CellFault (Option (List String))
  | .null => .ok none
  | .json j =>
    match j.list? Json.text? with
    | some values => .ok (some values)
    | none => .error .notTexts
  | c => .error (.wrongType c.typeName)

/-- Looks up the name that a cell holds. -/
def cellChoice {α : Type} (find : String → Option α) (unknown : String → CellFault) (c : Cell) :
    Except CellFault (Option α) :=
  match cellText c with
  | .error e => .error e
  | .ok none => .ok none
  | .ok (some s) =>
    match find s with
    | some x => .ok (some x)
    | none => .error (unknown s)

/-- The data of a cell. -/
def ofCell : (k : Kind) → Cell → Except CellFault k.Carrier
  | text => fun c => (cellText c).map (·.getD "")
  | optText => cellText
  | number => fun c => (cellNumber c).map (·.getD 0)
  | optNumber => cellNumber
  | texts => fun c => (cellTexts c).map (·.getD [])
  | optTexts => cellTexts
  | optTime => cellTime
  | optVendor => cellChoice Vendor.find? .unknownVendor
  | optDirection => cellChoice Direction.find? .unknownDirection

/-! ### Laws -/

theorem mapM_text? (texts : List String) : (texts.map Json.str).mapM Json.text? = some texts := by
  induction texts with
  | nil => rfl
  | cons s rest ih => simp [Json.text?, ih]

theorem cellTexts_ofTexts (values : List String) :
    cellTexts (.json (Json.ofTexts values)) = .ok (some values) := by
  simp only [cellTexts, Json.ofTexts, Json.list?, mapM_text?]

/-- A cell of some data reads back. -/
theorem ofCell_toCell (k : Kind) (x : k.Carrier) : k.ofCell (k.toCell x) = .ok x := by
  cases k
  case text => rfl
  case optText => cases x <;> rfl
  case number => rfl
  case optNumber => cases x <;> rfl
  case texts =>
    cases x with
    | nil => rfl
    | cons s rest =>
      show (cellTexts (.json (Json.ofTexts (s :: rest)))).map (·.getD []) = .ok (s :: rest)
      rw [cellTexts_ofTexts]
      rfl
  case optTexts =>
    cases x with
    | none => rfl
    | some values => exact cellTexts_ofTexts values
  case optTime => cases x <;> rfl
  case optVendor =>
    cases x with
    | none => rfl
    | some v => simp [ofCell, toCell, cellOf, cellChoice, cellText]
  case optDirection =>
    cases x with
    | none => rfl
    | some d => simp [ofCell, toCell, cellOf, cellChoice, cellText]

/-- A cell of some data fits the column of its kind. -/
theorem accepts_toCell (k : Kind) (x : k.Carrier) : k.columnType.accepts (k.toCell x) = true := by
  cases k
  case text => rfl
  case number => rfl
  case texts => exact ColumnType.json_accepts _
  case optTexts => exact ColumnType.json_accepts _
  all_goals cases x <;> rfl

end Kind

end SecurityGroups
