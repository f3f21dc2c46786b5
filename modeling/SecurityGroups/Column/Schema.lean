/-
SecurityGroups/Column/Schema.lean

Columns and the schemas of tables.

A schema is a list of columns no two of which have the same name.
`Schema.ofColumns` drops every column whose name occurred before, and
`Schema.merge` adds columns at the end in the same way.
-/
import SecurityGroups.Column.Cell

namespace SecurityGroups

/-- A stored column: its name, the field it is bound to, and its type. -/
structure Column where
  name : String
  field : String
  type : ColumnType
  deriving Repr, DecidableEq

/-- Keeps the first column of each name, except for the names in `seen`. -/
def Column.distinct (seen : List String) : List Column → List Column
  | [] => []
  | c :: cs =>
    if c.name ∈ seen then distinct seen cs else c :: distinct (c.name :: seen) cs

theorem Column.name_not_mem_of_mem_distinct {seen : List String} {c : Column} {cs : List Column}
    (h : c ∈ distinct seen cs) : c.name ∉ seen := by
  induction cs generalizing seen with
  | nil => simp [distinct] at h
  | cons d ds ih =>
    simp only [distinct] at h
    split at h
    · exact ih h
    · rename_i hd
      rcases List.mem_cons.1 h with rfl | h
      · exact hd
      · exact fun hm => ih h (List.mem_cons_of_mem _ hm)

theorem Column.nodup_distinct (seen : List String) (cs : List Column) :
    ((distinct seen cs).map Column.name).Nodup := by
  induction cs generalizing seen with
  | nil => simp [distinct]
  | cons c cs ih =>
    simp only [distinct]
    split
    · exact ih seen
    · rw [List.map_cons, List.nodup_cons]
      refine ⟨fun h => ?_, ih _⟩
      obtain ⟨d, hd, he⟩ := List.mem_map.1 h
      exact name_not_mem_of_mem_distinct hd (he ▸ List.mem_cons_self)

/-- The columns of a table. -/
structure Schema where
  columns : List Column
  nodup : (columns.map Column.name).Nodup := by decide
  deriving Repr

/-- Why a cell does not fit a schema. -/
inductive SchemaError where
  | unknownColumn (column : String)
  | typeMismatch (column : String) (expected : ColumnType) (actual : String)
  deriving Repr, DecidableEq

/-- The wording of a schema error. -/
def SchemaError.message : SchemaError → String
  | unknownColumn column => "unknown column: " ++ column
  | typeMismatch column expected actual =>
    "column " ++ column ++ " expects " ++ expected.name ++ " value, got " ++ actual

namespace Schema

@[ext] theorem ext {a b : Schema} (h : a.columns = b.columns) : a = b := by
  cases a; cases b; cases h; rfl

/-! ### Building -/

/-- The schema of some columns; of several columns of one name the first is kept. -/
def ofColumns (columns : List Column) : Schema where
  columns := Column.distinct [] columns
  nodup := Column.nodup_distinct [] columns

/-- Adds columns at the end, except for those whose name is taken. -/
def merge (s : Schema) (columns : List Column) : Schema := ofColumns (s.columns ++ columns)

/-! ### Looking up -/

/-- The column of a name. -/
def find? (s : Schema) (name : String) : Option Column := s.columns.find? (·.name == name)

/-- Whether there is a column of a name. -/
def contains (s : Schema) (name : String) : Bool := (s.find? name).isSome

/-- The type of the column of a name. -/
def type? (s : Schema) (name : String) : Option ColumnType := (s.find? name).map Column.type

/-- The names of the columns. -/
def names (s : Schema) : List String := s.columns.map Column.name

/-- A cell fits the column of a name. -/
def checkCell (s : Schema) (name : String) (cell : Cell) : Except SchemaError Unit :=
  match s.find? name with
  | none => .error (.unknownColumn name)
  | some c =>
    if c.type.accepts cell then .ok () else .error (.typeMismatch name c.type cell.typeName)

/-! ### Statements -/

/-- Names with a comma and a space between them. -/
def listed (names : List String) : String := String.intercalate ", " names

/-- The columns of a statement. -/
def columnsText (s : Schema) : String := listed s.names

/-- The placeholders of a statement that inserts a row. -/
def placeholdersText (s : Schema) : String := listed (s.columns.map fun c => ":" ++ c.field)

/-- The assignments of a statement that updates some columns. -/
def assignmentsText (s : Schema) (names : List String) : Except SchemaError String := do
  let assignments ← names.mapM fun name =>
    match s.find? name with
    | some c => Except.ok (c.name ++ " = :" ++ c.field)
    | none => .error (.unknownColumn name)
  return listed assignments

end Schema

end SecurityGroups
