/-
SecurityGroups/Query/Filter.lean

Filters: conditions on the columns of a row, joined by `and` and `or`.

A clause of a filter is a test of one column or a filter again.  In JSON
nothing but the fields tells the two apart: a clause is a test if it reads
as one, and only otherwise a filter.  Both may be written as arrays too.
-/
import SecurityGroups.Json.Members

namespace SecurityGroups

/-! ### Operators -/

/-- How the clauses of a filter are joined. -/
inductive Connective where
  | and | or
  deriving Repr, DecidableEq

namespace Connective

/-- Both connectives. -/
def all : List Connective := [and, or]

/-- The name of a connective. -/
def name : Connective → String
  | and => "and"
  | or => "or"

/-- The connective of a name. -/
def find? (s : String) : Option Connective := all.find? (·.name == s)

@[simp] theorem find?_name (c : Connective) : find? c.name = some c := by cases c <;> decide

end Connective

/-- How a column is compared with a value. -/
inductive Operator where
  | eq | neq | gt | gte | lt | lte
  /-- The value is an array, and holds the cell. -/
  | among
  /-- The value is an array, and does not hold the cell. -/
  | notAmong
  /-- The value is a part of the text of the cell. -/
  | contains
  /-- The value is a part of the text of the cell, whatever the case of the letters. -/
  | containsIgnoringCase
  deriving Repr, DecidableEq

namespace Operator

/-- Every operator. -/
def all : List Operator :=
  [eq, neq, gt, gte, lt, lte, among, notAmong, contains, containsIgnoringCase]

/-- The name of an operator. -/
def name : Operator → String
  | eq => "eq"
  | neq => "neq"
  | gt => "gt"
  | gte => "gte"
  | lt => "lt"
  | lte => "lte"
  | among => "in"
  | notAmong => "nin"
  | contains => "cs"
  | containsIgnoringCase => "cis"

/-- The operator of a name. -/
def find? (s : String) : Option Operator := all.find? (·.name == s)

@[simp] theorem find?_name (o : Operator) : find? o.name = some o := by cases o <;> decide

end Operator

/-! ### Filters -/

/-- A test of one column. -/
structure Test where
  field : String
  op : Operator
  value : Json

/-- A test, or clauses that are joined. -/
inductive Clause where
  | test (t : Test)
  | nested (op : Connective) (clauses : List Clause)

/-- Clauses that are joined. -/
structure Filter where
  op : Connective
  clauses : List Clause := []

namespace Filter

/-- A filter as a clause of another. -/
def toClause (f : Filter) : Clause := .nested f.op f.clauses

/-- The filter that every row passes. -/
def everything : Filter := ⟨.and, []⟩

/-- All of some tests. -/
def allOf (tests : List Test) : Filter := ⟨.and, tests.map .test⟩

/-- A column has a value. -/
def equal (field : String) (value : Json) : Filter := allOf [⟨field, .eq, value⟩]

/-- A column has one of some values. -/
def oneOf (field : String) (values : List Json) : Filter := allOf [⟨field, .among, .arr values⟩]

/-- One more clause at the end. -/
def adding (f : Filter) (c : Clause) : Filter := ⟨f.op, f.clauses ++ [c]⟩

end Filter

/-! ### Columns -/

mutual
/-- The columns that a clause tests, in order. -/
def Clause.fields : Clause → List String
  | .test t => [t.field]
  | .nested _ clauses => Clause.fieldsOfAll clauses

/-- The columns that some clauses test, in order. -/
def Clause.fieldsOfAll : List Clause → List String
  | [] => []
  | c :: rest => c.fields ++ Clause.fieldsOfAll rest
end

/-- The columns that a filter tests, in order. -/
def Filter.fields (f : Filter) : List String := Clause.fieldsOfAll f.clauses

/-! ### Writing -/

/-- Writes a test. -/
def Test.toJson (t : Test) : Json :=
  .obj [("field", .str t.field), ("op", .str t.op.name), ("value", t.value)]

mutual
/-- Writes a clause. -/
def Clause.toJson : Clause → Json
  | .test t => t.toJson
  | .nested op clauses =>
    .obj [("op", .str op.name), ("rules", .arr (Clause.toJsonAll clauses))]

/-- Writes some clauses. -/
def Clause.toJsonAll : List Clause → List Json
  | [] => []
  | c :: rest => c.toJson :: Clause.toJsonAll rest
end

/-- Writes a filter. -/
def Filter.toJson (f : Filter) : Json := f.toClause.toJson

/-! ### Reading -/

/-- Reads a test; the value may be anything, but it has to be there. -/
def Test.ofJson? (json : Json) : Option Test := do
  let ms ← json.record? ["field", "op", "value"]
  let field ← ms.require "field" Json.text?
  let op ← ms.require "op" (Json.choice? Operator.find?)
  let value ← ms.require "value" some
  return ⟨field, op, value⟩

/-- A filter with a connective that is yet to be read. -/
def Filter.join? (op : Json) (clauses : Option (List Clause)) : Option Filter := do
  return ⟨← op.choice? Connective.find?, ← clauses⟩

mutual
/-- Reads a filter; its clauses may be missing. -/
def Filter.ofJson? : Json → Option Filter
  | .obj ms => (Members.find? "op" ms).bind fun op => Filter.join? op (Clause.ofMembers? ms)
  | .arr [op] => Filter.join? op (some [])
  | .arr [op, rules] => Filter.join? op (Clause.ofArray? rules)
  | _ => none

/-- Reads the clauses among the members of a filter. -/
def Clause.ofMembers? : List (String × Json) → Option (List Clause)
  | [] => some []
  | (name, json) :: rest =>
    if name = "rules" then Clause.ofArray? json else Clause.ofMembers? rest

/-- Reads an array of clauses. -/
def Clause.ofArray? : Json → Option (List Clause)
  | .arr items => Clause.ofItems? items
  | _ => none

/-- Reads clauses one after the other. -/
def Clause.ofItems? : List Json → Option (List Clause)
  | [] => some []
  | json :: rest =>
    match Test.ofJson? json, Filter.ofJson? json, Clause.ofItems? rest with
    | some t, _, some clauses => some (.test t :: clauses)
    | none, some f, some clauses => some (f.toClause :: clauses)
    | _, _, _ => none
end

/-- Reads a clause: a test if it reads as one, and a filter otherwise. -/
def Clause.ofJson? (json : Json) : Option Clause :=
  match Test.ofJson? json with
  | some t => some (.test t)
  | none => (Filter.ofJson? json).map Filter.toClause

/-- The clauses among the members of a filter are those of the member `rules`. -/
theorem Clause.ofMembers?_eq (ms : Members) :
    Clause.ofMembers? ms = match ms.find? "rules" with
      | some json => Clause.ofArray? json
      | none => some [] := by
  induction ms with
  | nil => rfl
  | cons m rest ih =>
    obtain ⟨name, json⟩ := m
    by_cases h : name = "rules" <;> simp [Clause.ofMembers?, Members.find?, h, ih]

end SecurityGroups
