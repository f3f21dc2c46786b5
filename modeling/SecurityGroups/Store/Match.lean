/-
SecurityGroups/Store/Match.lean

Which rows pass a filter, and in which order they are listed.

Clauses are looked at from the left, and only as far as needed; a test that
can not be made stops the search with an error.  A missing cell counts as
an empty one.
-/
import SecurityGroups.Query.Filter
import SecurityGroups.Store.Error
import SecurityGroups.Text.Lowercase
import SecurityGroups.Text.Part

namespace SecurityGroups

/-! ### Comparing cells -/

namespace Cell

/-- How a cell compares with a JSON value of the same kind. -/
def compareJson : Cell → Json → Option Ordering
  | numeric a, b => b.int64?.map (compare a)
  | string a, .str b => some (compare a b)
  | time a, .str b => (Instant.read? .strict b).map (compare a)
  | _, _ => none

/-- The order of cells in a listing: empty cells first, cells of different kinds by the names of
their types. -/
def order : Cell → Cell → Ordering
  | null, null => .eq
  | null, _ => .lt
  | _, null => .gt
  | numeric a, numeric b => compare a b
  | string a, string b => compare a b
  | time a, time b => compare a b
  | boolean a, boolean b => compare a b
  | a, b => compare a.typeName b.typeName

/-- The text of a cell; other cells have the empty one. -/
def textOrEmpty (c : Cell) : String := c.string?.getD ""

end Cell

/-! ### Tests and clauses -/

/-- Whether a cell stands in a relation to a value, given how the two compare. -/
def Operator.relates : Operator → Ordering → Bool
  | .gt, o => o = .gt
  | .gte, o => o ≠ .lt
  | .lt, o => o = .lt
  | .lte, o => o ≠ .gt
  | _, _ => false

/-- Whether a cell passes a test. -/
def Test.accepts (t : Test) (cell : Cell) : Except FilterError Bool :=
  match t.op with
  | .eq => .ok (cell.sameAs t.value)
  | .neq => .ok (!cell.sameAs t.value)
  | .gt | .gte | .lt | .lte =>
    .ok (match cell.compareJson t.value with
      | some o => t.op.relates o
      | none => false)
  | .among =>
    match t.value with
    | .arr options => .ok (options.any cell.sameAs)
    | _ => .error (.arrayExpected t.field)
  | .notAmong =>
    match t.value with
    | .arr options => .ok (!options.any cell.sameAs)
    | _ => .error (.arrayExpected t.field)
  | .contains =>
    match t.value with
    | .str part => .ok (Text.isPartOf part.toList cell.textOrEmpty.toList)
    | _ => .error (.stringExpected t.field)
  | .containsIgnoringCase =>
    match t.value with
    | .str part =>
      .ok (Text.isPartOf (Text.lowercase part.toList) (Text.lowercase cell.textOrEmpty.toList))
    | _ => .error (.stringExpected t.field)

/-- Whether a row passes a test. -/
def Test.holds (t : Test) (row : Row) : Except FilterError Bool := t.accepts (row.cell t.field)

mutual
/-- Whether a row passes a clause; nothing joined by `or` passes too. -/
def Clause.holds : Clause → Row → Except FilterError Bool
  | .test t, row => t.holds row
  | .nested .and clauses, row => Clause.allHold clauses row
  | .nested .or [], _ => .ok true
  | .nested .or (c :: rest), row => Clause.anyHolds (c :: rest) row

/-- Whether a row passes each of some clauses. -/
def Clause.allHold : List Clause → Row → Except FilterError Bool
  | [], _ => .ok true
  | c :: rest, row =>
    match c.holds row with
    | .error e => .error e
    | .ok true => Clause.allHold rest row
    | .ok false => .ok false

/-- Whether a row passes one of some clauses. -/
def Clause.anyHolds : List Clause → Row → Except FilterError Bool
  | [], _ => .ok false
  | c :: rest, row =>
    match c.holds row with
    | .error e => .error e
    | .ok true => .ok true
    | .ok false => Clause.anyHolds rest row
end

namespace Filter

/-- Whether a row passes a filter. -/
def holds (f : Filter) (row : Row) : Except FilterError Bool := f.toClause.holds row

/-- Every row with whether it passes a filter. -/
def mark (f : Filter) : List Row → Except FilterError (List (Row × Bool))
  | [] => .ok []
  | row :: rest =>
    match f.holds row, mark f rest with
    | .error e, _ => .error e
    | .ok _, .error e => .error e
    | .ok hit, .ok marked => .ok ((row, hit) :: marked)

end Filter

/-! ### Listing -/

namespace Page

/-- Whether a row may stand before another in the order of a column. -/
def precedes (field : String) (order : Option Order) (a b : Row) : Bool :=
  let o := (a.cell field).order (b.cell field)
  match order with
  | some .descending => o ≠ .lt
  | _ => o ≠ .gt

/-- Some rows in the order of a page; rows that the order does not tell apart stay as they are. -/
def sorted (p : Page) (rows : List Row) : List Row :=
  match p.sort with
  | some field => rows.mergeSort (precedes field p.order)
  | none => rows

/-- The rows of a page. -/
def cut (p : Page) (rows : List Row) : List Row :=
  ((p.sorted rows).drop p.start.toNat).take p.limit.toNat

end Page

end SecurityGroups
