/-
SecurityGroups/Store/Basic.lean

The store: rows in tables.

A call names a table and its schema.  It either is refused, and then
changes nothing, or answers together with the store afterwards.  The store
gives out ids, which never change, and stamps the times of creation and of
the last update wherever the schema has columns for them.
-/
import SecurityGroups.Store.Match
import SecurityGroups.TableName

namespace SecurityGroups

/-- Where new ids and the current time come from. -/
structure Supply where
  /-- The id of each row, counted from the first one that was ever stored. -/
  id : Nat → String
  /-- The time of each call that writes, counted from the first one. -/
  clock : Nat → Instant

/-- The rows of every table. -/
structure Store where
  rows : TableName → List Row
  /-- How many ids were given out. -/
  issued : Nat
  /-- How many times were read off the clock. -/
  ticks : Nat

/-- What a listing answers: a count, or rows. -/
structure Listing where
  count : Option Nat
  rows : List Row

namespace Store

/-- The store without rows. -/
def empty : Store := ⟨fun _ => [], 0, 0⟩

/-- Replaces the rows of a table. -/
def withRows (s : Store) (table : TableName) (rows : List Row) : Store :=
  { s with rows := fun t => if t = table then rows else s.rows t }

@[simp] theorem rows_withRows_self (s : Store) (table : TableName) (rows : List Row) :
    (s.withRows table rows).rows table = rows := by simp [withRows]

theorem rows_withRows_of_ne {t table : TableName} (h : t ≠ table) (s : Store) (rows : List Row) :
    (s.withRows table rows).rows t = s.rows t := by simp [withRows, h]

/-! ### Checks -/

/-- Every cell fits the schema. -/
def checkCells (schema : Schema) : List (String × Cell) → Except StoreError Unit
  | [] => .ok ()
  | (name, cell) :: rest =>
    match schema.checkCell name cell with
    | .error e => .error (.schema e)
    | .ok () => checkCells schema rest

/-- Every cell of a row fits the schema. -/
def checkRow (schema : Schema) (row : Row) : Except StoreError Unit := checkCells schema row.cells

/-- Every cell of some rows fits the schema. -/
def checkRows (schema : Schema) : List Row → Except StoreError Unit
  | [] => .ok ()
  | row :: rest =>
    match checkRow schema row with
    | .error e => .error e
    | .ok () => checkRows schema rest

/-- Some columns are columns of the schema. -/
def checkFields (schema : Schema) : List String → Except StoreError Unit
  | [] => .ok ()
  | field :: rest =>
    if schema.contains field then checkFields schema rest
    else .error (.schema (.unknownColumn field))

/-- Every column of a filter is a column of the schema. -/
def checkFilter (schema : Schema) (filter : Filter) : Except StoreError Unit :=
  checkFields schema filter.fields

/-- The rows of a table with whether they pass a filter. -/
def mark (s : Store) (table : TableName) (filter : Filter) :
    Except StoreError (List (Row × Bool)) :=
  (filter.mark (s.rows table)).mapError .filter

/-! ### Inserting -/

/-- Gives a row an empty cell in each column in which it has none. -/
def complete (schema : Schema) (row : Row) : Row :=
  schema.names.foldl (fun row name =>
    if (row.get? name).isNone then row.set name .null else row) row

/-- A row as it is stored: complete, with its id and its times. -/
def stored (schema : Schema) (id : String) (now : Instant) (row : Row) : Row :=
  let row := (complete schema row).set "id" (.string id)
  if schema.contains "created_at" then
    (row.set "created_at" (.time now)).set "updated_at" (.time now)
  else row

/-- The next ids, one for each row. -/
def nextIds (s : Store) (supply : Supply) (count : Nat) : List String :=
  (List.range count).map fun i => supply.id (s.issued + i)

/-- Stores new rows after those of a table, and answers their ids. -/
def insert (supply : Supply) (s : Store) (table : TableName) (schema : Schema) (rows : List Row) :
    Except StoreError (List String × Store) := do
  checkRows schema rows
  -- all rows of one call get one time
  let now := supply.clock s.ticks
  let ids := s.nextIds supply rows.length
  let fresh := List.zipWith (fun id row => stored schema id now row) ids rows
  return (ids, { s.withRows table (s.rows table ++ fresh) with
    issued := s.issued + rows.length, ticks := s.ticks + 1 })

/-! ### Updating and deleting -/

/-- A row with some cells written over, and the time of the update. -/
def revised (schema : Schema) (now : Instant) (values row : Row) : Row :=
  let row := row.overlay values
  if schema.contains "updated_at" then row.set "updated_at" (.time now) else row

/-- Writes some cells over those of every row that passes a filter; answers how many there are. -/
def update (supply : Supply) (s : Store) (table : TableName) (schema : Schema) (filter : Filter)
    (values : Row) : Except StoreError (Nat × Store) := do
  checkFilter schema filter
  checkRow schema values
  if (values.get? "id").isSome then throw (.filter .idIsFixed)
  -- every row is looked at before any is written
  let marked ← s.mark table filter
  let now := supply.clock s.ticks
  let rows := marked.map fun (row, hit) => if hit then revised schema now values row else row
  return (marked.countP Prod.snd, { s.withRows table rows with ticks := s.ticks + 1 })

/-- Takes out every row that passes a filter; answers how many there were. -/
def delete (s : Store) (table : TableName) (schema : Schema) (filter : Filter) :
    Except StoreError (Nat × Store) := do
  checkFilter schema filter
  let marked ← s.mark table filter
  return (marked.countP Prod.snd,
    s.withRows table ((marked.filter (!·.2)).map Prod.fst))

/-! ### Listing -/

/-- The column in whose order a page lists is a column of the schema. -/
def checkSort (schema : Schema) (page : Page) : Except StoreError Unit :=
  match page.sort with
  | some field => checkFields schema [field]
  | none => .ok ()

/-- The rows that pass a filter: their number, or those of a page. -/
def list (maxLimit : UInt32) (s : Store) (table : TableName) (schema : Schema) (filter : Filter)
    (page : Page) : Except StoreError Listing := do
  (page.check maxLimit).mapError .page
  checkFilter schema filter
  checkSort schema page
  let marked ← s.mark table filter
  let rows := (marked.filter Prod.snd).map Prod.fst
  -- a page that counts has no rows, whatever its window
  return if page.count then ⟨some rows.length, []⟩ else ⟨none, page.cut rows⟩

end Store

end SecurityGroups
