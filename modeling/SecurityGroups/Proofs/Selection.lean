/-
SecurityGroups/Proofs/Selection.lean

Counting, listing, updating and deleting select the same rows.

A filter either meets an obstacle (`Filter.Obstacle`), the first column that the
table does not have or the first row in which it can not be evaluated, or it can
be evaluated in every row (`Store.obstacle_or_decides`).  In the first case each
call is refused with the error of the obstacle, in the second each goes by the
rows that pass (`calls_select_alike`).
-/
import SecurityGroups.Proofs.FilterErrors
import SecurityGroups.Proofs.WellKept

namespace SecurityGroups

/-! ### Pages -/

/-- The page is within the limit, and in the order of a column of the schema, if in any. -/
structure Page.Admissible (page : Page) (maxLimit : UInt32) (schema : Schema) : Prop where
  window : page.check maxLimit = .ok ()
  order : Store.checkSort schema page = .ok ()

theorem Page.admissible_countOnly (maxLimit : UInt32) (schema : Schema) :
    Page.countOnly.Admissible maxLimit schema :=
  ⟨rfl, rfl⟩

/-! ### Obstacles -/

/-- Why a filter can not tell which of some rows pass: a column that the schema does not have, the
first one of the filter, or else the first row in which the filter can not be evaluated. -/
inductive Filter.Obstacle (filter : Filter) (schema : Schema) (rows : List Row) :
    StoreError → Prop where
  | column {before later : List String} {name : String} :
      filter.fields = before ++ name :: later →
      (∀ field ∈ before, schema.contains field = true) → schema.contains name = false →
      Obstacle filter schema rows (.schema (.unknownColumn name))
  | row {before later : List Row} {row : Row} {e : FilterError} :
      (∀ field ∈ filter.fields, schema.contains field = true) →
      rows = before ++ row :: later → filter.Decides before → filter.holds row = .error e →
      Obstacle filter schema rows (.filter e)

namespace Store

variable {config : Config} {s : Store} {table : TableName} {schema : Schema} {filter : Filter}
  {page : Page} {values : Row} {e : StoreError}

/-- What an obstacle is to a call: its filter is refused, or its rows can not be marked. -/
inductive Stopped (s : Store) (table : TableName) (schema : Schema) (filter : Filter)
    (e : StoreError) : Prop where
  | filter : checkFilter schema filter = .error e → Stopped s table schema filter e
  | rows : checkFilter schema filter = .ok () → s.mark table filter = .error e →
      Stopped s table schema filter e

/-- **A filter meets an obstacle or can be evaluated in every row.** -/
theorem obstacle_or_decides (s : Store) (table : TableName) (schema : Schema) (filter : Filter) :
    (∃ e, filter.Obstacle schema (s.rows table) e ∧ Stopped s table schema filter e) ∨
      (∀ field ∈ filter.fields, schema.contains field = true) ∧ filter.Decides (s.rows table) := by
  cases hfilter : checkFilter schema filter with
  | error e =>
    obtain ⟨before, name, later, hfields, hbefore, hname, rfl⟩ := first_of_checkFields hfilter
    exact .inl ⟨_, .column hfields hbefore hname, .filter hfilter⟩
  | ok _ =>
    have hfields := checkFields_eq_ok.1 hfilter
    cases hmark : filter.mark (s.rows table) with
    | error e =>
      obtain ⟨before, row, later, hrows, hbefore, hrow⟩ := Filter.first_of_mark hmark
      exact .inl ⟨_, .row hfields hrows hbefore hrow, .rows hfilter (by rw [mark, hmark]; rfl)⟩
    | ok marked => exact .inr ⟨hfields, (Filter.mark_eq_ok.1 hmark).1⟩

/-! ### Refusals -/

theorem Stopped.list (h : Stopped s table schema filter e)
    (hpage : page.Admissible config.maxLimit schema) :
    s.perform config (.list table schema filter page) = (.error e, s) := by
  have hlist : s.list config.maxLimit table schema filter page = .error e := by
    cases h with
    | filter hfilter =>
      rw [Store.list, hpage.window, hfilter]
      rfl
    | rows hfilter hmark =>
      rw [Store.list, hpage.window, hfilter, hpage.order, hmark]
      rfl
  rw [perform, hlist]

theorem Stopped.update (h : Stopped s table schema filter e) (hfit : values.Fits schema)
    (hid : values.get? "id" = none) :
    s.perform config (.update table schema filter values) = (.error e, s) := by
  have hupdate : s.update config.supply table schema filter values = .error e := by
    cases h with
    | filter hfilter =>
      rw [Store.update, hfilter]
      rfl
    | rows hfilter hmark =>
      rw [Store.update, hfilter, checkRow_eq_ok.2 hfit, hid, hmark]
      rfl
  rw [perform, hupdate]
  rfl

theorem Stopped.delete (h : Stopped s table schema filter e) :
    s.perform config (.delete table schema filter) = (.error e, s) := by
  have hdelete : s.delete table schema filter = .error e := by
    cases h with
    | filter hfilter =>
      rw [Store.delete, hfilter]
      rfl
    | rows hfilter hmark =>
      rw [Store.delete, hfilter, hmark]
      rfl
  rw [perform, hdelete]
  rfl

/-! ### Rows that are written over -/

/-- What a row becomes that an update selects: its cells with those of the values over them, and,
where the schema has it, the time of the update. -/
def Overlaid (schema : Schema) (now : Instant) (values row row' : Row) : Prop :=
  ∀ name, row'.get? name =
    if name = "updated_at" ∧ schema.contains "updated_at" = true then some (.time now)
    else (values.get? name).or (row.get? name)

theorem overlaid_revised (schema : Schema) (now : Instant) (values row : Row) :
    Overlaid schema now values row (revised schema now values row) := by
  intro name
  by_cases hname : name = "updated_at"
  · subst hname
    rw [revised]
    split
    · rename_i hcontains
      rw [Row.get?_set_self, if_pos ⟨rfl, hcontains⟩]
    · rename_i hcontains
      rw [Row.get?_overlay, if_neg fun h => hcontains h.2]
  · rw [get?_revised hname, if_neg fun h => hname h.1]

end Store

/-! ### The same rows -/

/-- **Counting, listing, updating and deleting select the same rows.**  For every page that the
store admits and all values that fit and name no id, either the filter meets an obstacle, and then
each call is refused with its error and changes nothing; or the filter can be evaluated in every row,
and then counting, updating and deleting answer the number of rows that pass, a page lists rows out
of those, an update writes over each of them and leaves every other row as it is, in its place, and
a deletion keeps the other rows in their order. -/
theorem calls_select_alike (config : Store.Config) (s : Store) (table : TableName)
    {schema : Schema} (filter : Filter) {page : Page} {values : Row}
    (hpage : page.Admissible config.maxLimit schema) (hfit : values.Fits schema)
    (hid : values.get? "id" = none) :
    (∃ e, filter.Obstacle schema (s.rows table) e ∧
      s.perform config (.list table schema filter .countOnly) = (.error e, s) ∧
      s.perform config (.list table schema filter page) = (.error e, s) ∧
      s.perform config (.update table schema filter values) = (.error e, s) ∧
      s.perform config (.delete table schema filter) = (.error e, s)) ∨
    (filter.Decides (s.rows table) ∧ ∃ (count : Nat) (updated deleted : Store),
      count = (s.rows table).countP filter.passes ∧
      s.perform config (.list table schema filter .countOnly) = (.ok ⟨some count, []⟩, s) ∧
      s.perform config (.list table schema filter page) = (.ok (if page.count then ⟨some count, []⟩
        else ⟨none, page.cut ((s.rows table).filter filter.passes)⟩), s) ∧
      s.perform config (.update table schema filter values) = (.ok count, updated) ∧
      s.perform config (.delete table schema filter) = (.ok count, deleted) ∧
      List.Forall₂ (fun row row' => if filter.passes row = true
        then Store.Overlaid schema (config.supply.clock s.ticks) values row row' else row' = row)
        (s.rows table) (updated.rows table) ∧
      deleted.rows table = (s.rows table).filter (fun row => !filter.passes row) ∧
      ∀ other, other ≠ table →
        updated.rows other = s.rows other ∧ deleted.rows other = s.rows other) := by
  rcases Store.obstacle_or_decides s table schema filter with
    ⟨e, hobstacle, hstopped⟩ | ⟨hfields, hdecides⟩
  · have hcount := hstopped.list (Page.admissible_countOnly config.maxLimit schema)
    exact .inl ⟨e, hobstacle, hcount, hstopped.list hpage, hstopped.update hfit hid,
      hstopped.delete⟩
  · refine .inr ⟨hdecides, _, _, _, rfl, ?_, ?_, Store.perform_update hfields hfit hid hdecides,
      Store.perform_delete hfields hdecides, ?_, Store.rows_withRows_self _ _ _, ?_⟩
    · exact Store.perform_list rfl hfields rfl hdecides
    · exact Store.perform_list hpage.window hfields hpage.order hdecides
    · refine Store.forall₂_rows_afterUpdate (fun row _ hp => ?_) (fun row _ hp => ?_)
      · rw [if_pos hp]
        exact Store.overlaid_revised _ _ _ _
      · rw [if_neg (ne_true_of_eq_false hp)]
    · intro other hother
      exact ⟨Store.rows_withRows_of_ne hother _ _, Store.rows_withRows_of_ne hother _ _⟩

/-- Two groups of one name are renamed or deleted, and the group of another name is not. -/
theorem two_of_three_rows :
    let schema : Schema := ⟨[⟨"id", "id", .string⟩, ⟨"name", "name", .string⟩], by decide⟩
    let row (id name : String) : Row := .ofCells [("id", .string id), ("name", .string name)]
    let s := Store.empty.withRows .regions [row "1" "b", row "2" "a", row "3" "b"]
    let perform := s.perform ⟨Supply.strokes, 500⟩
    let filter := Filter.equal "name" (.str "b")
    ∃ updated deleted : Store,
      perform (.list .regions schema filter .countOnly) = (.ok ⟨some 2, []⟩, s) ∧
      perform (.update .regions schema filter (.ofCells [("name", .string "c")])) =
        (.ok 2, updated) ∧
      perform (.delete .regions schema filter) = (.ok 2, deleted) ∧
      (updated.rows .regions).length = 3 ∧ deleted.rows .regions = [row "2" "a"] := by
  intro schema row s perform filter
  have hfit : (Row.ofCells [("name", .string "c")]).Fits schema :=
    (Row.fits_empty schema).set rfl
  rcases calls_select_alike ⟨Supply.strokes, 500⟩ s .regions filter
      (Page.admissible_countOnly 500 schema) hfit rfl with
    ⟨e, -, hcount, -⟩ | ⟨-, count, updated, deleted, hpassing, hcount, -, hupdate, hdelete, hrows,
      hkept, -⟩
  · have htwo : perform (.list .regions schema filter .countOnly) = (.ok ⟨some 2, []⟩, s) := rfl
    cases hcount.symm.trans htwo
  · obtain rfl : count = 2 := hpassing
    exact ⟨updated, deleted, hcount, hupdate, hdelete, hrows.length_eq.symm, hkept⟩

end SecurityGroups
