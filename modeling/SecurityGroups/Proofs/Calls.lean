/-
SecurityGroups/Proofs/Calls.lean

What a call to the store can do.

Each call has one lemma that says exactly when it is not refused, what it
then answers and what the store is afterwards: `insert_eq_ok`,
`update_eq_ok`, `delete_eq_ok` and `list_eq_ok`.  `perform_cases` puts them
together for the store after any call, and `mem_rows_afterInsert` and the
lemmas beside it say which rows there are then.
-/
import Mathlib.Data.List.Forall2
import Mathlib.Data.List.Nodup
import SecurityGroups.Proofs.Schemas
import SecurityGroups.Service.Script

namespace SecurityGroups

/-! ### Filters that can be evaluated -/

namespace Filter

/-- Whether a row passes a filter; where the filter can not be evaluated the row does not. -/
def passes (f : Filter) (row : Row) : Bool :=
  match f.holds row with
  | .ok hit => hit
  | .error _ => false

/-- The filter can be evaluated in each of some rows. -/
def Decides (f : Filter) (rows : List Row) : Prop := ∀ row ∈ rows, f.holds row = .ok (f.passes row)

theorem passes_of_holds {f : Filter} {row : Row} {hit : Bool} (h : f.holds row = .ok hit) :
    f.passes row = hit := by
  rw [passes, h]

theorem mark_eq_ok {f : Filter} {rows : List Row} {marked : List (Row × Bool)} :
    f.mark rows = .ok marked ↔ f.Decides rows ∧ marked = rows.map fun row => (row, f.passes row) := by
  induction rows generalizing marked with
  | nil => simp [mark, Decides, eq_comm]
  | cons row rest ih =>
    have hcons : f.Decides (row :: rest) ↔ f.holds row = .ok (f.passes row) ∧ f.Decides rest :=
      List.forall_mem_cons
    rw [mark, hcons]
    cases hrow : f.holds row with
    | error e => simp
    | ok hit =>
      have hp := passes_of_holds hrow
      cases hrest : f.mark rest with
      | error e =>
        -- the filter can not be evaluated further on, so not in all of the rows
        have hno : ¬ f.Decides rest := fun hd => by
          have := ih.2 ⟨hd, rfl⟩
          rw [hrest] at this
          cases this
        simp [hno]
      | ok tail =>
        obtain ⟨hd, rfl⟩ := ih.1 hrest
        simp [hd, hp, eq_comm]

end Filter

/-! ### The four calls -/

/-- A step of a computation that may fail succeeds exactly when both parts do. -/
theorem bind_eq_ok {ε α β : Type} {x : Except ε α} {f : α → Except ε β} {b : β} :
    (x >>= f) = .ok b ↔ ∃ a, x = .ok a ∧ f a = .ok b := by
  cases x with
  | error e => simp [bind, Except.bind]
  | ok a => simp [bind, Except.bind]

theorem mapError_eq_ok {ε ε' α : Type} {x : Except ε α} {f : ε → ε'} {a : α} :
    x.mapError f = .ok a ↔ x = .ok a := by
  cases x <;> simp [Except.mapError]

namespace Store

variable {supply : Supply} {config : Config} {s s' : Store} {table t : TableName} {schema : Schema}
  {filter : Filter} {page : Page} {values : Row} {rows : List Row}

/-- The rows that an insertion adds. -/
def freshRows (supply : Supply) (s : Store) (schema : Schema) (rows : List Row) : List Row :=
  List.zipWith (fun id row => stored schema id (supply.clock s.ticks) row)
    (s.nextIds supply rows.length) rows

/-- The store after an insertion. -/
def afterInsert (supply : Supply) (s : Store) (table : TableName) (schema : Schema)
    (rows : List Row) : Store :=
  { s.withRows table (s.rows table ++ s.freshRows supply schema rows) with
    issued := s.issued + rows.length, ticks := s.ticks + 1 }

/-- The store after an update. -/
def afterUpdate (supply : Supply) (s : Store) (table : TableName) (schema : Schema)
    (filter : Filter) (values : Row) : Store :=
  { s.withRows table ((s.rows table).map fun row =>
      if filter.passes row then revised schema (supply.clock s.ticks) values row else row) with
    ticks := s.ticks + 1 }

/-- The store after a deletion. -/
def afterDelete (s : Store) (table : TableName) (filter : Filter) : Store :=
  s.withRows table ((s.rows table).filter fun row => !filter.passes row)

/-- What holds of the rows of every table, and of the new rows of one, holds after these were put
in place of the old ones. -/
theorem forall_rows_withRows {P : TableName → List Row → Prop} (hsame : ∀ t, P t (s.rows t))
    (hnew : P table rows) (t : TableName) : P t ((s.withRows table rows).rows t) := by
  by_cases ht : t = table
  · subst ht
    rw [rows_withRows_self]
    exact hnew
  · rw [rows_withRows_of_ne ht]
    exact hsame t

/-- A row is there after an insertion if it was there or is new. -/
theorem mem_rows_afterInsert {row : Row} :
    row ∈ (s.afterInsert supply table schema rows).rows t ↔
      row ∈ s.rows t ∨ t = table ∧ row ∈ s.freshRows supply schema rows := by
  show row ∈ (s.withRows table _).rows t ↔ _
  by_cases ht : t = table
  · subst ht
    rw [rows_withRows_self, List.mem_append]
    simp
  · rw [rows_withRows_of_ne ht]
    simp [ht]

/-- A row is there after an update if it was there, or is one that was there written over. -/
theorem mem_rows_afterUpdate {row : Row} :
    row ∈ (s.afterUpdate supply table schema filter values).rows t ↔ ∃ old ∈ s.rows t,
      row = if t = table ∧ filter.passes old = true then
        revised schema (supply.clock s.ticks) values old else old := by
  show row ∈ (s.withRows table _).rows t ↔ _
  by_cases ht : t = table
  · subst ht
    rw [rows_withRows_self, List.mem_map]
    simp only [true_and]
    exact exists_congr fun old => and_congr_right fun _ => eq_comm
  · rw [rows_withRows_of_ne ht]
    simp [ht]

/-- A row is there after a deletion if it was there and did not pass the filter. -/
theorem mem_rows_afterDelete {row : Row} : row ∈ (s.afterDelete table filter).rows t ↔
    row ∈ s.rows t ∧ (t = table → filter.passes row = false) := by
  rw [afterDelete]
  by_cases ht : t = table
  · subst ht
    rw [rows_withRows_self, List.mem_filter]
    simp
  · rw [rows_withRows_of_ne ht]
    simp [ht]

/-- An update leaves each row in its place, as it was or written over. -/
theorem forall₂_rows_afterUpdate {R : Row → Row → Prop}
    (hwritten : ∀ row ∈ s.rows table, filter.passes row = true →
      R row (revised schema (supply.clock s.ticks) values row))
    (hkept : ∀ row ∈ s.rows table, filter.passes row = false → R row row) :
    List.Forall₂ R (s.rows table)
      ((s.afterUpdate supply table schema filter values).rows table) := by
  have hrows : (s.afterUpdate supply table schema filter values).rows table = _ :=
    rows_withRows_self _ _ _
  rw [hrows, List.forall₂_map_right_iff, List.forall₂_same]
  intro row hrow
  split
  · rename_i hp
    exact hwritten row hrow hp
  · rename_i hp
    exact hkept row hrow (Bool.eq_false_iff.2 hp)

theorem insert_eq_ok {ids : List String} :
    s.insert supply table schema rows = .ok (ids, s') ↔
      (∀ row ∈ rows, row.Fits schema) ∧ ids = s.nextIds supply rows.length ∧
        s' = s.afterInsert supply table schema rows := by
  rw [insert, bind_eq_ok, ← checkRows_eq_ok]
  constructor
  · rintro ⟨_, hc, h⟩
    cases h
    exact ⟨hc, rfl, rfl⟩
  · rintro ⟨hc, rfl, rfl⟩
    exact ⟨(), hc, rfl⟩

theorem mark_eq_ok {marked : List (Row × Bool)} :
    s.mark table filter = .ok marked ↔ filter.Decides (s.rows table) ∧
      marked = (s.rows table).map fun row => (row, filter.passes row) := by
  rw [← Filter.mark_eq_ok, mark, mapError_eq_ok]

theorem countP_mark (rows : List Row) (p : Row → Bool) :
    (rows.map fun row => (row, p row)).countP Prod.snd = rows.countP p := List.countP_map

theorem update_eq_ok {n : Nat} :
    s.update supply table schema filter values = .ok (n, s') ↔
      (∀ f ∈ filter.fields, schema.contains f = true) ∧ values.Fits schema ∧
        values.get? "id" = none ∧ filter.Decides (s.rows table) ∧
        n = (s.rows table).countP filter.passes ∧
        s' = s.afterUpdate supply table schema filter values := by
  rw [update, bind_eq_ok, ← checkFields_eq_ok, ← checkRow_eq_ok]
  constructor
  · rintro ⟨_, hf, h⟩
    obtain ⟨_, hv, h⟩ := bind_eq_ok.1 h
    split at h
    · -- values with an id are refused
      obtain ⟨_, ht, _⟩ := bind_eq_ok.1 h
      cases ht
    · rename_i hid
      obtain ⟨marked, hm, h⟩ := bind_eq_ok.1 h
      obtain ⟨hd, rfl⟩ := mark_eq_ok.1 hm
      cases h
      refine ⟨hf, hv, Option.not_isSome_iff_eq_none.1 hid, hd, countP_mark _ _, ?_⟩
      rw [afterUpdate, List.map_map]
      rfl
  · rintro ⟨hf, hv, hid, hd, rfl, rfl⟩
    refine ⟨(), hf, bind_eq_ok.2 ⟨(), hv, ?_⟩⟩
    have hm := mark_eq_ok.2 ⟨hd, rfl⟩
    simp only [hid, hm, bind, Except.bind, pure, Except.pure, countP_mark, List.map_map,
      Option.isSome_none, Bool.false_eq_true, if_false]
    rfl

theorem delete_eq_ok {n : Nat} :
    s.delete table schema filter = .ok (n, s') ↔
      (∀ f ∈ filter.fields, schema.contains f = true) ∧ filter.Decides (s.rows table) ∧
        n = (s.rows table).countP filter.passes ∧ s' = s.afterDelete table filter := by
  have hkept : ∀ rows : List Row, (((rows.map fun row => (row, filter.passes row)).filter
      (!·.2)).map Prod.fst) = rows.filter fun row => !filter.passes row := by
    intro rows
    rw [List.filter_map, List.map_map]
    exact List.map_id _
  rw [delete, bind_eq_ok, ← checkFields_eq_ok]
  constructor
  · rintro ⟨_, hf, h⟩
    obtain ⟨marked, hm, h⟩ := bind_eq_ok.1 h
    obtain ⟨hd, rfl⟩ := mark_eq_ok.1 hm
    cases h
    refine ⟨hf, hd, countP_mark _ _, ?_⟩
    rw [afterDelete, ← hkept]
  · rintro ⟨hf, hd, rfl, rfl⟩
    refine ⟨(), hf, bind_eq_ok.2 ⟨_, mark_eq_ok.2 ⟨hd, rfl⟩, ?_⟩⟩
    rw [afterDelete, ← hkept, countP_mark]
    rfl

/-- A listing answers the number of the rows that pass, or those of its page. -/
theorem list_eq_ok {maxLimit : UInt32} {listing : Listing} :
    s.list maxLimit table schema filter page = .ok listing ↔
      page.check maxLimit = .ok () ∧ (∀ f ∈ filter.fields, schema.contains f = true) ∧
        checkSort schema page = .ok () ∧ filter.Decides (s.rows table) ∧
        listing = if page.count then ⟨some ((s.rows table).countP filter.passes), []⟩
          else ⟨none, page.cut ((s.rows table).filter filter.passes)⟩ := by
  have hhits : ∀ rows : List Row, (((rows.map fun row => (row, filter.passes row)).filter
      Prod.snd).map Prod.fst) = rows.filter filter.passes := by
    intro rows
    rw [List.filter_map, List.map_map]
    exact List.map_id _
  rw [list, bind_eq_ok, ← checkFields_eq_ok, ← mapError_eq_ok (f := StoreError.page)]
  constructor
  · rintro ⟨_, hp, h⟩
    obtain ⟨_, hf, h⟩ := bind_eq_ok.1 h
    obtain ⟨_, hsort, h⟩ := bind_eq_ok.1 h
    obtain ⟨marked, hm, h⟩ := bind_eq_ok.1 h
    obtain ⟨hd, rfl⟩ := mark_eq_ok.1 hm
    rw [hhits] at h
    cases h
    refine ⟨hp, hf, hsort, hd, ?_⟩
    rw [List.countP_eq_length_filter]
  · rintro ⟨hp, hf, hsort, hd, rfl⟩
    refine ⟨(), hp, bind_eq_ok.2 ⟨(), hf, bind_eq_ok.2 ⟨(), hsort,
      bind_eq_ok.2 ⟨_, mark_eq_ok.2 ⟨hd, rfl⟩, ?_⟩⟩⟩⟩
    rw [hhits, List.countP_eq_length_filter]
    rfl

/-- A call that is not refused answers and leaves what its result says. -/
theorem keep_eq_ok {α : Type} {x : Except StoreError (α × Store)} {a : α} :
    (s.keep x).1 = .ok a ↔ x = .ok (a, (s.keep x).2) := by
  cases x with
  | error e => simp [keep]
  | ok p => simp [keep, Prod.ext_iff]

/-- An insertion of rows that fit is carried out. -/
theorem perform_insert (hfit : ∀ row ∈ rows, row.Fits schema) :
    s.perform config (.insert table schema rows) =
      (.ok (s.nextIds config.supply rows.length), s.afterInsert config.supply table schema rows) := by
  have hinsert : s.insert config.supply table schema rows = .ok (_, _) :=
    insert_eq_ok.2 ⟨hfit, rfl, rfl⟩
  show s.keep (s.insert config.supply table schema rows) = _
  rw [hinsert]
  rfl

/-- An update is carried out, if its filter and its values are about columns of the table. -/
theorem perform_update (hfields : ∀ f ∈ filter.fields, schema.contains f = true)
    (hfit : values.Fits schema) (hid : values.get? "id" = none)
    (hdecides : filter.Decides (s.rows table)) :
    s.perform config (.update table schema filter values) =
      (.ok ((s.rows table).countP filter.passes),
        s.afterUpdate config.supply table schema filter values) := by
  have hupdate : s.update config.supply table schema filter values = .ok (_, _) :=
    update_eq_ok.2 ⟨hfields, hfit, hid, hdecides, rfl, rfl⟩
  show s.keep (s.update config.supply table schema filter values) = _
  rw [hupdate]
  rfl

/-- A deletion is carried out, if its filter is about columns of the table. -/
theorem perform_delete (hfields : ∀ f ∈ filter.fields, schema.contains f = true)
    (hdecides : filter.Decides (s.rows table)) :
    s.perform config (.delete table schema filter) =
      (.ok ((s.rows table).countP filter.passes), s.afterDelete table filter) := by
  have hdelete : s.delete table schema filter = .ok (_, _) :=
    delete_eq_ok.2 ⟨hfields, hdecides, rfl, rfl⟩
  show s.keep (s.delete table schema filter) = _
  rw [hdelete]
  rfl

/-- A listing within the limit is carried out, if its filter and its order are about columns of the
table. -/
theorem perform_list (hpage : page.check config.maxLimit = .ok ())
    (hfields : ∀ f ∈ filter.fields, schema.contains f = true)
    (hsort : checkSort schema page = .ok ()) (hdecides : filter.Decides (s.rows table)) :
    s.perform config (.list table schema filter page) =
      (.ok (if page.count then ⟨some ((s.rows table).countP filter.passes), []⟩
        else ⟨none, page.cut ((s.rows table).filter filter.passes)⟩), s) := by
  have hlist : s.list config.maxLimit table schema filter page = .ok _ :=
    list_eq_ok.2 ⟨hpage, hfields, hsort, hdecides, rfl⟩
  show (s.list config.maxLimit table schema filter page, s) = _
  rw [hlist]

/-- A refused call leaves the store as it was. -/
theorem perform_error {c : Call} {e : StoreError} (h : (s.perform config c).1 = .error e) :
    (s.perform config c).2 = s := by
  have hkeep : ∀ {α : Type} {x : Except StoreError (α × Store)},
      (s.keep x).1 = .error e → (s.keep x).2 = s := by
    intro α x hx
    cases x with
    | error e' => rfl
    | ok p => cases hx
  cases c with
  | insert table schema rows => exact hkeep h
  | update table schema filter values => exact hkeep h
  | delete table schema filter => exact hkeep h
  | list table schema filter page => rfl

/-! ### The store afterwards -/

/-- What the store is after a call: what it was, or what an accepted call that writes makes of it. -/
inductive Written (supply : Supply) (s : Store) : Call → Store → Prop where
  | nothing (c : Call) : Written supply s c s
  | insert (table : TableName) {schema : Schema} {rows : List Row} :
      (∀ row ∈ rows, row.Fits schema) →
      Written supply s (.insert table schema rows) (s.afterInsert supply table schema rows)
  | update (table : TableName) {schema : Schema} (filter : Filter) {values : Row} :
      values.Fits schema → values.get? "id" = none →
      Written supply s (.update table schema filter values)
        (s.afterUpdate supply table schema filter values)
  | delete (table : TableName) (schema : Schema) (filter : Filter) :
      Written supply s (.delete table schema filter) (s.afterDelete table filter)

/-- A refused call and a listing leave the store as it is; the other calls write what they say. -/
theorem perform_cases (config : Config) (s : Store) (c : Call) :
    Written config.supply s c (s.perform config c).2 := by
  cases c with
  | insert table schema rows =>
    show Written _ s _ (s.keep (s.insert config.supply table schema rows)).2
    rcases h : s.insert config.supply table schema rows with e | ⟨ids, s'⟩
    · exact .nothing _
    · obtain ⟨hfit, -, rfl⟩ := insert_eq_ok.1 h
      exact .insert table hfit
  | update table schema filter values =>
    show Written _ s _ (s.keep (s.update config.supply table schema filter values)).2
    rcases h : s.update config.supply table schema filter values with e | ⟨n, s'⟩
    · exact .nothing _
    · obtain ⟨-, hfit, hid, -, -, rfl⟩ := update_eq_ok.1 h
      exact .update table filter hfit hid
  | delete table schema filter =>
    show Written _ s _ (s.keep (s.delete table schema filter)).2
    rcases h : s.delete table schema filter with e | ⟨n, s'⟩
    · exact .nothing _
    · obtain ⟨-, -, -, rfl⟩ := delete_eq_ok.1 h
      exact .delete table schema filter
  | list table schema filter page => exact .nothing _

end Store

end SecurityGroups
