/-
SecurityGroups/Proofs/Tables.lean

Tables are well kept, whoever makes the calls.

A caller may hand over any rows, values, filters and pages.  As long as all calls
on a table name one schema, with a column for the id and columns for the times of
creation and of the last update, each row of it has a cell in every column of the
schema and in no other, and each cell has the type of its column (`Row.Fills`):
what does not fit is refused before anything is written, and what is missing is
filled in.  One call keeps this (`Store.fills_perform`), and so do all.

Ids are given out by the store alone, and stay distinct and with their rows
(`Store.lineage_performAll`).
-/
import SecurityGroups.Proofs.Ownership

namespace SecurityGroups

/-! ### Rows that fill a schema -/

/-- The row has a cell of the right type in every column of the schema, none besides, and a text for
its id. -/
structure Row.Fills (row : Row) (schema : Schema) : Prop where
  columns : ∀ name, (row.get? name).isSome = schema.contains name
  fits : row.Fits schema
  id : ∃ text, row.get? "id" = some (.string text)

/-- What a row becomes when it is stored, but for its id: it gets the time in the columns of its
times, whatever it had there, and an empty cell where it has none. -/
def Row.StoredAs (schema : Schema) (now : Instant) (given row : Row) : Prop :=
  ∀ name, name ≠ "id" → row.get? name =
    if name = "created_at" ∨ name = "updated_at" then some (.time now)
    else if schema.contains name = true then some (given.cell name) else none

/-- Both rows have one id. -/
def Row.SameId (a b : Row) : Prop := b.get? "id" = a.get? "id"

theorem Row.SameId.refl (row : Row) : row.SameId row := rfl

theorem Row.SameId.trans {a b c : Row} (h₁ : a.SameId b) (h₂ : b.SameId c) : a.SameId c :=
  Eq.trans h₂ h₁

namespace Store

variable {schema : Schema} {row values given : Row} {id : String} {now : Instant}

theorem storedAs_stored (hs : schema.Audited) (h : given.Fits schema) :
    given.StoredAs schema now (stored schema id now given) := by
  intro name hname
  have hcreated : schema.contains "created_at" = true := Schema.contains_of_type hs.created
  by_cases htime : name = "created_at" ∨ name = "updated_at"
  · rw [if_pos htime]
    rcases htime with rfl | rfl <;> simp [stored, hcreated, Row.get?_set]
  · obtain ⟨hnot, hnot'⟩ := not_or.1 htime
    simp only [stored, hcreated, if_true]
    rw [if_neg htime, Row.get?_set_of_ne (Ne.symm hnot'), Row.get?_set_of_ne (Ne.symm hnot),
      Row.get?_set_of_ne (Ne.symm hname), get?_complete, Row.cell]
    cases hget : given.get? name with
    | some cell =>
      rw [if_pos (Schema.contains_of_checkCell (h name cell hget))]
      rfl
    | none =>
      simp only [Schema.contains_iff]
      rfl

theorem fills_stored (hs : schema.Audited) (h : given.Fits schema) :
    (stored schema id now given).Fills schema where
  columns := by
    intro name
    by_cases hname : name = "id"
    · subst hname
      rw [get?_id_stored, Schema.contains_of_type hs.id]
      rfl
    · rw [storedAs_stored hs h name hname]
      split
      · rename_i htime
        rcases htime with rfl | rfl
        · exact (Schema.contains_of_type hs.created).symm
        · exact (Schema.contains_of_type hs.updated).symm
      · cases schema.contains name <;> rfl
  fits := fits_stored hs.stamped h
  id := ⟨id, get?_id_stored⟩

theorem fills_revised (hs : schema.Audited) (h : row.Fills schema) (hv : values.Fits schema)
    (hid : values.get? "id" = none) : (revised schema now values row).Fills schema where
  columns := by
    intro name
    have hupdated : schema.contains "updated_at" = true := Schema.contains_of_type hs.updated
    by_cases hname : name = "updated_at"
    · subst hname
      rw [revised, if_pos hupdated, Row.get?_set_self, hupdated]
      rfl
    · rw [get?_revised hname]
      cases hget : values.get? name with
      | some cell => exact (Schema.contains_of_checkCell (hv name cell hget)).symm
      | none => exact h.columns name
  fits := fits_revised hs.stamped h.fits hv
  id := by
    rw [get?_revised_of_ne hid (by decide)]
    exact h.id

end Store

/-! ### Calls of any caller -/

/-- The table that a call is about. -/
def Call.table : Call → TableName
  | .insert table .. | .update table .. | .delete table .. | .list table .. => table

/-- The schema that a call names. -/
def Call.schema : Call → Schema
  | .insert _ schema _ | .update _ schema .. | .delete _ schema _ | .list _ schema .. => schema

/-- A call on the table names the schema. -/
def Call.Names (c : Call) (table : TableName) (schema : Schema) : Prop :=
  c.table = table → c.schema = schema

namespace Store

/-- The store after some calls. -/
def performAll (config : Config) (s : Store) (calls : List Call) : Store :=
  calls.foldl (fun s c => (s.perform config c).2) s

variable {config : Config} {s : Store} {table : TableName} {schema : Schema} {c : Call}
  {calls : List Call} {rows : List Row}

/-- **One call** leaves every row of a table with a cell in each column. -/
theorem fills_perform (hs : schema.Audited) (hc : c.Names table schema)
    (h : ∀ row ∈ s.rows table, row.Fills schema) :
    ∀ row ∈ (s.perform config c).2.rows table, row.Fills schema := by
  intro row hrow
  have horigin := perform_origin hrow
  cases horigin with
  | same hold => exact h row hold
  | @stored schema' rows given n hcall hgiven hfit hn hn' =>
    subst hcall
    obtain rfl : schema' = schema := hc rfl
    exact fills_stored hs hfit
  | @revised schema' filter values old hcall hfit hid hold hp =>
    subst hcall
    obtain rfl : schema' = schema := hc rfl
    exact fills_revised hs (h old hold) hfit hid

/-- What holds before some calls, and after each if it did before it, holds after all of them. -/
theorem performAll_induction {P : Store → Prop} (h : P s)
    (hstep : ∀ s, P s → ∀ c ∈ calls, P (s.perform config c).2) : P (s.performAll config calls) :=
  List.foldlRecOn (motive := P) calls _ h hstep

theorem fills_performAll (hs : schema.Audited) (hcalls : ∀ c ∈ calls, c.Names table schema)
    (h : ∀ row ∈ s.rows table, row.Fills schema) :
    ∀ row ∈ (s.performAll config calls).rows table, row.Fills schema :=
  performAll_induction (P := fun s => ∀ row ∈ s.rows table, row.Fills schema) h
    fun _ hold c hc => fills_perform hs (hcalls c hc) hold

theorem Distinct.performAll (hs : Function.Injective config.supply.id)
    (h : s.Distinct config.supply) (calls : List Call) :
    (s.performAll config calls).Distinct config.supply :=
  performAll_induction h fun _ hold c _ => hold.perform hs c

/-- **Rows keep their ids** in whatever calls, and new rows have ids that were given out since. -/
theorem lineage_performAll (config : Config) (s : Store) (calls : List Call) (table : TableName) :
    s.issued ≤ (s.performAll config calls).issued ∧
      Lineage Row.SameId (IssuedBetween config.supply s (s.performAll config calls)) (s.rows table)
        ((s.performAll config calls).rows table) := by
  have hstep : ∀ (s : Store) (c : Call), s.issued ≤ (s.perform config c).2.issued ∧
      Lineage Row.SameId (IssuedBetween config.supply s (s.perform config c).2) (s.rows table)
        ((s.perform config c).2.rows table) := fun s c =>
    perform_lineage (fun _ => Row.SameId.refl)
      (fun _ hid _ _ => get?_revised_of_ne hid (by decide)) table
  refine performAll_induction (P := fun s' => s.issued ≤ s'.issued ∧
    Lineage Row.SameId (IssuedBetween config.supply s s') (s.rows table) (s'.rows table))
    ⟨Nat.le_refl _, .refl Row.SameId.refl _⟩ ?_
  intro mid hmid c _
  exact lineage_trans (fun _ _ _ => Row.SameId.trans) (fun _ _ h => h) hmid (hstep mid c)

/-- New rows are made of the given ones, in their order. -/
theorem storedAs_freshRows {supply : Supply} (hs : schema.Audited)
    (hfit : ∀ row ∈ rows, row.Fits schema) :
    List.Forall₂ (Row.StoredAs schema (supply.clock s.ticks)) rows
      (s.freshRows supply schema rows) := by
  have hzip : ∀ (ids : List String) (rows : List Row), ids.length = rows.length →
      (∀ row ∈ rows, row.Fits schema) →
      List.Forall₂ (Row.StoredAs schema (supply.clock s.ticks)) rows
        (List.zipWith (fun id row => stored schema id (supply.clock s.ticks) row) ids rows) := by
    intro ids rows
    induction rows generalizing ids with
    | nil =>
      intro _ _
      rw [List.zipWith_nil_right]
      exact .nil
    | cons row rows ih =>
      intro hlength hfit
      obtain ⟨hrow, hrows⟩ := List.forall_mem_cons.1 hfit
      cases ids with
      | nil => cases hlength
      | cons id ids => exact .cons (storedAs_stored hs hrow) (ih ids (Nat.succ.inj hlength) hrows)
  exact hzip _ _ (by simp [nextIds]) hfit

end Store

/-- **Tables are well kept**, whoever makes the calls.  In every state that calls lead to which name
one audited schema for a table, each row of the table fills the schema, ids are distinct, and rows
keep their ids in all calls to come.  Rows that fit are then stored after those that are there, in
their order and under the ids that are answered, and other rows are refused; an update leaves the
rows in their number and order; and a call that is refused leaves the store as it was. -/
theorem tables_are_well_kept (config : Store.Config) (hs : Function.Injective config.supply.id)
    {table : TableName} {schema : Schema} (haudited : schema.Audited) (calls : List Call)
    (hcalls : ∀ c ∈ calls, c.Names table schema) :
    let s := Store.empty.performAll config calls
    (∀ row ∈ s.rows table, row.Fills schema) ∧
    ((s.rows table).map (·.get? "id")).Nodup ∧
    (∀ later, Lineage Row.SameId (Store.IssuedBetween config.supply s (s.performAll config later))
      (s.rows table) ((s.performAll config later).rows table)) ∧
    (∀ rows, (∀ row ∈ rows, row.Fits schema) → ∃ ids new after,
      s.perform config (.insert table schema rows) = (.ok ids, after) ∧
      after.rows table = s.rows table ++ new ∧
      new.map (·.get? "id") = ids.map (fun id => some (.string id)) ∧
      List.Forall₂ (Row.StoredAs schema (config.supply.clock s.ticks)) rows new) ∧
    (∀ rows ids, (s.perform config (.insert table schema rows)).1 = .ok ids →
      ∀ row ∈ rows, row.Fits schema) ∧
    (∀ filter values n after,
      s.perform config (.update table schema filter values) = (.ok n, after) →
        List.Forall₂ Row.SameId (s.rows table) (after.rows table)) ∧
    (∀ c e, (s.perform config c).1 = .error e → (s.perform config c).2 = s) := by
  intro s
  have hdistinct : s.Distinct config.supply := (Store.distinct_empty _).performAll hs calls
  have hfills : ∀ row ∈ s.rows table, row.Fills schema :=
    Store.fills_performAll haudited hcalls fun _ h => by cases h
  refine ⟨hfills, hdistinct.nodup table, ?_, ?_, ?_, ?_, fun _ _ => Store.perform_error⟩
  · intro later
    exact (Store.lineage_performAll config s later table).2
  · intro rows hfit
    exact ⟨_, s.freshRows config.supply schema rows, _, Store.perform_insert hfit,
      Store.rows_withRows_self _ _ _, Store.ids_freshRows _ _ _ _,
      Store.storedAs_freshRows haudited hfit⟩
  · intro rows ids hok
    exact (Store.insert_eq_ok.1 (Store.keep_eq_ok.1 hok)).1
  · intro filter values n after hupdate
    have hok := congrArg Prod.fst hupdate
    obtain ⟨-, -, hid, -, -, hafter⟩ := Store.update_eq_ok.1 (Store.keep_eq_ok.1 hok)
    obtain rfl : after = _ := (congrArg Prod.snd hupdate).symm.trans hafter
    exact Store.forall₂_rows_afterUpdate (fun _ _ _ => Store.get?_revised_of_ne hid (by decide))
      fun row _ _ => .refl row

/-- A caller hands over a row with an id of its own, a row without cells, a row with an unknown
column, and a new name for all. -/
theorem rows_of_careless_caller :
    let schema : Schema := ⟨[⟨"id", "id", .string⟩, ⟨"name", "name", .string⟩,
      ⟨"created_at", "created_at", .time⟩, ⟨"updated_at", "updated_at", .time⟩], by decide⟩
    let calls : List Call :=
      [.insert .regions schema [.ofCells [("id", .string "mine"), ("name", .string "a")], .empty],
        .insert .regions schema [.ofCells [("colour", .string "red")]],
        .update .regions schema .everything (.ofCells [("name", .string "b")])]
    let s := Store.empty.performAll ⟨Supply.strokes, 500⟩ calls
    (s.rows .regions).map (fun row => ((row.cell "id").string?, (row.cell "name").string?)) =
      [(some "|", some "b"), (some "||", some "b")] ∧
    ((s.rows .regions).map (·.get? "id")).Nodup ∧ ∀ row ∈ s.rows .regions, row.Fills schema := by
  intro schema calls s
  have haudited : schema.Audited := ⟨by decide, by decide, by decide⟩
  have hcalls : ∀ c ∈ calls, c.Names .regions schema := by simp [calls, Call.Names, Call.schema]
  obtain ⟨hfills, hnodup, -⟩ := tables_are_well_kept ⟨Supply.strokes, 500⟩
    Supply.injective_strokes haudited calls hcalls
  exact ⟨by decide +kernel, hnodup, hfills⟩

end SecurityGroups
