/-
SecurityGroups/Proofs/Ownership.lean

Whose a row is never changes.

The rows of a table in a later state come from those in an earlier one: some
were taken out, some were written over, and new ones stand after them
(`Lineage`).  A row that is still there has the same cells in all columns of
ownership, and a row that is new has an id that was given out in between.
This needs nothing of the store.  Where ids are distinct, a row can be told by
its id, and `ownership_never_changes` says both.
-/
import SecurityGroups.Proofs.Schedules

namespace SecurityGroups

/-! ### Where rows come from -/

/-- Rows after some were taken out and others written over, with new ones after them. -/
inductive Lineage (keeps : Row → Row → Prop) (isNew : Row → Prop) : List Row → List Row → Prop where
  | new {rows : List Row} : (∀ row ∈ rows, isNew row) → Lineage keeps isNew [] rows
  | gone (row : Row) {old new : List Row} :
      Lineage keeps isNew old new → Lineage keeps isNew (row :: old) new
  | kept {row row' : Row} {old new : List Row} : keeps row row' →
      Lineage keeps isNew old new → Lineage keeps isNew (row :: old) (row' :: new)

namespace Lineage

variable {keeps : Row → Row → Prop} {isNew isNew' : Row → Prop} {old mid new : List Row}

theorem refl (hk : ∀ row, keeps row row) (rows : List Row) : Lineage keeps isNew rows rows := by
  induction rows with
  | nil => exact .new fun _ h => by cases h
  | cons row rows ih => exact .kept (hk row) ih

/-- New rows are put after those that were there. -/
theorem append (hk : ∀ row, keeps row row) (rows : List Row) {more : List Row}
    (hmore : ∀ row ∈ more, isNew row) : Lineage keeps isNew rows (rows ++ more) := by
  induction rows with
  | nil => exact .new hmore
  | cons row rows ih => exact .kept (hk row) ih

theorem map (f : Row → Row) (hf : ∀ row, keeps row (f row)) (rows : List Row) :
    Lineage keeps isNew rows (rows.map f) := by
  induction rows with
  | nil => exact .new fun _ h => by cases h
  | cons row rows ih => exact .kept (hf row) ih

theorem filter (hk : ∀ row, keeps row row) (p : Row → Bool) (rows : List Row) :
    Lineage keeps isNew rows (rows.filter p) := by
  induction rows with
  | nil => exact .new fun _ h => by cases h
  | cons row rows ih =>
    by_cases hp : p row = true
    · rw [List.filter_cons_of_pos hp]
      exact .kept (hk row) ih
    · rw [List.filter_cons_of_neg hp]
      exact .gone row ih

theorem mono (h : Lineage keeps isNew old new) (hi : ∀ row, isNew row → isNew' row) :
    Lineage keeps isNew' old new := by
  induction h with
  | new hnew => exact .new fun row hrow => hi row (hnew row hrow)
  | gone row _ ih => exact .gone row ih
  | kept hk _ ih => exact .kept hk ih

/-- Each row was there before, or is new. -/
theorem origin (h : Lineage keeps isNew old new) {row' : Row} (hrow : row' ∈ new) :
    (∃ row ∈ old, keeps row row') ∨ isNew row' := by
  induction h with
  | new hnew => exact .inr (hnew row' hrow)
  | gone row _ ih =>
    rcases ih hrow with ⟨r, hr, hk⟩ | hn
    · exact .inl ⟨r, List.mem_cons_of_mem _ hr, hk⟩
    · exact .inr hn
  | @kept row _ _ _ hk _ ih =>
    rcases List.mem_cons.1 hrow with rfl | hrest
    · exact .inl ⟨row, List.mem_cons_self, hk⟩
    · rcases ih hrest with ⟨r, hr, hk'⟩ | hn
      · exact .inl ⟨r, List.mem_cons_of_mem _ hr, hk'⟩
      · exact .inr hn

/-- A row that is kept twice is kept, and a new row that is kept stays new. -/
theorem trans (h₁ : Lineage keeps isNew old mid) (h₂ : Lineage keeps isNew mid new)
    (hk : ∀ a b c, keeps a b → keeps b c → keeps a c)
    (hi : ∀ a b, isNew a → keeps a b → isNew b) : Lineage keeps isNew old new := by
  induction h₁ generalizing new with
  | new hnew =>
    -- all rows are new in between, so a later one is new, or was new in between
    refine .new ?_
    intro row hrow
    rcases h₂.origin hrow with ⟨r, hr, hkeep⟩ | hn
    · exact hi r row (hnew r hr) hkeep
    · exact hn
  | gone row _ ih => exact .gone row (ih h₂)
  | kept hkeep _ ih =>
    cases h₂ with
    | gone _ h₂ => exact .gone _ (ih h₂)
    | kept hkeep' h₂ => exact .kept (hk _ _ _ hkeep hkeep') (ih h₂)

end Lineage

/-! ### Ownership -/

/-- Both rows have the same cells in all columns of ownership. -/
def TableName.SameOwnership (t : TableName) (a b : Row) : Prop :=
  ∀ name ∈ t.ownership, b.get? name = a.get? name

/-- The id of the row was given out after one state of the store and before another. -/
def Store.IssuedBetween (supply : Supply) (s s' : Store) (row : Row) : Prop :=
  ∃ n, s.issued ≤ n ∧ n < s'.issued ∧ row.get? "id" = some (.string (supply.id n))

namespace TableName

variable {t : TableName} {a b c : Row}

theorem SameOwnership.refl (t : TableName) (row : Row) : t.SameOwnership row row := fun _ _ => rfl

theorem SameOwnership.trans (h₁ : t.SameOwnership a b) (h₂ : t.SameOwnership b c) :
    t.SameOwnership a c := fun name hname => (h₂ name hname).trans (h₁ name hname)

theorem SameOwnership.id (h : t.SameOwnership a b) : b.get? "id" = a.get? "id" :=
  h "id" t.id_mem_ownership

end TableName

namespace Store

variable {config : Config} {s s' s'' : Store} {t : TableName}

theorem IssuedBetween.mono {supply : Supply} {row : Row} (h : IssuedBetween supply s s' row)
    {s₁ s₂ : Store} (hfrom : s₁.issued ≤ s.issued) (hto : s'.issued ≤ s₂.issued) :
    IssuedBetween supply s₁ s₂ row := by
  obtain ⟨n, hn, hn', hid⟩ := h
  exact ⟨n, by omega, by omega, hid⟩

theorem issuedBetween_freshRows (supply : Supply) (s : Store) (table : TableName)
    (schema : Schema) (rows : List Row) : ∀ row ∈ s.freshRows supply schema rows,
      IssuedBetween supply s (s.afterInsert supply table schema rows) row := by
  intro row hrow
  obtain ⟨i, hi, given, -, rfl⟩ := mem_freshRows hrow
  exact ⟨s.issued + i, Nat.le_add_right _ _, Nat.add_lt_add_left hi _, get?_id_stored⟩

/-- **One call** takes rows out, keeps of them what an update of theirs keeps, or gives new rows new
ids. -/
theorem perform_lineage {keeps : TableName → Row → Row → Prop} (hrefl : ∀ t row, keeps t row row)
    {c : Call} (hupdate : ∀ {table schema filter values},
      c = .update table schema filter values → values.get? "id" = none →
        ∀ now row, keeps table row (revised schema now values row)) (t : TableName) :
    s.issued ≤ (s.perform config c).2.issued ∧
      Lineage (keeps t) (IssuedBetween config.supply s (s.perform config c).2) (s.rows t)
        ((s.perform config c).2.rows t) := by
  -- new rows in one table leave the lineage of the others as it is
  have hwith : ∀ {table : TableName} {isNew : Row → Prop} {rows : List Row},
      Lineage (keeps table) isNew (s.rows table) rows →
        Lineage (keeps t) isNew (s.rows t) ((s.withRows table rows).rows t) := fun h =>
    forall_rows_withRows (P := fun t => Lineage (keeps t) _ (s.rows t))
      (fun t => .refl (hrefl t) _) h t
  have hw := perform_cases config s c
  generalize (s.perform config c).2 = after at hw
  cases hw with
  | nothing => exact ⟨Nat.le_refl _, .refl (hrefl t) _⟩
  | @insert table schema rows hfit =>
    have hnew := issuedBetween_freshRows config.supply s table schema rows
    exact ⟨Nat.le_add_right _ _, hwith (.append (hrefl table) _ hnew)⟩
  | @update table schema filter values hfit hid =>
    refine ⟨Nat.le_refl _, hwith (.map _ ?_ _)⟩
    intro row
    split
    · exact hupdate rfl hid _ row
    · exact hrefl table row
  | delete table schema filter => exact ⟨Nat.le_refl _, hwith (.filter (hrefl table) _ _)⟩

/-- Ids that were given out on either part of a way were given out on the whole way. -/
theorem lineage_trans {supply : Supply} {keeps : Row → Row → Prop}
    (hk : ∀ a b c, keeps a b → keeps b c → keeps a c)
    (hid : ∀ a b, keeps a b → b.get? "id" = a.get? "id")
    (h₁ : s.issued ≤ s'.issued ∧ Lineage keeps (IssuedBetween supply s s') (s.rows t) (s'.rows t))
    (h₂ : s'.issued ≤ s''.issued ∧
      Lineage keeps (IssuedBetween supply s' s'') (s'.rows t) (s''.rows t)) :
    s.issued ≤ s''.issued ∧
      Lineage keeps (IssuedBetween supply s s'') (s.rows t) (s''.rows t) := by
  obtain ⟨hle, hlineage⟩ := h₁
  obtain ⟨hle', hlineage'⟩ := h₂
  refine ⟨Nat.le_trans hle hle', ?_⟩
  have hfirst := hlineage.mono fun row h => h.mono (Nat.le_refl _) hle'
  have hsecond := hlineage'.mono fun row h => h.mono hle (Nat.le_refl _)
  refine hfirst.trans hsecond hk ?_
  rintro a b ⟨n, hn, hn', hnew⟩ hkeep
  exact ⟨n, hn, hn', (hid a b hkeep).trans hnew⟩

/-- **One call of the service** takes rows out, keeps their ownership, or gives new rows new ids. -/
theorem Step.lineage (h : Step config s s') (t : TableName) :
    s.issued ≤ s'.issued ∧
      Lineage t.SameOwnership (IssuedBetween config.supply s s') (s.rows t) (s'.rows t) := by
  obtain ⟨c, hmade, rfl⟩ := h
  refine perform_lineage TableName.SameOwnership.refl ?_ t
  rintro table schema filter values rfl - now row name hname
  -- neither the values nor the time of the update are in a column of ownership
  refine get?_revised_of_ne (hmade.lawful.2.1 name hname) ?_
  rintro rfl
  exact table.updated_not_mem_ownership hname

theorem Evolves.lineage (h : Evolves config s s') (t : TableName) :
    s.issued ≤ s'.issued ∧
      Lineage t.SameOwnership (IssuedBetween config.supply s s') (s.rows t) (s'.rows t) := by
  induction h with
  | refl => exact ⟨Nat.le_refl _, .refl (TableName.SameOwnership.refl t) _⟩
  | tail _ hstep ih =>
    exact lineage_trans (fun _ _ _ h h' => h.trans h') (fun _ _ h => h.id) ih (hstep.lineage t)

/-- Where ids are distinct, rows of one id in two states have one origin. -/
theorem Evolves.sameOwnership (h : Evolves config s s') (hd : s.Distinct config.supply)
    {row row' : Row} (hrow : row ∈ s.rows t) (hrow' : row' ∈ s'.rows t)
    (hid : row.get? "id" = row'.get? "id") : t.SameOwnership row row' := by
  rcases (h.lineage t).2.origin hrow' with ⟨r, hr, hsame⟩ | ⟨n, hn, -, hnew⟩
  · obtain rfl : row = r := hd.eq_of_id hrow hr (hid.trans hsame.id)
    exact hsame
  · exact absurd (hid.trans hnew) (hd.unused t row hrow n hn)

end Store

/-! ### Every schedule -/

/-- **Ownership never changes.**  In every schedule of jobs, the rows of a table in a later state
are those of an earlier one, some of them gone and all others with the same ownership, and after
them rows with ids that were given out in between.  Where ids are distinct, two rows of one id have
the same ownership in whichever two states they stand. -/
theorem ownership_never_changes (config : Store.Config) (store : Store)
    (before later : List Move) (t : TableName) :
    let s := (System.after config store before).store
    let s' := (System.after config store (before ++ later)).store
    Lineage t.SameOwnership (Store.IssuedBetween config.supply s s') (s.rows t) (s'.rows t) ∧
      (Function.Injective config.supply.id → store.Distinct config.supply →
        ∀ row ∈ s.rows t, ∀ row' ∈ s'.rows t, row.get? "id" = row'.get? "id" →
          t.SameOwnership row row') := by
  intro s s'
  have hstart : Store.Evolves config store s := System.evolves_start config store before
  have hlater : Store.Evolves config s s' := System.evolves_after config store before later
  refine ⟨(hlater.lineage t).2, ?_⟩
  intro hs hd row hrow row' hrow' hid
  exact hlater.sameOwnership (hstart.distinct hs hd) hrow hrow' hid

/-- A group is created, and then renamed. -/
def Move.renaming : List Move :=
  [.start ⟨500, "bob", .updateGroup "|" { name? := some "db" }⟩, .resume 1, .resume 1]

/-- A group that is renamed keeps its owner. -/
theorem ownership_of_renamed_group :
    let config : Store.Config := ⟨Supply.strokes, 500⟩
    let before : List Move := [.start .creation, .resume 0]
    ∃ row ∈ (System.after config .empty before).store.rows .groups,
      ∃ row' ∈ (System.after config .empty (before ++ Move.renaming)).store.rows .groups,
        row.cell "name" = .string "web" ∧ row'.cell "name" = .string "db" ∧
          TableName.groups.SameOwnership row row' := by
  intro config before
  have hold : ((System.after config .empty before).store.rows .groups).map
      (fun row => ((row.cell "id").string?, (row.cell "name").string?)) =
        [(some "|", some "web")] := by decide +kernel
  have hnew : ((System.after config .empty (before ++ Move.renaming)).store.rows .groups).map
      (fun row => ((row.cell "id").string?, (row.cell "name").string?)) =
        [(some "|", some "db")] := by decide +kernel
  obtain ⟨row, hrows, hrow⟩ := List.map_eq_singleton_iff.1 hold
  obtain ⟨row', hrows', hrow'⟩ := List.map_eq_singleton_iff.1 hnew
  simp only [Prod.mk.injEq, Cell.string?_eq_some_iff] at hrow hrow'
  obtain ⟨hid, hname⟩ := hrow
  obtain ⟨hid', hname'⟩ := hrow'
  have hmem : row ∈ (System.after config .empty before).store.rows .groups := by
    rw [hrows]
    exact List.mem_singleton_self row
  have hmem' : row' ∈ (System.after config .empty (before ++ Move.renaming)).store.rows .groups := by
    rw [hrows']
    exact List.mem_singleton_self row'
  have hsame : row.get? "id" = row'.get? "id" := by
    rw [(Row.get?_eq_some_iff (by simp)).2 hid, (Row.get?_eq_some_iff (by simp)).2 hid']
  exact ⟨row, hmem, row', hmem', hname, hname',
    (ownership_never_changes config .empty before Move.renaming .groups).2
      Supply.injective_strokes (Store.distinct_empty _) row hmem row' hmem' hsame⟩

end SecurityGroups
