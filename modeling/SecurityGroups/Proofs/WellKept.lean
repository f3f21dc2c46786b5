/-
SecurityGroups/Proofs/WellKept.lean

Two invariants that every call keeps.

The ids of a table stay distinct as long as the supply never gives out an id
twice (`Distinct.perform`): this holds whoever makes the call, with whatever
rows and values, because no call writes an id but the one that the store
gives out.  And rows fit their tables as long as the caller names the schema
of the table (`Fitting.perform`).
-/
import Mathlib.Data.List.Nodup
import SecurityGroups.Entity.Group
import SecurityGroups.Entity.Region
import SecurityGroups.Proofs.Calls
import SecurityGroups.Rule.Any
import SecurityGroups.Entity.RuleEntry

namespace SecurityGroups

/-! ### Tables and their schemas -/

/-- The columns of a table. -/
def TableName.schema : TableName → Schema
  | .regions => Entity.schema Region
  | .groups => Entity.schema Group
  | .tcloudRules => Entity.schema (RuleEntry TCloud.Rule)
  | .awsRules => Entity.schema (RuleEntry Aws.Rule)
  | .huaweiRules => Entity.schema (RuleEntry HuaWei.Rule)
  | .azureRules => Entity.schema (RuleEntry Azure.Rule)

theorem TableName.audited_schema (t : TableName) : t.schema.Audited where
  id := by cases t <;> decide
  created := by cases t <;> decide
  updated := by cases t <;> decide

theorem TableName.stamped_schema (t : TableName) : t.schema.Stamped := t.audited_schema.stamped

/-- Ids that are made of strokes, one more each time, on a clock that stands still. -/
def Supply.strokes : Supply where
  id := fun n => String.ofList (List.replicate (n + 1) '|')
  clock := fun _ => { date := ⟨2024, 1, 1⟩, second := 0, nano := 0 }

theorem Supply.injective_strokes : Function.Injective strokes.id := by
  intro m n h
  have hlength := congrArg String.length h
  simpa [strokes] using hlength

/-- A call that writes names the schema of its table. -/
def Call.Proper : Call → Prop
  | .insert table schema _ => schema = table.schema
  | .update table schema _ _ => schema = table.schema
  | .delete table schema _ => schema = table.schema
  | .list .. => True

namespace Store

variable {supply : Supply} {config : Config} {s : Store} {c : Call}

/-! ### The rows after a call -/

/-- The ids of new rows are the next ones of the supply. -/
theorem ids_freshRows (supply : Supply) (s : Store) (schema : Schema) (rows : List Row) :
    (s.freshRows supply schema rows).map (·.get? "id") =
      (s.nextIds supply rows.length).map fun id => some (.string id) := by
  have hzip : ∀ (ids : List String) (rows : List Row), ids.length ≤ rows.length →
      (List.zipWith (fun id row => stored schema id (supply.clock s.ticks) row) ids rows).map
        (·.get? "id") = ids.map fun id => some (.string id) := by
    intro ids
    induction ids with
    | nil => intro rows _; rfl
    | cons id ids ih =>
      intro rows hlen
      cases rows with
      | nil => simp at hlen
      | cons row rows =>
        rw [List.zipWith_cons_cons, List.map_cons, List.map_cons, get?_id_stored,
          ih rows (by simpa using hlen)]
  exact hzip _ _ (by simp [nextIds])

theorem mem_freshRows {schema : Schema} {rows : List Row} {row : Row}
    (h : row ∈ s.freshRows supply schema rows) :
    ∃ i < rows.length, ∃ given ∈ rows,
      row = stored schema (supply.id (s.issued + i)) (supply.clock s.ticks) given := by
  rw [freshRows, List.zipWith_eq_zipWith_take_min, ← List.map_uncurry_zip_eq_zipWith] at h
  obtain ⟨⟨id, given⟩, hp, rfl⟩ := List.mem_map.1 h
  obtain ⟨hid, hgiven⟩ := List.of_mem_zip hp
  obtain ⟨i, hi, rfl⟩ := List.mem_map.1 (List.mem_of_mem_take hid)
  exact ⟨i, List.mem_range.1 hi, given, List.mem_of_mem_take hgiven, rfl⟩

/-- Where a row of a table comes from that is there after a call. -/
inductive Origin (supply : Supply) (s s' : Store) (c : Call) (t : TableName) : Row → Prop where
  | same {row : Row} : row ∈ s.rows t → Origin supply s s' c t row
  | stored {schema : Schema} {rows : List Row} {given : Row} {n : Nat} :
      c = .insert t schema rows → given ∈ rows → given.Fits schema →
      s.issued ≤ n → n < s'.issued →
      Origin supply s s' c t (stored schema (supply.id n) (supply.clock s.ticks) given)
  | revised {schema : Schema} {filter : Filter} {values row : Row} :
      c = .update t schema filter values → values.Fits schema → values.get? "id" = none →
      row ∈ s.rows t → filter.passes row = true →
      Origin supply s s' c t (revised schema (supply.clock s.ticks) values row)

/-- **Every row after a call** was there before, was stored, or was written over. -/
theorem perform_origin {t : TableName} {row : Row} (h : row ∈ (s.perform config c).2.rows t) :
    Origin config.supply s (s.perform config c).2 c t row := by
  have hw := perform_cases config s c
  generalize (s.perform config c).2 = s' at h hw
  cases hw with
  | nothing => exact .same h
  | @insert table schema rows hfit =>
    rcases mem_rows_afterInsert.1 h with hold | ⟨rfl, hnew⟩
    · exact .same hold
    · obtain ⟨i, hi, given, hgiven, rfl⟩ := mem_freshRows hnew
      exact .stored rfl hgiven (hfit given hgiven) (Nat.le_add_right _ _)
        (Nat.add_lt_add_left hi _)
  | @update table schema filter values hfit hid =>
    obtain ⟨old, hold, rfl⟩ := mem_rows_afterUpdate.1 h
    split
    · rename_i hwritten
      obtain ⟨rfl, hp⟩ := hwritten
      exact .revised rfl hfit hid hold hp
    · exact .same hold
  | delete table schema filter => exact .same (mem_rows_afterDelete.1 h).1

theorem issued_le_perform (config : Config) (s : Store) (c : Call) :
    s.issued ≤ (s.perform config c).2.issued := by
  have hw := perform_cases config s c
  generalize (s.perform config c).2 = s' at hw
  cases hw with
  | insert table hfit => exact Nat.le_add_right _ _
  | _ => exact Nat.le_refl _

/-! ### Ids -/

/-- The ids of each table are distinct, and none of them will be given out again. -/
structure Distinct (supply : Supply) (s : Store) : Prop where
  nodup : ∀ t, ((s.rows t).map (·.get? "id")).Nodup
  unused : ∀ t, ∀ row ∈ s.rows t, ∀ n, s.issued ≤ n → row.get? "id" ≠ some (.string (supply.id n))

theorem distinct_empty (supply : Supply) : Store.empty.Distinct supply where
  nodup := fun _ => List.nodup_nil
  unused := fun _ _ h => by cases h

/-- Two rows of one table that have one id are the same row. -/
theorem Distinct.eq_of_id (h : s.Distinct supply) {t : TableName} {a b : Row}
    (ha : a ∈ s.rows t) (hb : b ∈ s.rows t) (hid : a.get? "id" = b.get? "id") : a = b :=
  List.inj_on_of_nodup_map (h.nodup t) ha hb hid

/-- New ids differ from each other and from all that are there. -/
theorem Distinct.nodup_append (hs : Function.Injective supply.id) (h : s.Distinct supply)
    (t : TableName) (schema : Schema) (rows : List Row) :
    ((s.rows t ++ s.freshRows supply schema rows).map (·.get? "id")).Nodup := by
  rw [List.map_append, List.nodup_append, ids_freshRows]
  refine ⟨h.nodup t, ?_, ?_⟩
  · -- the supply gives out no id twice
    refine List.Nodup.map ?_ (List.Nodup.map ?_ List.nodup_range)
    · intro a b hab
      cases hab
      rfl
    · intro i j hij
      exact Nat.add_left_cancel (hs hij)
  · -- and none of those that are there will be given out again
    intro a ha b hb
    obtain ⟨row, hrow, rfl⟩ := List.mem_map.1 ha
    obtain ⟨id, hid, rfl⟩ := List.mem_map.1 hb
    obtain ⟨i, -, rfl⟩ := List.mem_map.1 hid
    exact h.unused t row hrow _ (Nat.le_add_right _ _)

/-- An update that names no id leaves the ids of all rows as they are. -/
theorem get?_id_update {schema : Schema} {now : Instant} {filter : Filter} {values : Row}
    (hid : values.get? "id" = none) (rows : List Row) :
    (rows.map fun row => if filter.passes row then revised schema now values row else row).map
      (·.get? "id") = rows.map (·.get? "id") := by
  rw [List.map_map]
  refine List.map_congr_left ?_
  intro row _
  show (if filter.passes row then revised schema now values row else row).get? "id" = _
  split
  · exact get?_revised_of_ne hid (by decide)
  · rfl

/-- **Ids stay distinct**, whatever is called. -/
theorem Distinct.perform (hs : Function.Injective config.supply.id)
    (h : s.Distinct config.supply) (c : Call) :
    (s.perform config c).2.Distinct config.supply := by
  have hwith : ∀ {table : TableName} {rows : List Row}, (rows.map (·.get? "id")).Nodup →
      ∀ t, (((s.withRows table rows).rows t).map (·.get? "id")).Nodup := fun hnew =>
    forall_rows_withRows (P := fun _ rows => (rows.map (·.get? "id")).Nodup) h.nodup hnew
  constructor
  · have hw := perform_cases config s c
    generalize (s.perform config c).2 = s' at hw
    cases hw with
    | nothing => exact h.nodup
    | @insert table schema rows hfit => exact hwith (h.nodup_append hs table schema rows)
    | @update table schema filter values hfit hid =>
      refine hwith ?_
      rw [get?_id_update hid]
      exact h.nodup table
    | delete table schema filter =>
      exact hwith ((List.filter_sublist.map _).nodup (h.nodup table))
  · intro t row hrow n hn
    have hle := issued_le_perform config s c
    have horigin := perform_origin hrow
    cases horigin with
    | same hold => exact h.unused t row hold n (by omega)
    | @stored schema rows given m hc hgiven hfit hm hm' =>
      -- the id was given out by this call, so it is not one of those to come
      rw [get?_id_stored]
      intro hsame
      cases hs (Cell.string.inj (Option.some.inj hsame))
      omega
    | revised hc hfit hid hold hp =>
      rw [get?_revised_of_ne hid (by decide)]
      exact h.unused t _ hold n (by omega)

/-! ### Cells -/

/-- Every row fits its table. -/
def Fitting (s : Store) : Prop := ∀ t, ∀ row ∈ s.rows t, row.Fits t.schema

theorem fitting_empty : Store.empty.Fitting := fun _ _ h => by cases h

/-- **Rows go on fitting their tables** when a call names the right schema. -/
theorem Fitting.perform (h : s.Fitting) (hc : c.Proper) : (s.perform config c).2.Fitting := by
  intro t row hrow
  have horigin := perform_origin hrow
  cases horigin with
  | same hold => exact h t row hold
  | @stored schema rows given n hcall hgiven hfit hn hn' =>
    subst hcall
    obtain rfl : schema = t.schema := hc
    exact fits_stored t.stamped_schema hfit
  | @revised schema filter values old hcall hfit hid hold hp =>
    subst hcall
    obtain rfl : schema = t.schema := hc
    exact fits_revised t.stamped_schema (h t old hold) hfit

end Store

end SecurityGroups
