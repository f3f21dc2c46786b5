/-
SecurityGroups/Proofs/AuditTimes.lean

Whose stamps the times of a row are.

The calls that have touched a row are its history: the insertion that has stored it,
and after that the updates whose filter it has passed (`Store.touches`).  The time of
the last update is the store's own, that of the last touch, whatever a caller has put
there (`Row.Dated.updated`).

The time of creation is not.  An insertion stamps it, but an update writes it over if
its values name the column, as it does every other column but the id.  So it is the
last value that a caller has named for it, and the stamp of the insertion only if no
caller has named one (`Row.Dated.created`).
-/
import SecurityGroups.Proofs.Tables

namespace SecurityGroups

/-! ### Touches -/

/-- What a call has done to a row: it has stored it, or written values over it. -/
inductive Touch where
  | stored (time : Instant)
  | revised (time : Instant) (values : Row)

namespace Store

/-- Whether a row with the id passes the filter. -/
def selects (s : Store) (table : TableName) (filter : Filter) (id : String) : Bool :=
  (s.rows table).any fun row => (row.cell "id").string? == some id && filter.passes row

/-- What a call does to the row of an id: an insertion that answers the id stores it, and an update
that is not refused writes over it if it passes the filter. -/
def touch? (config : Config) (s : Store) (table : TableName) (id : String) : Call → Option Touch
  | .insert t schema rows =>
    match (s.perform config (.insert t schema rows)).1 with
    | .ok ids => if t = table ∧ id ∈ ids then some (.stored (config.supply.clock s.ticks)) else none
    | .error _ => none
  | .update t schema filter values =>
    match (s.perform config (.update t schema filter values)).1 with
    | .ok _ =>
      if t = table ∧ s.selects table filter id = true then
        some (.revised (config.supply.clock s.ticks) values)
      else none
    | .error _ => none
  | .delete .. | .list .. => none

/-- What some calls do to the row of an id, one after the other. -/
def touches (config : Config) (table : TableName) (id : String) : Store → List Call → List Touch
  | _, [] => []
  | s, c :: rest =>
    (s.touch? config table id c).toList ++ touches config table id (s.perform config c).2 rest

end Store

/-! ### Times -/

/-- The times of a row that was stored at a time and then written over: the time of the last update
is that of the last touch, and the time of creation is the last one that was written, or that at
which the row was stored. -/
structure Row.Dated (row : Row) (made : Instant) (revisions : List (Instant × Row)) : Prop where
  updated : row.get? "updated_at" = some (.time ((revisions.map Prod.fst).getLast?.getD made))
  created : row.get? "created_at" =
    (revisions.filterMap (·.2.get? "created_at")).getLast?.or (some (.time made))

/-- The times of a row are those of its history. -/
def Row.Bears (row : Row) (history : List Touch) : Prop :=
  ∃ made revisions, history = .stored made :: revisions.map (fun r => .revised r.1 r.2) ∧
    row.Dated made revisions

namespace Row

variable {row values given : Row} {made now : Instant} {revisions : List (Instant × Row)}
  {history : List Touch} {schema : Schema} {id : String}

/-- Where no update has named the time of creation, it is that of the insertion. -/
theorem Dated.created_of_unnamed (h : row.Dated made revisions)
    (hnamed : ∀ r ∈ revisions, r.2.get? "created_at" = none) :
    row.get? "created_at" = some (.time made) := by
  rw [h.created, List.filterMap_eq_nil_iff.2 hnamed]
  rfl

/-- A new row bears the time at which it is stored, whatever times were given with it. -/
theorem bears_stored (hs : schema.Audited) (hfit : given.Fits schema) :
    (Store.stored schema id now given).Bears [.stored now] := by
  have hstored : given.StoredAs schema now (Store.stored schema id now given) :=
    Store.storedAs_stored hs hfit
  refine ⟨now, [], rfl, ?_, ?_⟩
  · rw [hstored "updated_at" (by decide), if_pos (.inr rfl)]
    rfl
  · rw [hstored "created_at" (by decide), if_pos (.inl rfl)]
    rfl

/-- A row that is written over bears the time of the update, and of the values what they name. -/
theorem Bears.revised (h : row.Bears history) (hs : schema.Audited) :
    (Store.revised schema now values row).Bears (history ++ [.revised now values]) := by
  obtain ⟨made, revisions, rfl, hdated⟩ := h
  refine ⟨made, revisions ++ [(now, values)], ?_, ?_, ?_⟩
  · rw [List.map_append, List.cons_append]
    rfl
  · rw [Store.revised, if_pos (Schema.contains_of_type hs.updated), Row.get?_set_self,
      List.map_append, List.map_singleton, List.getLast?_concat]
    rfl
  · rw [Store.get?_revised (by decide), List.filterMap_append, hdated.created]
    cases hvalue : values.get? "created_at" with
    | some cell =>
      simp only [List.filterMap_cons, hvalue, List.filterMap_nil, List.getLast?_concat]
      rfl
    | none =>
      simp only [List.filterMap_cons, hvalue, List.filterMap_nil, List.append_nil, Option.none_or]

end Row

/-! ### Calls of any caller -/

namespace Store

variable {config : Config} {s s' : Store} {table : TableName} {schema : Schema} {c : Call}
  {history : String → List Touch}

/-- Each row of a table bears the times of its history, and an id that is still to be given out has
none. -/
structure Chronicled (supply : Supply) (s : Store) (table : TableName)
    (history : String → List Touch) : Prop where
  rows : ∀ row ∈ s.rows table, ∃ id, row.get? "id" = some (.string id) ∧ row.Bears (history id)
  unused : ∀ n, s.issued ≤ n → history (supply.id n) = []

theorem chronicled_empty (supply : Supply) (table : TableName) :
    empty.Chronicled supply table fun _ => [] where
  rows := fun _ h => by cases h
  unused := fun _ _ => rfl

/-- Rows that are left alone keep their history. -/
theorem Chronicled.of_untouched (h : s.Chronicled config.supply table history)
    (hrows : ∀ row ∈ s'.rows table, row ∈ s.rows table) (hissued : s.issued ≤ s'.issued)
    (hc : ∀ id, s.touch? config table id c = none) :
    s'.Chronicled config.supply table fun id =>
      history id ++ (s.touch? config table id c).toList where
  rows := by
    intro row hrow
    obtain ⟨id, hid, hbears⟩ := h.rows row (hrows row hrow)
    refine ⟨id, hid, ?_⟩
    rw [hc, Option.toList_none, List.append_nil]
    exact hbears
  unused := by
    intro n hn
    rw [hc, Option.toList_none, List.append_nil]
    exact h.unused n (Nat.le_trans hissued hn)

theorem selects_eq_true {filter : Filter} {id : String} : s.selects table filter id = true ↔
    ∃ row ∈ s.rows table, row.get? "id" = some (.string id) ∧ filter.passes row = true := by
  rw [selects, List.any_eq_true]
  refine exists_congr fun row => and_congr_right fun _ => ?_
  rw [Bool.and_eq_true, beq_iff_eq, Cell.string?_eq_some_iff, Row.get?_eq_some_iff (by simp)]

theorem mem_nextIds {supply : Supply} {count : Nat} {id : String} :
    id ∈ s.nextIds supply count ↔ ∃ i < count, supply.id (s.issued + i) = id := by
  simp only [nextIds, List.mem_map, List.mem_range]

section

variable {rows : List Row} {filter : Filter} {values : Row} {n : Nat}

/-- An insertion begins the histories of the ids that it answers, and adds to no other. -/
theorem Chronicled.insert (hs : Function.Injective config.supply.id) (hd : s.Distinct config.supply)
    (haudited : schema.Audited) (h : s.Chronicled config.supply table history)
    (hfit : ∀ row ∈ rows, row.Fits schema) :
    (s.afterInsert config.supply table schema rows).Chronicled config.supply table fun id =>
      history id ++ (s.touch? config table id (.insert table schema rows)).toList := by
  have htouch : ∀ id, s.touch? config table id (.insert table schema rows) =
      if id ∈ s.nextIds config.supply rows.length then
        some (.stored (config.supply.clock s.ticks))
      else none := by
    intro id
    simp only [touch?, perform_insert hfit, true_and]
  simp only [htouch]
  constructor
  · intro row hrow
    rcases mem_rows_afterInsert.1 hrow with hold | ⟨-, hnew⟩
    · -- the id of a row that is there is not given out again
      obtain ⟨id, hid, hbears⟩ := h.rows row hold
      have hnot : id ∉ s.nextIds config.supply rows.length := by
        intro hmem
        obtain ⟨i, -, rfl⟩ := mem_nextIds.1 hmem
        exact hd.unused table row hold _ (Nat.le_add_right _ _) hid
      refine ⟨id, hid, ?_⟩
      rw [if_neg hnot, Option.toList_none, List.append_nil]
      exact hbears
    · obtain ⟨i, hi, given, hgiven, rfl⟩ := mem_freshRows hnew
      refine ⟨_, get?_id_stored, ?_⟩
      rw [h.unused _ (Nat.le_add_right _ _), if_pos (mem_nextIds.2 ⟨i, hi, rfl⟩)]
      exact Row.bears_stored haudited (hfit given hgiven)
  · intro n hn
    have hissued : s.issued + rows.length ≤ n := hn
    have hnot : config.supply.id n ∉ s.nextIds config.supply rows.length := by
      intro hmem
      obtain ⟨i, hi, heq⟩ := mem_nextIds.1 hmem
      have hni := hs heq
      omega
    rw [h.unused n (by omega), if_neg hnot]
    rfl

/-- An update adds to the histories of the rows that pass its filter. -/
theorem Chronicled.update (hd : s.Distinct config.supply) (haudited : schema.Audited)
    (h : s.Chronicled config.supply table history)
    (hok : s.perform config (.update table schema filter values) = (.ok n, s'))
    (hid : values.get? "id" = none) :
    (s.afterUpdate config.supply table schema filter values).Chronicled config.supply table
      fun id => history id ++
        (s.touch? config table id (.update table schema filter values)).toList := by
  have htouch : ∀ id, s.touch? config table id (.update table schema filter values) =
      if s.selects table filter id = true then
        some (.revised (config.supply.clock s.ticks) values)
      else none := by
    intro id
    simp only [touch?, hok, true_and]
  simp only [htouch]
  constructor
  · intro row hrow
    obtain ⟨old, hold, rfl⟩ := mem_rows_afterUpdate.1 hrow
    obtain ⟨id, hoid, hbears⟩ := h.rows old hold
    by_cases hp : filter.passes old = true
    · rw [if_pos ⟨rfl, hp⟩]
      refine ⟨id, (get?_revised_of_ne hid (by decide)).trans hoid, ?_⟩
      rw [if_pos (selects_eq_true.2 ⟨old, hold, hoid, hp⟩)]
      exact hbears.revised haudited
    · -- no other row has the id, so none with it passes the filter
      have hnot : ¬ s.selects table filter id = true := by
        intro hselects
        obtain ⟨other, hother, hsame, hpasses⟩ := selects_eq_true.1 hselects
        obtain rfl := hd.eq_of_id hold hother (hoid.trans hsame.symm)
        exact hp hpasses
      rw [if_neg fun hwritten => hp hwritten.2]
      refine ⟨id, hoid, ?_⟩
      rw [if_neg hnot, Option.toList_none, List.append_nil]
      exact hbears
  · intro n hn
    have hnot : ¬ s.selects table filter (config.supply.id n) = true := by
      intro hselects
      obtain ⟨row, hrow, hrid, -⟩ := selects_eq_true.1 hselects
      exact hd.unused table row hrow n hn hrid
    rw [h.unused n hn, if_neg hnot]
    rfl

end

/-- A call on another table leaves the table alone. -/
theorem rows_perform_of_ne (config : Config) (s : Store) (h : c.table ≠ table) :
    (s.perform config c).2.rows table = s.rows table := by
  have hw := perform_cases config s c
  generalize (s.perform config c).2 = after at hw
  cases hw with
  | nothing => rfl
  | _ => exact rows_withRows_of_ne (Ne.symm h) _ _

theorem touch?_of_ne (id : String) (h : c.table ≠ table) : s.touch? config table id c = none := by
  cases c with
  | insert t schema rows =>
    simp only [touch?]
    split
    · exact if_neg fun hstored => h hstored.1
    · rfl
  | update t schema filter values =>
    simp only [touch?]
    split
    · exact if_neg fun hrevised => h hrevised.1
    · rfl
  | delete t schema filter => rfl
  | list t schema filter page => rfl

/-- **One call** adds to the history of each row what it does to it. -/
theorem Chronicled.perform (hs : Function.Injective config.supply.id)
    (hd : s.Distinct config.supply) (haudited : schema.Audited) (hc : c.Names table schema)
    (h : s.Chronicled config.supply table history) :
    (s.perform config c).2.Chronicled config.supply table fun id =>
      history id ++ (s.touch? config table id c).toList := by
  by_cases ht : c.table = table
  · have hschema := hc ht
    cases hanswer : (s.perform config c).1 with
    | error e =>
      rw [perform_error hanswer]
      refine h.of_untouched (fun _ hrow => hrow) (Nat.le_refl _) fun id => ?_
      cases c <;> simp only [touch?, hanswer]
    | ok answer =>
      have hle := issued_le_perform config s c
      cases c with
      | insert t schema' rows =>
        subst ht hschema
        obtain ⟨hfit, -, hafter⟩ := insert_eq_ok.1 (keep_eq_ok.1 hanswer)
        have hperform : (s.perform config (.insert _ _ rows)).2 = _ := hafter
        rw [hperform]
        exact h.insert hs hd haudited hfit
      | update t schema' filter values =>
        subst ht hschema
        obtain ⟨-, -, hid, -, -, hafter⟩ := update_eq_ok.1 (keep_eq_ok.1 hanswer)
        have hperform : (s.perform config (.update _ _ filter values)).2 = _ := hafter
        rw [hperform]
        exact h.update hd haudited (Prod.ext hanswer rfl) hid
      | delete t schema' filter =>
        obtain ⟨-, -, -, hafter⟩ := delete_eq_ok.1 (keep_eq_ok.1 hanswer)
        have hperform : (s.perform config (.delete t schema' filter)).2 = _ := hafter
        refine h.of_untouched (fun row hrow => ?_) hle fun _ => rfl
        rw [hperform] at hrow
        exact (mem_rows_afterDelete.1 hrow).1
      | list t schema' filter page => exact h.of_untouched (fun _ hrow => hrow) hle fun _ => rfl
  · refine h.of_untouched (fun row hrow => ?_) (issued_le_perform config s c)
      fun id => touch?_of_ne id ht
    rw [rows_perform_of_ne config s ht] at hrow
    exact hrow

/-- **Some calls** add to the history of each row what they do to it, one after the other. -/
theorem Chronicled.performAll (hs : Function.Injective config.supply.id)
    (haudited : schema.Audited) {calls : List Call} (hcalls : ∀ c ∈ calls, c.Names table schema)
    (hd : s.Distinct config.supply) (h : s.Chronicled config.supply table history) :
    (s.performAll config calls).Chronicled config.supply table fun id =>
      history id ++ touches config table id s calls := by
  induction calls generalizing s history with
  | nil =>
    simp only [touches, List.append_nil]
    exact h
  | cons c rest ih =>
    obtain ⟨hc, hrest⟩ := List.forall_mem_cons.1 hcalls
    simp only [touches, ← List.append_assoc]
    exact ih hrest (hd.perform hs c) (h.perform hs hd haudited hc)

end Store

/-- **The times of a row are told by its history**, whoever makes the calls.  As long as all calls
on a table name one audited schema, the first touch of each of its rows is the insertion that has
stored it, and the others are updates.  The time of the last update is that of the last touch.  The
time of creation is the last value that an update has named for it, and that of the insertion if
none has. -/
theorem times_follow_the_history (config : Store.Config) (hs : Function.Injective config.supply.id)
    {table : TableName} {schema : Schema} (haudited : schema.Audited) (calls : List Call)
    (hcalls : ∀ c ∈ calls, c.Names table schema) :
    ∀ row ∈ (Store.empty.performAll config calls).rows table, ∃ id made revisions,
      row.get? "id" = some (.string id) ∧
      Store.touches config table id .empty calls =
        .stored made :: revisions.map (fun r => .revised r.1 r.2) ∧
      row.Dated made revisions ∧
      ((∀ r ∈ revisions, r.2.get? "created_at" = none) →
        row.get? "created_at" = some (.time made)) := by
  intro row hrow
  have hchronicled := (Store.chronicled_empty config.supply table).performAll hs haudited hcalls
    (Store.distinct_empty _)
  obtain ⟨id, hid, made, revisions, htouches, hdated⟩ := hchronicled.rows row hrow
  exact ⟨id, made, revisions, hid, htouches, hdated, hdated.created_of_unnamed⟩

/-- Ids that are made of strokes, on a clock that goes on by one second each time. -/
def Supply.seconds : Supply where
  id := strokes.id
  clock := fun n => (Instant.ofFields? ⟨2024, 1, 1⟩ n 0).getD (strokes.clock n)

/-- A caller hands over times with a new row, and again with an update of all rows: the time of
creation is kept the second time. -/
theorem times_of_backdated_row :
    let config : Store.Config := ⟨Supply.seconds, 500⟩
    let past : Instant := { date := ⟨2001, 1, 1⟩, second := 0, nano := 0 }
    let times : Row := .ofCells [("created_at", .time past), ("updated_at", .time past)]
    let calls : List Call :=
      [.insert .regions TableName.regions.schema [times],
        .update .regions TableName.regions.schema .everything times]
    let s := Store.empty.performAll config calls
    (s.rows .regions).map (fun row =>
        ((row.cell "created_at").time?, (row.cell "updated_at").time?)) =
      [(some past, some (config.supply.clock 1))] ∧
    ∀ row ∈ s.rows .regions, ∃ id made revisions,
      row.get? "id" = some (.string id) ∧
      Store.touches config .regions id .empty calls =
        .stored made :: revisions.map (fun r => .revised r.1 r.2) ∧
      row.Dated made revisions := by
  intro config past times calls s
  have hcalls : ∀ c ∈ calls, c.Names .regions TableName.regions.schema := by
    simp [calls, Call.Names, Call.schema]
  refine ⟨by decide +kernel, fun row hrow => ?_⟩
  obtain ⟨id, made, revisions, hid, htouches, hdated, -⟩ := times_follow_the_history config
    Supply.injective_strokes TableName.regions.audited_schema calls hcalls row hrow
  exact ⟨id, made, revisions, hid, htouches, hdated⟩

end SecurityGroups
