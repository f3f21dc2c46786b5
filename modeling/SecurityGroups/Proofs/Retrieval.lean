/-
SecurityGroups/Proofs/Retrieval.lean

What is loaded from a store that no other job writes to.

The ids that are asked for are freed of duplicates and cut into batches, and
each batch is one page.  No page is too long, and none cuts a group off, since
there is at most one group for each id (`run_batch`).  So whatever the limit of
pages is, the batches together have each group of one of the ids once
(`run_load`), only their order depends on the limit.  `run_require` says what
is refused: the first id, as they were asked for, that no group has.
-/
import Mathlib.Data.Finset.Card
import Mathlib.Data.List.Find
import Mathlib.Data.List.Perm.Subperm
import SecurityGroups.Proofs.Completion

namespace SecurityGroups

open Service

/-! ### Ids -/

/-- Whether one of some items has a property depends on which items there are. -/
theorem any_eq_of_mem_iff {α : Type} {xs ys : List α} (h : ∀ x, x ∈ xs ↔ x ∈ ys) (p : α → Bool) :
    xs.any p = ys.any p := by
  rw [Bool.eq_iff_iff, List.any_eq_true, List.any_eq_true]
  simp only [h]

section

variable {gs : List Group} {ids : List String}

/-- There are at most as many groups of some ids as there are ids. -/
theorem length_filter_id_le (hgs : (gs.map Group.id).Nodup) (ids : List String) :
    (gs.filter (·.id ∈ ids)).length ≤ ids.length := by
  have hnodup : ((gs.filter (·.id ∈ ids)).map Group.id).Nodup :=
    (List.filter_sublist.map _).nodup hgs
  have hsub : (gs.filter (·.id ∈ ids)).map Group.id ⊆ ids := by
    intro id hid
    obtain ⟨g, hg, rfl⟩ := List.mem_map.1 hid
    simpa using (List.mem_filter.1 hg).2
  rw [← List.length_map (f := Group.id)]
  exact (hnodup.subperm hsub).length_le

/-- If each of some ids is that of a group, there are as many groups as there are distinct ids. -/
theorem length_filter_id_eq (hgs : (gs.map Group.id).Nodup)
    (hall : ∀ id ∈ ids, ∃ g ∈ gs, g.id = id) :
    (gs.filter (·.id ∈ ids)).length = ids.toFinset.card := by
  have hnodup : ((gs.filter (·.id ∈ ids)).map Group.id).Nodup :=
    (List.filter_sublist.map _).nodup hgs
  have hsame : ((gs.filter (·.id ∈ ids)).map Group.id).toFinset = ids.toFinset := by
    ext id
    rw [List.mem_toFinset, List.mem_toFinset, List.mem_map]
    constructor
    · rintro ⟨g, hg, rfl⟩
      simpa using (List.mem_filter.1 hg).2
    · intro hid
      obtain ⟨g, hg, rfl⟩ := hall id hid
      exact ⟨g, List.mem_filter.2 ⟨hg, decide_eq_true hid⟩, rfl⟩
  rw [← hsame, List.toFinset_card_of_nodup hnodup, List.length_map]

/-- If each of some ids is that of a group, a test of the id passes as many rows as there are distinct
ids. -/
theorem Store.Holds.countP_eq_card {s : Store} (h : s.Holds gs) (hgs : (gs.map Group.id).Nodup)
    (hall : ∀ id ∈ ids, ∃ g ∈ gs, g.id = id) {p : Row → Bool}
    (hp : ∀ g ∈ gs, p (Entity.toRow g) = decide (g.id ∈ ids)) :
    (s.rows .groups).countP p = ids.toFinset.card := by
  have hrows : s.rows .groups = gs.map Entity.toRow := h
  rw [hrows, List.countP_map, List.countP_congr (q := fun g : Group => decide (g.id ∈ ids))
    fun g hg => by rw [Function.comp_apply, hp g hg], List.countP_eq_length_filter,
    length_filter_id_eq hgs hall]

/-- No id is missing exactly when each is that of a group. -/
theorem Store.Holds.find?_missing_eq_none {s : Store} (h : s.Holds gs) :
    (ids.find? fun id => (s.group? id).isNone) = none ↔ ∀ id ∈ ids, ∃ g ∈ gs, g.id = id := by
  rw [List.find?_eq_none]
  refine forall₂_congr fun id _ => ?_
  rw [h.group?_eq, Option.isNone_iff_eq_none, List.find?_eq_none]
  simp

/-- Where ids are distinct, each group is the one of its id. -/
theorem Store.Holds.group?_of_mem {s : Store} (h : s.Holds gs) (hgs : (gs.map Group.id).Nodup)
    {g : Group} (hg : g ∈ gs) : s.group? g.id = some g := by
  rw [h.group?_eq]
  obtain ⟨g', hfound⟩ := Option.isSome_iff_exists.1
    (List.find?_isSome.2 ⟨g, hg, decide_eq_true rfl⟩ : (gs.find? (·.id = g.id)).isSome)
  have hid : g'.id = g.id := by simpa using List.find?_some hfound
  rw [hfound, List.inj_on_of_nodup_map hgs (List.mem_of_find?_eq_some hfound) hg hid]

/-- Groups that are found batch by batch are those that are found at once, in another order. -/
theorem perm_flatMap_filter_id (gs : List Group) {batches : List (List String)}
    (hbatches : batches.flatten.Nodup) :
    (batches.flatMap fun batch => gs.filter (·.id ∈ batch)).Perm
      (gs.filter (·.id ∈ batches.flatten)) := by
  induction batches with
  | nil => simp
  | cons batch rest ih =>
    rw [List.flatten_cons, List.nodup_append] at hbatches
    obtain ⟨-, hrest, hdisjoint⟩ := hbatches
    -- what is found at once is parted by whether it is found with the first batch
    have hparts := List.filter_append_perm (fun g : Group => decide (g.id ∈ batch))
      (gs.filter (·.id ∈ batch ++ rest.flatten))
    have hfirst : (gs.filter (·.id ∈ batch ++ rest.flatten)).filter (·.id ∈ batch) =
        gs.filter (·.id ∈ batch) := by
      rw [List.filter_filter]
      refine List.filter_congr fun g _ => ?_
      simp +contextual
    have hlater : (gs.filter (·.id ∈ batch ++ rest.flatten)).filter
        (fun g => !decide (g.id ∈ batch)) = gs.filter (·.id ∈ rest.flatten) := by
      rw [List.filter_filter]
      refine List.filter_congr fun g _ => ?_
      have hne : g.id ∈ rest.flatten → g.id ∉ batch := fun hr hb => hdisjoint _ hb _ hr rfl
      by_cases hb : g.id ∈ batch
      · simp [hb, mt hne (not_not.2 hb)]
      · simp [hb]
    rw [hfirst, hlater] at hparts
    exact ((ih hrest).append_left _).trans hparts

end

/-! ### Loading -/

/-- A page is allowed if it is not empty and not longer than the store allows. -/
theorem Page.check_ofRange {n : Nat} {max : UInt32} (hpos : 0 < n) (hle : n ≤ max.toNat) :
    (Page.ofRange 0 (UInt32.ofNat n)).check max = .ok () := by
  have hn : (UInt32.ofNat n).toNat = n :=
    UInt32.toNat_ofNat_of_lt' (Nat.lt_of_le_of_lt hle max.toNat_lt)
  have hzero : UInt32.ofNat n ≠ 0 := by
    intro h
    rw [h] at hn
    exact absurd hn (Nat.ne_of_lt hpos)
  have hmax : ¬ max < UInt32.ofNat n := by
    rw [UInt32.lt_iff_toNat_lt, hn]
    omega
  show (if UInt32.ofNat n = 0 then Except.error PageError.missingLimit
    else if max < UInt32.ofNat n then .error (.limitTooLarge max (UInt32.ofNat n)) else .ok ()) = _
  rw [if_neg hzero, if_neg hmax]

/-- A batch is never empty, and fits into one page. -/
theorem Batch.bounds_of_mem_split {limit : UInt32} (h : 0 < limit) {ids batch : List String}
    (hbatch : batch ∈ Batch.split limit.toNat ids) : batch ≠ [] ∧ batch.length ≤ limit.toNat := by
  have hpos : 0 < limit.toNat := UInt32.lt_iff_toNat_lt.1 h
  have hle := Batch.length_le_of_mem_split hbatch
  rw [Nat.max_eq_left hpos] at hle
  exact ⟨Batch.ne_nil_of_mem_split hbatch, hle⟩

namespace Service

variable {config : Store.Config} {s : Store} {gs : List Group}

/-- **One batch** finds every group of one of its ids. -/
theorem run_batch (h : s.Holds gs) (hgs : (gs.map Group.id).Nodup) {batch : List String}
    (hne : batch ≠ []) (hle : batch.length ≤ config.maxLimit.toNat) :
    (Action.list Group (oneOfTexts "id" batch) (.ofRange 0 (UInt32.ofNat batch.length))).run
      config s = (.ok (none, gs.filter (·.id ∈ batch)), s) := by
  have hpasses : ∀ g : Group, (oneOfTexts "id" batch).passes (Entity.toRow g) =
      decide (g.id ∈ batch) := fun g => passes_oneOfTexts_of_text g.get?_id_toRow
  have hlength : (UInt32.ofNat batch.length).toNat = batch.length :=
    UInt32.toNat_ofNat_of_lt' (Nat.lt_of_le_of_lt hle config.maxLimit.toNat_lt)
  rw [Action.run_page h (Page.check_ofRange (List.length_pos_iff.2 hne) hle)
    (Group.contains_fields_oneOfTexts batch) (decides_oneOfTexts _ _ _)]
  -- the page is as long as the batch, so no group is cut off
  simp only [hpasses, hlength, List.take_of_length_le (length_filter_id_le hgs batch)]
  exact congrArg (fun found => (Except.ok (none, found), s)) (List.map_id _)

theorem run_loadBatches (h : s.Holds gs) (hgs : (gs.map Group.id).Nodup)
    {batches : List (List String)}
    (hbatches : ∀ batch ∈ batches, batch ≠ [] ∧ batch.length ≤ config.maxLimit.toNat) :
    (loadBatches batches).run config s =
      (.ok (batches.flatMap fun batch => gs.filter (·.id ∈ batch)), s) := by
  induction batches with
  | nil => rfl
  | cons batch rest ih =>
    obtain ⟨⟨hne, hle⟩, hrest⟩ := List.forall_mem_cons.1 hbatches
    simp only [loadBatches, Action.run_bind, run_batch h hgs hne hle, ih hrest, Action.run_pure,
      List.flatMap_cons]

/-- **Loading answers each group of one of the ids once**, whatever the limit of pages is. -/
theorem run_load (h : s.Holds gs) (hgs : (gs.map Group.id).Nodup) (hmax : 0 < config.maxLimit)
    (ids : List String) : ∃ groups, groups.Perm (gs.filter (·.id ∈ ids)) ∧
      (load config.maxLimit ids).run config s = (.ok groups, s) := by
  have hflat := Batch.flatten_split config.maxLimit.toNat ids.eraseDups
  have hnodup : (Batch.split config.maxLimit.toNat ids.eraseDups).flatten.Nodup := by
    rw [hflat]
    exact nodup_eraseDups ids
  have hperm := perm_flatMap_filter_id gs hnodup
  simp only [hflat, List.mem_eraseDups] at hperm
  exact ⟨_, hperm, run_loadBatches h hgs fun _ hbatch => Batch.bounds_of_mem_split hmax hbatch⟩

/-- **The groups of some ids are required** and the first id that no group has is refused. -/
theorem run_require (config : Store.Config) (h : s.Holds gs) (hgs : (gs.map Group.id).Nodup)
    (hmax : 0 < config.maxLimit) (ids : List String) : ∃ groups, groups.Perm (gs.filter (·.id ∈ ids)) ∧
      (require config.maxLimit ids).run config s =
        (match ids.find? fun id => (s.group? id).isNone with
          | some id => .error (.notFound .group id)
          | none => .ok groups, s) := by
  obtain ⟨groups, hperm, hload⟩ := run_load h hgs hmax ids
  refine ⟨groups, hperm, ?_⟩
  -- an id that was asked for is loaded exactly when there is a group of that id
  have hmissing : ∀ id ∈ ids, (!groups.any (·.id == id)) = (s.group? id).isNone := by
    intro id hid
    rw [h.group?_eq, Bool.eq_iff_iff]
    simp only [Bool.not_eq_true', List.any_eq_false, hperm.mem_iff, List.mem_filter,
      Option.isNone_iff_eq_none, List.find?_eq_none, decide_eq_true_eq, beq_iff_eq]
    constructor
    · intro hno g hg heq
      exact hno g ⟨hg, heq ▸ hid⟩ heq
    · rintro hno g ⟨hg, -⟩
      exact hno g hg
  simp only [require, Action.run_bind, hload, List.find?_congr hmissing]
  cases ids.find? fun id => (s.group? id).isNone with
  | some id => rfl
  | none => rfl

end Service

end SecurityGroups
