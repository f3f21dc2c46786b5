/-
SecurityGroups/Proofs/Loading.lean

What the service knows of the groups that it has loaded.

Groups are loaded in batches, and the store may change from one batch to the
next.  So each loaded group is known to have been in the store when its batch
was read (`ReadFrom`), not that all of them were there at once.  What holds of
them together is that no two have one id, as long as ids are distinct in each
store that was read (`Loaded`): the batches have no id in common, and one
batch is read from one store.
-/
import Mathlib.Data.List.Forall2
import Mathlib.Data.List.Nodup
import SecurityGroups.Proofs.Calls
import SecurityGroups.Proofs.Disciplines
import SecurityGroups.Service.Groups

namespace SecurityGroups

/-! ### Decoding -/

/-- Rows are read as entities one by one. -/
theorem Entity.ofRows_eq_ok {α : Type} [Entity α] {rows : List Row} {es : List α} :
    Entity.ofRows rows = .ok es ↔
      List.Forall₂ (fun row e => Entity.ofRow row = .ok e) rows es := by
  induction rows generalizing es with
  | nil => simp [Entity.ofRows, eq_comm]
  | cons row rest ih =>
    rw [Entity.ofRows, List.forall₂_cons_left_iff]
    cases hrow : (Entity.ofRow row : Except Attribute.ColumnFault α) with
    | error fault => simp
    | ok e =>
      cases hrest : (Entity.ofRows rest : Except Attribute.ColumnFault (List α)) with
      | error fault =>
        constructor
        · intro hes
          cases hes
        · rintro ⟨e', es', -, hes', -⟩
          rw [ih.2 hes'] at hrest
          cases hrest
      | ok es' =>
        constructor
        · intro hes
          cases hes
          exact ⟨e, es', rfl, ih.1 hrest, rfl⟩
        · rintro ⟨e', fs, he', hfs, rfl⟩
          rw [ih.2 hfs] at hrest
          cases he'
          cases hrest
          rfl

/-- What no attribute sets is left alone. -/
theorem Attribute.eq_of_readAll {α β : Type} {as : List (Attribute α)} {row : Row} {x y : α}
    (f : α → β) (hf : ∀ a ∈ as, ∀ v z, f (a.set v z) = f z) (h : readAll as row x = .ok y) :
    f y = f x := by
  induction as generalizing x with
  | nil =>
    cases h
    rfl
  | cons a as ih =>
    rw [readAll] at h
    cases hread : a.read row x with
    | error fault =>
      rw [hread] at h
      cases h
    | ok z =>
      rw [hread] at h
      have hz : f z = f x := by
        rw [read] at hread
        split at hread
        · cases hread
          exact hf a List.mem_cons_self _ _
        · cases hread
      rw [ih (fun b hb => hf b (List.mem_cons_of_mem _ hb)) h, hz]

/-- The id of a group that was read is the text of its column. -/
theorem Group.cellText_id {row : Row} {g : Group} (h : Entity.ofRow row = .ok g) :
    (Kind.cellText (row.cell "id")).map (·.getD "") = .ok g.id := by
  have hread : Attribute.readAll Group.attributes row {} = .ok g := h
  rw [Group.attributes, Group.ownAttributes, List.cons_append, Attribute.readAll,
    Attribute.read] at hread
  split at hread
  · rename_i x hx
    split at hx
    · rename_i v hv
      cases hx
      have hid : g.id = v := by
        refine Attribute.eq_of_readAll Group.id ?_ hread
        intro a ha w z
        simp only [List.cons_append, List.nil_append, Audit.attributes, List.map_cons, List.map_nil,
          List.mem_cons, List.not_mem_nil, or_false] at ha
        rcases ha with rfl | rfl | rfl | rfl | rfl | rfl | rfl | rfl | rfl | rfl | rfl <;> rfl
      rw [hid]
      exact hv
    · cases hx
  · cases hread

/-! ### Filters by text -/

namespace Service

variable {name : String} {texts : List String} {row : Row}

theorem holds_oneOfTexts (name : String) (texts : List String) (row : Row) :
    (oneOfTexts name texts).holds row =
      .ok (texts.any fun t => (row.cell name).sameAs (.str t)) := by
  simp only [oneOfTexts, Filter.oneOf, Filter.allOf, Filter.holds, Filter.toClause, List.map_cons,
    List.map_nil, Clause.holds, Clause.allHold, Test.holds, Test.accepts, List.any_map]
  cases h : texts.any ((row.cell name).sameAs ∘ Json.str)
  · exact congrArg Except.ok h.symm
  · exact congrArg Except.ok h.symm

theorem passes_oneOfTexts : (oneOfTexts name texts).passes row =
    texts.any fun t => (row.cell name).sameAs (.str t) :=
  Filter.passes_of_holds (holds_oneOfTexts name texts row)

theorem decides_oneOfTexts (name : String) (texts : List String) (rows : List Row) :
    (oneOfTexts name texts).Decides rows := by
  intro row _
  rw [passes_oneOfTexts, holds_oneOfTexts]

/-- A row whose cell is a text passes when the text is one of those looked for. -/
theorem passes_oneOfTexts_of_text {text : String} (h : row.get? name = some (.string text)) :
    (oneOfTexts name texts).passes row = decide (text ∈ texts) := by
  rw [passes_oneOfTexts, Row.cell_of_get? h, Bool.eq_iff_iff, List.any_eq_true, decide_eq_true_iff]
  constructor
  · rintro ⟨t, ht, hsame⟩
    obtain rfl : text = t := beq_iff_eq.1 hsame
    exact ht
  · intro ht
    exact ⟨text, ht, beq_iff_eq.2 rfl⟩

/-- A row that is read as a group and passes a test of its id has one of the ids. -/
theorem get?_id_of_passes {g : Group} (h : Entity.ofRow row = .ok g)
    (hp : (oneOfTexts "id" texts).passes row = true) :
    row.get? "id" = some (.string g.id) ∧ g.id ∈ texts := by
  have hid := Group.cellText_id h
  rw [passes_oneOfTexts, List.any_eq_true] at hp
  obtain ⟨t, ht, hsame⟩ := hp
  -- every other kind of cell is refused by the decoder, or is not the same as a text
  cases hget : row.get? "id" with
  | none =>
    rw [Row.cell, hget] at hsame
    cases hsame
  | some cell =>
    rw [Row.cell_of_get? hget] at hid hsame
    cases cell with
    | string s =>
      obtain rfl : s = t := beq_iff_eq.1 hsame
      obtain rfl : s = g.id := Except.ok.inj hid
      exact ⟨rfl, ht⟩
    | null => cases hsame
    | numeric n => cases hid
    | boolean b => cases hid
    | time t => cases hid
    | json j => cases hid

end Service

/-! ### Reading under a discipline -/

/-- Listings may be made, are not remembered, and come from stores of which `G` holds. -/
structure Discipline.Reads {γ : Type} (d : Discipline γ) (config : Store.Config)
    (G : Store → Prop) (g : γ) : Prop where
  may : ∀ table schema filter page, d.may g (.list table schema filter page)
  next : ∀ table schema filter page answer, d.gives g (.list table schema filter page) answer →
    d.next g (.list table schema filter page) answer = g
  gives : ∀ table schema filter page answer, d.gives g (.list table schema filter page) answer →
    ∃ s, G s ∧ answer = s.list config.maxLimit table schema filter page

section

variable {γ : Type} {d : Discipline γ} {config : Store.Config} {G : Store → Prop} {g : γ}
  {E : γ → ServiceError → Prop}

/-- Entities were decoded from what a store listed. -/
def Listed (config : Store.Config) (G : Store → Prop) {α : Type} [Entity α] (filter : Filter)
    (page : Page) (es : List α) : Prop :=
  ∃ s, G s ∧ ∃ listing,
    s.list config.maxLimit (Entity.table α) (Entity.schema α) filter page = .ok listing ∧
      Entity.ofRows listing.rows = .ok es

theorem Action.obeys_list {α : Type} [Entity α] {filter : Filter} {page : Page}
    (hr : d.Reads config G g) (hE : ∀ e, E g e) :
    (Action.list α filter page).Obeys d g E fun g' result =>
      g' = g ∧ Listed config G filter page result.2 := by
  refine Obeys.bind (Q := fun g' listing => g' = g ∧ ∃ s, G s ∧
    s.list config.maxLimit (Entity.table α) (Entity.schema α) filter page = .ok listing) ?_ ?_
  · refine obeys_call ⟨hr.may _ _ _ _, ?_⟩
    intro answer hans
    rw [hr.next _ _ _ _ answer hans]
    obtain ⟨s, hs, rfl⟩ := hr.gives _ _ _ _ answer hans
    cases hlist : s.list config.maxLimit (Entity.table α) (Entity.schema α) filter page with
    | ok listing => exact ⟨rfl, s, hs, hlist⟩
    | error e => exact hE _
  · rintro g' listing ⟨rfl, s, hs, hlist⟩
    refine Obeys.bind (Q := fun g'' es => g'' = g' ∧ Entity.ofRows listing.rows = .ok es) ?_ ?_
    · refine obeys_ofExcept (fun e _ => hE e) ?_
      intro es hes
      exact ⟨rfl, mapError_eq_ok.1 hes⟩
    · rintro g'' es ⟨rfl, hes⟩
      exact ⟨rfl, s, hs, listing, hlist, hes⟩

/-! ### Loaded groups -/

/-- The group was read from a store of which `G` holds. -/
def ReadFrom (G : Store → Prop) (g : Group) : Prop :=
  ∃ s, G s ∧ ∃ row ∈ s.rows .groups, row.get? "id" = some (.string g.id) ∧ Entity.ofRow row = .ok g

/-- What is known of groups that were loaded by their ids. -/
structure Loaded (G : Store → Prop) (ids : List String) (groups : List Group) : Prop where
  read : ∀ g ∈ groups, ReadFrom G g
  asked : ∀ g ∈ groups, g.id ∈ ids
  nodup : (∀ s, G s → ((s.rows .groups).map (·.get? "id")).Nodup) → (groups.map Group.id).Nodup

theorem Loaded.nil (ids : List String) : Loaded G ids [] where
  read := fun _ h => by cases h
  asked := fun _ h => by cases h
  nodup := fun _ => List.nodup_nil

/-- What is loaded by different ids is put together. -/
theorem Loaded.append {ids ids' : List String} {as bs : List Group} (ha : Loaded G ids as)
    (hb : Loaded G ids' bs) (hd : ∀ id ∈ ids, id ∉ ids') : Loaded G (ids ++ ids') (as ++ bs) where
  read := fun g hg => (List.mem_append.1 hg).elim (ha.read g) (hb.read g)
  asked := fun g hg => List.mem_append.2 ((List.mem_append.1 hg).imp (ha.asked g) (hb.asked g))
  nodup := fun hG => by
    rw [List.map_append, List.nodup_append]
    refine ⟨ha.nodup hG, hb.nodup hG, ?_⟩
    intro x hx y hy
    obtain ⟨a, ha', rfl⟩ := List.mem_map.1 hx
    obtain ⟨b, hb', rfl⟩ := List.mem_map.1 hy
    intro heq
    exact hd a.id (ha.asked a ha') (heq ▸ hb.asked b hb')

/-- The ids that stand in rows are those of the groups that the rows are read as. -/
theorem get?_ids_of_ofRows {ids : List String} {rows : List Row} {groups : List Group}
    (h : Entity.ofRows rows = .ok groups)
    (hp : ∀ row ∈ rows, (Service.oneOfTexts "id" ids).passes row = true) :
    rows.map (·.get? "id") = groups.map fun g => some (.string g.id) := by
  have hall := Entity.ofRows_eq_ok.1 h
  clear h
  induction hall with
  | nil => rfl
  | @cons row g rows groups hrow _ ih =>
    rw [List.map_cons, List.map_cons, ih fun r hr => hp r (List.mem_cons_of_mem _ hr),
      (Service.get?_id_of_passes hrow (hp row List.mem_cons_self)).1]

/-- What a page of the groups with some ids contains. -/
theorem Listed.loaded {ids : List String} {limit : UInt32} {groups : List Group}
    (h : Listed config G (Service.oneOfTexts "id" ids) (.ofRange 0 limit) groups) :
    Loaded G ids groups := by
  obtain ⟨s, hs, listing, hlist, hrows⟩ := h
  obtain ⟨-, -, -, -, rfl⟩ := Store.list_eq_ok.1 hlist
  have hsub : List.Sublist (Page.cut (.ofRange 0 limit)
      ((s.rows .groups).filter (Service.oneOfTexts "id" ids).passes))
      ((s.rows .groups).filter (Service.oneOfTexts "id" ids).passes) :=
    (List.take_sublist _ _).trans (List.drop_sublist _ _)
  have hcut : Entity.ofRows (Page.cut (.ofRange 0 limit)
      ((s.rows .groups).filter (Service.oneOfTexts "id" ids).passes)) = .ok groups := hrows
  generalize Page.cut _ _ = rows at hsub hcut
  have hp : ∀ row ∈ rows, (Service.oneOfTexts "id" ids).passes row = true :=
    fun row hrow => (List.mem_filter.1 (hsub.subset hrow)).2
  have hread : ∀ g ∈ groups, ∃ row ∈ rows, Entity.ofRow row = .ok g := by
    intro g hg
    obtain ⟨i, hi, rfl⟩ := List.getElem_of_mem hg
    have hall := Entity.ofRows_eq_ok.1 hcut
    have hi' : i < rows.length := hall.length_eq ▸ hi
    exact ⟨rows[i], List.getElem_mem hi', List.Forall₂.get hall hi' hi⟩
  constructor
  · -- each group was read from a row of the store
    intro g hg
    obtain ⟨row, hrow, hof⟩ := hread g hg
    exact ⟨s, hs, row, List.mem_of_mem_filter (hsub.subset hrow),
      (Service.get?_id_of_passes hof (hp row hrow)).1, hof⟩
  · -- the row has passed, so its id is one of those asked for
    intro g hg
    obtain ⟨row, hrow, hof⟩ := hread g hg
    exact (Service.get?_id_of_passes hof (hp row hrow)).2
  · -- different rows of one store have different ids
    intro hG
    have hn : (rows.map (·.get? "id")).Nodup :=
      ((hsub.trans List.filter_sublist).map _).nodup (hG s hs)
    rw [get?_ids_of_ofRows hcut hp] at hn
    exact List.Nodup.of_map (fun id => some (Cell.string id)) (by rwa [List.map_map])

/-! ### Loading -/

/-- Erasing duplicates leaves none. -/
theorem nodup_eraseDups (ids : List String) : ids.eraseDups.Nodup := by
  match ids with
  | [] => exact List.nodup_nil
  | id :: rest =>
    rw [List.eraseDups_cons, List.nodup_cons]
    refine ⟨?_, nodup_eraseDups _⟩
    intro hmem
    have hne := (List.mem_filter.1 (List.mem_eraseDups.1 hmem)).2
    simp at hne
termination_by ids.length
decreasing_by exact Nat.lt_succ_of_le (List.length_filter_le _ _)

namespace Service

theorem obeys_loadBatches {batches : List (List String)} (hr : d.Reads config G g)
    (hE : ∀ e, E g e) (hn : batches.flatten.Nodup) :
    (loadBatches batches).Obeys d g E fun g' groups =>
      g' = g ∧ Loaded G batches.flatten groups := by
  induction batches with
  | nil => exact Action.obeys_pure ⟨rfl, Loaded.nil _⟩
  | cons batch rest ih =>
    rw [List.flatten_cons, List.nodup_append] at hn
    obtain ⟨-, hrest, hdisjoint⟩ := hn
    refine Action.Obeys.bind (Action.obeys_list hr hE) ?_
    rintro g' ⟨count, found⟩ ⟨rfl, hfound⟩
    refine Action.Obeys.bind (ih hrest) ?_
    rintro g'' more ⟨rfl, hmore⟩
    refine Action.obeys_pure ⟨rfl, ?_⟩
    -- no id is in two batches
    exact hfound.loaded.append hmore fun id hid hid' => hdisjoint id hid id hid' rfl

theorem obeys_load {limit : UInt32} {ids : List String} (hr : d.Reads config G g)
    (hE : ∀ e, E g e) :
    (load limit ids).Obeys d g E fun g' groups => g' = g ∧ Loaded G ids.eraseDups groups := by
  have hflat := Batch.flatten_split limit.toNat ids.eraseDups
  have hn : (Batch.split limit.toNat ids.eraseDups).flatten.Nodup := by
    rw [hflat]
    exact nodup_eraseDups ids
  have h := obeys_loadBatches hr hE hn
  rwa [hflat] at h

/-- A group that was loaded by its id has that id. -/
theorem obeys_group {limit : UInt32} {id : String} (hr : d.Reads config G g)
    (hE : ∀ e, E g e) :
    (group limit id).Obeys d g E fun g' found => g' = g ∧ found.id = id ∧ ReadFrom G found := by
  refine Action.Obeys.bind (obeys_load hr hE) ?_
  rintro g' groups ⟨rfl, hl⟩
  cases hlast : groups.getLast? with
  | none => exact Action.obeys_throw (hE _)
  | some found =>
    have hmem := List.mem_of_getLast? hlast
    have hid := List.mem_eraseDups.1 (hl.asked found hmem)
    exact Action.obeys_pure ⟨rfl, List.mem_singleton.1 hid, hl.read found hmem⟩

/-- What is known of groups that had to be there. -/
structure Required (G : Store → Prop) (ids : List String) (groups : List Group) : Prop
    extends Loaded G ids groups where
  complete : ∀ id ∈ ids, ∃ g ∈ groups, g.id = id

theorem obeys_require {limit : UInt32} {ids : List String} (hr : d.Reads config G g)
    (hE : ∀ e, E g e) :
    (require limit ids).Obeys d g E fun g' groups => g' = g ∧ Required G ids groups := by
  refine Action.Obeys.bind (obeys_load hr hE) ?_
  rintro g' groups ⟨rfl, hl⟩
  cases hmissing : ids.find? fun id => !groups.any (·.id == id) with
  | some id => exact Action.obeys_throw (hE _)
  | none =>
    refine Action.obeys_pure ⟨rfl, ⟨hl.read, ?_, hl.nodup⟩, ?_⟩
    · intro g hg
      exact List.mem_eraseDups.1 (hl.asked g hg)
    · intro id hid
      have hany := List.find?_eq_none.1 hmissing id hid
      simpa using hany

end Service

end

end SecurityGroups
