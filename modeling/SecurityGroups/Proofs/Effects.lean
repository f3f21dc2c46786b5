/-
SecurityGroups/Proofs/Effects.lean

What a job does to a store that it has to itself.

A job reads and checks first, and nothing that it reads changes before it
writes.  So either it refuses and leaves the store as it was, or it makes one
of five changes (`Store.Effect`, `Operation.obeys_effect`).  Two operations
write and could still fail afterwards.  An assignment compares the number of
rows that it wrote with the number of groups that it had loaded, and on a
sound store the two are the same (`countP_eq_length`).  A deletion makes
several calls, but a call that deletes by the texts of a column is never
refused (`Store.perform_deleteOf`).
-/
import SecurityGroups.Proofs.Assignment
import SecurityGroups.Proofs.Soundness

namespace SecurityGroups

open Service

/-- On a sound store whose ids are distinct, every group of one of the ids was loaded. -/
theorem Service.Required.mem {supply : Supply} {s : Store} {ids : List String} {groups : List Group}
    (h : Required (· = s) ids groups) (hsound : s.Sound) (hd : s.Distinct supply) {g : Group}
    (hg : Entity.toRow g ∈ s.rows .groups) (hid : g.id ∈ ids) : g ∈ groups := by
  obtain ⟨g', hg', hsame⟩ := h.complete g.id hid
  have hrows : Entity.toRow g = Entity.toRow g' := by
    refine hd.eq_of_id hg ((h.read g' hg').toRow_mem hsound) ?_
    rw [Group.get?_id_toRow, Group.get?_id_toRow, hsame]
  exact Group.toRow_injective hrows ▸ hg'

/-! ### Calls made alone -/

namespace Store

variable {config : Config} {s : Store}

/-- To delete by the texts of a column is never refused. -/
theorem perform_deleteOf (config : Config) {t : TableName} {schema : Schema} {name : String}
    (texts : List String) (h : schema.contains name = true) :
    s.perform config (.delete t schema (oneOfTexts name texts)) =
      (.ok ((s.rows t).countP (oneOfTexts name texts).passes),
        s.afterDelete t (oneOfTexts name texts)) := by
  refine perform_delete ?_ (decides_oneOfTexts name texts _)
  intro f hf
  have hmem : f ∈ [name] := hf
  rw [List.mem_singleton.1 hmem]
  exact h

end Store

section

variable {config : Store.Config} {s : Store}

theorem Discipline.reads_sequential : (sequential config).Reads config (· = s) s where
  may := fun _ _ _ _ => trivial
  next := fun _ _ _ _ _ _ => rfl
  gives := fun _ _ _ _ _ hans => ⟨s, rfl, hans⟩

/-- A call that is refused leaves the store as it was, and any other ends as is shown. -/
theorem Discipline.allows_alone {c : Call} {Q : Store → c.Answer → Prop}
    (h : ∀ x, (s.perform config c).1 = .ok x → Q (s.perform config c).2 x) :
    (sequential config).Allows s c (Action.Answered (fun s' _ => s' = s) Q) := by
  refine allows_sequential.2 ?_
  cases hans : (s.perform config c).1 with
  | error e => exact Store.perform_error hans
  | ok x => exact h x hans

end

/-! ### Deleting rules -/

/-- The rules of some groups are gone in some clouds, and nothing else has changed. -/
structure Store.Cleared (groups : List Group) (vendors : List Vendor) (s s' : Store) : Prop where
  rows : ∀ t, ∀ row ∈ s'.rows t, row ∈ s.rows t
  kept : s'.rows .groups = s.rows .groups
  cleared : ∀ c : RuleCloud, c.vendor ∈ vendors → ∀ g ∈ groups, g.vendor = some c.vendor →
    ∀ row ∈ s'.rows c.table, row.get? "security_group_id" ≠ some (.string g.id)

theorem Store.Cleared.trans {groups : List Group} {vs ws : List Vendor} {s s' s'' : Store}
    (h : s.Cleared groups vs s') (h' : s'.Cleared groups ws s'') :
    s.Cleared groups (vs ++ ws) s'' where
  rows := fun t row hrow => h.rows t row (h'.rows t row hrow)
  kept := h'.kept.trans h.kept
  cleared := fun c hc g hg hv row hrow => by
    rcases List.mem_append.1 hc with hc | hc
    · exact h.cleared c hc g hg hv row (h'.rows _ row hrow)
    · exact h'.cleared c hc g hg hv row hrow

theorem Store.Cleared.of_subset {groups : List Group} {vs ws : List Vendor} {s s' : Store}
    (h : s.Cleared groups vs s') (hsub : ws ⊆ vs) : s.Cleared groups ws s' where
  rows := h.rows
  kept := h.kept
  cleared := fun c hc => h.cleared c (hsub hc)

namespace Service

variable {config : Store.Config} {s : Store}

theorem deleteRulesOf_eq (ids : List String) (c : RuleCloud) : deleteRulesOf ids c.vendor =
    Action.delete (RuleEntry c.Rule) (oneOfTexts "security_group_id" ids) := by
  cases c <;> rfl

/-- To delete the rules of all groups of a cloud clears that cloud. -/
theorem obeys_deleteRulesOf (groups : List Group) (v : Vendor) :
    (deleteRulesOf ((groups.filter (·.vendor = some v)).map Group.id) v).Obeys
      (.sequential config) s (fun _ _ => False) fun s' _ => s.Cleared groups [v] s' := by
  by_cases hkeeps : v.keepsRules = true
  · -- what is left in the table did not pass, so it belongs to none of the groups
    obtain ⟨c, rfl⟩ := RuleCloud.keepsRules_iff.1 hkeeps
    have hcontains : (Entity.schema (RuleEntry c.Rule)).contains "security_group_id" = true :=
      LawfulEntity.contains_iff.2 (RuleEntry.names_of_mem_ownNames (by decide))
    rw [deleteRulesOf_eq]
    refine Action.obeys_call (Discipline.allows_sequential.2 ?_)
    rw [Store.perform_deleteOf _ _ hcontains]
    refine ⟨?_, Store.rows_withRows_of_ne c.table_ne_groups.symm s _, ?_⟩
    · intro t row hrow
      exact (Store.mem_rows_afterDelete.1 hrow).1
    · intro c' hc' g hg hv row hrow hid
      obtain rfl : c' = c := RuleCloud.vendor_inj (List.mem_singleton.1 hc')
      have hkept := (Store.mem_rows_afterDelete.1 hrow).2 rfl
      have hmem : g.id ∈ (groups.filter (·.vendor = some c'.vendor)).map Group.id :=
        List.mem_map_of_mem (List.mem_filter.2 ⟨hg, decide_eq_true hv⟩)
      rw [passes_oneOfTexts_of_text hid, decide_eq_false_iff_not] at hkept
      exact hkept hmem
  · -- there is nothing to delete
    obtain rfl : v = .gcp := by
      cases v <;> first | rfl | exact absurd rfl hkeeps
    refine Action.obeys_pure ⟨fun _ _ h => h, rfl, ?_⟩
    intro c hc
    cases c <;> cases List.mem_singleton.1 hc

theorem obeys_deleteRules (groups : List Group) (vendors : List Vendor) :
    (deleteRules groups vendors).Obeys (.sequential config) s (fun _ _ => False)
      fun s' _ => s.Cleared groups vendors s' := by
  induction vendors generalizing s with
  | nil =>
    refine Action.obeys_pure ⟨fun _ _ h => h, rfl, ?_⟩
    intro c hc
    cases hc
  | cons v rest ih =>
    rw [deleteRules_cons]
    split
    · refine Action.Obeys.bind (obeys_deleteRulesOf groups v) ?_
      intro s' _ hone
      exact ih.mono (fun _ _ h => h) fun s'' _ hrest => hone.trans hrest
    · -- none of the groups is of this cloud
      rename_i hempty
      have hone : s.Cleared groups [v] s := by
        refine ⟨fun _ _ h => h, rfl, ?_⟩
        intro c hc g hg hv
        rw [List.mem_singleton.1 hc] at hv
        have hmem : g ∈ groups.filter (·.vendor = some v) :=
          List.mem_filter.2 ⟨hg, decide_eq_true hv⟩
        have hnil : groups.filter (·.vendor = some v) = [] := by simpa using hempty
        rw [hnil] at hmem
        cases hmem
      exact ih.mono (fun _ _ h => h) fun s'' _ hrest => hone.trans hrest

/-! ### Assigning -/

theorem passes_stillUnassigned_toRow {ids : List String} (g : Group) :
    (stillUnassigned ids).passes (Entity.toRow g) = true ↔
      g.id ∈ ids ∧ g.business = Group.unassigned := by
  have hid := Row.cell_of_get? (Group.get?_id_toRow g)
  have hbusiness := Row.cell_of_get? (Group.get?_business_toRow g)
  rw [Filter.passes_of_holds (holds_stillUnassigned ids _), Bool.and_eq_true, List.any_eq_true,
    hid, hbusiness, Cell.sameAs_number rfl, Cell.numeric.injEq]
  refine and_congr_left fun _ => ?_
  constructor
  · rintro ⟨t, ht, hsame⟩
    rw [Cell.sameAs_text rfl, Cell.string.injEq] at hsame
    exact hsame ▸ ht
  · intro hmem
    exact ⟨g.id, hmem, (Cell.sameAs_text rfl _).2 rfl⟩

/-- **On a sound store a filter that passes what was loaded** passes as many rows as groups were
loaded. -/
theorem countP_eq_length {supply : Supply} (hsound : s.Sound) (hd : s.Distinct supply)
    {ids : List String} {groups : List Group} (hgroups : Required (· = s) ids groups)
    {filter : Filter} (hids : ∀ g : Group, filter.passes (Entity.toRow g) = true → g.id ∈ ids)
    (hall : ∀ g ∈ groups, filter.passes (Entity.toRow g) = true) :
    (s.rows .groups).countP filter.passes = groups.length := by
  have hhits : (((s.rows .groups).filter filter.passes).map (·.get? "id")).Nodup :=
    (List.filter_sublist.map _).nodup (hd.nodup .groups)
  have hloaded : (groups.map fun g => some (Cell.string g.id)).Nodup := by
    have hnodup : (groups.map Group.id).Nodup := hgroups.nodup fun _ heq => heq ▸ hd.nodup .groups
    have hinj : Function.Injective fun id => some (Cell.string id) := by
      intro a b hab
      cases hab
      rfl
    have hmap := hnodup.map hinj
    rwa [List.map_map] at hmap
  -- a row that passes is that of a loaded group, and the other way round
  have hsame : ∀ x, x ∈ ((s.rows .groups).filter filter.passes).map (·.get? "id") ↔
      x ∈ groups.map fun g => some (Cell.string g.id) := by
    intro x
    rw [List.mem_map, List.mem_map]
    constructor
    · rintro ⟨row, hrow, rfl⟩
      obtain ⟨hmem, hp⟩ := List.mem_filter.1 hrow
      obtain ⟨g, rfl, -⟩ := hsound.groups row hmem
      obtain ⟨g', hg', hid⟩ := hgroups.complete g.id (hids g hp)
      exact ⟨g', hg', by rw [Group.get?_id_toRow, hid]⟩
    · rintro ⟨g, hg, rfl⟩
      have hmem := (hgroups.read g hg).toRow_mem hsound
      exact ⟨Entity.toRow g, List.mem_filter.2 ⟨hmem, hall g hg⟩, Group.get?_id_toRow g⟩
  have hperm := (List.perm_ext_iff_of_nodup hhits hloaded).2 hsame
  rw [List.countP_eq_length_filter, ← List.length_map (f := (·.get? "id")), hperm.length_eq,
    List.length_map]

/-- The update of an assignment is never refused. -/
theorem perform_assignCall (config : Store.Config) (s : Store) (user : String) (a : Assignment) :
    s.perform config (assignCall user a) =
      (.ok ((s.rows .groups).countP (stillUnassigned a.groupIds).passes),
        s.afterUpdate config.supply (Entity.table Group) (Entity.schema Group)
          (stillUnassigned a.groupIds) (Entity.updateRow (assigned user a.business))) := by
  have hcontains : ∀ f ∈ ["id", "bk_biz_id"], (Entity.schema Group).contains f = true := by decide
  have hfields : ∀ f ∈ (stillUnassigned a.groupIds).fields,
      (Entity.schema Group).contains f = true := hcontains
  have hid : (Entity.updateRow (assigned user a.business)).get? "id" = none :=
    Group.get?_updateRow_of_not_mem (by decide)
  -- the filter compares cells, which never fails
  have hdecides : (stillUnassigned a.groupIds).Decides (s.rows .groups) := by
    intro row _
    rw [Filter.passes_of_holds (holds_stillUnassigned _ row), holds_stillUnassigned]
  exact Store.perform_update hfields (Group.fits_updateRow _) hid hdecides

/-- **An assignment that has loaded its groups succeeds.** -/
theorem obeys_assignAll_alone (hsound : s.Sound) (hd : s.Distinct config.supply) {user : String}
    {a : Assignment} {groups : List Group} (hgroups : Required (· = s) a.groupIds groups)
    (hcheck : ∀ g ∈ groups, checkAssignable user a.business g = .ok ()) :
    (assignAll user a groups).Obeys (.sequential config) s (fun _ _ => False) fun s' n =>
      n = groups.length ∧ s' = (s.perform config (assignCall user a)).2 := by
  have hhits : (s.rows .groups).countP (stillUnassigned a.groupIds).passes = groups.length := by
    refine countP_eq_length hsound hd hgroups ?_ ?_
    · intro g hp
      exact ((passes_stillUnassigned_toRow g).1 hp).1
    · intro g hg
      have hfree := (Verdict.first_cons_eq_ok.1 (hcheck g hg)).1
      exact (passes_stillUnassigned_toRow g).2
        ⟨hgroups.asked g hg, by simpa using Verdict.provided_eq_ok.1 hfree⟩
  refine obeys_assignAll (Discipline.allows_sequential.2 ?_)
  rw [perform_assignCall, hhits]
  show if groups.length = groups.length then _ else _
  rw [if_pos rfl]
  exact ⟨rfl, rfl⟩

/-! ### Deleting groups -/

/-- **A deletion that has loaded its groups succeeds.** -/
theorem obeys_deleteAll_alone (hsound : s.Sound) (hd : s.Distinct config.supply)
    {deletion : Deletion} (tour : Vendor.Tour) {groups : List Group}
    (hgroups : Required (· = s) deletion.ids groups) :
    (deleteAll deletion tour groups).Obeys (.sequential config) s (fun _ _ => False) fun s'' n =>
      n = groups.length ∧ ∃ s', s.Cleared groups Vendor.all s' ∧
        s'' = s'.afterDelete .groups (oneOfTexts "id" deletion.ids) := by
  refine Action.Obeys.bind (obeys_deleteRules groups tour.stops) ?_
  intro s' _ hcleared
  have hhits : (s.rows .groups).countP (oneOfTexts "id" deletion.ids).passes = groups.length := by
    refine countP_eq_length hsound hd hgroups ?_ ?_
    · intro g hp
      rw [passes_oneOfTexts_of_text (Group.get?_id_toRow g)] at hp
      exact of_decide_eq_true hp
    · intro g hg
      rw [passes_oneOfTexts_of_text (Group.get?_id_toRow g)]
      exact decide_eq_true (hgroups.asked g hg)
  have hcontains : (Entity.schema Group).contains "id" = true := by decide
  refine Action.obeys_call (Discipline.allows_sequential.2 ?_)
  rw [Store.perform_deleteOf _ _ hcontains]
  show _ = _ ∧ _
  refine ⟨?_, s', hcleared.of_subset tour.perm.symm.subset, rfl⟩
  -- no group has been taken out so far
  show (s'.rows .groups).countP _ = _
  rw [hcleared.kept, hhits]

end Service

/-! ### Every job -/

/-- What a job can make of a store that it has to itself: nothing, or one of five changes. -/
inductive Store.Effect (config : Store.Config) (s : Store) : Store → Prop where
  | nothing : Effect config s s
  | newGroup {g : Group} : g.Sound → Effect config s
      (s.perform config (.insert (Entity.table Group) (Entity.schema Group) [Entity.toRow g])).2
  | changedGroups (filter : Filter) {u : Group} : u.Apt → Effect config s
      (s.perform config (.update (Entity.table Group) (Entity.schema Group) filter
        (Entity.updateRow u))).2
  | deletedGroups {ids : List String} {groups : List Group} {s' : Store} :
      Required (· = s) ids groups → s.Cleared groups Vendor.all s' →
      Effect config s (s'.afterDelete .groups (oneOfTexts "id" ids))
  | newEntries (c : RuleCloud) {owner : Group} {es : List (RuleEntry c.Rule)} :
      Entity.toRow owner ∈ s.rows .groups → (∀ e ∈ es, e.Sound ∧ owner.Owns c e) →
      Effect config s (s.perform config (.insert (Entity.table (RuleEntry c.Rule))
        (Entity.schema (RuleEntry c.Rule)) (es.map Entity.toRow))).2
  | changedEntries (c : RuleCloud) (filter : Filter) {u : RuleEntry c.Rule} :
      Entity.updateCheck u = .ok () →
      Effect config s (s.perform config (.update (Entity.table (RuleEntry c.Rule))
        (Entity.schema (RuleEntry c.Rule)) filter (Entity.updateRow u))).2

section

variable {config : Store.Config} {s : Store} {limit : UInt32} {user : String}

/-- A new group is stored, and its id is answered. -/
theorem Service.obeys_createGroup_alone (new : Group) :
    (createGroup user new).Obeys (.sequential config) s (fun s' _ => s' = s)
      fun s' _ => s.Effect config s' := by
  refine obeys_createGroup (fun _ => rfl) ?_
  intro stored hcheck hreviser
  refine Discipline.allows_alone ?_
  intro ids hans
  obtain ⟨-, rfl, -⟩ := Store.insert_eq_ok.1 (Store.keep_eq_ok.1 hans)
  -- one row is stored, so one id is answered
  exact .newGroup (Group.sound_of_insertCheck hcheck hreviser)

theorem Service.obeys_createRules_alone (hsound : s.Sound) (c : RuleCloud) {groupId : String}
    {creation : RuleCreation c.Rule} :
    (createRules limit user groupId creation).Obeys (.sequential config) s (fun s' _ => s' = s)
      fun s' _ => s.Effect config s' := by
  refine obeys_createRules Discipline.reads_sequential (fun _ => rfl) ?_
  intro owner direction hid hvendor hread hchecks
  refine Discipline.allows_alone ?_
  intro ids _
  refine .newEntries c (hread.toRow_mem hsound) ?_
  intro e he
  obtain ⟨rule, hrule, rfl⟩ := List.mem_map.1 he
  rw [c.vendor_eq] at hvendor
  exact ⟨RuleEntry.sound_of_insertCheck (hchecks rule hrule), hvendor, rfl, rfl, rfl, rfl⟩

/-- **A job that refuses leaves the store as it was**, and any other job has one of the effects. -/
theorem Operation.obeys_effect (hsound : s.Sound) (hd : s.Distinct config.supply)
    (limit : UInt32) (user : String) (operation : Operation) :
    (operation.action limit user).Obeys (.sequential config) s (fun s' _ => s' = s)
      fun s' _ => s.Effect config s' := by
  have hr : (Discipline.sequential config).Reads config (· = s) s := Discipline.reads_sequential
  have hE : ∀ _ : ServiceError, s = s := fun _ => rfl
  cases operation with
  | listGroups q =>
    exact Action.obeys_map (Service.obeys_listGroups hr hE fun _ => .nothing)
  | getGroup id =>
    refine Action.obeys_map ((Service.obeys_group hr hE).mono (fun _ _ h => h) ?_)
    rintro s' _ ⟨rfl, -⟩
    exact .nothing
  | createGroup g => exact Action.obeys_map (Service.obeys_createGroup_alone g)
  | updateGroup id c =>
    refine Action.obeys_map (Service.obeys_updateGroup hr hE ?_)
    intro u hcheck hzero
    exact Discipline.allows_alone fun _ _ => .changedGroups _ (Group.apt_of_updateCheck hcheck hzero)
  | assign a =>
    refine Action.obeys_map ?_
    rw [Service.assign_eq]
    refine Action.Obeys.bind (Service.obeys_assignable hr hE) ?_
    rintro s' groups ⟨rfl, hcheck, hgroups, hassignable⟩
    refine (Service.obeys_assignAll_alone hsound hd hgroups hassignable).mono
      (fun _ _ h => h.elim) ?_
    rintro s'' n ⟨-, rfl⟩
    -- at least one group was loaded, and has passed the check of what is written
    obtain ⟨id, hid⟩ := List.exists_mem_of_ne_nil _ (Service.ids_ne_nil_of_check hcheck)
    obtain ⟨g, hg, -⟩ := hgroups.complete id hid
    exact .changedGroups _ (Group.apt_assigned (Service.pos_of_check hcheck) (hassignable g hg))
  | deleteGroups deletion tour =>
    refine Action.obeys_map ?_
    rw [Service.deleteGroups_eq]
    refine Action.Obeys.bind (Service.obeys_deletable hr hE) ?_
    rintro s' groups ⟨rfl, hgroups⟩
    refine (Service.obeys_deleteAll_alone hsound hd tour hgroups).mono (fun _ _ h => h.elim) ?_
    rintro s'' n ⟨-, cleared, hcleared, rfl⟩
    exact .deletedGroups hgroups hcleared
  | listRules cloud groupId q =>
    exact Action.obeys_map (Service.obeys_listRules hr hE fun _ => .nothing)
  | createRules groupId c =>
    refine Action.obeys_map ?_
    rw [Service.createAnyRules_eq]
    exact Service.obeys_createRules_alone hsound c.cloud
  | updateRule groupId ruleId c =>
    refine Action.obeys_map ?_
    rw [Service.updateAnyRule_eq]
    refine Service.obeys_updateRule hr hE ?_
    intro u hcheck
    exact Discipline.allows_alone fun _ _ => .changedEntries c.cloud _ hcheck

theorem Job.run_effect (hsound : s.Sound) (hd : s.Distinct config.supply) (job : Job) :
    s.Effect config (job.run config s).2 ∧
      ∀ e, (job.run config s).1 = .error e → (job.run config s).2 = s := by
  have hrun := (job.operation.obeys_effect hsound hd job.limit job.user).run
  rw [Job.run]
  generalize Action.run config (job.operation.action job.limit job.user) s = outcome at hrun
  obtain ⟨e | x, after⟩ := outcome
  · obtain rfl : after = s := hrun
    exact ⟨.nothing, fun _ _ => rfl⟩
  · refine ⟨hrun, ?_⟩
    intro e h
    cases h

end

end SecurityGroups
