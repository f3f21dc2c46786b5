/-
SecurityGroups/Proofs/History.lean

What has become of a group.

Jobs that are run one after the other leave a record: what each was asked,
when, and what it answered.  The record alone tells what there is under an id.
An event makes something of the group of the id (`Event.next`): it creates it,
deletes it, or lays what was asked for over it, and all other events leave it
alone.  `group?_run` says that one job does to the group of an id what its event
does, and `group?_play` that a sequential run does what its record does.

A successful creation answers an id that no group has had before, so from there
on only deletions and overlays matter (`groups_follow_their_history`).
-/
import SecurityGroups.Proofs.Completion
import SecurityGroups.Proofs.Atomicity

namespace SecurityGroups

open Service

/-! ### Events -/

/-- A job that was run, the time when it was run, and what it answered. -/
structure Event where
  job : Job
  time : Instant
  answer : Except ServiceError Outcome

namespace Event

/-- The group of an id, if the event has created it. -/
def created? (id : String) (e : Event) : Option Group :=
  match e.job.operation, e.answer with
  | .createGroup g, .ok (.id created) =>
    if created = id then some { g with
      id := id
      audit :=
        { creator := e.job.user
          reviser := e.job.user
          createdAt := some e.time
          updatedAt := some e.time } }
    else none
  | _, _ => none

/-- Whether the event has deleted the group of an id. -/
def deletes (id : String) (e : Event) : Bool :=
  match e.job.operation, e.answer with
  | .deleteGroups deletion _, .ok _ => decide (id ∈ deletion.ids)
  | _, _ => false

/-- The group of an id with what the event has written over it: a change that has a name which is not
empty gives it the name, and one that has a memo, even an empty one, gives it the memo. -/
def overlay (id : String) (g : Group) (e : Event) : Group :=
  match e.job.operation, e.answer with
  | .updateGroup updated c, .ok _ =>
    if updated = id then { g with
      name := c.name.getD g.name
      memo := c.memo.or g.memo
      audit := { g.audit with reviser := e.job.user, updatedAt := some e.time } }
    else g
  | .assign a, .ok _ =>
    if id ∈ a.groupIds then { g with
      business := a.business
      audit := { g.audit with reviser := e.job.user, updatedAt := some e.time } }
    else g
  | _, _ => g

/-- What the event makes of the group of an id. -/
def next (id : String) : Option Group → Event → Option Group
  | some g, e => if e.deletes id then none else some (e.overlay id g)
  | none, e => e.created? id

/-- An event that only writes over groups writes over the one that there is. -/
theorem next_eq_map {id : String} {e : Event} (hcreated : e.created? id = none)
    (hdeletes : e.deletes id = false) {g? : Option Group} {f : Group → Group}
    (hoverlay : ∀ g, g? = some g → e.overlay id g = f g) : e.next id g? = g?.map f := by
  cases g? with
  | none => exact hcreated
  | some g => rw [next, hdeletes, hoverlay g rfl, if_neg Bool.false_ne_true, Option.map_some]

/-- An event that neither creates nor deletes nor writes leaves the group alone. -/
theorem next_eq_self {id : String} {e : Event} (hcreated : e.created? id = none)
    (hdeletes : e.deletes id = false) (hoverlay : ∀ g, e.overlay id g = g) (g? : Option Group) :
    e.next id g? = g? := by
  rw [next_eq_map hcreated hdeletes fun g _ => hoverlay g, Option.map_id']

end Event

/-- The event of a job that is run on a store. -/
def Job.event (config : Store.Config) (s : Store) (job : Job) : Event :=
  ⟨job, config.supply.clock s.ticks, (job.run config s).1⟩

/-- The events of some jobs, one after the other. -/
def record (config : Store.Config) : List Job → Store → List Event
  | [], _ => []
  | job :: rest, s => job.event config s :: record config rest (job.run config s).2

/-! ### Single operations -/

section

variable {config : Store.Config} {s s' : Store} {limit : UInt32} {user id : String}

/-- The groups of a store are found in its table of groups. -/
theorem Store.group?_congr (h : s'.rows .groups = s.rows .groups) (id : String) :
    s'.group? id = s.group? id := by
  rw [group?, group?, h]

/-- Groups that are changed and keep their ids are found as they are after the change. -/
theorem Store.group?_of_map {gs : List Group} {f : Group → Group} (h : s.Holds gs)
    (h' : s'.Holds (gs.map f)) (hf : ∀ g, (f g).id = g.id) (id : String) :
    s'.group? id = (s.group? id).map f := by
  rw [h.group?_eq, h'.group?_eq, List.find?_map]
  simp only [Function.comp_def, hf]

/-- A new group is found under its id, if no other group is. -/
theorem group?_createGroup (h : s.Readable) {new : Group} {created : String}
    (hrun : (createGroup user new).run config s = (.ok created, s')) (id : String) :
    created = config.supply.id s.issued ∧ s'.group? id = (s.group? id).or
      (if created = id then
        some (Group.stamp created (config.supply.clock s.ticks) (new.createdBy user))
      else none) := by
  obtain ⟨-, rfl, rfl⟩ := run_createGroup_eq_ok.1 hrun
  obtain ⟨gs, hgs, -⟩ := h.exists_groups
  have hnew : (s.afterInsert config.supply (Entity.table Group) (Entity.schema Group)
      [Entity.toRow (new.createdBy user)]).Holds (gs ++ [Group.stamp (config.supply.id s.issued)
        (config.supply.clock s.ticks) (new.createdBy user)]) :=
    hgs.insert [new.createdBy user]
  refine ⟨rfl, ?_⟩
  rw [hnew.group?_eq, hgs.group?_eq, List.find?_append, List.find?_singleton]
  exact congrArg _ (if_congr decide_eq_true_iff rfl rfl)

/-- What a change of a group writes is laid over the group, field by field. -/
theorem Group.amend_revision (now : Instant) (user : String) (current g : Group) (c : GroupChange) :
    Group.amend now (revision user current c) g = { g with
      name := c.name.getD g.name
      memo := c.memo.or g.memo
      audit := { g.audit with reviser := user, updatedAt := some now } } := by
  have hname : (if c.name.getD "" = "" then g.name else c.name.getD "") = c.name.getD g.name := by
    cases hc : c.name with
    | none => rfl
    | some name =>
      -- an empty name is no name
      rw [GroupChange.name, Option.filter_eq_some_iff] at hc
      have hne : name ≠ "" := by simpa using hc.2
      exact if_neg hne
  have hmemo : (if c.memo = none then g.memo else c.memo) = c.memo.or g.memo := by
    cases c.memo <;> rfl
  simp only [Group.amend, revision, Group.mk.injEq, if_true, true_and, and_true]
  exact ⟨hname, hmemo⟩

theorem group?_updateGroup (h : s.Readable) {updated : String} {c : GroupChange} {x : Unit}
    (hrun : (updateGroup limit user updated c).run config s = (.ok x, s')) (id : String) :
    s'.group? id = (s.group? id).map fun g =>
      if g.id = updated then { g with
        name := c.name.getD g.name
        memo := c.memo.or g.memo
        audit := { g.audit with reviser := user, updatedAt := some (config.supply.clock s.ticks) } }
      else g := by
  obtain ⟨-, -, current, -, -, rfl⟩ := (run_updateGroup_eq_ok h).1 hrun
  obtain ⟨gs, hgs, -⟩ := h.exists_groups
  have hnew : (s.afterUpdate config.supply (Entity.table Group) (Entity.schema Group)
      (.equal "id" (.str updated)) (Entity.updateRow (revision user current c))).Holds
        (gs.map fun g => if (Filter.equal "id" (.str updated)).passes (Entity.toRow g) then
          Group.amend (config.supply.clock s.ticks) (revision user current c) g else g) :=
    hgs.update (revision user current c)
  simp only [Group.passes_equal_toRow, decide_eq_true_eq, Group.amend_revision] at hnew
  refine Store.group?_of_map hgs hnew ?_ id
  intro g
  split <;> rfl

theorem Group.amend_assigned {business : Int64} (h : 0 < business) (now : Instant) (user : String)
    (g : Group) : Group.amend now (assigned user business) g = { g with
      business := business
      audit := { g.audit with reviser := user, updatedAt := some now } } := by
  have hne : business ≠ 0 := by
    rintro rfl
    exact absurd h (by decide)
  simp [Group.amend, assigned, hne]

/-- The update of an assignment is laid over the groups that were asked for, if all of them are
unassigned. -/
theorem Store.Holds.assign (config : Store.Config) (user : String) {gs : List Group}
    (h : s.Holds gs) {a : Assignment} (hpos : 0 < a.business)
    (hfree : ∀ g ∈ gs, g.id ∈ a.groupIds → g.business = Group.unassigned) :
    (s.perform config (assignCall user a)).2.Holds (gs.map fun g =>
      if g.id ∈ a.groupIds then { g with
        business := a.business
        audit := { g.audit with reviser := user, updatedAt := some (config.supply.clock s.ticks) } }
      else g) := by
  have hnew : (s.perform config (assignCall user a)).2.Holds
      (gs.map fun g => if (stillUnassigned a.groupIds).passes (Entity.toRow g) then
        Group.amend (config.supply.clock s.ticks) (assigned user a.business) g else g) := by
    rw [perform_assignCall]
    exact h.update (assigned user a.business)
  refine hnew.trans (congrArg (List.map Entity.toRow) (List.map_congr_left ?_))
  intro g hg
  by_cases hid : g.id ∈ a.groupIds
  · rw [if_pos ((passes_stillUnassigned_toRow g).2 ⟨hid, hfree g hg hid⟩), if_pos hid,
      Group.amend_assigned hpos]
  · rw [if_neg fun hp => hid ((passes_stillUnassigned_toRow g).1 hp).1, if_neg hid]

/-- What an assignment writes is laid over the group, if the group is still unassigned. -/
theorem group?_assign (h : s.Sound) (hd : s.Distinct config.supply) {a : Assignment} {n : Nat}
    (hrun : (assign limit user a).run config s = (.ok n, s')) (id : String) :
    s'.group? id = (s.group? id).map fun g =>
      if g.id ∈ a.groupIds then { g with
        business := a.business
        audit := { g.audit with reviser := user, updatedAt := some (config.supply.clock s.ticks) } }
      else g := by
  have hobeys : (assign limit user a).Obeys (.sequential config) s (fun _ _ => True) fun s' _ =>
      a.check = .ok () ∧ (∀ g : Group, Entity.toRow g ∈ s.rows .groups → g.id ∈ a.groupIds →
        g.business = Group.unassigned) ∧ s' = (s.perform config (assignCall user a)).2 := by
    rw [assign_eq]
    refine Action.Obeys.bind (obeys_assignable Discipline.reads_sequential fun _ => trivial) ?_
    rintro s' groups ⟨rfl, hcheck, hgroups, hassignable⟩
    refine (obeys_assignAll_alone h hd hgroups hassignable).mono (fun _ _ h => h.elim) ?_
    rintro s'' _ ⟨-, rfl⟩
    refine ⟨hcheck, ?_, rfl⟩
    intro g hg hid
    have hmem := hgroups.mem h hd hg hid
    simpa using Verdict.provided_eq_ok.1 (Verdict.first_cons_eq_ok.1 (hassignable g hmem)).1
  have hend := hobeys.run
  rw [hrun] at hend
  obtain ⟨hcheck, hfree, rfl⟩ := hend
  obtain ⟨gs, hgs, -⟩ : ∃ gs : List Group, s.Holds gs ∧ _ := Store.exists_eq_map_toRow h.groups
  have hnew := hgs.assign config user (pos_of_check hcheck)
    fun g hg => hfree g (hgs.toRow_mem hg)
  exact Store.group?_of_map hgs hnew (fun g => by split <;> rfl) id

theorem group?_deleteGroups (h : s.Sound) (hd : s.Distinct config.supply) {deletion : Deletion}
    {tour : Vendor.Tour} {n : Nat}
    (hrun : (deleteGroups limit deletion tour).run config s = (.ok n, s')) (id : String) :
    s'.group? id = if id ∈ deletion.ids then none else s.group? id := by
  have hobeys : (deleteGroups limit deletion tour).Obeys (.sequential config) s (fun _ _ => True)
      fun s'' _ => ∃ s' : Store, s'.rows .groups = s.rows .groups ∧
        s'' = s'.afterDelete .groups (oneOfTexts "id" deletion.ids) := by
    rw [deleteGroups_eq]
    refine Action.Obeys.bind (obeys_deletable Discipline.reads_sequential fun _ => trivial) ?_
    rintro s' groups ⟨rfl, hgroups⟩
    refine (obeys_deleteAll_alone h hd tour hgroups).mono (fun _ _ h => h.elim) ?_
    rintro s'' _ ⟨-, cleared, hcleared, rfl⟩
    exact ⟨cleared, hcleared.kept, rfl⟩
  have hend := hobeys.run
  rw [hrun] at hend
  obtain ⟨cleared, hkept, rfl⟩ := hend
  obtain ⟨gs, hgs, -⟩ : ∃ gs : List Group, s.Holds gs ∧ _ := Store.exists_eq_map_toRow h.groups
  have hcleared : cleared.Holds gs := hkept.trans hgs
  have hleft : (cleared.afterDelete .groups (oneOfTexts "id" deletion.ids)).Holds
      (gs.filter fun g => !(oneOfTexts "id" deletion.ids).passes (Entity.toRow g)) :=
    hcleared.delete
  rw [hleft.group?_eq, hgs.group?_eq, List.find?_filter]
  simp only [passes_oneOfTexts_of_text (Group.get?_id_toRow _)]
  by_cases hid : id ∈ deletion.ids
  · -- a group of the id was taken out
    rw [if_pos hid, List.find?_eq_none]
    rintro g - hboth
    simp only [Bool.not_eq_true', decide_eq_false_iff_not, decide_eq_true_eq] at hboth
    exact hboth.1 (hboth.2 ▸ hid)
  · rw [if_neg hid]
    congr 1
    funext g
    by_cases hg : g.id = id
    · simp [hg, hid]
    · simp [hg]

/-! ### One job -/

theorem run_listGroups (limit : UInt32) (q : GroupQuery) :
    ((listGroups limit q).run config s).2 = s := by
  have hobeys : (listGroups limit q).Obeys (.sequential config) s (fun s' _ => s' = s)
      fun s' _ => s' = s :=
    obeys_listGroups Discipline.reads_sequential (fun _ => rfl) fun _ => rfl
  exact hobeys.run_eq_self fun _ _ h => h

theorem run_listRules (c : RuleCloud) (limit : UInt32) (groupId : String) (q : RuleQuery) :
    ((listRules c.Rule limit groupId q).run config s).2 = s := by
  have hobeys : (listRules c.Rule limit groupId q).Obeys (.sequential config) s
      (fun s' _ => s' = s) fun s' _ => s' = s :=
    obeys_listRules Discipline.reads_sequential (fun _ => rfl) fun _ => rfl
  exact hobeys.run_eq_self fun _ _ h => h

/-- **One job does to the group of an id what its event does.** -/
theorem group?_run (hr : s.Readable) (h : s.Sound) (hd : s.Distinct config.supply) (job : Job)
    (id : String) :
    (job.run config s).2.group? id = (job.event config s).next id (s.group? id) := by
  obtain ⟨limit, user, operation⟩ := job
  have hrefused := (Job.run_effect h hd ⟨limit, user, operation⟩).2
  rcases hrun : Job.run config ⟨limit, user, operation⟩ s with ⟨e | outcome, s'⟩
  · -- a job that refuses has changed nothing
    rw [hrun] at hrefused
    obtain rfl : s' = s := hrefused e rfl
    rw [Job.event, hrun]
    exact (Event.next_eq_self (by cases operation <;> rfl) (by cases operation <;> rfl)
      (fun _ => by cases operation <;> rfl) _).symm
  rw [Job.event, hrun]
  -- a job that leaves the table of groups alone
  have hsame : ∀ {e : Event}, s'.rows .groups = s.rows .groups → e.created? id = none →
      e.deletes id = false → (∀ g, e.overlay id g = g) → s'.group? id = e.next id (s.group? id) := by
    intro e hrows hcreated hdeletes hoverlay
    rw [Event.next_eq_self hcreated hdeletes hoverlay, Store.group?_congr hrows]
  cases operation with
  | listGroups q =>
    obtain ⟨listing, hlist, rfl⟩ := Action.run_map_eq_ok.1 hrun
    obtain rfl : s' = s := (congrArg Prod.snd hlist).symm.trans (run_listGroups limit q)
    exact hsame rfl rfl rfl fun _ => rfl
  | getGroup asked =>
    obtain ⟨g, hgroup, rfl⟩ := Action.run_map_eq_ok.1 hrun
    obtain rfl : s' = s :=
      (congrArg Prod.snd hgroup).symm.trans (congrArg Prod.snd (run_group hr limit asked))
    exact hsame rfl rfl rfl fun _ => rfl
  | createGroup new =>
    obtain ⟨created, hcreate, rfl⟩ := Action.run_map_eq_ok.1 hrun
    obtain ⟨rfl, hnew⟩ := group?_createGroup hr hcreate id
    show s'.group? id = _
    rw [hnew]
    cases hg : s.group? id with
    | some g => rfl
    | none =>
      show (if _ = id then _ else none) = if _ = id then _ else none
      by_cases hid : config.supply.id s.issued = id
      · rw [if_pos hid, if_pos hid, ← hid]
        rfl
      · rw [if_neg hid, if_neg hid]
  | updateGroup updated c =>
    obtain ⟨x, hupdate, rfl⟩ := Action.run_map_eq_ok.1 hrun
    show s'.group? id = _
    rw [group?_updateGroup hr hupdate id]
    refine (Event.next_eq_map rfl rfl ?_).symm
    intro g hg
    obtain rfl := Store.id_of_group? hg
    exact if_congr eq_comm rfl rfl
  | assign a =>
    obtain ⟨n, hassign, rfl⟩ := Action.run_map_eq_ok.1 hrun
    show s'.group? id = _
    rw [group?_assign h hd hassign id]
    refine (Event.next_eq_map rfl rfl ?_).symm
    intro g hg
    obtain rfl := Store.id_of_group? hg
    rfl
  | deleteGroups deletion tour =>
    obtain ⟨n, hdelete, rfl⟩ := Action.run_map_eq_ok.1 hrun
    show s'.group? id = _
    rw [group?_deleteGroups h hd hdelete id]
    cases hg : s.group? id with
    | none => exact ite_self _
    | some g => exact if_congr decide_eq_true_iff.symm rfl rfl
  | listRules cloud groupId q =>
    obtain ⟨listing, hlist, rfl⟩ := Action.run_map_eq_ok.1 hrun
    obtain rfl : s' = s := (congrArg Prod.snd hlist).symm.trans (run_listRules cloud limit groupId q)
    exact hsame rfl rfl rfl fun _ => rfl
  | createRules groupId c =>
    obtain ⟨ids, hcreate, rfl⟩ := Action.run_map_eq_ok.1 hrun
    rw [createAnyRules_eq] at hcreate
    obtain ⟨-, direction, -, -, owner, -, -, -, -, rfl⟩ := (run_createRules_eq_ok hr).1 hcreate
    refine hsame ?_ rfl rfl fun _ => rfl
    exact Store.rows_afterInsert_of_ne c.cloud.table_ne_groups.symm
  | updateRule groupId ruleId c =>
    obtain ⟨x, hupdate, rfl⟩ := Action.run_map_eq_ok.1 hrun
    rw [updateAnyRule_eq] at hupdate
    obtain ⟨es, hes, -⟩ := hr.exists_entries c.cloud
    obtain ⟨-, -, owner, -, -, e, -, -, rfl⟩ := (run_updateRule_eq_ok hr hes).1 hupdate
    refine hsame ?_ rfl rfl fun _ => rfl
    exact Store.rows_afterUpdate_of_ne c.cloud.table_ne_groups.symm

/-! ### Sequential runs -/

theorem play_append (config : Store.Config) (before later : List Job) (s : Store) :
    play config (before ++ later) s = play config later (play config before s) := by
  induction before generalizing s with
  | nil => rfl
  | cons job before ih => exact ih _

theorem record_append (config : Store.Config) (before later : List Job) (s : Store) :
    record config (before ++ later) s =
      record config before s ++ record config later (play config before s) := by
  induction before generalizing s with
  | nil => rfl
  | cons job before ih => exact congrArg (job.event config s :: ·) (ih _)

/-- Every event of a record is that of a job, run on the store that the jobs before it have left. -/
theorem exists_of_record_eq {jobs : List Job} {before later : List Event} {e : Event}
    (h : record config jobs s = before ++ e :: later) :
    ∃ (jobsBefore : List Job) (job : Job), before = record config jobsBefore s ∧
      e = job.event config (play config jobsBefore s) := by
  induction jobs generalizing s before with
  | nil => cases before <;> cases h
  | cons job jobs ih =>
    cases before with
    | nil =>
      cases h
      exact ⟨[], job, rfl, rfl⟩
    | cons first before =>
      obtain ⟨rfl, hrest⟩ := List.cons.inj h
      obtain ⟨jobsBefore, j, rfl, he⟩ := ih hrest
      exact ⟨job :: jobsBefore, j, rfl, he⟩

/-- **A sequential run does to the group of an id what its record does.** -/
theorem group?_play (hs : Function.Injective config.supply.id) (jobs : List Job) (id : String) :
    (play config jobs .empty).group? id = (record config jobs .empty).foldl (Event.next id) none := by
  induction jobs using List.reverseRecOn with
  | nil => rfl
  | append_singleton jobs job ih =>
    obtain ⟨hsound, hd⟩ := Store.sound_play hs jobs
    rw [play_append, record_append, List.foldl_append, ← ih]
    exact group?_run (reachable_play config jobs).readable hsound hd job id

/-- From a group on, events that do not delete it lay over it what they write. -/
theorem foldl_next_some {events : List Event} (h : ∀ e ∈ events, e.deletes id = false) (g : Group) :
    events.foldl (Event.next id) (some g) = some (events.foldl (Event.overlay id) g) := by
  induction events generalizing g with
  | nil => rfl
  | cons e events ih =>
    obtain ⟨he, hrest⟩ := List.forall_mem_cons.1 h
    rw [List.foldl_cons, List.foldl_cons, ← ih hrest, Event.next, he, if_neg Bool.false_ne_true]

/-- If events make a group, one of them has created it and none after that has deleted it. -/
theorem exists_created_of_foldl_next {events : List Event}
    (h : (events.foldl (Event.next id) none).isSome = true) :
    ∃ before e later g, events = before ++ e :: later ∧ e.created? id = some g ∧
      ∀ d ∈ later, d.deletes id = false := by
  induction events using List.reverseRecOn with
  | nil => cases h
  | append_singleton events last ih =>
    rw [List.foldl_append, List.foldl_cons, List.foldl_nil] at h
    cases hbefore : events.foldl (Event.next id) none with
    | none =>
      -- the last event has created the group
      rw [hbefore] at h
      obtain ⟨g, hg⟩ := Option.isSome_iff_exists.1 h
      exact ⟨events, last, [], g, rfl, hg, fun _ hd => by cases hd⟩
    | some g =>
      -- the group was there, and the last event has not deleted it
      rw [hbefore] at h
      obtain ⟨before, e, later, created, rfl, hcreated, hkept⟩ := ih (by rw [hbefore]; rfl)
      refine ⟨before, e, later ++ [last], created, by simp, hcreated, ?_⟩
      intro d hd
      rcases List.mem_append.1 hd with hd | hd
      · exact hkept d hd
      · rw [List.mem_singleton.1 hd]
        cases hdeletes : last.deletes id with
        | false => rfl
        | true =>
          rw [Event.next, hdeletes, if_pos rfl] at h
          cases h

/-- A job that creates a group under an id finds no group there. -/
theorem group?_eq_none_of_created (hr : s.Readable) (hd : s.Distinct config.supply) {job : Job}
    {g : Group} (h : (job.event config s).created? id = some g) : s.group? id = none := by
  obtain ⟨limit, user, operation⟩ := job
  simp only [Event.created?, Job.event] at h
  split at h
  · rename_i new created hanswer
    split at h
    · rename_i hid
      subst hid
      obtain ⟨_, hcreate, hsame⟩ := Action.run_map_eq_ok.1 (Prod.ext hanswer rfl)
      cases hsame
      obtain ⟨hnew, -⟩ := group?_createGroup hr hcreate created
      refine Option.eq_none_iff_forall_ne_some.2 ?_
      intro g' hg'
      -- the id is one that no row has had so far
      obtain ⟨gs, hgs, -⟩ := hr.exists_groups
      refine hd.unused .groups _ (hgs.toRow_mem (hgs.mem_of_group? hg')) s.issued (Nat.le_refl _) ?_
      rw [Group.get?_id_toRow, Store.id_of_group? hg', hnew]
    · cases h
  · cases h

end

/-! ### After any jobs -/

/-- **Groups follow their history.**  After any jobs on the empty store, each with any limit of
pages, a group of an id is there if some job has created it and no later one has deleted it.  It is
the group that was asked for, in the name of its creator, with all later changes and assignments laid
over it one after the other; nothing else has become of it. -/
theorem groups_follow_their_history (config : Store.Config)
    (hs : Function.Injective config.supply.id) (hlimit : 0 < config.maxLimit) (jobs : List Job)
    (limit : UInt32) (id : String) :
    let s := play config jobs .empty
    let events := record config jobs .empty
    ((group limit id).run config s).2 = s ∧
    ((∀ (before later : List Event) (e : Event) (g : Group), events = before ++ e :: later →
        e.created? id = some g → ∃ d ∈ later, d.deletes id = true) →
      ((group limit id).run config s).1 = .error (.notFound .group id)) ∧
    ∀ (before later : List Event) (e : Event) (g : Group), events = before ++ e :: later →
      e.created? id = some g → (∀ d ∈ later, d.deletes id = false) →
        ((group limit id).run config s).1 = .ok (later.foldl (Event.overlay id) g) := by
  intro s events
  have hrun : (group limit id).run config s = (_, s) :=
    run_group (reachable_play config jobs).readable limit id
  rw [if_pos hlimit] at hrun
  rw [hrun]
  refine ⟨rfl, ?_, ?_⟩
  · intro hdeleted
    cases hg : s.group? id with
    | none => rfl
    | some g =>
      -- the record makes the group, so one of its events has created it
      have hplay : s.group? id = events.foldl (Event.next id) none := group?_play hs jobs id
      obtain ⟨before, e, later, g', hevents, hcreated, hkept⟩ :=
        exists_created_of_foldl_next (by rw [← hplay, hg]; rfl)
      obtain ⟨d, hd, hdeletes⟩ := hdeleted before later e g' hevents hcreated
      rw [hkept d hd] at hdeletes
      cases hdeletes
  · intro before later e g hevents hcreated hkept
    obtain ⟨jobsBefore, job, rfl, rfl⟩ := exists_of_record_eq hevents
    -- the group was not there when it was created, and was not taken out from there on
    have hbefore : (record config jobsBefore .empty).foldl (Event.next id) none = none := by
      rw [← group?_play hs jobsBefore]
      exact group?_eq_none_of_created (reachable_play config jobsBefore).readable
        (Store.sound_play hs jobsBefore).2 hcreated
    have hplay : s.group? id = some (later.foldl (Event.overlay id) g) := by
      rw [group?_play hs jobs id]
      show events.foldl (Event.next id) none = _
      rw [hevents, List.foldl_append, List.foldl_cons, hbefore, Event.next, hcreated,
        foldl_next_some hkept]
    rw [hplay, Option.elim_some]

/-- A job that gives the group that `Job.creation` has created another name. -/
def Job.renaming : Job where
  limit := 500
  user := "bob"
  operation := .updateGroup "|" { name? := some "db", memo := some "" }

/-- A job that deletes the group that `Job.creation` has created. -/
def Job.removal : Job where
  limit := 500
  user := "bob"
  operation := .deleteGroups ⟨["|"]⟩ .listed

/-- The group that `Job.creation` has created, as it is then. -/
def Group.created : Group where
  id := "|"
  vendor := some .aws
  cloudId := "sg-1"
  business := unassigned
  name := "web"
  accountId := "x"
  audit :=
    { creator := "ann"
      reviser := "ann"
      createdAt := some (Supply.strokes.clock 0)
      updatedAt := some (Supply.strokes.clock 0) }

/-- A group that was renamed has its new name and an empty memo, and is gone once it was deleted. -/
theorem history_of_renamed_group :
    let config : Store.Config := ⟨Supply.strokes, 500⟩
    ((group 500 "|").run config (play config [.creation, .renaming] .empty)).1 =
        .ok { Group.created with
          name := "db"
          memo := some ""
          audit := { Group.created.audit with reviser := "bob" } } ∧
      ((group 500 "|").run config (play config [.creation, .removal] .empty)).1 =
        .error (.notFound .group "|") := by
  intro config
  have hcreated : (Job.creation.event config .empty).created? "|" = some Group.created := by
    decide +kernel
  constructor
  · have hwritten : (Job.renaming.event config (Job.creation.run config .empty).2).overlay "|"
        Group.created = { Group.created with
          name := "db"
          memo := some ""
          audit := { Group.created.audit with reviser := "bob" } } := by decide +kernel
    rw [← hwritten]
    refine (groups_follow_their_history config Supply.injective_strokes (by decide)
      [.creation, .renaming] 500 "|").2.2 [] _ _ Group.created rfl hcreated ?_
    intro d hd
    rw [List.mem_singleton.1 hd]
    rfl
  · have hdeleted : (Job.removal.event config (Job.creation.run config .empty).2).deletes "|" =
        true := by decide +kernel
    refine (groups_follow_their_history config Supply.injective_strokes (by decide)
      [.creation, .removal] 500 "|").2.1 ?_
    intro before later e g hevents hg
    cases before with
    | nil =>
      cases hevents
      exact ⟨_, List.mem_singleton_self _, hdeleted⟩
    | cons first before =>
      -- the second event is a deletion, which has created nothing
      cases before with
      | nil =>
        cases hevents
        cases hg
      | cons second before =>
        have hlength := congrArg List.length hevents
        simp [record] at hlength

end SecurityGroups
