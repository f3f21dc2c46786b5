/-
SecurityGroups/Proofs/GroupAssignment.lean

When groups are assigned, and what depends on how they are asked for.

A job that has the store to itself finds the groups as it has loaded them, so its
update writes every one of them, and the count that it compares agrees
(`run_assignAll`).  What is left are the checks (`checkAssignable_eq_ok`) and the
ids that are missing.

The limit of pages, the order of the ids and their duplicates only decide in
which order the groups are loaded.  The checks of all groups have to pass, and
the update looks at each row by itself, so neither the answer nor the store
afterwards depends on that order.
-/
import SecurityGroups.Proofs.Effects
import SecurityGroups.Proofs.EntryChecks
import SecurityGroups.Proofs.History
import SecurityGroups.Proofs.Retrieval

namespace SecurityGroups

open Service

/-! ### Checks -/

/-- The checks that new groups and updates have in common. -/
theorem Group.first_checks_eq_ok {g : Group} : Verdict.first g.checks = .ok () ↔
    g.id = "" ∧ g.cloudId.length ≤ cloudIdMaxLength ∧
      (unassigned ≤ g.business ∧ g.business ≤ Int64.maxValue) ∧ g.region.length ≤ regionMaxLength ∧
      (g.name ≠ "" → Naming.groupName g.name = .ok ()) ∧
      (∀ memo ∈ g.memo, Naming.groupMemo memo = .ok ()) ∧
      g.accountId.length ≤ accountIdMaxLength ∧ g.audit.creator.length ≤ Naming.userMaxLength ∧
      g.audit.reviser.length ≤ Naming.userMaxLength ∧ g.audit.createdAt = none ∧
      g.audit.updatedAt = none := by
  have hname : (if g.name = "" then .fine else Naming.groupName g.name) = .ok () ↔
      (g.name ≠ "" → Naming.groupName g.name = .ok ()) := by
    by_cases h : g.name = "" <;> simp [h]
  simp only [checks, Audit.checks, List.cons_append, List.nil_append, Verdict.first_cons_eq_ok,
    Verdict.first_nil, Check.mustBeEmpty, Check.maxLength, Check.range, Check.absent,
    Check.optional_eq_ok, hname, Verdict.provided_eq_ok, Bool.and_eq_true, decide_eq_true_eq,
    Option.isNone_iff_eq_none, and_true]

/-- What an assignment would write passes the check of updates if its user has a name that is not too
long. -/
theorem Group.Sound.updateCheck_assigned {g : Group} (h : g.Sound) {user : String}
    {business : Int64} (hpos : 0 < business) :
    Entity.updateCheck { assigned user business with vendor := g.vendor } = .ok () ↔
      1 ≤ user.length ∧ user.length ≤ Naming.userMaxLength := by
  have hcloud : Group.checkVendor { assigned user business with vendor := g.vendor } = .ok () := by
    have hkeeps : ∀ v ∈ [Vendor.tcloud, .aws, .azure, .huawei], v.keepsRules = true := by decide
    obtain ⟨v, hv, hvendor⟩ := h.vendor
    rw [Group.checkVendor, hvendor]
    exact Verdict.provided_eq_ok.2 (hkeeps v hv)
  have hbelow : Group.unassigned ≤ business :=
    Int64.le_of_lt (Int64.lt_trans (by decide : Group.unassigned < 0) hpos)
  have hreviser : Verdict.first (Audit.revises { reviser := user }) = .ok () ↔ user ≠ "" := by
    simp [Audit.revises, Verdict.first_cons_eq_ok, Verdict.provided_eq_ok]
  show Verdict.first (Group.checks _ ++ _ :: Audit.revises { reviser := user }) = _ ↔ _
  rw [Verdict.first_append_eq_ok, Verdict.first_cons_eq_ok, Group.first_checks_eq_ok, hreviser,
    one_le_length_iff]
  constructor
  · rintro ⟨⟨-, -, -, -, -, -, -, -, hlong, -⟩, -, huser⟩
    exact ⟨huser, hlong⟩
  · rintro ⟨huser, hlong⟩
    have hmemo : ∀ memo ∈ (none : Option String), Naming.groupMemo memo = .ok () :=
      fun _ hmemo => absurd hmemo (Option.not_mem_none _)
    exact ⟨⟨rfl, Nat.zero_le _, ⟨hbelow, Int64.le_maxValue _⟩, Nat.zero_le _,
      fun hne => absurd rfl hne, hmemo, Nat.zero_le _, Nat.zero_le _, hlong, rfl, rfl⟩, hcloud, huser⟩

/-- **A group may be assigned** if it is unassigned and the user has a name that is not too long. -/
theorem Group.Sound.checkAssignable_eq_ok {g : Group} (h : g.Sound) {user : String}
    {business : Int64} (hpos : 0 < business) : checkAssignable user business g = .ok () ↔
      g.business = Group.unassigned ∧ 1 ≤ user.length ∧ user.length ≤ Naming.userMaxLength := by
  rw [checkAssignable, Verdict.first_cons_eq_ok, Verdict.first_cons_eq_ok, Verdict.provided_eq_ok,
    decide_eq_true_iff, h.updateCheck_assigned hpos, Verdict.first_nil]
  simp

/-! ### Running -/

section

variable {config : Store.Config} {s : Store} {gs groups : List Group} {user : String}
  {a a' : Assignment}

/-- **An assignment that has loaded its groups** writes all of them, if they are unassigned. -/
theorem Service.run_assignAll (hgs : s.Holds gs) (hids : (gs.map Group.id).Nodup)
    (hall : ∀ id ∈ a.groupIds, ∃ g ∈ gs, g.id = id)
    (hperm : groups.Perm (gs.filter (·.id ∈ a.groupIds)))
    (hfree : ∀ g ∈ gs, g.id ∈ a.groupIds → g.business = Group.unassigned) :
    (assignAll user a groups).run config s =
      (.ok a.groupIds.toFinset.card, (s.perform config (assignCall user a)).2) := by
  have hlength : groups.length = a.groupIds.toFinset.card := by
    rw [hperm.length_eq, length_filter_id_eq hids hall]
  have hcount : (s.rows .groups).countP (stillUnassigned a.groupIds).passes =
      a.groupIds.toFinset.card := by
    refine hgs.countP_eq_card hids hall fun g hg => ?_
    rw [Bool.eq_iff_iff, passes_stillUnassigned_toRow, decide_eq_true_iff]
    exact ⟨And.left, fun hid => ⟨hid, hfree g hg hid⟩⟩
  rw [assignAll, Action.run_bind]
  have hupdate : (Action.update Group (stillUnassigned a.groupIds)
      (Entity.updateRow (assigned user a.business))).run config s =
        (.ok a.groupIds.toFinset.card, (s.perform config (assignCall user a)).2) := by
    refine (Action.run_call config s (assignCall user a)).trans ?_
    rw [perform_assignCall, hcount]
    rfl
  rw [hupdate]
  show Action.run config (if _ then _ else _) _ = _
  rw [hlength, if_pos rfl, Action.run_pure]

/-- The checks of an assignment come one after the other, and none of them changes the store. -/
theorem Service.run_assign_eq (config : Store.Config) (hgs : s.Holds gs)
    (hids : (gs.map Group.id).Nodup) (hmax : 0 < config.maxLimit) (user : String) (a : Assignment) :
    ∃ groups, groups.Perm (gs.filter (·.id ∈ a.groupIds)) ∧
      (assign config.maxLimit user a).run config s =
        match a.check, a.groupIds.find? fun id => (s.group? id).isNone,
          Check.each groups (checkAssignable user a.business) with
        | .error v, _, _ => (.error (.violation v), s)
        | .ok (), some id, _ => (.error (.notFound .group id), s)
        | .ok (), none, .error v => (.error (.violation v), s)
        | .ok (), none, .ok () => (assignAll user a groups).run config s := by
  obtain ⟨groups, hperm, hrequire⟩ := run_require config hgs hids hmax a.groupIds
  refine ⟨groups, hperm, ?_⟩
  rw [assign_eq, assignable]
  cases a.check with
  | error v => simp only [Action.run_bind, Action.run_demand_error]
  | ok _ =>
    show Action.run config ((require config.maxLimit a.groupIds >>= fun groups => do
      Action.demand (Check.each groups (checkAssignable user a.business))
      return groups) >>= assignAll user a) s = _
    rw [bind_assoc, Action.run_bind, hrequire]
    cases a.groupIds.find? fun id => (s.group? id).isNone with
    | some id => rfl
    | none =>
      simp only [bind_assoc, pure_bind]
      rw [Action.run_bind]
      cases Check.each groups (checkAssignable user a.business) with
      | error v => rfl
      | ok _ => rfl

/-- What an assignment has to meet: its check, a user with a name that is not too long, and groups that
are there and unassigned. -/
structure Store.Admits (s : Store) (user : String) (a : Assignment) : Prop where
  check : a.check = .ok ()
  user : 1 ≤ user.length ∧ user.length ≤ Naming.userMaxLength
  groups : ∀ id ∈ a.groupIds, ∃ g, s.group? id = some g ∧ g.business = Group.unassigned

/-- Whether an assignment is admitted depends on which ids it names, not on how it lists them. -/
theorem Store.Admits.of_same_ids (h : s.Admits user a) (hcheck : a'.check = .ok ())
    (hids : ∀ id, id ∈ a'.groupIds ↔ id ∈ a.groupIds) : s.Admits user a' :=
  ⟨hcheck, h.user, fun id hid => h.groups id ((hids id).1 hid)⟩

theorem Store.Holds.unassigned_iff (hgs : s.Holds gs) (hids : (gs.map Group.id).Nodup)
    {ids : List String} :
    (∀ id ∈ ids, ∃ g, s.group? id = some g ∧ g.business = Group.unassigned) ↔
      (∀ id ∈ ids, ∃ g ∈ gs, g.id = id) ∧ ∀ g ∈ gs, g.id ∈ ids → g.business = Group.unassigned := by
  constructor
  · intro h
    constructor
    · intro id hid
      obtain ⟨g, hg, -⟩ := h id hid
      exact ⟨g, hgs.mem_of_group? hg, Store.id_of_group? hg⟩
    · intro g hg hid
      obtain ⟨g', hg', hfree⟩ := h g.id hid
      rw [hgs.group?_of_mem hids hg] at hg'
      exact Option.some.inj hg' ▸ hfree
  · rintro ⟨hall, hfree⟩ id hid
    obtain ⟨g, hg, rfl⟩ := hall id hid
    exact ⟨g, hgs.group?_of_mem hids hg, hfree g hg hid⟩

/-- The groups that were loaded pass their check if they are unassigned and the user has a name that is
not too long. -/
theorem Service.each_checkAssignable_eq_ok (user : String) (hsound : ∀ g ∈ gs, g.Sound)
    (hperm : groups.Perm (gs.filter (·.id ∈ a.groupIds))) (hcheck : a.check = .ok ()) :
    Check.each groups (checkAssignable user a.business) = .ok () ↔
      ∀ g ∈ gs, g.id ∈ a.groupIds → g.business = Group.unassigned ∧
        1 ≤ user.length ∧ user.length ≤ Naming.userMaxLength := by
  rw [Check.each_eq_ok]
  constructor
  · intro h g hg hid
    have hmem := hperm.mem_iff.2 (List.mem_filter.2 ⟨hg, decide_eq_true hid⟩)
    exact ((hsound g hg).checkAssignable_eq_ok (pos_of_check hcheck)).1 (h g hmem)
  · intro h g hg
    obtain ⟨hmem, hid⟩ := List.mem_filter.1 (hperm.mem_iff.1 hg)
    exact ((hsound g hmem).checkAssignable_eq_ok (pos_of_check hcheck)).2
      (h g hmem (of_decide_eq_true hid))

/-- **An assignment that is admitted is carried out**, whatever the limit of pages is. -/
theorem Service.run_assign_of_admits (hs : Function.Injective config.supply.id)
    (hreach : s.Reachable config) {max : UInt32} (hmax : 0 < max) (h : s.Admits user a) :
    (assign max user a).run ⟨config.supply, max⟩ s = (.ok a.groupIds.toFinset.card,
      (s.perform config (assignCall user a)).2) := by
  obtain ⟨gs, hgs, hsound⟩ := hreach.readable.exists_groups
  have hids := hgs.nodup_ids (hreach.distinct hs) Group.get?_id_toRow
  obtain ⟨groups, hperm, hrun⟩ := run_assign_eq ⟨config.supply, max⟩ hgs hids hmax user a
  obtain ⟨hall, hfree⟩ := (hgs.unassigned_iff hids).1 h.groups
  have hpass := (each_checkAssignable_eq_ok user (fun g hg => (hsound g hg).1) hperm
    h.check).2 fun g hg hid => ⟨hfree g hg hid, h.user⟩
  rw [h.check, hgs.find?_missing_eq_none.2 hall, hpass] at hrun
  exact hrun.trans (run_assignAll hgs hids hall hperm hfree)

/-- **An assignment that is not admitted is refused**, and changes nothing. -/
theorem Service.run_assign_of_not_admits (hs : Function.Injective config.supply.id)
    (hreach : s.Reachable config) {max : UInt32} (hmax : 0 < max) (h : ¬ s.Admits user a) :
    ∃ e, (assign max user a).run ⟨config.supply, max⟩ s = (.error e, s) := by
  obtain ⟨gs, hgs, hsound⟩ := hreach.readable.exists_groups
  have hids := hgs.nodup_ids (hreach.distinct hs) Group.get?_id_toRow
  obtain ⟨groups, hperm, hrun⟩ := run_assign_eq ⟨config.supply, max⟩ hgs hids hmax user a
  rw [hrun]
  cases hcheck : a.check with
  | error v => exact ⟨_, rfl⟩
  | ok _ =>
    cases hmissing : a.groupIds.find? fun id => (s.group? id).isNone with
    | some id => exact ⟨_, rfl⟩
    | none =>
      cases hpass : Check.each groups (checkAssignable user a.business) with
      | error v => exact ⟨_, rfl⟩
      | ok _ =>
        -- then nothing is wrong with it
        have hall := hgs.find?_missing_eq_none.1 hmissing
        have hfree := (each_checkAssignable_eq_ok user (fun g hg => (hsound g hg).1) hperm hcheck).1 hpass
        obtain ⟨id, hid⟩ := List.exists_mem_of_ne_nil _ (ids_ne_nil_of_check hcheck)
        obtain ⟨g, hg, rfl⟩ := hall id hid
        exact absurd ⟨hcheck, (hfree g hg hid).2, (hgs.unassigned_iff hids).2
          ⟨hall, fun g hg hid => (hfree g hg hid).1⟩⟩ h

theorem passes_stillUnassigned_of_same_ids {ids ids' : List String}
    (h : ∀ id, id ∈ ids ↔ id ∈ ids') :
    (stillUnassigned ids).passes = (stillUnassigned ids').passes := by
  funext row
  rw [Filter.passes_of_holds (holds_stillUnassigned ids row),
    Filter.passes_of_holds (holds_stillUnassigned ids' row), any_eq_of_mem_iff h]

/-- **How the ids are listed does not matter**, nor does the limit of pages. -/
theorem Service.run_assign_of_same_ids (hs : Function.Injective config.supply.id)
    (hreach : s.Reachable config) {max max' : UInt32} (hmax : 0 < max) (hmax' : 0 < max')
    (hbusiness : a'.business = a.business) (hids : ∀ id, id ∈ a'.groupIds ↔ id ∈ a.groupIds)
    (hcheck : a'.check = .ok () ↔ a.check = .ok ()) :
    ((assign max' user a').run ⟨config.supply, max'⟩ s).1.toOption =
        ((assign max user a).run ⟨config.supply, max⟩ s).1.toOption ∧
      ((assign max' user a').run ⟨config.supply, max'⟩ s).2 =
        ((assign max user a).run ⟨config.supply, max⟩ s).2 := by
  by_cases h : s.Admits user a
  · have hsame : a'.groupIds.toFinset = a.groupIds.toFinset := by
      ext id
      rw [List.mem_toFinset, List.mem_toFinset, hids id]
    rw [run_assign_of_admits hs hreach hmax h,
      run_assign_of_admits hs hreach hmax' (h.of_same_ids (hcheck.2 h.check) hids), hsame,
      perform_assignCall, perform_assignCall, Store.afterUpdate, Store.afterUpdate,
      passes_stillUnassigned_of_same_ids hids, hbusiness]
    exact ⟨rfl, rfl⟩
  · have h' : ¬ s.Admits user a' := fun h' =>
      h (h'.of_same_ids (hcheck.1 h'.check) fun id => (hids id).symm)
    obtain ⟨e, hrun⟩ := run_assign_of_not_admits hs hreach hmax h
    obtain ⟨e', hrun'⟩ := run_assign_of_not_admits hs hreach hmax' h'
    rw [hrun, hrun']
    exact ⟨rfl, rfl⟩

/-- **Groups are assigned if all of them are there and unassigned.**  In every reachable store and for
every limit of pages that allows a row, an assignment is accepted exactly when it passes its check,
its user has between 1 and 64 characters and each of its ids is that of an unassigned group, and it
answers the number of distinct ids.  Exactly these groups then have the business, the user as their
reviser and the time of the assignment, and nothing else has changed.  If it passes its check and an
id is missing, the first one that is missing is named.  Neither the answer nor the store afterwards
depends on the limit of pages, or on how the ids are listed. -/
theorem groups_are_assigned_together (hs : Function.Injective config.supply.id)
    (hreach : s.Reachable config) (user : String) (a : Assignment) (max : UInt32) (hmax : 0 < max) :
    let outcome := (assign max user a).run ⟨config.supply, max⟩ s
    (∀ n, outcome.1 = .ok n ↔ a.check = .ok () ∧ (1 ≤ user.length ∧ user.length ≤ 64) ∧
      (∀ id ∈ a.groupIds, ∃ g, s.group? id = some g ∧ g.business = Group.unassigned) ∧
      n = a.groupIds.toFinset.card) ∧
    (∀ n, outcome.1 = .ok n → (∀ t ≠ .groups, outcome.2.rows t = s.rows t) ∧
      ∃ gs : List Group, s.Holds gs ∧ outcome.2.Holds (gs.map fun g =>
        if g.id ∈ a.groupIds then { g with
          business := a.business
          audit := { g.audit with reviser := user, updatedAt := some (config.supply.clock s.ticks) } }
        else g)) ∧
    (a.check = .ok () → ∀ id, (a.groupIds.find? fun id => (s.group? id).isNone) = some id →
      outcome = (.error (.notFound .group id), s)) ∧
    ∀ (max' : UInt32) (a' : Assignment), 0 < max' → a'.business = a.business →
      (∀ id, id ∈ a'.groupIds ↔ id ∈ a.groupIds) → (a'.check = .ok () ↔ a.check = .ok ()) →
      let outcome' := (assign max' user a').run ⟨config.supply, max'⟩ s
      outcome'.1.toOption = outcome.1.toOption ∧ outcome'.2 = outcome.2 := by
  intro outcome
  obtain ⟨gs, hgs, -⟩ := hreach.readable.exists_groups
  have hids := hgs.nodup_ids (hreach.distinct hs) Group.get?_id_toRow
  have hadmits : s.Admits user a ↔ a.check = .ok () ∧ (1 ≤ user.length ∧ user.length ≤ 64) ∧
      ∀ id ∈ a.groupIds, ∃ g, s.group? id = some g ∧ g.business = Group.unassigned :=
    ⟨fun h => ⟨h.check, h.user, h.groups⟩, fun h => ⟨h.1, h.2.1, h.2.2⟩⟩
  have haccepted : ∀ n, outcome.1 = .ok n ↔ s.Admits user a ∧ n = a.groupIds.toFinset.card := by
    intro n
    by_cases h : s.Admits user a
    · have hrun : outcome = _ := run_assign_of_admits hs hreach hmax h
      rw [hrun, Except.ok.injEq, eq_comm]
      exact (and_iff_right h).symm
    · obtain ⟨e, hrun⟩ := run_assign_of_not_admits hs hreach hmax h
      have hrun' : outcome = _ := hrun
      simp [hrun', h]
  refine ⟨?_, ?_, ?_, ?_⟩
  · intro n
    rw [haccepted, hadmits, and_assoc, and_assoc]
  · intro n hn
    have h := ((haccepted n).1 hn).1
    have hrun : outcome = _ := run_assign_of_admits hs hreach hmax h
    rw [hrun]
    refine ⟨?_, gs, hgs, hgs.assign _ _ (pos_of_check h.check) ((hgs.unassigned_iff hids).1 h.groups).2⟩
    intro t ht
    rw [perform_assignCall]
    exact Store.rows_afterUpdate_of_ne ht
  · intro hcheck id hmissing
    obtain ⟨groups, -, hrun⟩ := run_assign_eq ⟨config.supply, max⟩ hgs hids hmax user a
    rw [hcheck, hmissing] at hrun
    exact hrun
  · intro max' a' hmax' hbusiness hsame hcheck
    exact run_assign_of_same_ids hs hreach hmax hmax' hbusiness hsame hcheck

/-- The group that was created is assigned once although it is named twice, and a job that names another
group first is refused for that one. -/
theorem web_is_assigned :
    let config : Store.Config := ⟨Supply.strokes, 500⟩
    let s := play config [.creation] .empty
    ((assign 1 "bob" ⟨5, ["|", "|"]⟩).run ⟨Supply.strokes, 1⟩ s).1 = .ok 1 ∧
      ((assign 1 "bob" ⟨5, ["|", "|"]⟩).run ⟨Supply.strokes, 1⟩ s).2 =
        ((assign 2 "bob" ⟨5, ["|"]⟩).run ⟨Supply.strokes, 2⟩ s).2 ∧
      (assign 1 "bob" ⟨5, ["||", "|"]⟩).run ⟨Supply.strokes, 1⟩ s =
        (.error (.notFound .group "||"), s) := by
  intro config s
  have hassign := fun a max => @groups_are_assigned_together config s Supply.injective_strokes
    (reachable_play config [.creation]) "bob" a max
  have hgroups : (s.group? "|").map Group.business = some Group.unassigned ∧
      (s.group? "||").isNone = true := by decide +kernel
  obtain ⟨g, hg, hfree⟩ := Option.map_eq_some_iff.1 hgroups.1
  refine ⟨((hassign ⟨5, ["|", "|"]⟩ 1 (by decide)).1 1).2 ⟨rfl, by decide, ?_, by decide⟩, ?_, ?_⟩
  · simpa using ⟨g, hg, hfree⟩
  · exact ((hassign ⟨5, ["|"]⟩ 2 (by decide)).2.2.2 1 ⟨5, ["|", "|"]⟩ (by decide) rfl
      (by simp) (iff_of_true rfl rfl)).2
  · refine (hassign ⟨5, ["||", "|"]⟩ 1 (by decide)).2.2.1 rfl "||" ?_
    rw [List.find?_cons, hgroups.2]

end

end SecurityGroups
