/-
SecurityGroups/Proofs/RuleCreation.lean

Which rules can be created, and what is stored then.

A creation asks for rules in one direction (`RuleCreation.toward`).  Its new
entries have to pass the check of new entries, and what they take over from
their group always does, so whether a creation is accepted depends on the rules,
on the user and on the cloud of the group alone (`createRules_accepts`).  The
rules that it stores are found after the old ones of the group, in the order of
the request (`created_rules_follow`).
-/
import SecurityGroups.Proofs.Completion
import SecurityGroups.Proofs.EntryChecks

namespace SecurityGroups

open Service

/-! ### Requests -/

namespace RuleCreation

variable {R : Type}

/-- Asks for some rules in one direction. -/
def toward (direction : Direction) (rules : List R) : RuleCreation R :=
  match direction with
  | .egress => { egress := rules }
  | .ingress => { ingress := rules }

theorem rules_toward (direction : Direction) (rules : List R) :
    (toward direction rules).rules = rules := by
  cases direction with
  | egress => cases rules <;> rfl
  | ingress => rfl

theorem direction?_toward (direction : Direction) {rules : List R} (h : rules ≠ []) :
    (toward direction rules).direction? = some direction := by
  cases rules with
  | nil => exact absurd rfl h
  | cons rule rules => cases direction <;> rfl

/-- A creation asks for rules in one direction when exactly one of its two sets holds rules. -/
theorem exists_toward_iff {c : RuleCreation R} {P : Direction → R → Prop} :
    (∃ direction rules, rules ≠ [] ∧ c = toward direction rules ∧
      ∀ rule ∈ rules, P direction rule) ↔
      (c.egress = [] ↔ c.ingress ≠ []) ∧ (∀ rule ∈ c.egress, P .egress rule) ∧
        ∀ rule ∈ c.ingress, P .ingress rule := by
  obtain ⟨egress, ingress⟩ := c
  constructor
  · rintro ⟨direction, rules, hne, hc, hP⟩
    cases direction with
    | egress =>
      cases hc
      exact ⟨by simp [hne], hP, by simp⟩
    | ingress =>
      cases hc
      exact ⟨by simp [hne], by simp, hP⟩
  · rintro ⟨hone, hegress, hingress⟩
    by_cases hempty : egress = []
    · subst hempty
      exact ⟨.ingress, ingress, hone.1 rfl, rfl, hingress⟩
    · obtain rfl : ingress = [] := by
        by_contra hne
        exact hempty (hone.2 hne)
      exact ⟨.egress, egress, hempty, rfl, hegress⟩

theorem envelopeCheck_eq_ok {c : RuleCreation R} :
    c.envelopeCheck = .ok () ↔ (c.egress = [] ↔ c.ingress ≠ []) := by
  obtain ⟨egress, ingress⟩ := c
  cases egress <;> cases ingress <;> simp [envelopeCheck, Verdict.provided, Verdict.first]

theorem check_eq_ok [Shape R] {c : RuleCreation R} : c.check = .ok () ↔
    ∃ direction rules, rules ≠ [] ∧ c = toward direction rules ∧
      ∀ rule ∈ rules, Shape.check rule = .ok () := by
  have hone : (c.egress = [] ↔ c.ingress ≠ []) ↔
      ∃ direction rules, rules ≠ [] ∧ c = toward direction rules := by
    simpa using (exists_toward_iff (c := c) (P := fun _ _ => True)).symm
  rw [check, Verdict.first_cons_eq_ok, Verdict.first_cons_eq_ok, envelopeCheck_eq_ok, hone,
    Check.each_eq_ok]
  constructor
  · rintro ⟨⟨direction, rules, hne, rfl⟩, hrules, -⟩
    rw [rules_toward] at hrules
    exact ⟨direction, rules, hne, rfl, hrules⟩
  · rintro ⟨direction, rules, hne, rfl, hrules⟩
    refine ⟨⟨direction, rules, hne, rfl⟩, ?_, rfl⟩
    rw [rules_toward]
    exact hrules

end RuleCreation

section

variable {config : Store.Config} {s s' : Store} {limit : UInt32} {user groupId : String}

/-! ### Acceptance -/

/-- **New rules are stored** exactly when they are asked for in one direction, the group is there and
belongs to the cloud, and the rules and the entries that are made of them pass their checks. -/
theorem Service.run_createRules_toward {R : Type} [Shape R] [LawfulShape R] (h : s.Readable)
    {creation : RuleCreation R} {ids : List String} :
    (createRules limit user groupId creation).run config s = (.ok ids, s') ↔
      ∃ direction rules, rules ≠ [] ∧ creation = .toward direction rules ∧
        (∀ rule ∈ rules, Shape.check rule = .ok ()) ∧ 0 < config.maxLimit ∧
        ∃ owner, s.group? groupId = some owner ∧ owner.vendor = some (Shape.vendor R) ∧
          (∀ rule ∈ rules, Entity.insertCheck (newEntry user owner direction rule) = .ok ()) ∧
          ids = s.nextIds config.supply rules.length ∧
          s' = s.afterInsert config.supply (Entity.table (RuleEntry R)) (Entity.schema (RuleEntry R))
            ((rules.map (newEntry user owner direction)).map Entity.toRow) := by
  rw [run_createRules_eq_ok h, RuleCreation.check_eq_ok]
  constructor
  · rintro ⟨⟨direction, rules, hne, rfl, hrules⟩, direction', hdirection, hstored⟩
    rw [RuleCreation.direction?_toward direction hne] at hdirection
    cases hdirection
    rw [RuleCreation.rules_toward] at hstored
    exact ⟨direction, rules, hne, rfl, hrules, hstored⟩
  · rintro ⟨direction, rules, hne, rfl, hrules, hstored⟩
    refine ⟨⟨direction, rules, hne, rfl, hrules⟩, direction,
      RuleCreation.direction?_toward direction hne, ?_⟩
    rw [RuleCreation.rules_toward]
    exact hstored

/-- What a group that is stored hands on to its rules passes their checks. -/
theorem Store.Reachable.insertCheck_newEntry (hreach : s.Reachable config)
    (hids : ∀ n < s.issued, config.supply.id n ≠ "" ∧ (config.supply.id n).length ≤ 64)
    {owner : Group} (howner : s.group? groupId = some owner) {R : Type} [Shape R]
    {direction : Direction} {rule : R} :
    Entity.insertCheck (newEntry user owner direction rule) = .ok () ↔
      Shape.check rule = .ok () ∧ Shape.declared rule ≠ some direction.opposite ∧
        1 ≤ user.length ∧ user.length ≤ Naming.userMaxLength := by
  obtain ⟨gs, hgs, hsound⟩ := hreach.readable.exists_groups
  have hmem := hgs.mem_of_group? howner
  -- its id was given out by the supply
  obtain ⟨n, hn, howned⟩ := hreach.id_of_supply (hgs.toRow_mem hmem)
  rw [Group.get?_id_toRow, Option.some.injEq, Cell.string.injEq] at howned
  obtain ⟨hid, hlength⟩ := hids n hn
  rw [← howned] at hid hlength
  exact RuleEntry.insertCheck_newEntry hid hlength (hsound owner hmem).1.accountId
    (hsound owner hmem).2

/-- **Which rules can be created.**  Where the ids given out so far are neither empty nor longer than
64 characters, a creation is accepted exactly when one of its two sets holds rules and the other does
not, every rule passes its own check and declares no other direction, the group is there and belongs
to the cloud, and the user has between 1 and 64 characters.  Nothing else that is stored of the group
matters. -/
theorem createRules_accepts (hreach : s.Reachable config)
    (hids : ∀ n < s.issued, config.supply.id n ≠ "" ∧ (config.supply.id n).length ≤ 64)
    (hlimit : 0 < config.maxLimit) (c : RuleCloud) (limit : UInt32) (user groupId : String)
    (creation : RuleCreation c.Rule) :
    (∃ ids, ((createRules limit user groupId creation).run config s).1 = .ok ids) ↔
      (creation.egress = [] ↔ creation.ingress ≠ []) ∧
      (∀ rule ∈ creation.egress,
        Shape.check rule = .ok () ∧ Shape.declared rule ≠ some .ingress) ∧
      (∀ rule ∈ creation.ingress,
        Shape.check rule = .ok () ∧ Shape.declared rule ≠ some .egress) ∧
      (∃ owner, s.group? groupId = some owner ∧ owner.vendor = some c.vendor) ∧
      1 ≤ user.length ∧ user.length ≤ 64 := by
  have hsides := RuleCreation.exists_toward_iff (c := creation)
    (P := fun direction rule => Shape.check rule = .ok () ∧
      Shape.declared rule ≠ some direction.opposite)
  have hregroup : ∀ {p q r t : Prop}, p ∧ q ∧ r ∧ t ↔ (p ∧ q ∧ r) ∧ t := by tauto
  refine Iff.trans ?_ ((and_congr_left' hsides).trans hregroup.symm)
  constructor
  · rintro ⟨ids, hrun⟩
    obtain ⟨direction, rules, hne, rfl, -, -, owner, howner, hvendor, hchecks, -, -⟩ :=
      (run_createRules_toward hreach.readable).1 (Prod.ext hrun rfl)
    rw [c.vendor_eq] at hvendor
    have hentries : ∀ rule ∈ rules, _ := fun rule hrule =>
      (hreach.insertCheck_newEntry hids howner).1 (hchecks rule hrule)
    -- there is a rule, and its check is about the user, too
    obtain ⟨rule, hrule⟩ := List.exists_mem_of_ne_nil rules hne
    exact ⟨⟨direction, rules, hne, rfl, fun rule hrule =>
      ⟨(hentries rule hrule).1, (hentries rule hrule).2.1⟩⟩, ⟨owner, howner, hvendor⟩,
      (hentries rule hrule).2.2⟩
  · rintro ⟨⟨direction, rules, hne, rfl, hrules⟩, ⟨owner, howner, hvendor⟩, huser⟩
    rw [← c.vendor_eq] at hvendor
    refine ⟨_, congrArg Prod.fst ((run_createRules_toward hreach.readable).2
      ⟨direction, rules, hne, rfl, fun rule hrule => (hrules rule hrule).1, hlimit, owner, howner,
        hvendor, ?_, rfl, rfl⟩)⟩
    intro rule hrule
    obtain ⟨hcheck, hdeclared⟩ := hrules rule hrule
    exact (hreach.insertCheck_newEntry hids howner).2 ⟨hcheck, hdeclared, huser⟩

/-- The group that `Job.creation` has created takes a rule in one direction, but not in both. -/
theorem createRules_accepts_ssh :
    let config : Store.Config := ⟨Supply.strokes, 500⟩
    let s := play config [.creation] .empty
    let ssh : Aws.Rule := { fromPort := 22, toPort := 22 }
    (∃ ids, ((createRules 500 "ann" "|" { ingress := [ssh] }).run config s).1 = .ok ids) ∧
      ¬ ∃ ids, ((createRules 500 "ann" "|" { egress := [ssh], ingress := [ssh] }).run config s).1 =
        .ok ids := by
  intro config s ssh
  have hids : ∀ n < s.issued, config.supply.id n ≠ "" ∧ (config.supply.id n).length ≤ 64 := by
    decide +kernel
  have hvendor : (s.group? "|").map Group.vendor = some (some .aws) := by decide +kernel
  have haccepts := createRules_accepts (reachable_play config [.creation]) hids (by decide) .aws 500
    "ann" "|"
  constructor
  · refine (haccepts { ingress := [ssh] }).2 ⟨by decide, by decide, ?_, ?_, by decide, by decide⟩
    · intro rule hrule
      rw [List.mem_singleton.1 hrule]
      exact ⟨rfl, by decide⟩
    · exact Option.map_eq_some_iff.1 hvendor
  · intro h
    exact absurd ((haccepts { egress := [ssh], ingress := [ssh] }).1 h).1 (by decide)

/-! ### Contents -/

/-- A rule of a group as it is read back after it was created: the group has made it its own, and the
direction of the request stands for the one that the rule may have declared. -/
def RuleEntry.created {R : Type} [Shape R] [LawfulShape R] (user : String) (owner : Group)
    (direction : Direction) (now : Instant) (id : String) (rule : R) : RuleEntry R where
  id := id
  cloudId := ""
  groupId := owner.id
  cloudGroupId := owner.cloudId
  accountId := owner.accountId
  region := owner.region
  direction := some direction
  rule := LawfulShape.undeclared rule
  audit := { creator := user, reviser := user, createdAt := some now, updatedAt := some now }

/-- New rules of a group come after those that it had. -/
theorem Store.Holds.rulesOf_append {c : RuleCloud} {es new : List (RuleEntry c.Rule)}
    (h : s.Holds es) (h' : s'.Holds (es ++ new)) (hown : ∀ e ∈ new, e.groupId = groupId) :
    s'.rulesOf c groupId = s.rulesOf c groupId ++ new.map Entity.toRow := by
  have hnew : new.filter (·.groupId = groupId) = new :=
    List.filter_eq_self.2 fun e he => decide_eq_true (hown e he)
  rw [h'.rulesOf_eq, List.filter_append, hnew, List.map_append, h.rulesOf_eq]

/-- **Created rules follow those that were there before.**  A creation that is accepted answers one
id for each rule.  The rules of the group are those that it had before and then, in the order of the
request, one for each rule: it has the id that was answered, what it takes over from the group, the
direction in which it was asked for, and the user and the time of the call.  No other row changes. -/
theorem created_rules_follow (hreach : s.Reachable config) (c : RuleCloud) (limit : UInt32)
    (user groupId : String) (creation : RuleCreation c.Rule) (ids : List String)
    (hrun : (createRules limit user groupId creation).run config s = (.ok ids, s')) :
    ∃ owner direction rules, s.group? groupId = some owner ∧ rules ≠ [] ∧
      creation = .toward direction rules ∧ ids.length = rules.length ∧
      (∃ old, Entity.ofRows (s.rulesOf c groupId) = .ok old ∧
        Entity.ofRows (s'.rulesOf c groupId) = .ok (old ++ List.zipWith
          (RuleEntry.created user owner direction (config.supply.clock s.ticks)) ids rules)) ∧
      (∀ t ≠ c.table, s'.rows t = s.rows t) ∧
      ∃ new, s'.rows c.table = s.rows c.table ++ new ∧
        s'.rulesOf c groupId = s.rulesOf c groupId ++ new ∧ new.length = ids.length := by
  obtain ⟨direction, rules, hne, hcreation, -, -, owner, howner, -, -, hids, hstore⟩ :=
    (run_createRules_toward hreach.readable).1 hrun
  obtain ⟨es, hes, -⟩ := hreach.readable.exists_entries c
  have hlength : ids.length = rules.length := by
    rw [hids, Store.nextIds, List.length_map, List.length_range]
  have hafter : (s.afterInsert config.supply _ _ _).Holds _ :=
    hes.insert (rules.map (newEntry user owner direction))
  rw [List.length_map, List.zipWith_map_right, ← hids, ← hstore] at hafter
  generalize hnew : List.zipWith (fun id rule => LawfulEntity.stamp id
    (config.supply.clock s.ticks) (newEntry user owner direction rule)) ids rules = new at hafter
  have hcreated : new.map LawfulEntity.normal = List.zipWith
      (RuleEntry.created user owner direction (config.supply.clock s.ticks)) ids rules := by
    rw [← hnew, List.map_zipWith]
    rfl
  have hrows : s'.rows c.table = s.rows c.table ++ new.map Entity.toRow := by
    rw [hafter.rows_table, List.map_append, hes.rows_table]
  have hrules : s'.rulesOf c groupId = s.rulesOf c groupId ++ new.map Entity.toRow := by
    refine hes.rulesOf_append hafter ?_
    intro e he
    rw [← hnew] at he
    obtain ⟨i, hi, rfl⟩ := List.getElem_of_mem he
    rw [List.getElem_zipWith]
    exact Store.id_of_group? howner
  refine ⟨owner, direction, rules, howner, hne, hcreation, hlength, ?_, ?_, new.map Entity.toRow,
    hrows, hrules, ?_⟩
  · refine ⟨_, (hes.rulesOf_eq groupId).symm ▸ Entity.ofRows_toRow _, ?_⟩
    rw [hrules, hes.rulesOf_eq groupId, ← List.map_append, Entity.ofRows_toRow, List.map_append,
      hcreated]
  · intro t ht
    rw [hstore]
    exact Store.rows_afterInsert_of_ne ht
  · rw [← hnew, List.length_map, List.length_zipWith, hlength, Nat.min_self]

/-- A rule that is created in the group that `Job.creation` has created comes after those that it
had. -/
theorem created_rules_follow_ssh :
    let config : Store.Config := ⟨Supply.strokes, 500⟩
    let s := play config [.creation] .empty
    let ssh : Aws.Rule := { fromPort := 22, toPort := 22 }
    ∃ owner old, s.group? "|" = some owner ∧ Entity.ofRows (s.rulesOf .aws "|") = .ok old ∧
      Entity.ofRows (((createRules 500 "ann" "|" { ingress := [ssh] }).run config s).2.rulesOf .aws
        "|") = .ok (old ++ [RuleEntry.created "ann" owner .ingress (config.supply.clock s.ticks) "||"
          ssh]) := by
  intro config s ssh
  have hids : ((createRules 500 "ann" "|" { ingress := [ssh] }).run config s).1.toOption =
      some ["||"] := by decide +kernel
  obtain ⟨owner, direction, rules, howner, hne, hcreation, -, ⟨old, hold, hnew⟩, -⟩ :=
    created_rules_follow (reachable_play config [.creation]) .aws 500 "ann" "|" _ _
      (Action.run_eq_ok_of_toOption hids)
  cases direction with
  | egress => exact absurd (congrArg RuleCreation.egress hcreation).symm hne
  | ingress =>
    obtain rfl : [ssh] = rules := congrArg RuleCreation.ingress hcreation
    exact ⟨owner, old, howner, hold, hnew⟩

end

end SecurityGroups
