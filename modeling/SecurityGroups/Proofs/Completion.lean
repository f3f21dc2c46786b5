/-
SecurityGroups/Proofs/Completion.lean

When an operation is not refused, and what it has done then.

An action is taken apart step by step (`Action.run_bind_eq_ok`): it ends well
exactly when each of its steps does.  Of the calls to the store, those that
write entities are never refused (`Action.run_insert`, `Action.run_update`), and
a lookup of one entity is refused only by a store that allows no page at all
(`Action.run_first`).  What is left are the checks, so for each operation there
is an equivalence that names its checks and the store that it leaves.
-/
import SecurityGroups.Proofs.Reachability

namespace SecurityGroups

/-- A page of one row is refused only where no page is allowed. -/
theorem Page.check_ofRange_one (max : UInt32) : (Page.ofRange 0 1).check max =
    if 0 < max then .ok () else .error (.limitTooLarge max 1) := by
  have hsmall : max < 1 ↔ ¬ 0 < max := by
    rw [UInt32.lt_iff_toNat_lt, UInt32.lt_iff_toNat_lt]
    show max.toNat < 1 ↔ ¬ 0 < max.toNat
    omega
  show (if max < 1 then Except.error (PageError.limitTooLarge max 1) else .ok ()) = _
  by_cases hmax : 0 < max
  · rw [if_neg (hsmall.not.2 (not_not.2 hmax)), if_pos hmax]
  · rw [if_pos (hsmall.2 hmax), if_neg hmax]

/-! ### Steps -/

namespace Action

variable {α β : Type} {config : Store.Config} {s s' : Store}

/-- An action in two parts ends well exactly when both parts do. -/
theorem run_bind_eq_ok {action : Action α} {next : α → Action β} {y : β} :
    (action >>= next).run config s = (.ok y, s') ↔
      ∃ x mid, action.run config s = (.ok x, mid) ∧ (next x).run config mid = (.ok y, s') := by
  rw [run_bind]
  rcases action.run config s with ⟨e | x, mid⟩
  · simp
  · simp

/-- What is demanded first has to be fine, and changes nothing. -/
theorem run_demand_bind_eq_ok {v : Verdict} {next : Unit → Action β} {y : β} :
    (demand v >>= next).run config s = (.ok y, s') ↔
      v = .ok () ∧ (next ()).run config s = (.ok y, s') := by
  rw [run_bind]
  cases v with
  | error v => simp
  | ok _ =>
    show (next ()).run config s = _ ↔ _
    simp

theorem run_pure_eq_ok {x y : α} :
    (pure x : Action α).run config s = (.ok y, s') ↔ y = x ∧ s' = s := by
  rw [run_pure, Prod.mk.injEq, Except.ok.injEq, eq_comm, eq_comm (a := s)]

/-- An action that answers has left a store. -/
theorem run_eq_ok_of_toOption {action : Action α} {x : α}
    (h : (action.run config s).1.toOption = some x) :
    action.run config s = (.ok x, (action.run config s).2) := by
  rcases hrun : action.run config s with ⟨e | y, s'⟩
  · rw [hrun] at h
    cases h
  · rw [hrun] at h
    obtain rfl : y = x := Option.some.inj h
    rfl

/-- An action that is mapped ends well exactly when it does. -/
theorem run_map_eq_ok {action : Action α} {f : α → β} {y : β} :
    (f <$> action).run config s = (.ok y, s') ↔ ∃ x, action.run config s = (.ok x, s') ∧ y = f x := by
  rw [map_eq_pure_bind, run_bind_eq_ok]
  simp only [run_pure_eq_ok]
  constructor
  · rintro ⟨x, _, hrun, rfl, rfl⟩
    exact ⟨x, hrun, rfl⟩
  · rintro ⟨x, hrun, rfl⟩
    exact ⟨x, s', hrun, rfl, rfl⟩

/-! ### Calls -/

variable [Entity α] [LawfulEntity α] {es : List α} {filter : Filter}

/-- New entities are stored, whatever they are. -/
theorem run_insert (new : List α) : (Action.insert α new).run config s =
    (.ok (s.nextIds config.supply new.length),
      s.afterInsert config.supply (Entity.table α) (Entity.schema α) (new.map Entity.toRow)) := by
  have hfit : ∀ row ∈ new.map Entity.toRow, row.Fits (Entity.schema α) := by
    intro row hrow
    obtain ⟨e, -, rfl⟩ := List.mem_map.1 hrow
    exact LawfulEntity.fits_toRow e
  rw [Action.insert, run_call, Store.perform_insert hfit, List.length_map]
  rfl

omit [LawfulEntity α] in
/-- An update is carried out, if its filter and its values are about columns of the table. -/
theorem run_update (config : Store.Config) {values : Row}
    (hfields : ∀ f ∈ filter.fields, (Entity.schema α).contains f = true)
    (hdecides : filter.Decides (s.rows (Entity.table α))) (hfit : values.Fits (Entity.schema α))
    (hid : values.get? "id" = none) : (Action.update α filter values).run config s =
      (.ok ((s.rows (Entity.table α)).countP filter.passes),
        s.afterUpdate config.supply (Entity.table α) (Entity.schema α) filter values) := by
  rw [Action.update, run_call, Store.perform_update hfields hfit hid hdecides]
  rfl

omit [LawfulEntity α] in
/-- An update that comes last changes the store as it says. -/
theorem run_update_eq_ok {values : Row} {x : Unit}
    (hfields : ∀ f ∈ filter.fields, (Entity.schema α).contains f = true)
    (hdecides : filter.Decides (s.rows (Entity.table α))) (hfit : values.Fits (Entity.schema α))
    (hid : values.get? "id" = none) :
    (Action.update α filter values >>= fun _ => pure ()).run config s = (.ok x, s') ↔
      s' = s.afterUpdate config.supply (Entity.table α) (Entity.schema α) filter values := by
  rw [run_bind, run_update config hfields hdecides hfit hid]
  exact run_pure_eq_ok.trans (and_iff_right rfl)

omit [Entity α] [LawfulEntity α] in
/-- A listing leaves the store as it is. -/
theorem run_call_list (t : TableName) (schema : Schema) (filter : Filter) (page : Page) :
    (call (.list t schema filter page)).run config s =
      ((s.list config.maxLimit t schema filter page).mapError .store, s) := rfl

/-- **A page of the entities that pass** has them in the order of the store, up to its limit. -/
theorem run_page (h : s.Holds es) {limit : UInt32}
    (hcheck : (Page.ofRange 0 limit).check config.maxLimit = .ok ())
    (hfields : ∀ f ∈ filter.fields, (Entity.schema α).contains f = true)
    (hdecides : filter.Decides (s.rows (Entity.table α))) :
    (Action.list α filter (.ofRange 0 limit)).run config s =
      (.ok (none, ((es.filter fun e => filter.passes (Entity.toRow e)).take limit.toNat).map
        LawfulEntity.normal), s) := by
  have hcut : Page.cut (.ofRange 0 limit) ((s.rows (Entity.table α)).filter filter.passes) =
      ((es.filter fun e => filter.passes (Entity.toRow e)).take limit.toNat).map Entity.toRow := by
    show ((s.rows (Entity.table α)).filter filter.passes).take limit.toNat = _
    rw [h, List.filter_map, List.map_take]
    rfl
  have hlist : s.list config.maxLimit (Entity.table α) (Entity.schema α) filter (.ofRange 0 limit) =
      .ok ⟨none, ((es.filter fun e => filter.passes (Entity.toRow e)).take limit.toNat).map
        Entity.toRow⟩ :=
    Store.list_eq_ok.2 ⟨hcheck, hfields, rfl, hdecides, by rw [← hcut]; rfl⟩
  rw [Action.list, run_bind, run_call_list, hlist]
  simp only [Except.mapError, run_bind, decode, run_ofExcept, Entity.ofRows_toRow, run_pure]

/-- **A lookup of one entity** finds the first that passes, unless the store allows no page. -/
theorem run_first (config : Store.Config) (h : s.Holds es)
    (hfields : ∀ f ∈ filter.fields, (Entity.schema α).contains f = true)
    (hdecides : filter.Decides (s.rows (Entity.table α))) :
    (Action.list α filter (.ofRange 0 1)).run config s =
      if 0 < config.maxLimit then
        (.ok (none, ((es.find? fun e => filter.passes (Entity.toRow e)).map
          LawfulEntity.normal).toList), s)
      else (.error (.store (.page (.limitTooLarge config.maxLimit 1))), s) := by
  have hcheck := Page.check_ofRange_one config.maxLimit
  by_cases hlimit : 0 < config.maxLimit
  · rw [if_pos hlimit] at hcheck ⊢
    have hone : (1 : UInt32).toNat = 1 := rfl
    rw [run_page h hcheck hfields hdecides, hone, List.take_one, List.head?_filter,
      ← Option.toList_map]
  · rw [if_neg hlimit] at hcheck ⊢
    have hlist : s.list config.maxLimit (Entity.table α) (Entity.schema α) filter (.ofRange 0 1) =
        .error (.page (.limitTooLarge config.maxLimit 1)) := by
      rw [Store.list, hcheck]
      rfl
    rw [Action.list, run_bind, run_call_list, hlist]
    rfl

end Action

/-! ### Batches -/

theorem Batch.split_singleton {α : Type} (size : Nat) (x : α) : Batch.split size [x] = [[x]] := by
  rw [Batch.split, List.take_nil, List.drop_nil, Batch.split]

/-! ### Filters of the service -/

/-- A test of the ids of groups is about a column of theirs. -/
theorem Group.contains_fields_oneOfTexts (ids : List String) :
    ∀ f ∈ (Service.oneOfTexts "id" ids).fields, (Entity.schema Group).contains f = true := by
  have hid : (Entity.schema Group).contains "id" = true := by decide
  simpa [Service.oneOfTexts, Filter.oneOf, Filter.allOf, Filter.fields, Clause.fieldsOfAll,
    Clause.fields] using hid

theorem Group.contains_fields_equal (id : String) :
    ∀ f ∈ (Filter.equal "id" (.str id)).fields, (Entity.schema Group).contains f = true := by
  have hid : (Entity.schema Group).contains "id" = true := by decide
  simpa [Filter.equal, Filter.allOf, Filter.fields, Clause.fieldsOfAll, Clause.fields] using hid

/-- A filter by columns that the entries of every cloud have is about columns of theirs. -/
theorem RuleEntry.contains_fields_of_own {R : Type} [Shape R] [LawfulShape R] {filter : Filter}
    (hown : ∀ f ∈ filter.fields, f ∈ RuleEntry.ownNames) :
    ∀ f ∈ filter.fields, (Entity.schema (RuleEntry R)).contains f = true := fun f hf =>
  LawfulEntity.contains_iff.2 (RuleEntry.names_of_mem_ownNames (hown f hf))

theorem RuleEntry.contains_fields_ruleOfGroup {R : Type} [Shape R] [LawfulShape R]
    (groupId ruleId : String) : ∀ f ∈ (Service.ruleOfGroup groupId ruleId).fields,
      (Entity.schema (RuleEntry R)).contains f = true := by
  refine RuleEntry.contains_fields_of_own ?_
  simp [Service.ruleOfGroup, Filter.adding, Filter.equal, Filter.allOf, Filter.fields,
    Clause.fieldsOfAll, Clause.fields, RuleEntry.ownNames]

/-! ### Operations -/

/-- A group in the name of the user who creates it. -/
def Group.createdBy (user : String) (g : Group) : Group :=
  { g with audit := { g.audit with creator := user, reviser := user } }

namespace Service

variable {α : Type} {config : Store.Config} {s s' : Store} {limit : UInt32} {user : String}

/-- One id makes one batch, and one batch makes one page. -/
theorem load_singleton (limit : UInt32) (id : String) : load limit [id] = do
    let page ← Action.list Group (oneOfTexts "id" [id]) (.ofRange 0 1)
    return page.2 ++ (← pure []) := by
  rw [load, List.eraseDups_cons, List.filter_nil, List.eraseDups_nil, Batch.split_singleton]
  rfl

/-- **To load a group by its id** answers the group of the id, unless the store allows no page. -/
theorem run_group (h : s.Readable) (limit : UInt32) (id : String) :
    (group limit id).run config s =
      (if 0 < config.maxLimit then
        (s.group? id).elim (.error (.notFound .group id)) .ok
      else .error (.store (.page (.limitTooLarge config.maxLimit 1))), s) := by
  obtain ⟨gs, hgs, -⟩ := h.exists_groups
  have hpasses : ∀ g : Group, (oneOfTexts "id" [id]).passes (Entity.toRow g) = decide (g.id = id) := by
    intro g
    simp [passes_oneOfTexts_of_text g.get?_id_toRow]
  have hfirst := Action.run_first config hgs (Group.contains_fields_oneOfTexts [id])
    (decides_oneOfTexts _ _ _)
  rw [group, load_singleton, hgs.group?_eq]
  simp only [bind_assoc, Action.run_bind, hfirst, hpasses]
  by_cases hlimit : 0 < config.maxLimit
  · rw [if_pos hlimit, if_pos hlimit]
    cases gs.find? (·.id = id) with
    | none => rfl
    | some g => rfl
  · rw [if_neg hlimit, if_neg hlimit]

/-- An action that loads a group first goes on only if the group is there. -/
theorem run_group_bind_eq_ok (h : s.Readable) {id : String} {next : Group → Action α} {y : α} :
    (group limit id >>= next).run config s = (.ok y, s') ↔
      0 < config.maxLimit ∧ ∃ g, s.group? id = some g ∧ (next g).run config s = (.ok y, s') := by
  rw [Action.run_bind, run_group h]
  by_cases hlimit : 0 < config.maxLimit
  · rw [if_pos hlimit]
    cases s.group? id with
    | none => simp
    | some g => simp [hlimit]
  · simp [hlimit]

/-- An action about the rules of a cloud goes on only if the group belongs to the cloud. -/
theorem run_groupOf_bind_eq_ok (h : s.Readable) {vendor : Vendor} {id : String}
    {next : Group → Action α} {y : α} :
    (groupOf vendor limit id >>= next).run config s = (.ok y, s') ↔
      0 < config.maxLimit ∧ ∃ g, s.group? id = some g ∧ g.vendor = some vendor ∧
        (next g).run config s = (.ok y, s') := by
  simp only [groupOf, bind_assoc, pure_bind, run_group_bind_eq_ok h, Action.run_demand_bind_eq_ok,
    checkCloud_eq_ok]

/-! #### Groups -/

/-- **A new group is stored** exactly when it passes the check of new groups, in the name of its
user. -/
theorem run_createGroup_eq_ok {new : Group} {id : String} :
    (createGroup user new).run config s = (.ok id, s') ↔
      Entity.insertCheck (new.createdBy user) = .ok () ∧ id = config.supply.id s.issued ∧
        s' = s.afterInsert config.supply (Entity.table Group) (Entity.schema Group)
          [Entity.toRow (new.createdBy user)] := by
  refine Action.run_demand_bind_eq_ok.trans (and_congr_right fun _ => ?_)
  rw [Action.run_bind, Action.run_insert]
  -- one row is stored, so one id is answered
  exact Action.run_pure_eq_ok

/-- **A group is changed** exactly when the change and what it would write pass their checks and the
group is there. -/
theorem run_updateGroup_eq_ok (h : s.Readable) {id : String} {c : GroupChange} {x : Unit} :
    (updateGroup limit user id c).run config s = (.ok x, s') ↔
      c.check = .ok () ∧ 0 < config.maxLimit ∧ ∃ current, s.group? id = some current ∧
        Entity.updateCheck (revision user current c) = .ok () ∧
          s' = s.afterUpdate config.supply (Entity.table Group) (Entity.schema Group)
            (.equal "id" (.str id)) (Entity.updateRow (revision user current c)) := by
  have hdecides := Filter.decides_of_holds (Filter.holds_equal "id" id) (s.rows (Entity.table Group))
  have hwrite : ∀ u : Group, (Action.update Group (.equal "id" (.str id)) (Entity.updateRow u) >>=
      fun _ => pure ()).run config s = (.ok x, s') ↔ _ := fun u =>
    Action.run_update_eq_ok (Group.contains_fields_equal id) hdecides u.fits_updateRow
      (Group.get?_updateRow_of_not_mem (by decide))
  simp only [updateGroup, Action.run_demand_bind_eq_ok, run_group_bind_eq_ok h, hwrite]

/-! #### Rules -/

variable {R : Type} [Shape R] [LawfulShape R]

/-- **New rules are stored** exactly when the creation passes its check, the group is there and
belongs to the cloud, and every new entry passes the check of new entries. -/
theorem run_createRules_eq_ok (h : s.Readable) {groupId : String} {c : RuleCreation R}
    {ids : List String} : (createRules limit user groupId c).run config s = (.ok ids, s') ↔
      c.check = .ok () ∧ ∃ direction, c.direction? = some direction ∧ 0 < config.maxLimit ∧
        ∃ owner, s.group? groupId = some owner ∧ owner.vendor = some (Shape.vendor R) ∧
          (∀ rule ∈ c.rules, Entity.insertCheck (newEntry user owner direction rule) = .ok ()) ∧
          ids = s.nextIds config.supply c.rules.length ∧
          s' = s.afterInsert config.supply (Entity.table (RuleEntry R)) (Entity.schema (RuleEntry R))
            ((c.rules.map (newEntry user owner direction)).map Entity.toRow) := by
  rw [createRules, Action.run_demand_bind_eq_ok]
  refine and_congr_right fun _ => ?_
  cases c.direction? with
  | none => simp
  | some direction =>
    simp only [run_groupOf_bind_eq_ok h, Action.run_demand_bind_eq_ok, Action.run_insert,
      List.length_map, Check.each_eq_ok, List.forall_mem_map, Prod.mk.injEq, Except.ok.injEq,
      Option.some.injEq, exists_eq_left', eq_comm (a := ids), eq_comm (a := s')]

/-- **A rule is updated** exactly when the update passes its check, the group is there and belongs
to the cloud, the rule is there, and what is written passes the check of updates. -/
theorem run_updateRule_eq_ok {U : Type} [Change U R] (h : s.Readable) {es : List (RuleEntry R)}
    (hes : s.Holds es) {groupId ruleId : String} {u : U} {x : Unit} :
    (updateRule limit user groupId ruleId u).run config s = (.ok x, s') ↔
      Change.check u = .ok () ∧ 0 < config.maxLimit ∧ ∃ owner, s.group? groupId = some owner ∧
        owner.vendor = some (Shape.vendor R) ∧
        ∃ e, (es.find? fun e => e.id = ruleId ∧ e.groupId = groupId) = some e ∧
          Entity.updateCheck (revisedEntry user e.direction
            (Change.apply u (LawfulShape.undeclared e.rule))) = .ok () ∧
          s' = s.afterUpdate config.supply (Entity.table (RuleEntry R)) (Entity.schema (RuleEntry R))
            (ruleOfGroup groupId ruleId) (Entity.updateRow (revisedEntry user e.direction
              (Change.apply u (LawfulShape.undeclared e.rule)))) := by
  have hfields := RuleEntry.contains_fields_ruleOfGroup (R := R) groupId ruleId
  have hdecides := Filter.decides_of_holds (holds_ruleOfGroup groupId ruleId)
    (s.rows (Entity.table (RuleEntry R)))
  have hwrite : ∀ update : RuleEntry R, (Action.update (RuleEntry R) (ruleOfGroup groupId ruleId)
      (Entity.updateRow update) >>= fun _ => pure ()).run config s = (.ok x, s') ↔ _ := fun update =>
    Action.run_update_eq_ok hfields hdecides (RuleEntry.fits_updateRow update)
      (RuleEntry.get?_own_updateRow update (by decide) (by decide))
  have hfirst := Action.run_first config hes hfields hdecides
  simp only [RuleEntry.passes_ruleOfGroup_toRow] at hfirst
  simp only [updateRule, Action.run_demand_bind_eq_ok, run_groupOf_bind_eq_ok h]
  refine and_congr_right fun _ => and_congr_right fun hlimit => exists_congr fun owner =>
    and_congr_right fun _ => and_congr_right fun _ => ?_
  rw [if_pos hlimit] at hfirst
  rw [Action.run_bind, hfirst]
  cases es.find? fun e => e.id = ruleId ∧ e.groupId = groupId with
  | none => simp
  | some e =>
    simp only [Option.map_some, Option.toList_some, List.head?_cons, Action.run_demand_bind_eq_ok,
      hwrite, Option.some.injEq, exists_eq_left']
    rfl

end Service

end SecurityGroups
