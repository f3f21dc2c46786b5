/-
SecurityGroups/Proofs/Operations.lean

One lemma for each operation of the service.

Every operation first reads and checks, and then makes the calls that write.
Each lemma says what is known when the writing starts: which rows will be
written, which checks they have passed, and what the groups that were loaded
tell about the store.  It holds under any discipline that lets the operation
read (`Discipline.Reads`), and leaves the calls that write to it.
-/
import SecurityGroups.Proofs.Clouds
import SecurityGroups.Proofs.Loading
import SecurityGroups.Service.Rules

namespace SecurityGroups.Service

section

variable {γ : Type} {d : Discipline γ} {config : Store.Config} {G : Store → Prop} {g : γ}
  {E : γ → ServiceError → Prop} {limit : UInt32} {user : String}

/-! ### Groups -/

theorem obeys_listGroups {q : GroupQuery} {Q : γ → GroupListing → Prop}
    (hr : d.Reads config G g) (hE : ∀ e, E g e) (hQ : ∀ listing, Q g listing) :
    (listGroups limit q).Obeys d g E Q := by
  refine Action.Obeys.bind (Q := fun g' _ => g' = g) (Action.obeys_demand hE fun _ => rfl) ?_
  rintro g' - rfl
  split
  · refine Action.Obeys.bind (Action.obeys_list hr hE) ?_
    rintro g'' ⟨count, groups⟩ ⟨rfl, -⟩
    exact Action.obeys_pure (hQ _)
  · exact Action.obeys_throw (hE _)

/-- A group is stored after it has passed the check of new groups, in the name of one user. -/
theorem obeys_createGroup {new : Group} {Q : γ → String → Prop} (hE : ∀ e, E g e)
    (hw : ∀ stored : Group, Entity.insertCheck stored = .ok () →
      stored.audit.reviser = stored.audit.creator →
      d.Allows g (.insert (Entity.table Group) (Entity.schema Group) [Entity.toRow stored])
        (Action.Answered E fun g' ids =>
          match ids.getLast? with
          | some id => Q g' id
          | none => E g' (.store (.backend "insert returned no id")))) :
    (createGroup user new).Obeys d g E Q := by
  refine Action.Obeys.bind (Q := fun g' _ => g' = g ∧
    Entity.insertCheck { new with audit := { new.audit with creator := user, reviser := user } } =
      .ok ()) (Action.obeys_demand hE fun h => ⟨rfl, h⟩) ?_
  rintro g' - ⟨rfl, hcheck⟩
  refine Action.Obeys.bind (Q := fun g'' ids =>
    match ids.getLast? with
    | some id => Q g'' id
    | none => E g'' (.store (.backend "insert returned no id"))) ?_ ?_
  · exact Action.obeys_call (hw _ hcheck rfl)
  · intro g'' ids hids
    cases hlast : ids.getLast? with
    | some id =>
      rw [hlast] at hids
      exact Action.obeys_pure hids
    | none =>
      rw [hlast] at hids
      exact Action.obeys_throw hids

/-- What a change writes has passed the check of updates, and names no business. -/
theorem obeys_updateGroup {id : String} {c : GroupChange} {Q : γ → Unit → Prop}
    (hr : d.Reads config G g) (hE : ∀ e, E g e)
    (hw : ∀ update : Group, Entity.updateCheck update = .ok () → update.business = 0 →
      d.Allows g (.update (Entity.table Group) (Entity.schema Group) (.equal "id" (.str id))
          (Entity.updateRow update)) (Action.Answered E fun g' _ => Q g' ())) :
    (updateGroup limit user id c).Obeys d g E Q := by
  refine Action.Obeys.bind (Q := fun g' _ => g' = g) (Action.obeys_demand hE fun _ => rfl) ?_
  rintro g' - rfl
  refine Action.Obeys.bind (obeys_group hr hE) ?_
  rintro g' current ⟨rfl, -, -⟩
  -- the loaded group only lends its cloud to the check of what is written
  refine Action.Obeys.bind (Q := fun g'' _ => g'' = g' ∧
    Entity.updateCheck (revision user current c) = .ok ())
    (Action.obeys_demand hE fun h => ⟨rfl, h⟩) ?_
  rintro g'' - ⟨rfl, hcheck⟩
  refine Action.Obeys.bind (Q := fun g' _ => Q g' ()) ?_ fun _ _ h => Action.obeys_pure h
  exact Action.obeys_call (hw _ hcheck rfl)

/-- Groups are assigned to a positive business. -/
theorem pos_of_check {a : Assignment} (h : a.check = .ok ()) : 0 < a.business := by
  simpa using Verdict.provided_eq_ok.1 (Verdict.first_cons_eq_ok.1 h).1

/-- At least one group is assigned. -/
theorem ids_ne_nil_of_check {a : Assignment} (h : a.check = .ok ()) : a.groupIds ≠ [] := by
  have hids := (Verdict.first_cons_eq_ok.1 (Verdict.first_cons_eq_ok.1 h).2).1
  simpa using Verdict.provided_eq_ok.1 hids

/-- The groups of an assignment, if all of them may be assigned: what an assignment does before it
writes. -/
def assignable (limit : UInt32) (user : String) (a : Assignment) : Action (List Group) := do
  Action.demand a.check
  let groups ← require limit a.groupIds
  Action.demand (Check.each groups (checkAssignable user a.business))
  return groups

/-- What an assignment does when it writes. -/
def assignAll (user : String) (a : Assignment) (groups : List Group) : Action Nat := do
  let affected ← Action.update Group (stillUnassigned a.groupIds)
    (Entity.updateRow (assigned user a.business))
  if affected = groups.length then return affected
  else throw (.violation (lostRace affected groups.length a.business))

theorem assign_eq (limit : UInt32) (user : String) (a : Assignment) :
    assign limit user a = assignable limit user a >>= assignAll user a := by
  simp only [assign, assignable, assignAll, bind_assoc, pure_bind]

/-- Only groups that were unassigned when they were loaded are assigned. -/
theorem obeys_assignable {a : Assignment} (hr : d.Reads config G g) (hE : ∀ e, E g e) :
    (assignable limit user a).Obeys d g E fun g' groups =>
      g' = g ∧ a.check = .ok () ∧ Required G a.groupIds groups ∧
        ∀ found ∈ groups, checkAssignable user a.business found = .ok () := by
  refine Action.Obeys.bind (Q := fun g' _ => g' = g ∧ a.check = .ok ())
    (Action.obeys_demand hE fun hcheck => ⟨rfl, hcheck⟩) ?_
  rintro g' - ⟨rfl, hcheck⟩
  refine Action.Obeys.bind (obeys_require hr hE) ?_
  rintro g' groups ⟨rfl, hgroups⟩
  -- all groups have been loaded before the first one is checked
  refine Action.Obeys.bind (Q := fun g'' _ => g'' = g' ∧
    ∀ found ∈ groups, checkAssignable user a.business found = .ok ())
    (Action.obeys_demand hE fun h => ⟨rfl, Check.each_eq_ok.1 h⟩) ?_
  rintro g'' - ⟨rfl, hassignable⟩
  exact Action.obeys_pure ⟨rfl, hcheck, hgroups, hassignable⟩

theorem obeys_assignAll {a : Assignment} {groups : List Group} {Q : γ → Nat → Prop}
    (h : d.Allows g (.update (Entity.table Group) (Entity.schema Group)
        (stillUnassigned a.groupIds) (Entity.updateRow (assigned user a.business)))
      (Action.Answered E fun g' n =>
        if n = groups.length then Q g' n
        else E g' (.violation (lostRace n groups.length a.business)))) :
    (assignAll user a groups).Obeys d g E Q := by
  refine Action.Obeys.bind (Action.obeys_call h) ?_
  intro g' n hn
  by_cases heq : n = groups.length
  · rw [if_pos heq] at hn
    rw [if_pos heq]
    exact Action.obeys_pure hn
  · rw [if_neg heq] at hn
    rw [if_neg heq]
    exact Action.obeys_throw hn

/-- Rules are deleted in one cloud after the other, as far as groups belong to it. -/
theorem deleteRules_cons (groups : List Group) (v : Vendor) (rest : List Vendor) :
    deleteRules groups (v :: rest) = (do
      if !(groups.filter (·.vendor = some v)).isEmpty then
        let _ ← deleteRulesOf ((groups.filter (·.vendor = some v)).map Group.id) v
      deleteRules groups rest) := rfl

/-- The groups of a deletion, if all of them are there: what a deletion does before it deletes. -/
def deletable (limit : UInt32) (deletion : Deletion) : Action (List Group) := do
  Action.demand deletion.check
  require limit deletion.ids

/-- What a deletion does when it deletes. -/
def deleteAll (deletion : Deletion) (tour : Vendor.Tour) (groups : List Group) : Action Nat := do
  deleteRules groups tour.stops
  Action.delete Group (oneOfTexts "id" deletion.ids)

theorem deleteGroups_eq (limit : UInt32) (deletion : Deletion) (tour : Vendor.Tour) :
    deleteGroups limit deletion tour = deletable limit deletion >>= deleteAll deletion tour := by
  simp only [deleteGroups, deletable, bind_assoc]
  rfl

/-- Groups are deleted after all of them have been found. -/
theorem obeys_deletable {deletion : Deletion} (hr : d.Reads config G g) (hE : ∀ e, E g e) :
    (deletable limit deletion).Obeys d g E fun g' groups =>
      g' = g ∧ Required G deletion.ids groups := by
  refine Action.Obeys.bind (Q := fun g' _ => g' = g) (Action.obeys_demand hE fun _ => rfl) ?_
  rintro g' - rfl
  exact obeys_require hr hE

/-! ### Rules -/

theorem checkCloud_eq_ok {vendor : Vendor} {owner : Group} :
    checkCloud vendor owner = .ok () ↔ owner.vendor = some vendor := by
  rw [checkCloud]
  cases owner.vendor with
  | none => simp
  | some v => simp [Verdict.provided_eq_ok]

theorem obeys_groupOf {vendor : Vendor} {id : String} (hr : d.Reads config G g)
    (hE : ∀ e, E g e) :
    (groupOf vendor limit id).Obeys d g E fun g' owner =>
      g' = g ∧ owner.id = id ∧ owner.vendor = some vendor ∧ ReadFrom G owner := by
  refine Action.Obeys.bind (obeys_group hr hE) ?_
  rintro g' owner ⟨rfl, hid, hread⟩
  refine Action.Obeys.bind (Q := fun g'' _ => g'' = g' ∧ owner.vendor = some vendor) ?_ ?_
  · exact Action.obeys_demand hE fun hcloud => ⟨rfl, checkCloud_eq_ok.1 hcloud⟩
  · rintro g'' - ⟨rfl, hvendor⟩
    exact Action.obeys_pure ⟨rfl, hid, hvendor, hread⟩

variable {R : Type} [Shape R]

theorem obeys_listRules {groupId : String} {q : RuleQuery} {Q : γ → RuleListing R → Prop}
    (hr : d.Reads config G g) (hE : ∀ e, E g e) (hQ : ∀ listing, Q g listing) :
    (listRules R limit groupId q).Obeys d g E Q := by
  refine Action.Obeys.bind (Q := fun g' _ => g' = g) (Action.obeys_demand hE fun _ => rfl) ?_
  rintro g' - rfl
  refine Action.Obeys.bind (obeys_groupOf hr hE) ?_
  rintro g' owner ⟨rfl, -⟩
  refine Action.Obeys.bind (Action.obeys_list hr hE) ?_
  rintro g'' ⟨count, entries⟩ ⟨rfl, -⟩
  exact Action.obeys_pure (hQ _)

/-- New rules belong to a group of their cloud and have passed the check of new entries. -/
theorem obeys_createRules {groupId : String} {c : RuleCreation R} {Q : γ → List String → Prop}
    (hr : d.Reads config G g) (hE : ∀ e, E g e)
    (hw : ∀ (owner : Group) (direction : Direction), owner.id = groupId →
      owner.vendor = some (Shape.vendor R) → ReadFrom G owner →
      (∀ rule ∈ c.rules, Entity.insertCheck (newEntry user owner direction rule) = .ok ()) →
      d.Allows g (.insert (Entity.table (RuleEntry R)) (Entity.schema (RuleEntry R))
          ((c.rules.map (newEntry user owner direction)).map Entity.toRow)) (Action.Answered E Q)) :
    (createRules limit user groupId c).Obeys d g E Q := by
  refine Action.Obeys.bind (Q := fun g' _ => g' = g) (Action.obeys_demand hE fun _ => rfl) ?_
  rintro g' - rfl
  cases c.direction? with
  | none => exact Action.obeys_throw (hE _)
  | some direction =>
    refine Action.Obeys.bind (obeys_groupOf hr hE) ?_
    rintro g' owner ⟨rfl, hid, hvendor, hread⟩
    -- the entries are checked all together, before the one call that stores them
    refine Action.Obeys.bind (Q := fun g'' _ => g'' = g' ∧
      ∀ rule ∈ c.rules, Entity.insertCheck (newEntry user owner direction rule) = .ok ()) ?_ ?_
    · refine Action.obeys_demand hE ?_
      intro hcheck
      refine ⟨rfl, ?_⟩
      intro rule hrule
      exact Check.each_eq_ok.1 hcheck _ (List.mem_map_of_mem hrule)
    · rintro g'' - ⟨rfl, hcheck⟩
      exact Action.obeys_call (hw owner direction hid hvendor hread hcheck)

/-- What an update writes has passed the check of updates. -/
theorem obeys_updateRule {U : Type} [Change U R] {groupId ruleId : String} {u : U}
    {Q : γ → Unit → Prop} (hr : d.Reads config G g) (hE : ∀ e, E g e)
    (hw : ∀ update : RuleEntry R, Entity.updateCheck update = .ok () →
      d.Allows g (.update (Entity.table (RuleEntry R)) (Entity.schema (RuleEntry R))
          (ruleOfGroup groupId ruleId) (Entity.updateRow update))
        (Action.Answered E fun g' _ => Q g' ())) :
    (updateRule limit user groupId ruleId u).Obeys d g E Q := by
  refine Action.Obeys.bind (Q := fun g' _ => g' = g) (Action.obeys_demand hE fun _ => rfl) ?_
  rintro g' - rfl
  refine Action.Obeys.bind (obeys_groupOf hr hE) ?_
  rintro g' owner ⟨rfl, -⟩
  refine Action.Obeys.bind (Action.obeys_list hr hE) ?_
  rintro g'' ⟨count, found⟩ ⟨rfl, -⟩
  cases hhead : found.head? with
  | none =>
    simp only [hhead]
    exact Action.obeys_throw (hE _)
  | some current =>
    simp only [hhead]
    -- what is checked is what is written, whatever becomes of the rule until then
    refine Action.Obeys.bind (Q := fun g' _ => g' = g'' ∧ Entity.updateCheck
      (revisedEntry user current.direction (Change.apply u current.rule)) = .ok ())
      (Action.obeys_demand hE fun h => ⟨rfl, h⟩) ?_
    rintro g' - ⟨rfl, hcheck⟩
    refine Action.Obeys.bind (Q := fun g' _ => Q g' ()) ?_ fun _ _ h => Action.obeys_pure h
    exact Action.obeys_call (hw _ hcheck)

end

end SecurityGroups.Service
