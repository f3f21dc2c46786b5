/-
SecurityGroups/Proofs/Attribution.lean

Rules stand in the table of their group's cloud.

A rule may outlive its group: a job may have read the group before another one
deletes it, and store the rule after that.  What is true in every reachable
store is that a rule of a group that is there stands in the table of the cloud of
that group (`Reachable.attributed`).  The job that stored the rule had read its
group from some store of the schedule, and the group belonged to the cloud
(`Store.EnteredFrom`); ids are not given out again, and the cloud of a group never
changes.
-/
import SecurityGroups.Proofs.Reachability

namespace SecurityGroups

/-! ### Rules and the groups that were read -/

namespace Store

/-- The rules of each cloud name groups of that cloud that were read from stores of which `G`
holds. -/
def EnteredFrom (G : Store → Prop) (s : Store) : Prop :=
  ∀ c : RuleCloud, ∀ row ∈ s.rows c.table, ∃ owner : Group, ReadFrom G owner ∧
    owner.vendor = some c.vendor ∧ row.get? "security_group_id" = some (.string owner.id)

variable {config : Config} {G : Store → Prop} {s : Store}

theorem EnteredFrom.mono {G' : Store → Prop} (h : s.EnteredFrom G) (hG : ∀ s, G s → G' s) :
    s.EnteredFrom G' := by
  intro c row hrow
  obtain ⟨owner, ⟨s', hs', hread⟩, howner⟩ := h c row hrow
  exact ⟨owner, ⟨s', hG s' hs', hread⟩, howner⟩

theorem enteredFrom_empty (G : Store → Prop) : Store.empty.EnteredFrom G := fun _ _ h => by cases h

/-- **One call of the service** stores rules of groups that were read, and gives no rule to another
group. -/
theorem EnteredFrom.perform (h : s.EnteredFrom G) {c : Call} (hmade : c.Made) (hc : c.Entered G) :
    (s.perform config c).2.EnteredFrom G := by
  intro cloud row hrow
  cases perform_origin hrow with
  | same hold => exact h cloud row hold
  | stored hcall hgiven =>
    cases hc with
    | entries d hread hvendor hes =>
      -- no two clouds have one table
      obtain ⟨htable, rfl, rfl⟩ := Call.insert.inj hcall
      obtain rfl : d = cloud := RuleCloud.table_inj htable
      obtain ⟨e, he, rfl⟩ := List.mem_map.1 hgiven
      refine ⟨_, hread, hvendor, ?_⟩
      rw [LawfulEntity.stored_toRow, RuleEntry.get?_groupId_toRow, ← hes e he]
      rfl
    | other hne => exact absurd hcall (hne cloud _ _)
  | revised hcall hfit hid hold =>
    subst hcall
    -- the column says whose the rule is, so no update writes it
    have hown : "security_group_id" ∈ cloud.table.ownership := by cases cloud <;> decide
    rw [get?_revised_of_ne (hmade.lawful.2.1 _ hown) (by decide)]
    exact h cloud _ hold

end Store

/-! ### In a schedule -/

/-- The discipline of calls that store the rules of groups that were read. -/
def Discipline.entering (config : Store.Config) (G : Store → Prop) : Discipline Unit where
  may := fun _ c => c.Entered G
  gives := fun _ c answer => ∃ s, G s ∧ answer = (s.perform config c).1
  next := fun _ _ _ => ()

section

variable {config : Store.Config} {G : Store → Prop}

theorem Discipline.reads_entering : (entering config G).Reads config G () where
  may := fun _ _ _ _ => .other nofun
  next := fun _ _ _ _ _ _ => rfl
  gives := fun _ _ _ _ _ ⟨s, hs, hans⟩ => ⟨s, hs, hans⟩

theorem Discipline.allowsCalls_entering : (entering config G).AllowsCalls G := by
  intro c _ hc
  refine ⟨hc, ?_⟩
  intro answer _
  cases answer with
  | ok x => trivial
  | error e => trivial

/-- A session that still has a call to make makes one of the service, with rules of groups that were
read from stores of the schedule. -/
theorem System.made_and_entered {store : Store} {moves : List Move} {i : Nat} {job : Job} {c : Call}
    {next : Except StoreError c.Answer → Script (Except ServiceError Outcome)}
    (hi : (after config store moves).sessions[i]? = some ⟨job, .call c next⟩) :
    c.Made ∧ c.Entered (Passes config store moves) := by
  have hmem := List.mem_of_getElem? hi
  have hserving := ((serving_idle config store).run moves).1
  have hentering := obeys_after (fun job => job.obeys_calls Discipline.reads_entering
    Discipline.allowsCalls_entering) (fun s hs c => ⟨s, hs, rfl⟩) _ hmem
  exact ⟨(hserving _ hmem).1, hentering.1⟩

/-- **In every schedule**, rules name groups of their cloud that were read from stores of the
schedule. -/
theorem System.enteredFrom_after (config : Store.Config) (moves : List Move) :
    (after config .empty moves).store.EnteredFrom (Passes config .empty moves) := by
  induction moves using List.reverseRecOn with
  | nil => exact Store.enteredFrom_empty _
  | append_singleton moves m ih =>
    -- what was read in the states so far was read in a longer schedule too
    refine Store.EnteredFrom.mono (G := Passes config .empty moves) ?_ fun _ hs => hs.concat m
    have hm := move_cases config (after config .empty moves) m
    rw [after_concat]
    generalize (after config .empty moves).move config m = sys' at hm
    cases hm with
    | started job => exact ih
    | idle i => exact ih
    | called i job c next hi =>
      obtain ⟨hmade, hentered⟩ := made_and_entered hi
      exact ih.perform hmade hentered

end

/-! ### Reachable stores -/

/-- Rules of groups that are there stand in the table of the cloud of their group. -/
def Store.Attributed (s : Store) : Prop :=
  ∀ c : RuleCloud, ∀ row ∈ s.rows c.table, ∀ g : Group, Entity.toRow g ∈ s.rows .groups →
    row.get? "security_group_id" = some (.string g.id) → g.vendor = some c.vendor

/-- **In every reachable store a rule stands in the table of the cloud of its group**, if its group is
there. -/
theorem Store.Reachable.attributed {config : Store.Config} {s : Store} (h : s.Reachable config)
    (hs : Function.Injective config.supply.id) : s.Attributed := by
  obtain ⟨moves, rfl⟩ := h
  intro c row hrow g hg hid
  have hreach : ∀ before, (System.after config .empty before).store.Reachable config :=
    fun before => ⟨before, rfl⟩
  obtain ⟨owner, hread, hvendor, howner⟩ := System.enteredFrom_after config moves c row hrow
  -- the group was read from an earlier store, and has an id that is given out once
  obtain ⟨_, ⟨before, later, rfl, rfl⟩, hmem⟩ := hread.exists_toRow_mem (by
    rintro _ ⟨before, later, rfl, rfl⟩ row hrow
    exact ((hreach before).readable.groups row hrow).imp fun _ h => h.1)
  have hlater := System.evolves_after config .empty before later
  have hsame := hlater.sameOwnership ((hreach before).distinct hs) hmem hg (by
    rw [Group.get?_id_toRow, Group.get?_id_toRow, ← hid, ← howner])
  rw [Group.vendor_eq_of_sameOwnership hsame, hvendor]

end SecurityGroups
