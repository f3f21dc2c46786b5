/-
SecurityGroups/Proofs/Reachability.lean

The stores that there can be.

A store is reachable if some schedule of jobs makes it of the empty store.
Jobs that are run one after the other are one of the schedules
(`reachable_play`), so what holds of every reachable store holds after every
sequential run, and while any jobs are under way.

Every row of a reachable store is that of a sound group or of a sound rule
(`Reachable.readable`).  The checks of a new group bound its ids and its region,
and rules have bounds of their own for the same values; the one set of bounds is
within the other (`Group.lendable_of_insertCheck`), so what a group lends to its
rules is never too long for them.
-/
import SecurityGroups.Proofs.Contents
import SecurityGroups.Proofs.Ownership
import SecurityGroups.Proofs.Soundness

namespace SecurityGroups

/-! ### What a group lends to its rules -/

namespace Group

/-- What the rules of the group take over from it is within the bounds of rules. -/
structure Lendable (g : Group) : Prop where
  cloudId : g.cloudId.length ≤ RuleEntry.cloudIdMaxLength
  accountId : g.accountId.length ≤ RuleEntry.idMaxLength
  region : g.region.length ≤ RuleEntry.regionMaxLength

variable {g u : Group}

theorem Lendable.stamp (h : g.Lendable) (id : String) (now : Instant) :
    (Group.stamp id now g).Lendable := ⟨h.cloudId, h.accountId, h.region⟩

/-- No update reaches what a group lends to its rules. -/
theorem Lendable.amend (h : g.Lendable) (now : Instant) (u : Group) :
    (Group.amend now u g).Lendable := ⟨h.cloudId, h.accountId, h.region⟩

/-- **The bounds of groups are within those of rules.** -/
theorem lendable_of_insertCheck (h : Entity.insertCheck g = .ok ()) : g.Lendable := by
  have hchecks : Verdict.first ([g.checkVendor,
    .provided (g.cloudId ≠ "") (.invariant "cloud id can not be empty"),
    .provided (g.accountId ≠ "") (.invariant "account id can not be empty"),
    .provided (g.name ≠ "") (.invariant "name can not be empty"),
    g.audit.hasCreator,
    .provided (g.business ≠ 0) (.invariant "bk_biz_id should be -1 or a business id")]
    ++ g.checks) = .ok () := h
  have hall := Verdict.first_eq_ok.1 hchecks
  have hcloudId : Check.maxLength "cloud_id" g.cloudId cloudIdMaxLength = .ok () :=
    hall _ (by simp [checks])
  have haccountId : Check.maxLength "account_id" g.accountId accountIdMaxLength = .ok () :=
    hall _ (by simp [checks])
  have hregion : Check.maxLength "region" g.region regionMaxLength = .ok () :=
    hall _ (by simp [checks])
  simp only [Check.maxLength, Verdict.provided_eq_ok, decide_eq_true_eq] at hcloudId haccountId hregion
  exact ⟨hcloudId, haccountId, hregion⟩

end Group

/-! ### Readable stores -/

namespace Store

variable {config : Config} {s : Store}

/-- Every row is that of a sound group or of a sound rule. -/
structure Readable (s : Store) : Prop where
  groups : ∀ row ∈ s.rows .groups, ∃ g : Group, row = Entity.toRow g ∧ g.Sound ∧ g.Lendable
  entries : ∀ c : RuleCloud, ∀ row ∈ s.rows c.table, ∃ e : RuleEntry c.Rule,
    row = Entity.toRow e ∧ e.Sound

theorem readable_empty : Store.empty.Readable where
  groups := fun _ h => by cases h
  entries := fun _ _ h => by cases h

/-- A call of the service that stores or changes groups writes sound ones. -/
theorem Readable.groups_perform (h : s.Readable) {c : Call} (hc : c.Made) :
    ∀ row ∈ (s.perform config c).2.rows .groups,
      ∃ g : Group, row = Entity.toRow g ∧ g.Sound ∧ g.Lendable := by
  intro row hrow
  have horigin := perform_origin hrow
  cases horigin with
  | same hold => exact h.groups row hold
  | stored hcall hgiven =>
    cases hc with
    | newGroup hcheck hreviser =>
      obtain ⟨-, rfl, rfl⟩ := Call.insert.inj hcall
      rw [List.mem_singleton.1 hgiven, LawfulEntity.stored_toRow]
      exact ⟨_, rfl, (Group.sound_of_insertCheck hcheck hreviser).stamp _ _,
        (Group.lendable_of_insertCheck hcheck).stamp _ _⟩
    | newEntries d hchecks => exact absurd (Call.insert.inj hcall).1 d.table_ne_groups
    | _ => cases hcall
  | revised hcall hfit hid hold =>
    obtain ⟨g, rfl, hsound, hlendable⟩ := h.groups _ hold
    -- whichever update it is, what it writes has passed its check
    have hamend : ∀ {u : Group}, u.Apt → ∃ g' : Group,
        revised (Entity.schema Group) (config.supply.clock s.ticks) (Entity.updateRow u)
          (Entity.toRow g) = Entity.toRow g' ∧ g'.Sound ∧ g'.Lendable := by
      intro u hu
      exact ⟨_, LawfulEntity.revised_toRow _ u g, hsound.amend hu _, hlendable.amend _ u⟩
    cases hc with
    | changedGroup filter hcheck hzero =>
      obtain ⟨-, rfl, -, rfl⟩ := Call.update.inj hcall
      exact hamend (Group.apt_of_updateCheck hcheck hzero)
    | assignedGroups ids hpos hcheck =>
      obtain ⟨-, rfl, -, rfl⟩ := Call.update.inj hcall
      exact hamend (Group.apt_assigned hpos hcheck)
    | changedEntry d filter hcheck => exact absurd (Call.update.inj hcall).1 d.table_ne_groups
    | _ => cases hcall

/-- A call of the service that stores or changes rules writes sound ones. -/
theorem Readable.entries_perform (h : s.Readable) {c : Call} (hc : c.Made) (cloud : RuleCloud) :
    ∀ row ∈ (s.perform config c).2.rows cloud.table,
      ∃ e : RuleEntry cloud.Rule, row = Entity.toRow e ∧ e.Sound := by
  intro row hrow
  have horigin := perform_origin hrow
  cases horigin with
  | same hold => exact h.entries cloud row hold
  | stored hcall hgiven =>
    cases hc with
    | newGroup => exact absurd (Call.insert.inj hcall).1.symm cloud.table_ne_groups
    | newEntries d hchecks =>
      -- no two clouds have one table
      obtain ⟨htable, rfl, rfl⟩ := Call.insert.inj hcall
      obtain rfl : d = cloud := RuleCloud.table_inj htable
      obtain ⟨e, he, rfl⟩ := List.mem_map.1 hgiven
      rw [LawfulEntity.stored_toRow]
      exact ⟨_, rfl, (RuleEntry.sound_of_insertCheck (hchecks e he)).stamp _ _⟩
    | _ => cases hcall
  | revised hcall hfit hid hold =>
    cases hc with
    | changedGroup => exact absurd (Call.update.inj hcall).1.symm cloud.table_ne_groups
    | assignedGroups => exact absurd (Call.update.inj hcall).1.symm cloud.table_ne_groups
    | changedEntry d filter hcheck =>
      obtain ⟨htable, rfl, -, rfl⟩ := Call.update.inj hcall
      obtain rfl : d = cloud := RuleCloud.table_inj htable
      obtain ⟨e, rfl, he⟩ := h.entries d _ hold
      rw [LawfulEntity.revised_toRow]
      exact ⟨_, rfl, he.amend hcheck _⟩
    | _ => cases hcall

/-- **Every call of the service leaves a readable store readable.** -/
theorem Readable.perform (h : s.Readable) {c : Call} (hc : c.Made) :
    (s.perform config c).2.Readable where
  groups := h.groups_perform hc
  entries := h.entries_perform hc

theorem Readable.exists_groups (h : s.Readable) :
    ∃ gs : List Group, s.Holds gs ∧ ∀ g ∈ gs, g.Sound ∧ g.Lendable :=
  exists_eq_map_toRow h.groups

theorem Readable.exists_entries (h : s.Readable) (c : RuleCloud) :
    ∃ es : List (RuleEntry c.Rule), s.Holds es ∧ ∀ e ∈ es, e.Sound :=
  exists_eq_map_toRow (h.entries c)

end Store

/-! ### Reachable stores -/

/-- Some schedule of jobs makes the store of the empty one. -/
def Store.Reachable (config : Store.Config) (s : Store) : Prop :=
  ∃ moves : List Move, s = (System.after config .empty moves).store

namespace Store.Reachable

variable {config : Store.Config} {s : Store}

theorem empty (config : Store.Config) : Store.empty.Reachable config := ⟨[], rfl⟩

theorem evolves (h : s.Reachable config) : Store.Evolves config .empty s := by
  obtain ⟨moves, rfl⟩ := h
  exact System.evolves_start config .empty moves

theorem distinct (h : s.Reachable config) (hs : Function.Injective config.supply.id) :
    s.Distinct config.supply := h.evolves.distinct hs (Store.distinct_empty _)

theorem readable (h : s.Reachable config) : s.Readable :=
  h.evolves.induction (fun _ _ hr hmade => hr.perform hmade) Store.readable_empty

/-- Every id that a row has was given out by the supply. -/
theorem id_of_supply (h : s.Reachable config) {t : TableName} {row : Row} (hrow : row ∈ s.rows t) :
    ∃ n < s.issued, row.get? "id" = some (.string (config.supply.id n)) := by
  rcases (h.evolves.lineage t).2.origin hrow with ⟨_, hold, -⟩ | ⟨n, -, hn, hid⟩
  · cases hold
  · exact ⟨n, hn, hid⟩

end Store.Reachable

/-! ### Sequential runs -/

/-- A session that is resumed until it ends makes all its calls, with no others in between. -/
theorem System.exists_run_session (config : Store.Config) {job : Job}
    (p : Script (Except ServiceError Outcome)) {sys : System} {i : Nat}
    (h : sys.sessions[i]? = some ⟨job, p⟩) :
    ∃ moves : List Move,
      (sys.run config moves).store = (p.run (Store.perform config) sys.store).2 := by
  induction p generalizing sys with
  | done a => exact ⟨[], rfl⟩
  | call c next ih =>
    have hmove : sys.move config (.resume i) = ⟨(sys.store.perform config c).2,
        sys.sessions.set i ⟨job, next (sys.store.perform config c).1⟩⟩ := by
      rw [System.move, h]
    have hlength : i < sys.sessions.length := (List.getElem?_eq_some_iff.1 h).1
    have hnext : (sys.move config (.resume i)).sessions[i]? =
        some ⟨job, next (sys.store.perform config c).1⟩ := by
      rw [hmove, List.getElem?_set_self hlength]
    obtain ⟨moves, hmoves⟩ := ih _ hnext
    refine ⟨.resume i :: moves, ?_⟩
    show ((sys.move config (.resume i)).run config moves).store = _
    rw [hmoves, hmove]
    rfl

/-- **A job that is run by itself leads from a reachable store to a reachable one.** -/
theorem Store.Reachable.run {config : Store.Config} {s : Store} (h : s.Reachable config)
    (job : Job) : (job.run config s).2.Reachable config := by
  obtain ⟨moves, rfl⟩ := h
  have hstart := System.after_concat config .empty moves (.start job)
  have hsession : (System.after config .empty (moves ++ [.start job])).sessions[
      (System.after config .empty moves).sessions.length]? = some (.ofJob job) := by
    rw [hstart]
    exact List.getElem?_concat_length
  obtain ⟨more, hmore⟩ := System.exists_run_session config job.script hsession
  refine ⟨moves ++ [.start job] ++ more, ?_⟩
  rw [System.after_append, hmore, hstart]
  rfl

theorem reachable_play (config : Store.Config) (jobs : List Job) :
    (play config jobs .empty).Reachable config :=
  play_induction (I := Store.Reachable config) (fun _ job h => h.run job) jobs (.empty config)

end SecurityGroups
