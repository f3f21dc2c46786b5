/-
SecurityGroups/Proofs/LostUpdates.lean

Two updates of one rule at once.

An update makes three calls: it loads the group, reads the rule, and writes all
columns of the rule, those that it omits as it has read them.  The calls of the
other update may come in between.  If both have read the rule before either
writes, the later one puts the columns that it omits back to what they were,
and what the earlier one has written into them is lost
(`overlapping_updates_lose_the_first`).

What a session still has to do tells its phase (`Revision.Stands`), so a schedule
of the two sessions follows the turns of a race (`Rivals.follows_after`).
-/
import Mathlib.Data.List.Induction
import SecurityGroups.Proofs.Races
import SecurityGroups.Proofs.RuleUpdate
import SecurityGroups.Proofs.SingleCalls

namespace SecurityGroups

open Service

/-! ### Updates of a rule -/

/-- The update among those of all clouds. -/
def RuleCloud.change : (c : RuleCloud) → c.Update → AnyChange
  | .tcloud, u => .tcloud u
  | .aws, u => .aws u
  | .huawei, u => .huawei u
  | .azure, u => .azure u

/-- An update that a user asks for, and the limit of pages of the service that carries it out. -/
structure Revision (c : RuleCloud) where
  limit : UInt32
  user : String
  update : c.Update

namespace Revision

variable {c : RuleCloud} (x : Revision c) (groupId ruleId : String)

/-- The job of the update. -/
def job : Job := ⟨x.limit, x.user, .updateRule groupId ruleId (c.change x.update)⟩

/-- What the update writes over a rule that it has read. -/
def overlay (rule : c.Rule) : RuleEntry c.Rule :=
  revisedEntry x.user none (Change.apply x.update rule)

/-- The update once it has checked what it writes. -/
def writing (rule : c.Rule) : Action Outcome := do
  let _ ← Action.update (RuleEntry c.Rule) (ruleOfGroup groupId ruleId)
    (Entity.updateRow (x.overlay rule))
  return .done

/-- The update once it has looked for the rule. -/
def checking : Option (RuleEntry c.Rule) → Action Outcome
  | none => throw (.notFound .rule ruleId)
  | some current => do
    Action.demand (Entity.updateCheck
      (revisedEntry x.user current.direction (Change.apply x.update current.rule)))
    x.writing groupId ruleId current.rule

/-- The update once it has loaded the group. -/
def reading : Action Outcome := do
  let page ← Action.list (RuleEntry c.Rule) (ruleOfGroup groupId ruleId) (.ofRange 0 1)
  x.checking groupId ruleId page.2.head?

/-- The update once it has passed its own check. -/
def loading : Action Outcome := do
  let _ ← groupOf c.vendor x.limit groupId
  x.reading groupId ruleId

theorem script_job : (x.job groupId ruleId).script =
    ExceptT.run (Action.demand (Change.check x.update) >>= fun _ => x.loading groupId ruleId) := by
  have hany : updateAnyRule x.limit x.user groupId ruleId (c.change x.update) =
      updateRule x.limit x.user groupId ruleId x.update := by
    obtain ⟨limit, user, update⟩ := x
    cases c <;> rfl
  show ExceptT.run ((fun _ => Outcome.done) <$>
    updateAnyRule x.limit x.user groupId ruleId (c.change x.update)) = _
  rw [hany, updateRule, map_eq_pure_bind]
  simp only [bind_assoc, c.vendor_eq]
  refine congrArg ExceptT.run (bind_congr fun _ => bind_congr fun _ => bind_congr fun page => ?_)
  cases page.2.head? with
  | none => rfl
  | some current =>
    simp only [bind_assoc, pure_bind]
    rfl

/-- What a session in some phase still has to do. -/
def Stands : Phase c.Rule → Script (Except ServiceError Outcome) → Prop
  | .loading, rest => rest = ExceptT.run (x.loading groupId ruleId)
  | .reading, rest => rest = ExceptT.run (x.reading groupId ruleId)
  | .writing rule, rest =>
    Shape.declared rule = none ∧ rest = ExceptT.run (x.writing groupId ruleId rule)
  | .written, rest => rest = .done (.ok .done)
  | .refused, rest => ∃ e, rest = .done (.error e)

theorem stands_job : ∃ phase, (phase = .loading ∨ phase = .refused) ∧
    x.Stands groupId ruleId phase (x.job groupId ruleId).script := by
  rw [script_job]
  cases Change.check x.update with
  | ok _ => exact ⟨.loading, .inl rfl, rfl⟩
  | error v => exact ⟨.refused, .inr rfl, _, rfl⟩

end Revision

/-- The session writes with its next call. -/
def Session.writesNext (session : Session) : Bool :=
  match session.rest with
  | .call (.update ..) _ => true
  | _ => false

/-- The session has ended, and was not refused. -/
def Session.hasSucceeded (session : Session) : Bool :=
  match session.rest with
  | .done (.ok _) => true
  | _ => false

/-- One of the first two sessions has a property. -/
def System.shows (sys : System) (b : Bool) (property : Session → Bool) : Bool :=
  sys.sessions[b.toNat]?.any property

/-- The phase of a session can be told from what it still has to do. -/
theorem Revision.Stands.shows {c : RuleCloud} {x : Revision c} {groupId ruleId : String}
    {phase : Phase c.Rule} {rest : Script (Except ServiceError Outcome)}
    (h : x.Stands groupId ruleId phase rest) (job : Job) :
    Session.writesNext ⟨job, rest⟩ = phase.isWriting ∧
      Session.hasSucceeded ⟨job, rest⟩ = phase.isWritten := by
  cases phase with
  | loading =>
    obtain rfl : rest = _ := h
    rw [loading, groupOf, group, load_singleton]
    exact ⟨rfl, rfl⟩
  | reading =>
    obtain rfl : rest = _ := h
    exact ⟨rfl, rfl⟩
  | writing rule =>
    obtain ⟨-, rfl⟩ : _ ∧ rest = _ := h
    exact ⟨rfl, rfl⟩
  | written =>
    obtain rfl : rest = _ := h
    exact ⟨rfl, rfl⟩
  | refused =>
    obtain ⟨e, rfl⟩ : ∃ e, rest = .done (.error e) := h
    exact ⟨rfl, rfl⟩

/-! ### Two sessions -/

/-- The entry, or what an update of its rule has made of it. -/
def RuleEntry.Rewritten {R : Type} (e current : RuleEntry R) : Prop :=
  current = e ∨ ∃ now v, current = RuleEntry.amend now v e

theorem RuleEntry.Rewritten.amend {R : Type} {e current : RuleEntry R} (h : e.Rewritten current)
    (now : Instant) (v : RuleEntry R) : e.Rewritten (RuleEntry.amend now v current) := by
  rcases h with rfl | ⟨_, _, rfl⟩
  · exact .inr ⟨now, v, rfl⟩
  · exact .inr ⟨now, v, rfl⟩

/-- Two updates of one rule. -/
structure Rivals (c : RuleCloud) where
  groupId : String
  ruleId : String
  revision : Bool → Revision c

namespace Rivals

variable {c : RuleCloud}

/-- The job of one of the updates. -/
def job (p : Rivals c) (b : Bool) : Job := (p.revision b).job p.groupId p.ruleId

/-- The system in which both updates were started on a store and then had some turns. -/
def after (p : Rivals c) (config : Store.Config) (s : Store) (turns : List Bool) : System :=
  System.after config s
    ([.start (p.job false), .start (p.job true)] ++ turns.map fun b => .resume b.toNat)

/-- The system shows a race of the two updates: its sessions are in the phases of the race, and of
the rows that were there only that of the rule has changed. -/
structure Follows (p : Rivals c) (s : Store) (before : List (RuleEntry c.Rule))
    (e : RuleEntry c.Rule) (later : List (RuleEntry c.Rule)) (sys : System) (race : Race c.Rule) :
    Prop where
  sessions : ∀ b, ∃ rest, sys.sessions[b.toNat]? = some ⟨p.job b, rest⟩ ∧
    (p.revision b).Stands p.groupId p.ruleId (race.phase b) rest
  entry : ∃ current : RuleEntry c.Rule, sys.store.Holds (before ++ current :: later) ∧
    current.id = p.ruleId ∧ current.groupId = p.groupId ∧
    LawfulShape.undeclared current.rule = race.rule ∧ e.Rewritten current
  others : ∀ t ≠ c.table, sys.store.rows t = s.rows t

variable {p : Rivals c} {config : Store.Config} {s : Store} {before later : List (RuleEntry c.Rule)}
  {e : RuleEntry c.Rule} {sys : System} {race : Race c.Rule} {b : Bool}

theorem Follows.enter (h : p.Follows s before e later sys race) {phase : Phase c.Rule}
    {rest : Script (Except ServiceError Outcome)}
    (hrest : (p.revision b).Stands p.groupId p.ruleId phase rest) :
    ∀ other, ∃ rest', (sys.sessions.set b.toNat ⟨p.job b, rest⟩)[other.toNat]? =
      some ⟨p.job other, rest'⟩ ∧
        (p.revision other).Stands p.groupId p.ruleId ((race.enter b phase).phase other) rest' := by
  rw [Bool.forall_bool' b]
  constructor
  · obtain ⟨_, hold, -⟩ := h.sessions b
    refine ⟨rest, List.getElem?_set_self (List.getElem?_eq_some_iff.1 hold).1, ?_⟩
    rw [Race.phase_enter_self]
    exact hrest
  · obtain ⟨rest', hold, hstands⟩ := h.sessions (!b)
    have hne : b.toNat ≠ (!b).toNat := by cases b <;> decide
    refine ⟨rest', (List.getElem?_set_ne hne).trans hold, ?_⟩
    rw [Race.phase_enter_other]
    exact hstands

/-- A turn that leaves the store as it is. -/
theorem Follows.quiet (h : p.Follows s before e later sys race) {phase : Phase c.Rule}
    {rest : Script (Except ServiceError Outcome)}
    (hrest : (p.revision b).Stands p.groupId p.ruleId phase rest) :
    p.Follows s before e later ⟨sys.store, sys.sessions.set b.toNat ⟨p.job b, rest⟩⟩
      (race.enter b phase) :=
  ⟨h.enter hrest, h.entry, h.others⟩

/-- The group is looked for; whether it is found or not, the store stays. -/
theorem Follows.turn_loading (h : p.Follows s before e later sys race)
    (hb : race.phase b = .loading) :
    ∃ race', Race.Turn (fun b => (p.revision b).update) b race race' ∧
      p.Follows s before e later (sys.move config (.resume b.toNat)) race' := by
  obtain ⟨rest, hi, hstands⟩ := h.sessions b
  rw [hb] at hstands
  obtain rfl : rest = _ := hstands
  have hsingle := single_groupOf c.vendor (p.revision b).limit p.groupId
  have hstore : ((groupOf c.vendor (p.revision b).limit p.groupId).run config sys.store).2 =
      sys.store := hsingle.run_snd config sys.store
  rw [System.move_single hsingle hi, hstore]
  cases (groupOf c.vendor (p.revision b).limit p.groupId).run config sys.store |>.1 with
  | ok g => exact ⟨_, .loaded hb, h.quiet rfl⟩
  | error e => exact ⟨_, .refused (.inl hb), h.quiet ⟨e, rfl⟩⟩

/-- The rule is read as it is now, unless the store allows no page or the update is refused. -/
theorem Follows.turn_reading (h : p.Follows s before e later sys race)
    (hother : ∀ other ∈ before ++ later, other.id ≠ p.ruleId) (hb : race.phase b = .reading) :
    ∃ race', Race.Turn (fun b => (p.revision b).update) b race race' ∧
      p.Follows s before e later (sys.move config (.resume b.toNat)) race' := by
  obtain ⟨rest, hi, hstands⟩ := h.sessions b
  rw [hb] at hstands
  obtain rfl : rest = _ := hstands
  obtain ⟨current, hholds, hid, hgroup, hrule, -⟩ := h.entry
  have hfirst := Action.run_first config hholds
    (RuleEntry.contains_fields_ruleOfGroup p.groupId p.ruleId)
    (Filter.decides_of_holds (holds_ruleOfGroup p.groupId p.ruleId) _)
  have hfind := current.find?_own (hid ▸ hother)
  rw [hid, hgroup] at hfind
  simp only [RuleEntry.passes_ruleOfGroup_toRow, hfind] at hfirst
  rw [System.move_single (Action.single_list _ _) hi, hfirst]
  by_cases hlimit : 0 < config.maxLimit
  · rw [if_pos hlimit]
    show ∃ race', _ ∧ p.Follows s before e later ⟨sys.store, sys.sessions.set b.toNat ⟨p.job b,
      ExceptT.run (Action.demand (Entity.updateCheck (revisedEntry (p.revision b).user
        current.direction (Change.apply (p.revision b).update
          (LawfulShape.undeclared current.rule)))) >>= fun _ =>
            (p.revision b).writing p.groupId p.ruleId (LawfulShape.undeclared current.rule))⟩⟩ race'
    rw [hrule]
    cases Entity.updateCheck (revisedEntry (p.revision b).user current.direction
        (Change.apply (p.revision b).update race.rule)) with
    | ok _ =>
      have hdeclared := LawfulShape.declared_undeclared current.rule
      exact ⟨_, .read hb, h.quiet ⟨hrule ▸ hdeclared, rfl⟩⟩
    | error v => exact ⟨_, .refused (.inr hb), h.quiet ⟨_, rfl⟩⟩
  · rw [if_neg hlimit]
    exact ⟨_, .refused (.inr hb), h.quiet ⟨_, rfl⟩⟩

/-- What was read is written, with the fields of the update laid over it. -/
theorem Follows.turn_writing (h : p.Follows s before e later sys race)
    (hother : ∀ other ∈ before ++ later, other.id ≠ p.ruleId)
    {rule : c.Rule} (hb : race.phase b = .writing rule) :
    ∃ race', Race.Turn (fun b => (p.revision b).update) b race race' ∧
      p.Follows s before e later (sys.move config (.resume b.toNat)) race' := by
  obtain ⟨rest, hi, hstands⟩ := h.sessions b
  rw [hb] at hstands
  obtain ⟨hdeclared, rfl⟩ : _ ∧ rest = _ := hstands
  obtain ⟨current, hholds, hid, hgroup, -, hrewritten⟩ := h.entry
  have hupdate := Action.run_update config
    (RuleEntry.contains_fields_ruleOfGroup (R := c.Rule) p.groupId p.ruleId)
    (Filter.decides_of_holds (holds_ruleOfGroup p.groupId p.ruleId) (sys.store.rows _))
    (RuleEntry.fits_updateRow ((p.revision b).overlay rule))
    (RuleEntry.get?_own_updateRow _ (by decide) (by decide))
  have hafter := hholds.update_rule config.supply (hid ▸ hother) ((p.revision b).overlay rule)
  rw [hid, hgroup] at hafter
  have hwritten : LawfulShape.undeclared (Change.apply (p.revision b).update rule) =
      Change.apply (p.revision b).update rule :=
    LawfulShape.undeclared_of_declared _ ((LawfulChange.declared_apply _ _).trans hdeclared)
  rw [System.move_single (Action.single_update _ _) hi, hupdate]
  exact ⟨_, .wrote hb, h.enter rfl,
    ⟨RuleEntry.amend (config.supply.clock sys.store.ticks) ((p.revision b).overlay rule) current,
      hafter, hid, hgroup, hwritten, hrewritten.amend _ _⟩,
    fun t ht => (Store.rows_afterUpdate_of_ne ht).trans (h.others t ht)⟩

/-- **A turn of one of the updates** is a turn of the race. -/
theorem Follows.turn (h : p.Follows s before e later sys race)
    (hother : ∀ other ∈ before ++ later, other.id ≠ p.ruleId) (config : Store.Config) (b : Bool) :
    ∃ race', Race.Turn (fun b => (p.revision b).update) b race race' ∧
      p.Follows s before e later (sys.move config (.resume b.toNat)) race' := by
  obtain ⟨rest, hi, hstands⟩ := h.sessions b
  cases hb : race.phase b with
  | loading => exact h.turn_loading hb
  | reading => exact h.turn_reading hother hb
  | writing rule => exact h.turn_writing hother hb
  | written =>
    rw [hb] at hstands
    obtain rfl : rest = _ := hstands
    rw [System.move_done hi]
    exact ⟨race, .ended (.inl hb), h⟩
  | refused =>
    rw [hb] at hstands
    obtain ⟨_, rfl⟩ : ∃ e, rest = .done (.error e) := hstands
    rw [System.move_done hi]
    exact ⟨race, .ended (.inr hb), h⟩

theorem Follows.shows (h : p.Follows s before e later sys race) (b : Bool) :
    sys.shows b Session.writesNext = (race.phase b).isWriting ∧
      sys.shows b Session.hasSucceeded = (race.phase b).isWritten := by
  obtain ⟨rest, hi, hstands⟩ := h.sessions b
  rw [System.shows, System.shows, hi]
  exact hstands.shows (p.job b)

/-! ### Schedules of two updates -/

/-- At some time of the schedule both updates are about to write. -/
def Overlap (p : Rivals c) (config : Store.Config) (s : Store) (turns : List Bool) : Prop :=
  ∃ n ≤ turns.length, ∀ b, (p.after config s (turns.take n)).shows b Session.writesNext

/-- The other update has succeeded when this one writes. -/
def WritesLast (p : Rivals c) (config : Store.Config) (s : Store) (turns : List Bool) (b : Bool) :
    Prop :=
  ∃ n < turns.length, turns[n]? = some b ∧
    (p.after config s (turns.take n)).shows (!b) Session.hasSucceeded ∧
    (p.after config s (turns.take n)).shows b Session.writesNext

instance (p : Rivals c) (config : Store.Config) (s : Store) (turns : List Bool) :
    Decidable (p.Overlap config s turns) :=
  inferInstanceAs (Decidable (∃ n ≤ turns.length, _))

instance (p : Rivals c) (config : Store.Config) (s : Store) (turns : List Bool) (b : Bool) :
    Decidable (p.WritesLast config s turns b) :=
  inferInstanceAs (Decidable (∃ n < turns.length, _))

theorem after_concat (p : Rivals c) (config : Store.Config) (s : Store) (turns : List Bool)
    (b : Bool) : p.after config s (turns ++ [b]) =
      (p.after config s turns).move config (.resume b.toNat) := by
  rw [after, List.map_append, ← List.append_assoc]
  exact System.after_concat config s _ _

theorem overlap_concat {turns : List Bool} : p.Overlap config s (turns ++ [b]) ↔
    p.Overlap config s turns ∨
      ∀ other, (p.after config s (turns ++ [b])).shows other Session.writesNext := by
  constructor
  · rintro ⟨n, hn, hmet⟩
    rw [List.length_append, List.length_singleton] at hn
    rcases Nat.lt_or_eq_of_le hn with hlt | rfl
    · have hle := Nat.le_of_lt_succ hlt
      rw [List.take_append_of_le_length hle] at hmet
      exact .inl ⟨n, hle, hmet⟩
    · rw [List.take_of_length_le (by simp)] at hmet
      exact .inr hmet
  · rintro (⟨n, hn, hmet⟩ | hmet)
    · refine ⟨n, by simp; omega, ?_⟩
      rwa [List.take_append_of_le_length hn]
    · refine ⟨(turns ++ [b]).length, Nat.le_refl _, ?_⟩
      rwa [List.take_length]

theorem WritesLast.concat {turns : List Bool} {other : Bool}
    (h : p.WritesLast config s turns other) (b : Bool) :
    p.WritesLast config s (turns ++ [b]) other := by
  obtain ⟨n, hn, hturn, hlast⟩ := h
  refine ⟨n, by simp; omega, ?_, ?_⟩
  · rwa [List.getElem?_append_left hn]
  · rwa [List.take_append_of_le_length (Nat.le_of_lt hn)]

/-- **A schedule of two updates** shows a race that has kept its course. -/
theorem follows_after (hholds : s.Holds (before ++ e :: later)) (hid : e.id = p.ruleId)
    (hgroup : e.groupId = p.groupId) (hother : ∀ other ∈ before ++ later, other.id ≠ p.ruleId)
    (config : Store.Config) (turns : List Bool) :
    ∃ race, p.Follows s before e later (p.after config s turns) race ∧
      Race.Course (fun b => (p.revision b).update) (LawfulShape.undeclared e.rule)
        (p.Overlap config s turns) (p.WritesLast config s turns) race := by
  induction turns using List.reverseRecOn with
  | nil =>
    choose phase hphase hstands using fun b => (p.revision b).stands_job p.groupId p.ruleId
    have hfollows : p.Follows s before e later (p.after config s [])
        ⟨LawfulShape.undeclared e.rule, phase⟩ := by
      refine ⟨fun b => ?_, ⟨e, hholds, hid, hgroup, rfl, .inl rfl⟩, fun _ _ => rfl⟩
      cases b with
      | false => exact ⟨_, rfl, hstands false⟩
      | true => exact ⟨_, rfl, hstands true⟩
    have hmet : p.Overlap config s [] ↔ ∀ b, (phase b).isWriting := by
      simp only [← fun b => (hfollows.shows b).1, Overlap, List.take_nil]
      exact ⟨fun ⟨_, _, hmet⟩ => hmet, fun hmet => ⟨0, Nat.le_refl _, hmet⟩⟩
    refine ⟨_, hfollows, .untouched rfl ?_ ?_ hmet⟩
    · intro b hb
      rcases hphase b with h | h <;> cases h.symm.trans hb
    · intro b rule hb
      rcases hphase b with h | h <;> cases h.symm.trans hb
  | append_singleton turns b ih =>
    obtain ⟨race, hfollows, hcourse⟩ := ih
    obtain ⟨race', hturn, hfollows'⟩ := hfollows.turn hother config b
    rw [← after_concat] at hfollows'
    refine ⟨race', hfollows', hcourse.turn hturn ?_ (fun other h => h.concat b) ?_⟩
    · rw [overlap_concat]
      simp only [fun other => (hfollows'.shows other).1]
    · intro hwritten hwriting
      refine ⟨turns.length, by simp, by simp, ?_⟩
      rw [List.take_left' rfl, (hfollows.shows b).1, (hfollows.shows (!b)).2, hwritten]
      exact ⟨rfl, hwriting⟩

end Rivals

/-- A cell of the entry stays while its rule has the value that it had. -/
theorem RuleEntry.Rewritten.get?_toRow {R : Type} [Shape R] [LawfulShape R] {e current : RuleEntry R}
    (h : e.Rewritten current) {name : String} (hreviser : name ≠ "reviser")
    (htime : name ≠ "updated_at")
    (hrule : ∀ a ∈ Shape.stored R, a.name = name → a.get current.rule = a.get e.rule) :
    (Entity.toRow current).get? name = (Entity.toRow e).get? name := by
  rcases h with rfl | ⟨now, v, rfl⟩
  · rfl
  · exact RuleEntry.get?_toRow_amend now v e hreviser htime hrule

/-- **Of two updates that overlap, the first is lost.**  Two updates of one rule are started on a
reachable store, and their calls are made in any order.  If both succeed, one of them has written last.
If they were about to write at the same time, the rule is the old one with the fields of the last
update only, so that every other column has the cell that it had, whether the first update named it or
not; otherwise the rule has the fields of both.  No other row is touched. -/
theorem overlapping_updates_lose_the_first {config : Store.Config} {s : Store} {c : RuleCloud}
    (hs : Function.Injective config.supply.id) (hreach : s.Reachable config) (p : Rivals c) {row : Row}
    (hrow : row ∈ s.rows c.table) (hid : (row.cell "id").string? = some p.ruleId)
    (hgroup : (row.cell "security_group_id").string? = some p.groupId) (turns : List Bool)
    (hdone : ∀ b, (p.after config s turns).shows b Session.hasSucceeded) :
    (∀ t ≠ c.table, (p.after config s turns).store.rows t = s.rows t) ∧
    ∃ before row' later, s.rows c.table = before ++ row :: later ∧
      (p.after config s turns).store.rows c.table = before ++ row' :: later ∧
      ∃ e e' : RuleEntry c.Rule, Entity.ofRow row = .ok e ∧ Entity.ofRow row' = .ok e' ∧
        ∃ b, p.WritesLast config s turns b ∧
          (p.Overlap config s turns → e'.rule = Change.apply (p.revision b).update e.rule) ∧
          (¬ p.Overlap config s turns → e'.rule =
            Change.apply (p.revision b).update (Change.apply (p.revision !b).update e.rule)) ∧
          ∀ name, name ≠ "reviser" → name ≠ "updated_at" →
            Change.Omits (p.revision b).update name →
            (p.Overlap config s turns ∨ Change.Omits (p.revision !b).update name) →
              row'.get? name = row.get? name := by
  obtain ⟨es, hes, -⟩ := hreach.readable.exists_entries c
  rw [hes.rows_table] at hrow
  obtain ⟨e, he, rfl⟩ := List.mem_map.1 hrow
  rw [e.string?_id_toRow, Option.some.injEq] at hid
  rw [e.string?_groupId_toRow, Option.some.injEq] at hgroup
  obtain ⟨before, later, rfl, hother⟩ := hes.exists_split (hreach.distinct hs) he
  obtain ⟨race, hfollows, hcourse⟩ := Rivals.follows_after hes hid hgroup (hid ▸ hother) config turns
  have hwritten : ∀ b, race.phase b = .written := fun b =>
    Phase.eq_written ((hfollows.shows b).2 ▸ hdone b)
  obtain ⟨current, hafter, -, -, hrule, hrewritten⟩ := hfollows.entry
  cases hcourse with
  | untouched _ hphase => exact absurd (hwritten true) (hphase true)
  | first b _ _ hphase => exact absurd (hwritten b) hphase
  | second b _ hlast hmet hunmet =>
    refine ⟨hfollows.others, before.map Entity.toRow, Entity.toRow current, later.map Entity.toRow,
      hes.trans List.map_append, hafter.trans List.map_append, _, _, LawfulEntity.ofRow_toRow e,
      LawfulEntity.ofRow_toRow current, b, hlast, fun h => hrule.trans (hmet h),
      fun h => hrule.trans (hunmet h), ?_⟩
    intro name hreviser htime homits hothers
    refine hrewritten.get?_toRow hreviser htime ?_
    rintro a ha rfl
    rw [← LawfulShape.get_undeclared current.rule a ha, hrule, ← LawfulShape.get_undeclared e.rule a ha]
    by_cases h : p.Overlap config s turns
    · rw [hmet h, LawfulChange.get_apply ha homits]
    · rw [hunmet h, LawfulChange.get_apply ha homits,
        LawfulChange.get_apply ha (hothers.resolve_left h)]

/-- Ann gives the rule of `Job.ruleCreation` a memo, and Bob another last port. -/
def Rivals.memoAndPort : Rivals .aws where
  groupId := "|"
  ruleId := "||"
  revision := fun b =>
    if b then ⟨500, "bob", { toPort := some 23 }⟩ else ⟨500, "ann", { memo := some "ssh" }⟩

/-- Both have read the rule when Ann writes, and then Bob writes: both succeed, and the rule has no
memo. -/
theorem memo_is_lost :
    let config : Store.Config := ⟨Supply.strokes, 500⟩
    let s := play config [.creation, .ruleCreation] .empty
    let sys := Rivals.memoAndPort.after config s [false, false, true, true, false, true]
    (∀ b, sys.shows b Session.hasSucceeded) ∧
      ∃ row ∈ sys.store.rows .awsRules, (row.cell "id").string? = some "||" ∧
        (row.cell "memo").string? = none := by
  intro config s sys
  -- both succeed and overlap, and it is Bob who writes last
  obtain ⟨hdone, hoverlap, hann, row, hrow, hid, hgroup, hmemo⟩ :
      (∀ b, sys.shows b Session.hasSucceeded) ∧
        Rivals.memoAndPort.Overlap config s [false, false, true, true, false, true] ∧
        ¬ Rivals.memoAndPort.WritesLast config s [false, false, true, true, false, true] false ∧
        ∃ row ∈ s.rows .awsRules, (row.cell "id").string? = some "||" ∧
          (row.cell "security_group_id").string? = some "|" ∧
            (row.cell "memo").string? = none := by
    decide +kernel
  obtain ⟨-, before, row', later, -, hrows, -, -, -, -, b, hlast, -, -, hkept⟩ :=
    overlapping_updates_lose_the_first Supply.injective_strokes
      (reachable_play config [.creation, .ruleCreation]) Rivals.memoAndPort hrow hid hgroup
      [false, false, true, true, false, true] hdone
  obtain rfl : b = true := by
    cases b with
    | false => exact absurd hlast hann
    | true => rfl
  have hcell : ∀ name ∈ ["id", "memo"], row'.cell name = row.cell name := by
    intro name hname
    have hother : name ≠ "reviser" ∧ name ≠ "updated_at" ∧
        Change.Omits (Rivals.memoAndPort.revision true).update name := by
      revert name
      unfold Change.Omits
      decide
    rw [Row.cell, Row.cell, hkept name hother.1 hother.2.1 hother.2.2 (.inl hoverlap)]
  refine ⟨hdone, row', hrows ▸ List.mem_append_right _ List.mem_cons_self, ?_, ?_⟩
  · rw [hcell "id" (by decide)]
    exact hid
  · rw [hcell "memo" (by decide)]
    exact hmemo

end SecurityGroups
