/-
SecurityGroups/Proofs/Races.lean

Two updates of one rule, as turns.

An update reads the rule and writes over what it has read, and the other update
may have turns in between.  `Race.Turn` says what one turn of either does to the
rule and to the phases of the two.  `Race.Course` is what is kept of all turns: as
long as neither has written, the rule is what it was; the first to write lays its
update over that; and the second lays its own over the old rule if both were about
to write at the same time, and over what the first has written if not.
-/
import Mathlib.Data.Bool.Basic
import SecurityGroups.Rule.Shape

namespace SecurityGroups

/-! ### Phases -/

/-- Where a session of an update is.  It reads the rule only after it has loaded the group, and
writes over what it has read. -/
inductive Phase (R : Type) where
  | loading
  | reading
  | writing (rule : R)
  | written
  | refused

/-- The session writes next. -/
def Phase.isWriting {R : Type} : Phase R → Bool
  | writing _ => true
  | _ => false

/-- The session has written. -/
def Phase.isWritten {R : Type} : Phase R → Bool
  | written => true
  | _ => false

theorem Phase.not_isWriting {R : Type} {phase : Phase R} (h : phase = .loading ∨ phase = .reading) :
    ¬ phase.isWriting := by
  rcases h with rfl | rfl <;> nofun

theorem Phase.eq_written {R : Type} {phase : Phase R} (h : phase.isWritten) : phase = .written := by
  cases phase with
  | written => rfl
  | _ => cases h

/-! ### The race -/

/-- A rule as it is read, and the phases of two updates of it. -/
structure Race (R : Type) where
  rule : R
  phase : Bool → Phase R

namespace Race

section

variable {R : Type} (race : Race R) (b : Bool) (p : Phase R)

/-- One of the updates enters a phase. -/
def enter : Race R := { race with phase := fun other => if other = b then p else race.phase other }

theorem phase_enter_self : (race.enter b p).phase b = p := if_pos rfl

theorem phase_enter_other : (race.enter b p).phase (!b) = race.phase (!b) := if_neg (by simp)

end

variable {U R : Type} [Change U R] {u : Bool → U} {race race' : Race R} {b : Bool}

/-- What one turn of an update can do. -/
inductive Turn (u : Bool → U) (b : Bool) (race : Race R) : Race R → Prop where
  | loaded : race.phase b = .loading → Turn u b race (race.enter b .reading)
  | read : race.phase b = .reading → Turn u b race (race.enter b (.writing race.rule))
  | wrote {rule : R} : race.phase b = .writing rule →
      Turn u b race { race.enter b .written with rule := Change.apply (u b) rule }
  | refused : race.phase b = .loading ∨ race.phase b = .reading →
      Turn u b race (race.enter b .refused)
  | ended : race.phase b = .written ∨ race.phase b = .refused → Turn u b race race

/-- What is kept of the turns: `Met` says that at some time both updates were about to write, and
`Last b` that `b` wrote when the other had written. -/
inductive Course (u : Bool → U) (start : R) (Met : Prop) (Last : Bool → Prop) (race : Race R) :
    Prop where
  | untouched : race.rule = start → (∀ b, race.phase b ≠ .written) →
      (∀ b rule, race.phase b = .writing rule → rule = start) →
      (Met ↔ ∀ b, (race.phase b).isWriting) → Course u start Met Last race
  | first (b : Bool) : race.rule = Change.apply (u !b) start → race.phase (!b) = .written →
      race.phase b ≠ .written → (race.phase b = .loading ∨ race.phase b = .reading → ¬ Met) →
      (∀ rule, race.phase b = .writing rule →
        (Met → rule = start) ∧ (¬ Met → rule = race.rule)) → Course u start Met Last race
  | second (b : Bool) : (∀ b, race.phase b = .written) → Last b →
      (Met → race.rule = Change.apply (u b) start) →
      (¬ Met → race.rule = Change.apply (u b) (Change.apply (u !b) start)) →
      Course u start Met Last race

variable {start : R} {Met Met' : Prop} {Last Last' : Bool → Prop}

theorem Course.met (h : Course u start Met Last race) (hall : ∀ b, (race.phase b).isWriting) :
    Met := by
  cases h with
  | untouched _ _ _ hm => exact hm.2 hall
  | first b _ hwritten => simpa [hwritten, Phase.isWriting] using hall (!b)
  | second b hwritten => simpa [hwritten, Phase.isWriting] using hall b

theorem Course.mono (h : Course u start Met Last race) (hmet : Met' ↔ Met)
    (hlast : ∀ b, Last b → Last' b) : Course u start Met' Last' race := by
  obtain rfl : Met' = Met := propext hmet
  cases h with
  | untouched hrule hphase hread hm => exact .untouched hrule hphase hread hm
  | first b hrule hwritten hother hm hread => exact .first b hrule hwritten hother hm hread
  | second b hwritten hb hrule hrule' => exact .second b hwritten (hlast b hb) hrule hrule'

/-- Where one update has written, the two are not about to write at once. -/
theorem met_iff_of_written (hmet : Met' ↔ Met ∨ ∀ b, (race.phase b).isWriting)
    (hwritten : race.phase b = .written) : Met' ↔ Met :=
  hmet.trans (or_iff_left fun hall => by simpa [hwritten, Phase.isWriting] using hall b)

/-- An update that has not read yet, or reads, goes on without writing. -/
theorem Course.enter (h : Course u start Met Last race) {p : Phase R}
    (hb : race.phase b = .loading ∨ race.phase b = .reading) (hp : p ≠ .written)
    (hpread : ∀ rule, p = .writing rule → rule = race.rule)
    (hmet : Met' ↔ Met ∨ ∀ other, ((race.enter b p).phase other).isWriting) :
    Course u start Met' Last' (race.enter b p) := by
  have hself := race.phase_enter_self b p
  have hkept := race.phase_enter_other b p
  cases h with
  | untouched hrule hphase hread hm =>
    have hunmet : ¬ Met := fun h => Phase.not_isWriting hb (hm.1 h b)
    refine .untouched hrule ?_ ?_ (hmet.trans (or_iff_right hunmet))
    · rw [Bool.forall_bool' b, hself, hkept]
      exact ⟨hp, hphase _⟩
    · rw [Bool.forall_bool' b, hself, hkept]
      exact ⟨fun rule h => (hpread rule h).trans hrule, hread _⟩
  | first b₁ hrule hwritten hother hm hread =>
    obtain rfl | rfl := Bool.eq_or_eq_not b₁ b
    · have hmet' := met_iff_of_written hmet (hkept.trans hwritten)
      have hunmet := mt hmet'.1 (hm hb)
      refine .first b₁ hrule (hkept.trans hwritten) (fun h => hp (hself.symm.trans h))
        (fun _ => hunmet) ?_
      rw [hself]
      exact fun rule h => ⟨fun h => absurd h hunmet, fun _ => hpread rule h⟩
    · rw [Bool.not_not] at hwritten
      rcases hb with hb | hb <;> cases hb.symm.trans hwritten
  | second b₁ hwritten =>
    rcases hb with hb | hb <;> cases hb.symm.trans (hwritten b)

/-- An update writes what it has read, with its own fields laid over it. -/
theorem Course.wrote (h : Course u start Met Last race) {rule : R}
    (hb : race.phase b = .writing rule)
    (hmet : Met' ↔ Met ∨ ∀ other, ((race.enter b .written).phase other).isWriting)
    (hlast : race.phase (!b) = .written → Last' b) :
    Course u start Met' Last'
      { race.enter b .written with rule := Change.apply (u b) rule } := by
  have hself := race.phase_enter_self b .written
  have hkept := race.phase_enter_other b .written
  have hmet' := met_iff_of_written hmet hself
  cases h with
  | untouched hrule hphase hread hm =>
    obtain rfl := hread b rule hb
    -- if the other one has read as well, both were about to write
    have hboth : ∀ rule, race.phase (!b) = .writing rule → Met := by
      intro rule hother
      rw [hm, Bool.forall_bool' b, hb, hother]
      exact ⟨rfl, rfl⟩
    refine .first (!b) ?_ ?_ ?_ ?_ ?_
    · rw [Bool.not_not]
    · rw [Bool.not_not]
      exact hself
    · exact hkept ▸ hphase (!b)
    · intro hpending hmeet
      have hpending' := hpending.imp hkept.symm.trans hkept.symm.trans
      exact Phase.not_isWriting hpending' (hm.1 (hmet'.1 hmeet) (!b))
    · intro other hother
      have hother' := hkept.symm.trans hother
      exact ⟨fun _ => hread _ other hother', fun h => absurd (hmet'.2 (hboth other hother')) h⟩
  | first b₁ hrule hwritten hother hm hread =>
    obtain rfl | rfl := Bool.eq_or_eq_not b₁ b
    · obtain ⟨hmeet, hpass⟩ := hread rule hb
      refine .second b₁ ((Bool.forall_bool' b₁).2 ⟨hself, hkept.trans hwritten⟩) (hlast hwritten) ?_ ?_
      · intro h
        exact congrArg (Change.apply (u b₁)) (hmeet (hmet'.1 h))
      · intro h
        exact congrArg (Change.apply (u b₁)) ((hpass (mt hmet'.2 h)).trans hrule)
    · rw [Bool.not_not] at hwritten
      cases hb.symm.trans hwritten
  | second b₁ hwritten => cases hb.symm.trans (hwritten b)

/-- **One turn.** -/
theorem Course.turn (h : Course u start Met Last race) (ht : Turn u b race race')
    (hmet : Met' ↔ Met ∨ ∀ b, (race'.phase b).isWriting) (hlast : ∀ b, Last b → Last' b)
    (hnew : race.phase (!b) = .written → (race.phase b).isWriting → Last' b) :
    Course u start Met' Last' race' := by
  cases ht with
  | loaded hb => exact h.enter (.inl hb) nofun nofun hmet
  | read hb => exact h.enter (.inr hb) nofun (fun _ h => (Phase.writing.inj h).symm) hmet
  | wrote hb => exact h.wrote hb hmet fun hwritten => hnew hwritten (hb ▸ rfl)
  | refused hb => exact h.enter hb nofun nofun hmet
  | ended => exact h.mono (hmet.trans (or_iff_left_of_imp h.met)) hlast

end Race

end SecurityGroups
