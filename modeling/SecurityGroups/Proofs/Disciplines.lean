/-
SecurityGroups/Proofs/Disciplines.lean

What can be said of a script without running it.

A discipline says which calls may be made and which answers they can get, and
it may remember something from one call to the next.  A script obeys it
(`Script.Obeys`) if all its calls may be made, whatever the answers are, and
if what it ends in is as promised.  Scripts in two parts obey a discipline
part by part (`Script.Obeys.bind`), and so do actions, where the promise about
a refusal is the same for both parts (`Action.Obeys.bind`).

One discipline fits the steps of many scripts in between each other; another,
`Discipline.sequential`, is nothing but running a script on a store.
-/
import SecurityGroups.Service.Action

namespace SecurityGroups

/-! ### Disciplines -/

/-- Which calls may be made and what they can answer, given what is remembered of the calls so
far. -/
structure Discipline (γ : Type) where
  may : γ → Call → Prop
  gives : γ → (c : Call) → Except StoreError c.Answer → Prop
  next : γ → (c : Call) → Except StoreError c.Answer → γ

/-- A call may be made, and something holds after each answer that it can get. -/
def Discipline.Allows {γ : Type} (d : Discipline γ) (g : γ) (c : Call)
    (R : γ → Except StoreError c.Answer → Prop) : Prop :=
  d.may g c ∧ ∀ answer, d.gives g c answer → R (d.next g c answer) answer

/-- The calls of a script may be made, and what it ends in satisfies `Q`. -/
def Script.Obeys {γ α : Type} (d : Discipline γ) : Script α → γ → (γ → α → Prop) → Prop
  | .done a, g, Q => Q g a
  | .call c next, g, Q => d.Allows g c fun g' answer => (next answer).Obeys d g' Q

section

variable {γ α β : Type} {d : Discipline γ} {g : γ}

theorem Discipline.Allows.mono {c : Call} {R R' : γ → Except StoreError c.Answer → Prop}
    (h : d.Allows g c R) (hR : ∀ g' answer, R g' answer → R' g' answer) : d.Allows g c R' :=
  ⟨h.1, fun answer hans => hR _ _ (h.2 answer hans)⟩

/-! ### Scripts -/

namespace Script

theorem Obeys.mono {p : Script α} {Q Q' : γ → α → Prop} (h : p.Obeys d g Q)
    (hQ : ∀ g' a, Q g' a → Q' g' a) : p.Obeys d g Q' := by
  induction p generalizing g with
  | done a => exact hQ g a h
  | call c next ih => exact h.mono fun g' answer hnext => ih answer hnext

/-- The second part may count on what the first one ends in. -/
theorem Obeys.bind {p : Script α} {f : α → Script β} {Q : γ → α → Prop} {R : γ → β → Prop}
    (h : p.Obeys d g Q) (hf : ∀ g' a, Q g' a → (f a).Obeys d g' R) :
    (p.bind f).Obeys d g R := by
  induction p generalizing g with
  | done a => exact hf g a h
  | call c next ih => exact Discipline.Allows.mono h fun g' answer hnext => ih answer hnext

end Script

/-! ### Actions -/

namespace Action

/-- The calls of an action may be made; a refusal satisfies `E`, and another result `Q`. -/
def Obeys (d : Discipline γ) (action : Action α) (g : γ) (E : γ → ServiceError → Prop)
    (Q : γ → α → Prop) : Prop :=
  Script.Obeys d (ExceptT.run action) g fun g' result =>
    match result with
    | .ok x => Q g' x
    | .error e => E g' e

/-- An answer is as promised: a refusal of the store satisfies `E`, and another answer `Q`. -/
def Answered (E : γ → ServiceError → Prop) (Q : γ → α → Prop) (g : γ) :
    Except StoreError α → Prop
  | .ok x => Q g x
  | .error e => E g (.store e)

variable {E : γ → ServiceError → Prop} {Q : γ → α → Prop}

theorem Obeys.mono {action : Action α} {E' : γ → ServiceError → Prop} {Q' : γ → α → Prop}
    (h : action.Obeys d g E Q) (hE : ∀ g' e, E g' e → E' g' e)
    (hQ : ∀ g' x, Q g' x → Q' g' x) : action.Obeys d g E' Q' := by
  refine Script.Obeys.mono h ?_
  intro g' result hr
  cases result with
  | ok x => exact hQ g' x hr
  | error e => exact hE g' e hr

/-- A refusal ends both parts of an action alike. -/
theorem Obeys.bind {action : Action α} {f : α → Action β} {R : γ → β → Prop}
    (h : action.Obeys d g E Q) (hf : ∀ g' x, Q g' x → (f x).Obeys d g' E R) :
    (action >>= f).Obeys d g E R := by
  refine Script.Obeys.bind h ?_
  intro g' result hr
  cases result with
  | ok x => exact hf g' x hr
  | error e => exact hr

theorem obeys_pure {x : α} (h : Q g x) : (pure x : Action α).Obeys d g E Q := h

theorem obeys_throw {e : ServiceError} (h : E g e) : (throw e : Action α).Obeys d g E Q := h

theorem obeys_map {action : Action α} {f : α → β} {R : γ → β → Prop}
    (h : action.Obeys d g E fun g' x => R g' (f x)) : (f <$> action).Obeys d g E R := by
  rw [map_eq_pure_bind]
  exact h.bind fun g' x hx => obeys_pure hx

theorem obeys_ofExcept {x : Except ServiceError α} (hE : ∀ e, x = .error e → E g e)
    (hQ : ∀ a, x = .ok a → Q g a) : (ofExcept x).Obeys d g E Q := by
  cases x with
  | ok a => exact hQ a rfl
  | error e => exact hE e rfl

theorem obeys_demand {v : Verdict} {Q : γ → Unit → Prop} (hE : ∀ e, E g e)
    (hQ : v = .ok () → Q g ()) : (demand v).Obeys d g E Q := by
  cases v with
  | ok _ => exact hQ rfl
  | error e => exact hE _

theorem obeys_call {c : Call} {Q : γ → c.Answer → Prop} (h : d.Allows g c (Answered E Q)) :
    (call c).Obeys d g E Q := by
  refine ⟨h.1, ?_⟩
  intro answer hans
  have hend := h.2 answer hans
  cases answer with
  | ok x => exact hend
  | error e => exact hend

end Action

end

/-! ### Running a script by itself -/

/-- The discipline of a script that has the store to itself: what is remembered is the store, and
the answers are its answers. -/
def Discipline.sequential (config : Store.Config) : Discipline Store where
  may := fun _ _ => True
  gives := fun s c answer => answer = (s.perform config c).1
  next := fun s c _ => (s.perform config c).2

section

variable {α : Type} {config : Store.Config} {s : Store}

theorem Discipline.allows_sequential {c : Call} {R : Store → Except StoreError c.Answer → Prop} :
    (sequential config).Allows s c R ↔ R (s.perform config c).2 (s.perform config c).1 :=
  ⟨fun h => h.2 _ rfl, fun h => ⟨trivial, fun _ hans => hans ▸ h⟩⟩

theorem Script.obeys_sequential {p : Script α} {Q : Store → α → Prop} :
    p.Obeys (.sequential config) s Q ↔
      Q (p.run (Store.perform config) s).2 (p.run (Store.perform config) s).1 := by
  induction p generalizing s with
  | done a => exact Iff.rfl
  | call c next ih => exact Discipline.allows_sequential.trans (ih _)

/-- **What an action ends in** is what the discipline of its run promises. -/
theorem Action.Obeys.run {action : Action α} {E : Store → ServiceError → Prop}
    {Q : Store → α → Prop} (h : action.Obeys (.sequential config) s E Q) :
    match action.run config s with
    | (.ok x, after) => Q after x
    | (.error e, after) => E after e := by
  have hrun := Script.obeys_sequential.1 h
  rw [Action.run]
  generalize Script.run (Store.perform config) (ExceptT.run action) s = outcome at hrun
  obtain ⟨e | x, after⟩ := outcome
  · exact hrun
  · exact hrun

end

end SecurityGroups
