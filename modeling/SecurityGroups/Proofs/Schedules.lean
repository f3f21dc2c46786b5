/-
SecurityGroups/Proofs/Schedules.lean

Many jobs at once.

A system is a store and the jobs that were started on it.  A move starts a
job, or lets a job that was started make its next call to the store; between
two calls of one job any number of calls of others may be made.  A schedule is
a list of moves, and `System.run` carries it out.

Since all jobs make calls of the service only, the store of a system evolves by
such calls (`evolves_after`).  What no call of the service can break, no schedule
can.  And what a discipline remembers of one session, whatever others do between
its calls, is true of the schedule (`remembers_after`).
-/
import Mathlib.Data.List.Induction
import Mathlib.Logic.Relation
import SecurityGroups.Proofs.Conduct

namespace SecurityGroups

/-! ### Systems -/

/-- A job that was started, and what it still has to do. -/
structure Session where
  job : Job
  rest : Script (Except ServiceError Outcome)

/-- The session of a job that has made no call yet. -/
def Session.ofJob (job : Job) : Session := ⟨job, job.script⟩

/-- A store and the jobs that were started on it. -/
structure System where
  store : Store
  sessions : List Session

/-- A job is started, or the next call of one that was started is made. -/
inductive Move where
  | start (job : Job)
  | resume (i : Nat)

namespace System

/-- A store on which no job was started. -/
def idle (store : Store) : System := ⟨store, []⟩

/-- Makes one move; a session that has ended stays as it is. -/
def move (config : Store.Config) (sys : System) : Move → System
  | .start job => { sys with sessions := sys.sessions ++ [.ofJob job] }
  | .resume i =>
    match sys.sessions[i]? with
    | some ⟨job, .call c next⟩ =>
      ⟨(sys.store.perform config c).2,
        sys.sessions.set i ⟨job, next (sys.store.perform config c).1⟩⟩
    | _ => sys

/-- Makes some moves, one after the other. -/
def run (config : Store.Config) (sys : System) (moves : List Move) : System :=
  moves.foldl (move config) sys

/-- The system after some moves on a store. -/
def after (config : Store.Config) (store : Store) (moves : List Move) : System :=
  (idle store).run config moves

section

variable {config : Store.Config} {sys : System}

@[simp] theorem run_nil : sys.run config [] = sys := rfl

theorem run_append (before after : List Move) :
    sys.run config (before ++ after) = (sys.run config before).run config after :=
  List.foldl_append

theorem after_append (config : Store.Config) (store : Store) (before later : List Move) :
    after config store (before ++ later) = (after config store before).run config later :=
  run_append before later

theorem after_concat (config : Store.Config) (store : Store) (moves : List Move) (m : Move) :
    after config store (moves ++ [m]) = (after config store moves).move config m :=
  after_append config store moves [m]

/-! ### One move -/

/-- What a move can do: start a session, nothing, or carry out the next call of a session. -/
inductive Moved (config : Store.Config) (sys : System) : Move → System → Prop where
  | started (job : Job) :
      Moved config sys (.start job) { sys with sessions := sys.sessions ++ [.ofJob job] }
  | idle (i : Nat) : Moved config sys (.resume i) sys
  | called (i : Nat) (job : Job) (c : Call)
      (next : Except StoreError c.Answer → Script (Except ServiceError Outcome)) :
      sys.sessions[i]? = some ⟨job, .call c next⟩ →
      Moved config sys (.resume i) ⟨(sys.store.perform config c).2,
        sys.sessions.set i ⟨job, next (sys.store.perform config c).1⟩⟩

theorem move_cases (config : Store.Config) (sys : System) (m : Move) :
    Moved config sys m (sys.move config m) := by
  cases m with
  | start job => exact .started job
  | resume i =>
    rw [move]
    split
    · rename_i job c next h
      exact .called i job c next h
    · exact .idle i

/-! ### The calls of a system -/

/-- Whatever the sessions still have to do, they make calls of the service only. -/
def Serving (config : Store.Config) (sys : System) : Prop :=
  ∀ session ∈ sys.sessions, session.rest.Obeys (.made config) () fun _ _ => True

theorem serving_idle (config : Store.Config) (store : Store) : (idle store).Serving config :=
  fun _ h => by cases h

end

end System

/-- The store changes by one call of the service. -/
def Store.Step (config : Store.Config) (s s' : Store) : Prop :=
  ∃ c : Call, c.Made ∧ s' = (s.perform config c).2

/-- The store changes by calls of the service. -/
def Store.Evolves (config : Store.Config) : Store → Store → Prop :=
  Relation.ReflTransGen (Store.Step config)

/-- A script that makes calls of the service only changes the store by such calls. -/
theorem Script.evolves_run {α : Type} {config : Store.Config} {p : Script α} {Q : Unit → α → Prop}
    (h : p.Obeys (.made config) () Q) (s : Store) :
    Store.Evolves config s (p.run (Store.perform config) s).2 := by
  induction p generalizing s with
  | done a => exact .refl
  | call c next ih =>
    obtain ⟨hmade, hnext⟩ := h
    exact .head ⟨c, hmade, rfl⟩ (ih _ (hnext _ ⟨s, rfl⟩) _)

theorem Job.evolves_run (config : Store.Config) (job : Job) (s : Store) :
    Store.Evolves config s (job.run config s).2 :=
  Script.evolves_run (job.obeys_made config) s

namespace System

variable {config : Store.Config} {sys : System}

/-- After a move a system still serves, and its store has changed by one call or not at all. -/
theorem Serving.move (h : sys.Serving config) (m : Move) :
    (sys.move config m).Serving config ∧
      Store.Evolves config sys.store (sys.move config m).store := by
  have hm := move_cases config sys m
  generalize sys.move config m = sys' at hm
  cases hm with
  | started job =>
    refine ⟨?_, .refl⟩
    -- a new session has all of its job still before it
    intro session hsession
    rcases List.mem_append.1 hsession with hold | hnew
    · exact h session hold
    · rw [List.mem_singleton.1 hnew]
      exact job.obeys_made config
  | idle i => exact ⟨h, .refl⟩
  | called i job c next hi =>
    obtain ⟨hmade, hnext⟩ := h _ (List.mem_of_getElem? hi)
    refine ⟨?_, .single ⟨c, hmade, rfl⟩⟩
    -- the session goes on as the answer of this store lets it
    intro session hsession
    rcases List.mem_or_eq_of_mem_set hsession with hold | rfl
    · exact h session hold
    · exact hnext _ ⟨sys.store, rfl⟩

theorem Serving.run (h : sys.Serving config) (moves : List Move) :
    (sys.run config moves).Serving config ∧
      Store.Evolves config sys.store (sys.run config moves).store := by
  induction moves generalizing sys with
  | nil => exact ⟨h, .refl⟩
  | cons m moves ih =>
    obtain ⟨hmove, hstep⟩ := h.move m
    obtain ⟨hrun, hsteps⟩ := ih hmove
    exact ⟨hrun, hstep.trans hsteps⟩

/-- **Between two states of a run the store changes by calls of the service.** -/
theorem evolves_after (config : Store.Config) (store : Store) (before later : List Move) :
    Store.Evolves config (after config store before).store
      (after config store (before ++ later)).store := by
  rw [after_append]
  exact (((serving_idle config store).run before).1.run later).2

theorem evolves_start (config : Store.Config) (store : Store) (moves : List Move) :
    Store.Evolves config store (after config store moves).store :=
  evolves_after config store [] moves

/-! ### What sessions obey -/

/-- The store is that of a state of the schedule. -/
def Passes (config : Store.Config) (store : Store) (moves : List Move) (s : Store) : Prop :=
  ∃ before later, moves = before ++ later ∧ s = (after config store before).store

theorem Passes.concat {store s : Store} {moves : List Move} (h : Passes config store moves s)
    (m : Move) : Passes config store (moves ++ [m]) s := by
  obtain ⟨before, later, rfl, rfl⟩ := h
  exact ⟨before, later ++ [m], List.append_assoc _ _ _, rfl⟩

/-- **What every job obeys, every session obeys** in what it still has to do, if the discipline
expects the answers of all stores of the schedule. -/
theorem obeys_after {d : Discipline Unit}
    {Q : Job → Unit → Except ServiceError Outcome → Prop} {store : Store} {moves : List Move}
    (hjob : ∀ job : Job, job.script.Obeys d () (Q job))
    (hgives : ∀ s, Passes config store moves s → ∀ c, d.gives () c (s.perform config c).1) :
    ∀ session ∈ (after config store moves).sessions,
      session.rest.Obeys d () (Q session.job) := by
  induction moves using List.reverseRecOn with
  | nil => exact fun _ h => by cases h
  | append_singleton moves m ih =>
    have hall := ih fun s hs => hgives s (hs.concat m)
    have hm := move_cases config (after config store moves) m
    rw [after_concat]
    generalize (after config store moves).move config m = sys' at hm
    cases hm with
    | started job =>
      exact List.forall_mem_append.2 ⟨hall, List.forall_mem_singleton.2 (hjob job)⟩
    | idle i => exact hall
    | called i job c next hi =>
      intro session hsession
      rcases List.mem_or_eq_of_mem_set hsession with hold | rfl
      · exact hall session hold
      · exact (hall _ (List.mem_of_getElem? hi)).2 _ (hgives _ ⟨moves, _, rfl, rfl⟩ c)

/-- **What a discipline remembers of a session is true of the schedule.**  `P` relates a schedule to
what is remembered of one session of a job.  If it holds at first, still holds after every move by
which the session does not change the store, and after each call that it makes holds of what is
remembered then, it holds after the schedule, and the session obeys the discipline from there. -/
theorem remembers_after {γ : Type} {d : Discipline γ} {g₀ : γ}
    {Q : γ → Except ServiceError Outcome → Prop} {store : Store} {job : Job} {i : Nat}
    {P : List Move → γ → Prop} (hjob : job.script.Obeys d g₀ Q) (hfirst : P [] g₀)
    (hquiet : ∀ moves m g, P moves g → (m = .resume i →
      (after config store (moves ++ [m])).store = (after config store moves).store) →
        P (moves ++ [m]) g)
    (hcall : ∀ moves g c, P moves g → d.may g c →
      (after config store (moves ++ [.resume i])).store =
        ((after config store moves).store.perform config c).2 →
      d.gives g c ((after config store moves).store.perform config c).1 ∧
        P (moves ++ [.resume i]) (d.next g c ((after config store moves).store.perform config c).1))
    (moves : List Move) :
    ((after config store moves).sessions[i]? = none → P moves g₀) ∧
      ∀ session, (after config store moves).sessions[i]? = some session → session.job = job →
        ∃ g, P moves g ∧ session.rest.Obeys d g Q := by
  induction moves using List.reverseRecOn with
  | nil => exact ⟨fun _ => hfirst, fun _ h => by cases h⟩
  | append_singleton moves m ih =>
    obtain ⟨habsent, hpresent⟩ := ih
    -- a session that the move leaves as it is
    have hold : (∀ g, P moves g → P (moves ++ [m]) g) → ∀ session,
        (after config store moves).sessions[i]? = some session → session.job = job →
          ∃ g, P (moves ++ [m]) g ∧ session.rest.Obeys d g Q := by
      intro hstep session hi hsession
      obtain ⟨g, hP, hobeys⟩ := hpresent session hi hsession
      exact ⟨g, hstep g hP, hobeys⟩
    have hm := move_cases config (after config store moves) m
    have hstore := congrArg System.store (after_concat config store moves m)
    rw [after_concat]
    generalize (after config store moves).move config m = sys' at hm hstore
    cases hm with
    | started newJob =>
      have hstep : ∀ g, P moves g → P (moves ++ [.start newJob]) g :=
        fun g hP => hquiet moves _ g hP (by rintro ⟨⟩)
      refine ⟨fun hnone => hstep _ (habsent ?_), ?_⟩
      · rw [List.getElem?_eq_none_iff, List.length_append] at hnone
        exact List.getElem?_eq_none (Nat.le_of_succ_le hnone)
      · intro session hi hsession
        rw [List.getElem?_append] at hi
        split at hi
        · exact hold hstep session hi hsession
        · -- the session starts now, and nothing is remembered of it yet
          rename_i hlength
          obtain rfl := List.mem_singleton.1 (List.mem_of_getElem? hi)
          obtain rfl : newJob = job := hsession
          exact ⟨g₀, hstep _ (habsent (List.getElem?_eq_none (Nat.not_lt.1 hlength))), hjob⟩
    | idle j =>
      have hstep : ∀ g, P moves g → P (moves ++ [.resume j]) g :=
        fun g hP => hquiet moves _ g hP fun _ => hstore
      exact ⟨fun hnone => hstep _ (habsent hnone), hold hstep⟩
    | called j calling c next hj =>
      by_cases hji : j = i
      · subst hji
        rw [List.getElem?_set_self (List.getElem?_eq_some_iff.1 hj).1]
        refine ⟨nofun, ?_⟩
        rintro _ ⟨⟩ hsession
        obtain ⟨g, hP, hmay, hnext⟩ := hpresent _ hj hsession
        obtain ⟨hgives, hP'⟩ := hcall moves g c hP hmay hstore
        exact ⟨_, hP', hnext _ hgives⟩
      · have hstep : ∀ g, P moves g → P (moves ++ [.resume j]) g :=
          fun g hP => hquiet moves _ g hP fun h => absurd (Move.resume.inj h) hji
        rw [List.getElem?_set_ne hji]
        exact ⟨fun hnone => hstep _ (habsent hnone), hold hstep⟩

end System

/-! ### What calls of the service keep -/

namespace Store

variable {config : Config} {s s' : Store}

/-- What every call of the service keeps is kept. -/
theorem Evolves.induction {I : Store → Prop}
    (hstep : ∀ (s : Store) (c : Call), I s → c.Made → I (s.perform config c).2)
    (h : Evolves config s s') (hI : I s) : I s' := by
  induction h with
  | refl => exact hI
  | tail _ hlast ih =>
    obtain ⟨c, hmade, rfl⟩ := hlast
    exact hstep _ c ih hmade

theorem Evolves.distinct (hs : Function.Injective config.supply.id) (h : Evolves config s s')
    (hd : s.Distinct config.supply) : s'.Distinct config.supply :=
  h.induction (fun _ c hd _ => hd.perform hs c) hd

theorem Evolves.fitting (h : Evolves config s s') (hf : s.Fitting) : s'.Fitting :=
  h.induction (fun _ _ hf hmade => hf.perform hmade.lawful.proper) hf

end Store

end SecurityGroups
