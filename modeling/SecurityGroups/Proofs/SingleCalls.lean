/-
SecurityGroups/Proofs/SingleCalls.lean

Actions of one call.

Most steps of an operation make one call to the store and check what it answers
without another.  A session whose next step is such an action is moved by
running the action (`System.move_single`), so what is known of the action when it
runs by itself is known of the move, whatever other sessions do before and after.
-/
import SecurityGroups.Proofs.Completion

namespace SecurityGroups

/-! ### Actions of one call -/

namespace Action

variable {α β : Type}

/-- The action makes no call. -/
def Silent (action : Action α) : Prop := ∃ result, ExceptT.run action = .done result

/-- The action makes this call, and none after it. -/
def Single (c : Call) (action : Action α) : Prop :=
  ∃ finish : Except StoreError c.Answer → Except ServiceError α,
    ExceptT.run action = .call c fun answer => .done (finish answer)

/-- What is left of an action in two parts when the first has ended. -/
def resume (next : α → Action β) : Except ServiceError α → Script (Except ServiceError β)
  | .ok x => ExceptT.run (next x)
  | .error e => .done (.error e)

theorem script_bind (action : Action α) (next : α → Action β) :
    ExceptT.run (action >>= next) = (ExceptT.run action).bind (resume next) := by
  refine congrArg (ExceptT.run action).bind (funext fun result => ?_)
  cases result with
  | ok x => rfl
  | error e => rfl

theorem silent_pure (x : α) : (pure x : Action α).Silent := ⟨_, rfl⟩

theorem silent_throw (e : ServiceError) : (throw e : Action α).Silent := ⟨_, rfl⟩

theorem silent_ofExcept (x : Except ServiceError α) : (ofExcept x).Silent := ⟨_, rfl⟩

theorem single_call (c : Call) : (call c).Single c := ⟨_, rfl⟩

theorem Silent.bind {action : Action α} {next : α → Action β} (h : action.Silent)
    (hnext : ∀ x, (next x).Silent) : (action >>= next).Silent := by
  obtain ⟨result, hresult⟩ := h
  rw [Silent, script_bind, hresult]
  cases result with
  | ok x => exact hnext x
  | error e => exact ⟨_, rfl⟩

theorem Single.bind {c : Call} {action : Action α} {next : α → Action β} (h : action.Single c)
    (hnext : ∀ x, (next x).Silent) : (action >>= next).Single c := by
  obtain ⟨finish, hfinish⟩ := h
  have hrest : ∀ result, ∃ ending, resume next result = .done ending := by
    intro result
    cases result with
    | ok x => exact hnext x
    | error e => exact ⟨_, rfl⟩
  choose last hlast using hrest
  refine ⟨fun answer => last (finish answer), ?_⟩
  rw [script_bind, hfinish]
  exact congrArg (Script.call c) (funext fun answer => hlast (finish answer))

theorem single_list {α : Type} [Entity α] (filter : Filter) (page : Page) :
    (Action.list α filter page).Single (.list (Entity.table α) (Entity.schema α) filter page) :=
  (single_call _).bind fun _ => (silent_ofExcept _).bind fun _ => silent_pure _

theorem single_update {α : Type} [Entity α] (filter : Filter) (values : Row) :
    (Action.update α filter values).Single
      (.update (Entity.table α) (Entity.schema α) filter values) := single_call _

theorem Single.run_snd {c : Call} {action : Action α} (h : action.Single c) (config : Store.Config)
    (s : Store) : (action.run config s).2 = (s.perform config c).2 := by
  obtain ⟨finish, hfinish⟩ := h
  rw [run, hfinish]
  rfl

end Action

namespace Service

/-- The call that looks for the group with an id. -/
def groupCall (id : String) : Call :=
  .list (Entity.table Group) (Entity.schema Group) (oneOfTexts "id" [id]) (.ofRange 0 1)

theorem single_group (limit : UInt32) (id : String) : (group limit id).Single (groupCall id) := by
  have hload : (load limit [id]).Single (groupCall id) := by
    rw [load_singleton]
    exact (Action.single_list _ _).bind fun _ => (Action.silent_pure _).bind fun _ =>
      Action.silent_pure _
  refine hload.bind fun groups => ?_
  cases groups.getLast? with
  | none => exact Action.silent_throw _
  | some g => exact Action.silent_pure _

theorem single_groupOf (vendor : Vendor) (limit : UInt32) (id : String) :
    (groupOf vendor limit id).Single (groupCall id) :=
  (single_group limit id).bind fun _ => (Action.silent_ofExcept _).bind fun _ =>
    Action.silent_pure _

end Service

namespace System

variable {config : Store.Config} {sys : System} {i : Nat} {job : Job}

/-- **The move of a session that goes on with an action of one call** runs the action. -/
theorem move_single {α : Type} {c : Call} {action : Action α} {next : α → Action Outcome}
    (h : action.Single c) (hi : sys.sessions[i]? = some ⟨job, ExceptT.run (action >>= next)⟩) :
    sys.move config (.resume i) = ⟨(action.run config sys.store).2,
      sys.sessions.set i ⟨job, Action.resume next (action.run config sys.store).1⟩⟩ := by
  obtain ⟨finish, hfinish⟩ := h
  rw [Action.script_bind, hfinish] at hi
  rw [move, hi, Action.run, hfinish]
  rfl

theorem move_done {result : Except ServiceError Outcome}
    (hi : sys.sessions[i]? = some ⟨job, .done result⟩) : sys.move config (.resume i) = sys := by
  rw [move, hi]

end System

end SecurityGroups
