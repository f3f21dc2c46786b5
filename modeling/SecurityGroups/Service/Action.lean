/-
SecurityGroups/Service/Action.lean

Actions: scripts that may end in a refusal.

The calls of an action are those of a script, except that rows are written
and read as entities.  Whatever is demanded before the first call that
writes can be refused without a trace.

An action is read through `Action.run`: `run_bind` says that a refusal ends
it and leaves the store as it is, and the lemmas beside it say what the
single steps do.
-/
import SecurityGroups.Entity.Basic
import SecurityGroups.Service.Error
import SecurityGroups.Service.Script

namespace SecurityGroups

/-- Reads entities from rows, up to the first row that is wrong. -/
def Entity.ofRows {α : Type} [Entity α] : List Row → Except Attribute.ColumnFault (List α)
  | [] => .ok []
  | row :: rest =>
    match Entity.ofRow row with
    | .error fault => .error fault
    | .ok e =>
      match Entity.ofRows rest with
      | .error fault => .error fault
      | .ok es => .ok (e :: es)

/-- A script that may end in a refusal. -/
abbrev Action (α : Type) := ExceptT ServiceError Script α

namespace Action

/-- Ends in what is given, without a call. -/
def ofExcept {α : Type} (x : Except ServiceError α) : Action α := ExceptT.mk (.done x)

/-- Goes on only if nothing is wrong. -/
def demand (v : Verdict) : Action Unit := ofExcept (v.mapError .violation)

/-- Makes one call. -/
def call (c : Call) : Action c.Answer :=
  ExceptT.mk (.call c fun answer => .done (answer.mapError .store))

/-! ### Running -/

/-- Runs an action to its end on a store. -/
def run {α : Type} (config : Store.Config) (action : Action α) (s : Store) :
    Except ServiceError α × Store :=
  Script.run (Store.perform config) (ExceptT.run action) s

section Running

variable {α β : Type} (config : Store.Config) (s : Store)

@[simp] theorem run_pure (x : α) : (pure x : Action α).run config s = (.ok x, s) := rfl

@[simp] theorem run_throw (e : ServiceError) :
    (throw e : Action α).run config s = (.error e, s) := rfl

@[simp] theorem run_ofExcept (x : Except ServiceError α) :
    (ofExcept x).run config s = (x, s) := rfl

@[simp] theorem run_call (c : Call) :
    (call c).run config s = ((s.perform config c).1.mapError .store, (s.perform config c).2) := rfl

@[simp] theorem run_demand_fine : (demand .fine).run config s = (.ok (), s) := rfl

@[simp] theorem run_demand_error (v : Violation) :
    (demand (.error v)).run config s = (.error (.violation v), s) := rfl

/-- A refusal ends an action; otherwise it goes on where it stopped. -/
theorem run_bind (action : Action α) (next : α → Action β) :
    (action >>= next).run config s =
      match action.run config s with
      | (.ok x, after) => (next x).run config after
      | (.error e, after) => (.error e, after) := by
  show Script.run _ (Script.bind _ _) s = _
  rw [Script.run_bind]
  rcases h : action.run config s with ⟨x | e, after⟩ <;>
    (have h' : Script.run (Store.perform config) action s = _ := h
     rw [h']
     rfl)

end Running

/-! ### Calls -/

variable (α : Type) [Entity α]

/-- Reads entities from rows. -/
def decode (rows : List Row) : Action (List α) :=
  ofExcept ((Entity.ofRows rows).mapError fun (name, fault) => .store (.column name fault))

/-- Stores new entities; answers their ids. -/
def insert (entities : List α) : Action (List String) :=
  call (.insert (Entity.table α) (Entity.schema α) (entities.map Entity.toRow))

/-- Writes some cells of the entities that pass a filter; answers how many there are. -/
def update (filter : Filter) (values : Row) : Action Nat :=
  call (.update (Entity.table α) (Entity.schema α) filter values)

/-- Takes out the entities that pass a filter; answers how many there were. -/
def delete (filter : Filter) : Action Nat :=
  call (.delete (Entity.table α) (Entity.schema α) filter)

/-- The entities of a page among those that pass a filter, or their number. -/
def list (filter : Filter) (page : Page) : Action (Option Nat × List α) := do
  let listing ← call (.list (Entity.table α) (Entity.schema α) filter page)
  return (listing.count, ← decode α listing.rows)

end Action

end SecurityGroups
