/-
SecurityGroups/Proofs/Jobs.lean

Calls to the service, as data.

A job is one call to the service with all of its arguments, for the user who
makes it and the limit of pages of the service that takes it.  Jobs can be run
one after the other on a store (`play`), or all at once, with their calls to
the store in any order.
-/
import SecurityGroups.Proofs.Operations

namespace SecurityGroups

/-! ### Operations -/

/-- A call to the service, and for a deletion the tour on which it visits the clouds. -/
inductive Operation where
  | listGroups (q : GroupQuery)
  | getGroup (id : String)
  | createGroup (g : Group)
  | updateGroup (id : String) (c : GroupChange)
  | assign (a : Assignment)
  | deleteGroups (d : Deletion) (tour : Vendor.Tour)
  | listRules (cloud : RuleCloud) (groupId : String) (q : RuleQuery)
  | createRules (groupId : String) (c : AnyCreation)
  | updateRule (groupId ruleId : String) (c : AnyChange)

/-- What a call to the service answers. -/
inductive Outcome where
  | done
  | id (id : String)
  | ids (ids : List String)
  | count (n : Nat)
  | group (g : Group)
  | groups (listing : GroupListing)
  | rules (cloud : RuleCloud) (listing : RuleListing cloud.Rule)

/-- What the service does. -/
def Operation.action (limit : UInt32) (user : String) : Operation → Action Outcome
  | listGroups q => .groups <$> Service.listGroups limit q
  | getGroup id => .group <$> Service.group limit id
  | createGroup g => .id <$> Service.createGroup user g
  | updateGroup id c => (fun _ => .done) <$> Service.updateGroup limit user id c
  | assign a => .count <$> Service.assign limit user a
  | deleteGroups d tour => .count <$> Service.deleteGroups limit d tour
  | listRules cloud groupId q => .rules cloud <$> Service.listRules cloud.Rule limit groupId q
  | createRules groupId c => .ids <$> Service.createAnyRules limit user groupId c
  | updateRule groupId ruleId c =>
    (fun _ => .done) <$> Service.updateAnyRule limit user groupId ruleId c

namespace Service

theorem createAnyRules_eq (limit : UInt32) (user groupId : String) (c : AnyCreation) :
    createAnyRules limit user groupId c = createRules limit user groupId c.creation := by
  cases c <;> rfl

theorem updateAnyRule_eq (limit : UInt32) (user groupId ruleId : String) (c : AnyChange) :
    updateAnyRule limit user groupId ruleId c = updateRule limit user groupId ruleId c.update := by
  cases c <;> rfl

end Service

/-! ### Jobs -/

/-- A call to the service, the user who makes it, and the limit of pages of the service. -/
structure Job where
  limit : UInt32
  user : String
  operation : Operation

namespace Job

/-- The calls to the store that a job makes. -/
def script (job : Job) : Script (Except ServiceError Outcome) :=
  ExceptT.run (job.operation.action job.limit job.user)

/-- Runs a job by itself. -/
def run (config : Store.Config) (job : Job) (s : Store) : Except ServiceError Outcome × Store :=
  Action.run config (job.operation.action job.limit job.user) s

end Job

/-- The store after some jobs, one after the other, whatever they answer. -/
def play (config : Store.Config) : List Job → Store → Store
  | [], s => s
  | job :: rest, s => play config rest (job.run config s).2

/-- A job that creates a group. -/
def Job.creation : Job where
  limit := 500
  user := "ann"
  operation := .createGroup
    { vendor := some .aws
      cloudId := "sg-1"
      business := Group.unassigned
      name := "web"
      accountId := "x" }

/-- What holds at the start and is kept by every job holds after any jobs. -/
theorem play_induction {config : Store.Config} {I : Store → Prop}
    (hstep : ∀ (s : Store) (job : Job), I s → I (job.run config s).2) (jobs : List Job)
    {s : Store} (h : I s) : I (play config jobs s) := by
  induction jobs generalizing s with
  | nil => exact h
  | cons job rest ih => exact ih (hstep s job h)

end SecurityGroups
