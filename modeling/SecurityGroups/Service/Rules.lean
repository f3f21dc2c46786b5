/-
SecurityGroups/Service/Rules.lean

What the service does with the rules of a security group.

A group only takes rules of its own cloud.  New rules get their owner and
their direction from the group and the request; an update replaces the rule
within its entry and leaves owner and direction alone.
-/
import SecurityGroups.Service.Groups

namespace SecurityGroups.Service

/-- A group belongs to a cloud. -/
def checkCloud (vendor : Vendor) (g : Group) : Verdict :=
  match g.vendor with
  | some v => .provided (v = vendor)
      (.business ("security group " ++ g.id ++ " belongs to " ++ v.name ++ ", rules are for "
        ++ vendor.name))
  | none => .error (.invariant "vendor can not be empty")

/-- Loads a group, which has to belong to a cloud. -/
def groupOf (vendor : Vendor) (limit : UInt32) (id : String) : Action Group := do
  let g ← group limit id
  Action.demand (checkCloud vendor g)
  return g

/-! ### Listing -/

/-- Lists the rules of a group. -/
def listRules (R : Type) [Shape R] (limit : UInt32) (groupId : String) (q : RuleQuery) :
    Action (RuleListing R) := do
  Action.demand (q.check limit)
  let _ ← groupOf (Shape.vendor R) limit groupId
  let (count, entries) ← Action.list (RuleEntry R) (.equal "security_group_id" (.str groupId))
    (q.page.getD {}).toPage
  return { count, entries }

/-! ### Creating -/

/-- A new rule of a group, in a direction, in the name of a user. -/
def newEntry {R : Type} (user : String) (g : Group) (direction : Direction) (rule : R) :
    RuleEntry R where
  groupId := g.id
  cloudGroupId := g.cloudId
  accountId := g.accountId
  region := g.region
  direction := some direction
  rule := rule
  audit := { creator := user, reviser := user }

/-- Stores new rules of a group in one direction; answers their ids in the order of the rules. -/
def createRules {R : Type} [Shape R] (limit : UInt32) (user groupId : String)
    (c : RuleCreation R) : Action (List String) := do
  Action.demand c.check
  match c.direction? with
  | none => throw (.violation (.business "egress rule or ingress rule is required"))
  | some direction =>
    let g ← groupOf (Shape.vendor R) limit groupId
    let entries := c.rules.map (newEntry user g direction)
    Action.demand (Check.each entries Entity.insertCheck)
    Action.insert (RuleEntry R) entries

/-- Stores new rules of the cloud that a creation is for. -/
def createAnyRules (limit : UInt32) (user groupId : String) : AnyCreation → Action (List String)
  | .tcloud c => createRules limit user groupId c
  | .aws c => createRules limit user groupId c
  | .huawei c => createRules limit user groupId c
  | .azure c => createRules limit user groupId c

/-! ### Updating -/

/-- The rule with an id among those of a group. -/
def ruleOfGroup (groupId ruleId : String) : Filter :=
  (Filter.equal "id" (.str ruleId)).adding (.test ⟨"security_group_id", .eq, .str groupId⟩)

/-- What an update writes into a rule. -/
def revisedEntry {R : Type} (user : String) (direction : Option Direction) (rule : R) :
    RuleEntry R where
  direction := direction
  rule := rule
  audit := { reviser := user }

/-- Updates a rule of a group. -/
def updateRule {U R : Type} [Change U R] [Shape R] (limit : UInt32)
    (user groupId ruleId : String) (u : U) : Action Unit := do
  Action.demand (Change.check u)
  let _ ← groupOf (Shape.vendor R) limit groupId
  let (_, found) ← Action.list (RuleEntry R) (ruleOfGroup groupId ruleId) (.ofRange 0 1)
  match found.head? with
  | none => throw (.notFound .rule ruleId)
  | some current =>
    -- the direction is carried along for the check only; the update does not write it
    let update := revisedEntry user current.direction (Change.apply u current.rule)
    Action.demand (Entity.updateCheck update)
    let _ ← Action.update (RuleEntry R) (ruleOfGroup groupId ruleId) (Entity.updateRow update)

/-- Updates a rule of the cloud that an update is for. -/
def updateAnyRule (limit : UInt32) (user groupId ruleId : String) : AnyChange → Action Unit
  | .tcloud u => updateRule limit user groupId ruleId u
  | .aws u => updateRule limit user groupId ruleId u
  | .huawei u => updateRule limit user groupId ruleId u
  | .azure u => updateRule limit user groupId ruleId u

end SecurityGroups.Service
