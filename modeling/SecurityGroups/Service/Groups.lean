/-
SecurityGroups/Service/Groups.lean

What the service does with security groups.

Every action checks its request first, then loads the groups that it is
about, and writes last.  Groups are loaded in batches that fit into one
page.  A group is assigned only as long as it is still unassigned when the
store writes: the filter of the update says so, and the number of rows that
were written tells whether another assignment came first.
-/
import SecurityGroups.Batch
import SecurityGroups.Request.Rules
import SecurityGroups.Service.Action

namespace SecurityGroups.Service

/-! ### Loading -/

/-- The column `name` holds one of some texts. -/
def oneOfTexts (name : String) (texts : List String) : Filter :=
  .oneOf name (texts.map Json.str)

/-- Loads the groups with some ids, one batch of ids after the other. -/
def loadBatches : List (List String) → Action (List Group)
  | [] => pure []
  | batch :: rest => do
    let (_, found) ← Action.list Group (oneOfTexts "id" batch)
      (.ofRange 0 (UInt32.ofNat batch.length))
    return found ++ (← loadBatches rest)

/-- Loads the groups with some ids; `limit` is the most rows of a page. -/
def load (limit : UInt32) (ids : List String) : Action (List Group) :=
  loadBatches (Batch.split limit.toNat ids.eraseDups)

/-- Loads the group with an id. -/
def group (limit : UInt32) (id : String) : Action Group := do
  match (← load limit [id]).getLast? with
  | some g => return g
  | none => throw (.notFound .group id)

/-- Loads the groups with some ids, all of which have to be there. -/
def require (limit : UInt32) (ids : List String) : Action (List Group) := do
  let groups ← load limit ids
  -- the first missing id in the order of the request, not in that of the store
  match ids.find? fun id => !groups.any (·.id == id) with
  | some id => throw (.notFound .group id)
  | none => return groups

/-! ### Listing, creating, changing -/

/-- Lists the groups that a query asks for. -/
def listGroups (limit : UInt32) (q : GroupQuery) : Action GroupListing := do
  Action.demand (q.check limit)
  match q.filter, q.page with
  | some filter, some page =>
    let (count, groups) ← Action.list Group filter page
    return { count, groups }
  | _, _ => throw (.violation (.required "filter"))

/-- Stores a new group in the name of a user; answers its id. -/
def createGroup (user : String) (g : Group) : Action String := do
  let g := { g with audit := { g.audit with creator := user, reviser := user } }
  Action.demand (Entity.insertCheck g)
  match (← Action.insert Group [g]).getLast? with
  | some id => return id
  | none => throw (.store (.backend "insert returned no id"))

/-- What a change writes into a group. -/
def revision (user : String) (current : Group) (c : GroupChange) : Group where
  vendor := current.vendor
  name := c.name.getD ""
  memo := c.memo
  audit := { reviser := user }

/-- Changes the name or the memo of a group. -/
def updateGroup (limit : UInt32) (user id : String) (c : GroupChange) : Action Unit := do
  Action.demand c.check
  let current ← group limit id
  let update := revision user current c
  Action.demand (Entity.updateCheck update)
  let _ ← Action.update Group (.equal "id" (.str id)) (Entity.updateRow update)

/-! ### Assigning -/

/-- What an assignment writes into a group. -/
def assigned (user : String) (business : Int64) : Group where
  business := business
  audit := { reviser := user }

/-- A group may be assigned to a business. -/
def checkAssignable (user : String) (business : Int64) (g : Group) : Verdict := .first
  [.provided (g.business = Group.unassigned)
      (.business ("security group " ++ g.id ++ " already assigned to biz "
        ++ Text.decimalInt g.business.toInt)),
    Entity.updateCheck { assigned user business with vendor := g.vendor }]

/-- The groups with some ids that are not assigned. -/
def stillUnassigned (ids : List String) : Filter :=
  (oneOfTexts "id" ids).adding (.test ⟨"bk_biz_id", .eq, .ofInt64 Group.unassigned⟩)

/-- Another assignment came first for some of the groups. -/
def lostRace (affected expected : Nat) (business : Int64) : Violation :=
  .business ("security groups were assigned concurrently, " ++ toString affected ++ " of "
    ++ toString expected ++ " assigned to biz " ++ Text.decimalInt business.toInt)

/-- Assigns groups to a business; answers how many there are. -/
def assign (limit : UInt32) (user : String) (a : Assignment) : Action Nat := do
  Action.demand a.check
  let groups ← require limit a.groupIds
  Action.demand (Check.each groups (checkAssignable user a.business))
  -- another script may have assigned one of the groups since they were loaded
  let affected ← Action.update Group (stillUnassigned a.groupIds)
    (Entity.updateRow (assigned user a.business))
  if affected = groups.length then return affected
  else throw (.violation (lostRace affected groups.length a.business))

/-! ### Deleting -/

/-- Deletes the rules of a cloud that belong to some groups. -/
def deleteRulesOf (ids : List String) : Vendor → Action Nat
  | .tcloud => Action.delete (RuleEntry TCloud.Rule) (oneOfTexts "security_group_id" ids)
  | .aws => Action.delete (RuleEntry Aws.Rule) (oneOfTexts "security_group_id" ids)
  | .huawei => Action.delete (RuleEntry HuaWei.Rule) (oneOfTexts "security_group_id" ids)
  | .azure => Action.delete (RuleEntry Azure.Rule) (oneOfTexts "security_group_id" ids)
  | .gcp => pure 0

/-- Deletes the rules of some groups, cloud by cloud. -/
def deleteRules (groups : List Group) : List Vendor → Action Unit
  | [] => pure ()
  | v :: rest => do
    let owners := groups.filter (·.vendor = some v)
    if !owners.isEmpty then
      let _ ← deleteRulesOf (owners.map Group.id) v
    deleteRules groups rest

/-- Deletes groups together with their rules; answers how many groups there were.  The tour on which
the clouds of the groups are visited is not up to the request: it can be any. -/
def deleteGroups (limit : UInt32) (d : Deletion) (tour : Vendor.Tour := .listed) : Action Nat := do
  Action.demand d.check
  let groups ← require limit d.ids
  -- rules go first, so that none is ever left without its group
  deleteRules groups tour.stops
  Action.delete Group (oneOfTexts "id" d.ids)

end SecurityGroups.Service
