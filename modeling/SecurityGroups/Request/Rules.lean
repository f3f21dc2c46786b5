/-
SecurityGroups/Request/Rules.lean

Requests about the rules of a security group.

New rules come in two sets, one for each direction, and exactly one of them
may hold rules.  Since all rules of a request are of one type, a request
never mixes the rules of several clouds; `AnyCreation` and `AnyChange` are
for clouds that are known only when a request is read.
-/
import SecurityGroups.Entity.RuleEntry
import SecurityGroups.Query.Page
import SecurityGroups.Request.Groups
import SecurityGroups.Rule.Any

namespace SecurityGroups

/-! ### Listing -/

/-- Asks for the rules of a group. -/
structure RuleQuery where
  page : Option Window := none
  deriving Repr, DecidableEq

namespace RuleQuery

/-- What is wrong with a query. -/
def check (q : RuleQuery) (maxLimit : UInt32) : Verdict :=
  match q.page with
  | none => .error (.required "page")
  | some window => window.toPage.checkField maxLimit

/-- Reads a query. -/
def ofJson? (json : Json) : Option RuleQuery := do
  let ms ← json.record? ["page"]
  let page ← ms.readOr "page" none (Json.optional? Window.ofJson?)
  return { page }

/-- Writes a query. -/
def toJson (q : RuleQuery) : Json :=
  .obj [("page", Json.ofOption (fun w => w.toPage.toJson) q.page)]

end RuleQuery

/-- The rules that were asked for, or their number. -/
structure RuleListing (R : Type) where
  count : Option Nat := none
  entries : List (RuleEntry R) := []

namespace RuleListing

variable {R : Type} [Shape R]

/-- Reads a listing. -/
def ofJson? (json : Json) : Option (RuleListing R) := do
  let ms ← json.record? ["count", "details"]
  let count ← ms.readOr "count" none (Json.optional? Json.count?)
  let entries ← ms.readOr "details" [] (Json.list? RuleEntry.ofJson?)
  return { count, entries }

/-- Writes a listing. -/
def toJson (l : RuleListing R) : Json :=
  .obj (Json.memberOf "count" Json.ofNat l.count
    ++ Json.membersOfList "details" RuleEntry.toJson l.entries)

end RuleListing

/-! ### Creating -/

/-- Creates rules in one direction. -/
structure RuleCreation (R : Type) where
  egress : List R := []
  ingress : List R := []
  deriving Repr, DecidableEq

namespace RuleCreation

variable {R : Type}

/-- The direction of the set that holds rules, if only one does. -/
def direction? (c : RuleCreation R) : Option Direction :=
  match c.egress.isEmpty, c.ingress.isEmpty with
  | false, true => some .egress
  | true, false => some .ingress
  | _, _ => none

/-- The rules of the set that holds rules. -/
def rules (c : RuleCreation R) : List R := if c.egress.isEmpty then c.ingress else c.egress

/-- What is wrong with the two sets. -/
def envelopeCheck (c : RuleCreation R) : Verdict := .first
  [.provided (!c.egress.isEmpty || !c.ingress.isEmpty)
      (.business "egress rule or ingress rule is required"),
    .provided (c.egress.isEmpty || c.ingress.isEmpty)
      (.business "egress rule or ingress rule only one is allowed")]

variable [Shape R]

/-- What is wrong with the two sets, or with one of the rules. -/
def check (c : RuleCreation R) : Verdict := .first
  [c.envelopeCheck, Check.each c.rules Shape.check]

/-- Reads a creation. -/
def ofJson? (json : Json) : Option (RuleCreation R) := do
  let ms ← json.record? ["egress_rule_set", "ingress_rule_set"]
  let egress ← ms.readOr "egress_rule_set" [] (Json.list? Shape.record?)
  let ingress ← ms.readOr "ingress_rule_set" [] (Json.list? Shape.record?)
  return { egress, ingress }

/-- Writes a creation. -/
def toJson (c : RuleCreation R) : Json :=
  let write := fun rule => Json.obj (Shape.members (R := R) rule)
  .obj (Json.membersOfList "egress_rule_set" write c.egress
    ++ Json.membersOfList "ingress_rule_set" write c.ingress)

end RuleCreation

/-- A creation of the rules of some cloud. -/
inductive AnyCreation where
  | tcloud (c : RuleCreation TCloud.Rule)
  | aws (c : RuleCreation Aws.Rule)
  | huawei (c : RuleCreation HuaWei.Rule)
  | azure (c : RuleCreation Azure.Rule)
  deriving Repr, DecidableEq

namespace AnyCreation

/-- The cloud of the rules. -/
def vendor : AnyCreation → Vendor
  | tcloud _ => .tcloud
  | aws _ => .aws
  | huawei _ => .huawei
  | azure _ => .azure

/-- What is wrong with a creation. -/
def check : AnyCreation → Verdict
  | tcloud c => c.check
  | aws c => c.check
  | huawei c => c.check
  | azure c => c.check

/-- Reads a creation of the rules of a cloud. -/
def ofJson (vendor : Vendor) (body : Json) : Except DecodeError AnyCreation :=
  match vendor with
  | .tcloud => DecodeError.ofOption ((RuleCreation.ofJson? body).map tcloud)
  | .aws => DecodeError.ofOption ((RuleCreation.ofJson? body).map aws)
  | .huawei => DecodeError.ofOption ((RuleCreation.ofJson? body).map huawei)
  | .azure => DecodeError.ofOption ((RuleCreation.ofJson? body).map azure)
  | .gcp => .error (.unsupported .gcp)

/-- Writes a creation. -/
def toJson : AnyCreation → Json
  | tcloud c => c.toJson
  | aws c => c.toJson
  | huawei c => c.toJson
  | azure c => c.toJson

end AnyCreation

/-! ### Updating -/

/-- A partial update of a rule of some cloud. -/
inductive AnyChange where
  | tcloud (u : TCloud.Update)
  | aws (u : Aws.Update)
  | huawei (u : HuaWei.Update)
  | azure (u : Azure.Update)
  deriving Repr, DecidableEq

namespace AnyChange

/-- The cloud of the rule. -/
def vendor : AnyChange → Vendor
  | tcloud _ => .tcloud
  | aws _ => .aws
  | huawei _ => .huawei
  | azure _ => .azure

/-- What is wrong with an update. -/
def check : AnyChange → Verdict
  | tcloud u => u.check
  | aws u => u.check
  | huawei u => u.check
  | azure u => u.check

/-- Reads an update of a rule of a cloud. -/
def ofJson (vendor : Vendor) (body : Json) : Except DecodeError AnyChange :=
  match vendor with
  | .tcloud => DecodeError.ofOption ((Change.record? body).map tcloud)
  | .aws => DecodeError.ofOption ((Change.record? body).map aws)
  | .huawei => DecodeError.ofOption ((Change.record? body).map huawei)
  | .azure => DecodeError.ofOption ((Change.record? body).map azure)
  | .gcp => .error (.unsupported .gcp)

/-- Writes an update. -/
def toJson : AnyChange → Json
  | tcloud u => .obj (Change.members u)
  | aws u => .obj (Change.members u)
  | huawei u => .obj (Change.members u)
  | azure u => .obj (Change.members u)

end AnyChange

end SecurityGroups
