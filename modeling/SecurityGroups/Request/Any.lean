/-
SecurityGroups/Request/Any.lean

Requests of every kind.

`RequestKind.read` takes the kind of a request from its name, and the cloud
where one is needed; `Request.ofJson` reads the body of a request of a
kind, and `Request.check` is what every request says about itself.
-/
import SecurityGroups.Request.Rules

namespace SecurityGroups

/-! ### Kinds -/

/-- A kind of request, with the cloud that it is about if there is one. -/
inductive RequestKind where
  | list | listRules | update | delete | assign
  | createRules (vendor : Vendor)
  | updateRule (vendor : Vendor)
  deriving Repr, DecidableEq

/-- Why a kind of request can not be told. -/
inductive KindError where
  | unknownKind (name : String)
  | missingVendor
  | unknownVendor (name : String)
  deriving Repr, DecidableEq

namespace RequestKind

/-- The name of a kind. -/
def name : RequestKind → String
  | list => "list"
  | listRules => "list-rules"
  | update => "update"
  | delete => "delete"
  | assign => "assign"
  | createRules _ => "create-rules"
  | updateRule _ => "update-rule"

/-- The kinds that are about no cloud. -/
def plain : List RequestKind := [list, listRules, update, delete, assign]

/-- The kinds that are about one cloud. -/
def ofVendor : List (Vendor → RequestKind) := [createRules, updateRule]

/-- Takes a cloud from its name. -/
def readVendor : Option String → Except KindError Vendor
  | none => .error .missingVendor
  | some s =>
    match Vendor.find? s with
    | some v => .ok v
    | none => .error (.unknownVendor s)

/-- Takes a kind from its name and, where one is needed, the name of a cloud. -/
def read (name : String) (vendor : Option String) : Except KindError RequestKind :=
  match plain.find? (·.name == name), ofVendor.find? fun kind => (kind .tcloud).name == name with
  | some kind, _ => .ok kind
  | none, some kind => (readVendor vendor).map kind
  | none, none => .error (.unknownKind name)

end RequestKind

/-! ### Requests -/

/-- A request. -/
inductive Request where
  | list (q : GroupQuery)
  | listRules (q : RuleQuery)
  | update (c : GroupChange)
  | delete (d : Deletion)
  | assign (a : Assignment)
  | createRules (c : AnyCreation)
  | updateRule (c : AnyChange)

namespace Request

/-- Reads the body of a request of a kind. -/
def ofJson : RequestKind → Json → Except DecodeError Request
  | .list, body => DecodeError.ofOption ((GroupQuery.ofJson? body).map list)
  | .listRules, body => DecodeError.ofOption ((RuleQuery.ofJson? body).map listRules)
  | .update, body => DecodeError.ofOption ((GroupChange.ofJson? body).map update)
  | .delete, body => DecodeError.ofOption ((Deletion.ofJson? body).map delete)
  | .assign, body => DecodeError.ofOption ((Assignment.ofJson? body).map assign)
  | .createRules vendor, body => (AnyCreation.ofJson vendor body).map createRules
  | .updateRule vendor, body => (AnyChange.ofJson vendor body).map updateRule

/-- What is wrong with a request; `maxLimit` is the most rows of a page. -/
def check (maxLimit : UInt32) : Request → Verdict
  | list q => q.check maxLimit
  | listRules q => q.check maxLimit
  | update c => c.check
  | delete d => d.check
  | assign a => a.check
  | createRules c => c.check
  | updateRule c => c.check

/-- Writes a request. -/
def toJson : Request → Json
  | list q => q.toJson
  | listRules q => q.toJson
  | update c => c.toJson
  | delete d => d.toJson
  | assign a => a.toJson
  | createRules c => c.toJson
  | updateRule c => c.toJson

end Request

end SecurityGroups
