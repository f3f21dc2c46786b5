/-
SecurityGroups/Checker.lean

The checker of requests.

It takes the kind of a request, and the cloud where one is needed, from its
arguments and the request from its input.  It says `ok` or what is wrong
with the request first; where it can not tell, because of its settings, its
arguments or an input that is no such request, it says why.
-/
import SecurityGroups.Json.Reader
import SecurityGroups.Request.Any
import SecurityGroups.Settings

namespace SecurityGroups.Checker

/-- How the checker is called. -/
def usage : String :=
  "usage: sg-request-check <list|list-rules|update|create-rules|update-rule|delete|assign>"
    ++ " [vendor] < request.json"

/-- Why the checker can not tell what is wrong with a request. -/
inductive Failure where
  | settings (e : SettingsError)
  /-- There are no arguments. -/
  | usage
  | invalidJson
  | kind (e : KindError)
  | body (kind : RequestKind) (e : DecodeError)
  deriving Repr, DecidableEq

/-- The wording of a failure with the kind of a request. -/
def kindMessage : KindError → String
  | .unknownKind name => "unknown request kind " ++ Text.quoted name ++ "\n" ++ usage
  | .missingVendor => "vendor argument is required for this kind"
  | .unknownVendor _ => "Unknown vendor"

/-- The wording of a failure with the body of a request; rules are spoken of where a cloud is. -/
def bodyMessage : RequestKind → DecodeError → String
  | .createRules _, e => e.message
  | .updateRule _, e => e.message
  | _, _ => "Failed to decode request body"

/-- The wording of a failure. -/
def Failure.message : Failure → String
  | settings e => e.message
  | usage => Checker.usage
  | invalidJson => "Request body is not valid JSON"
  | kind e => kindMessage e
  | body k e => bodyMessage k e

/-- Takes a request from its kind, the name of a cloud and its body. -/
def readRequest (kind : String) (vendor : Option String) (body : Json) :
    Except Failure Request := do
  let kind ← (RequestKind.read kind vendor).mapError .kind
  (Request.ofJson kind body).mapError (.body kind)

/-- What the checker says of a body, under a limit of pages. -/
def verdict (limit : UInt32) (kind : String) (vendor : Option String) (body : Json) :
    Except Failure Verdict := do
  return (← readRequest kind vendor body).check limit

/-- What is wrong with the request of the arguments and the input, under the settings of `lookup`. -/
def check (lookup : String → Option String) (args : List String) (input : String) :
    Except Failure Verdict := do
  let settings ← (Settings.ofLookup lookup).mapError .settings
  match args with
  | [] => throw .usage
  | kind :: rest =>
    match Json.read? Json.requestDepth input with
    | none => throw .invalidJson
    | some body => verdict settings.maxPageLimit kind rest.head? body

/-- What a run of the checker leaves behind. -/
structure Report where
  status : UInt8
  output : String
  /-- Why the checker could not tell. -/
  failure : Option String
  deriving Repr, DecidableEq

/-- The report of a run. -/
def report : Except Failure Verdict → Report
  | .ok (.ok ()) => ⟨0, "ok\n", none⟩
  | .ok (.error v) => ⟨1, v.message ++ "\n", none⟩
  | .error e => ⟨1, "", some ("Error: " ++ e.message)⟩

end SecurityGroups.Checker
