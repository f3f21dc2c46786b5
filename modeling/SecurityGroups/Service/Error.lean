/-
SecurityGroups/Service/Error.lean

Why the service refuses a request.
-/
import SecurityGroups.Store.Error
import SecurityGroups.Violation

namespace SecurityGroups

/-- What the service keeps. -/
inductive Resource where
  | group | rule
  deriving Repr, DecidableEq

/-- What a resource is called. -/
def Resource.name : Resource → String
  | group => "security group"
  | rule => "security group rule"

/-- Why the service refuses a request. -/
inductive ServiceError where
  /-- The request or what it would write is wrong. -/
  | violation (v : Violation)
  /-- The store refused a call. -/
  | store (e : StoreError)
  | notFound (resource : Resource) (id : String)
  deriving Repr, DecidableEq

namespace ServiceError

/-- The wording of a service error. -/
def message : ServiceError → String
  | violation v => v.message
  | store e => "Row store error: " ++ e.message
  | notFound resource id => resource.name ++ " " ++ id ++ " not found"

/-- Whether the request itself is to blame. -/
def isRequestError : ServiceError → Bool
  | violation _ => true
  | _ => false

end ServiceError

end SecurityGroups
