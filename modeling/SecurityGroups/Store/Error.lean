/-
SecurityGroups/Store/Error.lean

Why the store refuses a call.
-/
import SecurityGroups.Column.Schema
import SecurityGroups.Query.Page
import SecurityGroups.Record.Kind

namespace SecurityGroups

/-- Why a filter can not be used. -/
inductive FilterError where
  | arrayExpected (field : String)
  | stringExpected (field : String)
  /-- The ids of rows never change. -/
  | idIsFixed
  deriving Repr, DecidableEq

/-- The wording of a filter error. -/
def FilterError.message : FilterError → String
  | arrayExpected field => field ++ " expects an array value"
  | stringExpected field => field ++ " expects a string value"
  | idIsFixed => "id can not be updated"

/-- Why the store refuses a call. -/
inductive StoreError where
  | schema (e : SchemaError)
  | filter (e : FilterError)
  | page (e : PageError)
  | column (name : String) (fault : CellFault)
  | backend (reason : String)
  deriving Repr, DecidableEq

/-- The wording of a store error. -/
def StoreError.message : StoreError → String
  | schema e => e.message
  | filter e => "invalid filter: " ++ e.message
  | page e => "invalid page: " ++ e.message
  | column name fault => "failed to decode column " ++ name ++ ": " ++ fault.reason
  | backend reason => "backend error: " ++ reason

end SecurityGroups
