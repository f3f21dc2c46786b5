/-
SecurityGroups/Query/Page.lean

Pages: which part of a listing is asked for, and in which order.

A page either counts, and then sets nothing else, or has a limit between
one and the most that a store allows.
-/
import SecurityGroups.Json.Members

namespace SecurityGroups

/-- The most rows of a page where nothing else is configured. -/
def defaultPageLimit : UInt32 := 500

/-- Ascending or descending. -/
inductive Order where
  | ascending | descending
  deriving Repr, DecidableEq

namespace Order

/-- The name of an order. -/
def name : Order → String
  | ascending => "ASC"
  | descending => "DESC"

/-- The order of a name. -/
def find? (s : String) : Option Order := [ascending, descending].find? (·.name == s)

@[simp] theorem find?_name (o : Order) : find? o.name = some o := by cases o <;> decide

end Order

/-- A part of a listing, or only the number of its rows. -/
structure Window where
  count : Bool := false
  start : UInt32 := 0
  limit : UInt32 := 0
  deriving Repr, DecidableEq

/-- A part of a listing in some order. -/
structure Page extends Window where
  sort : Option String := none
  order : Option Order := none
  deriving Repr, DecidableEq

/-- Why a page is refused. -/
inductive PageError where
  | countWithWindow
  | missingLimit
  | limitTooLarge (max actual : UInt32)
  deriving Repr, DecidableEq

/-- The wording of a page error. -/
def PageError.message : PageError → String
  | countWithWindow => "count page should not set start, limit or sort"
  | missingLimit => "page limit is required"
  | limitTooLarge max actual =>
    "page limit should <= " ++ toString max.toNat ++ ", but got " ++ toString actual.toNat

namespace Window

/-- A window as a page in no special order. -/
def toPage (w : Window) : Page := { toWindow := w }

/-- The JSON members of a window. -/
def members (w : Window) : Members :=
  [("count", .bool w.count), ("start", Json.ofNat w.start.toNat),
    ("limit", Json.ofNat w.limit.toNat)]

/-- Takes a window from JSON members. -/
def ofMembers? (ms : Members) : Option Window := do
  let count ← ms.readOr "count" false Json.bool?
  let start ← ms.readOr "start" 0 Json.uint32?
  let limit ← ms.readOr "limit" 0 Json.uint32?
  return { count, start, limit }

/-- Reads a window. -/
def ofJson? (json : Json) : Option Window :=
  (json.record? ["count", "start", "limit"]).bind ofMembers?

end Window

namespace Page

/-- The first rows after some others. -/
def ofRange (start limit : UInt32) : Page := { start, limit }

/-- Only the number of rows. -/
def countOnly : Page := { count := true }

/-- The page in the order of a column. -/
def sortedBy (p : Page) (field : String) (order : Order) : Page :=
  { p with sort := some field, order := some order }

/-- The page is within what a store allows. -/
def check (p : Page) (max : UInt32) : Except PageError Unit :=
  if p.count then
    if p.start ≠ 0 ∨ p.limit ≠ 0 ∨ p.sort.isSome then .error .countWithWindow else .ok ()
  else if p.limit = 0 then .error .missingLimit
  else if max < p.limit then .error (.limitTooLarge max p.limit)
  else .ok ()

/-- Writes a page. -/
def toJson (p : Page) : Json :=
  .obj (p.toWindow.members ++ Json.memberOf "sort" Json.str p.sort
    ++ Json.memberOf "order" (fun o => .str o.name) p.order)

/-- Reads a page. -/
def ofJson? (json : Json) : Option Page := do
  let ms ← json.record? ["count", "start", "limit", "sort", "order"]
  let window ← Window.ofMembers? ms
  let sort ← ms.readOr "sort" none (Json.optional? Json.text?)
  let order ← ms.readOr "order" none (Json.optional? (Json.choice? Order.find?))
  return { toWindow := window, sort, order }

end Page

end SecurityGroups
