/-
SecurityGroups/Request/Groups.lean

Requests about security groups.

Each request is read from JSON, and says itself what is wrong with it.  A
listing has to name a filter and a page, although neither is needed to read
it.
-/
import SecurityGroups.Entity.Group
import SecurityGroups.Query.Filter
import SecurityGroups.Query.Page

namespace SecurityGroups

/-- The most groups that one request may name. -/
def batchMaxItems : Nat := 100

/-- A page as part of a request is within what is allowed. -/
def Page.checkField (p : Page) (maxLimit : UInt32) : Verdict :=
  (p.check maxLimit).mapError fun e => .invalidFormat "page" e.message

/-! ### Listing -/

/-- Asks for the groups that pass a filter. -/
structure GroupQuery where
  filter : Option Filter := none
  page : Option Page := none

namespace GroupQuery

/-- What is wrong with a query. -/
def check (q : GroupQuery) (maxLimit : UInt32) : Verdict := .first
  [Check.requiredSome "filter" q.filter,
    match q.page with
    | none => .error (.required "page")
    | some page => page.checkField maxLimit]

/-- Reads a query. -/
def ofJson? (json : Json) : Option GroupQuery := do
  let ms ← json.record? ["filter", "page"]
  let filter ← ms.readOr "filter" none (Json.optional? Filter.ofJson?)
  let page ← ms.readOr "page" none (Json.optional? Page.ofJson?)
  return { filter, page }

/-- Writes a query. -/
def toJson (q : GroupQuery) : Json :=
  .obj [("filter", Json.ofOption Filter.toJson q.filter),
    ("page", Json.ofOption Page.toJson q.page)]

end GroupQuery

/-- The groups that were asked for, or their number. -/
structure GroupListing where
  count : Option Nat := none
  groups : List Group := []

namespace GroupListing

/-- Reads a listing. -/
def ofJson? (json : Json) : Option GroupListing := do
  let ms ← json.record? ["count", "details"]
  let count ← ms.readOr "count" none (Json.optional? Json.count?)
  let groups ← ms.readOr "details" [] (Json.list? Entity.ofJson?)
  return { count, groups }

/-- Writes a listing. -/
def toJson (l : GroupListing) : Json :=
  .obj (Json.memberOf "count" Json.ofNat l.count
    ++ Json.membersOfList "details" Entity.toJson l.groups)

end GroupListing

/-! ### Changing -/

/-- Changes the name or the memo of a group; an empty name is no name. -/
structure GroupChange where
  name? : Option String := none
  memo : Option String := none
  deriving Repr, DecidableEq

namespace GroupChange

/-- The new name, if there is one. -/
def name (c : GroupChange) : Option String := c.name?.filter (· ≠ "")

/-- What is wrong with a change. -/
def check (c : GroupChange) : Verdict := .first
  [.provided (c.name.isSome || c.memo.isSome) (.business "name or memo is required"),
    Check.optional c.name Naming.groupName,
    Check.optional c.memo Naming.groupMemo]

/-- The fields of a change. -/
def attributes : List (Attribute GroupChange) :=
  [{ name := "name", kind := .optText, get := name?,
      set := fun v c => { c with name? := v }, quiet := true },
    { name := "memo", kind := .optText, get := memo,
      set := fun v c => { c with memo := v }, quiet := true }]

/-- Reads a change. -/
def ofJson? : Json → Option GroupChange := Attribute.record? attributes {}

/-- Writes a change. -/
def toJson (c : GroupChange) : Json := .obj (Attribute.dumpAll attributes c)

end GroupChange

/-! ### Assigning and deleting -/

/-- Assigns groups to a business. -/
structure Assignment where
  business : Int64 := 0
  groupIds : List String := []
  deriving Repr, DecidableEq

namespace Assignment

/-- What is wrong with an assignment. -/
def check (a : Assignment) : Verdict := .first
  [.provided (0 < a.business) (.business "bk_biz_id should >= 0"),
    .provided (!a.groupIds.isEmpty) (.business "security group ids is required"),
    .provided (a.groupIds.length ≤ batchMaxItems)
      (.business ("security group ids should <= " ++ toString batchMaxItems))]

/-- The fields of an assignment. -/
def attributes : List (Attribute Assignment) :=
  [{ name := "bk_biz_id", kind := .number, get := business,
      set := fun v a => { a with business := v } },
    { name := "security_group_ids", kind := .texts, get := groupIds,
      set := fun v a => { a with groupIds := v } }]

/-- Reads an assignment. -/
def ofJson? : Json → Option Assignment := Attribute.record? attributes {}

/-- Writes an assignment. -/
def toJson (a : Assignment) : Json := .obj (Attribute.dumpAll attributes a)

end Assignment

/-- Deletes groups together with their rules. -/
structure Deletion where
  ids : List String := []
  deriving Repr, DecidableEq

namespace Deletion

/-- What is wrong with a deletion. -/
def check (d : Deletion) : Verdict := .first
  [Check.requiredItems "ids" d.ids,
    .provided (d.ids.length ≤ batchMaxItems) (.business ("ids should <= " ++ toString batchMaxItems)),
    Check.each d.ids (Check.required "ids")]

/-- The fields of a deletion. -/
def attributes : List (Attribute Deletion) :=
  [{ name := "ids", kind := .texts, get := ids, set := fun v d => { d with ids := v } }]

/-- Reads a deletion. -/
def ofJson? : Json → Option Deletion := Attribute.record? attributes {}

/-- Writes a deletion. -/
def toJson (d : Deletion) : Json := .obj (Attribute.dumpAll attributes d)

end Deletion

end SecurityGroups
