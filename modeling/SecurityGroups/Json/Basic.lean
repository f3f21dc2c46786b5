/-
SecurityGroups/Json/Basic.lean

JSON values and the members of JSON objects.

A number is kept as it was written: an integer, or a double given by its
bits.  `1` and `1.0` are therefore different values, which is what every
reader of integers below relies on.

The members of an object are a list of named values in which no name is
repeated.  `Members.put` keeps it so, and the two lemmas `find?_put_self`
and `find?_put_of_ne` say all that a reader of members can observe.
-/
namespace SecurityGroups

/-- A JSON value. -/
inductive Json where
  | null
  | bool (b : Bool)
  | int (n : Int)
  | double (bits : UInt64)
  | str (s : String)
  | arr (items : List Json)
  | obj (members : List (String × Json))
  deriving Inhabited

/-- The named values of an object, in order of first appearance. -/
abbrev Members := List (String × Json)

namespace Members

/-! ### Looking up and writing members -/

/-- The value named `key`, if there is one. -/
def find? (key : String) : Members → Option Json
  | [] => none
  | (k, v) :: ms => if k = key then some v else find? key ms

/-- Names `value` by `key`: in place of the old value, or else at the end. -/
def put (key : String) (value : Json) : Members → Members
  | [] => [(key, value)]
  | (k, v) :: ms => if k = key then (k, value) :: ms else (k, v) :: put key value ms

/-- Writes the members of the second list over those of the first, the last one winning. -/
def putAll (ms : Members) : List (String × Json) → Members
  | [] => ms
  | (k, v) :: rest => putAll (put k v ms) rest

@[simp] theorem find?_nil (key : String) : find? key [] = none := rfl

theorem find?_cons (key k : String) (v : Json) (ms : Members) :
    find? key ((k, v) :: ms) = if k = key then some v else find? key ms := rfl

@[simp] theorem find?_put_self (key : String) (value : Json) (ms : Members) :
    find? key (put key value ms) = some value := by
  induction ms with
  | nil => simp [put, find?]
  | cons m ms ih =>
    obtain ⟨k, v⟩ := m
    by_cases h : k = key <;> simp [put, find?, h, ih]

theorem find?_put_of_ne {key other : String} (h : key ≠ other) (value : Json) (ms : Members) :
    find? other (put key value ms) = find? other ms := by
  induction ms with
  | nil => simp [put, find?, h]
  | cons m ms ih =>
    obtain ⟨k, v⟩ := m
    by_cases hk : k = key
    · subst hk; simp [put, find?, h]
    · simp [put, find?, hk, ih]

/-- Every name of the members, in order. -/
def names (ms : Members) : List String := ms.map Prod.fst

end Members

namespace Json

/-! ### Equality

Doubles are compared as numbers, so the two zeros are the same; an integer
is never the same as a double.  Objects are compared member by member,
whatever their order. -/

/-- Whether two finite doubles, given by their bits, are the same number. -/
def sameDouble (a b : UInt64) : Bool :=
  a == b || (a <<< 1 == 0 && b <<< 1 == 0)

mutual
/-- Whether two values are the same. -/
def same : Json → Json → Bool
  | .null, .null => true
  | .bool a, .bool b => a == b
  | .int a, .int b => a == b
  | .double a, .double b => sameDouble a b
  | .str a, .str b => a == b
  | .arr a, .arr b => sameItems a b
  | .obj a, .obj b => a.length == b.length && sameMembers a b
  | _, _ => false

/-- Whether two lists hold the same values in the same order. -/
def sameItems : List Json → List Json → Bool
  | [], [] => true
  | a :: as, b :: bs => same a b && sameItems as bs
  | _, _ => false

/-- Whether every member of the first list has the same value in the second. -/
def sameMembers : List (String × Json) → Members → Bool
  | [], _ => true
  | (k, v) :: rest, other =>
    (match other.find? k with
      | some w => same v w
      | none => false) && sameMembers rest other
end

/-! ### Views -/

/-- The integer of a number that is written as one and fits in 64 signed bits. -/
def int64? : Json → Option Int64
  | .int n => if Int64.minValue.toInt ≤ n ∧ n ≤ Int64.maxValue.toInt then some (Int64.ofInt n) else none
  | _ => none

/-- The text of a string. -/
def text? : Json → Option String
  | .str s => some s
  | _ => none

/-- The truth value of a boolean. -/
def bool? : Json → Option Bool
  | .bool b => some b
  | _ => none

/-- A number for a 64-bit integer. -/
def ofInt64 (n : Int64) : Json := .int n.toInt

/-- An array of strings. -/
def ofTexts (texts : List String) : Json := .arr (texts.map .str)

@[simp] theorem int64?_ofInt64 (n : Int64) : int64? (ofInt64 n) = some n := by
  rw [ofInt64, int64?, if_pos ⟨Int64.minValue_le_toInt n, Int64.toInt_le n⟩, Int64.ofInt_toInt]

end Json

end SecurityGroups
