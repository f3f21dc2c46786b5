/-
SecurityGroups/Text/CodePoints.lean

Sets of code points, given by their boundaries.

A set is an increasing list of boundaries: the first is where the set
starts, the second where it stops, and so on.  `inSet` walks the list, and
`inSet_nil`, `inSet_cons_cons` describe it one stretch at a time.
-/
namespace SecurityGroups.Text

/-- Whether a code point lies in one of the stretches `start ≤ c < stop` of a set. -/
def inSet (c : Nat) : List Nat → Bool
  | start :: stop :: rest => start ≤ c && (c < stop || inSet c rest)
  | _ => false

@[simp] theorem inSet_nil (c : Nat) : inSet c [] = false := rfl

theorem inSet_cons_cons (c start stop : Nat) (rest : List Nat) :
    inSet c (start :: stop :: rest) = (decide (start ≤ c) && (decide (c < stop) || inSet c rest)) :=
  rfl

end SecurityGroups.Text
