/-
SecurityGroups/Json/Numeral.lean

The value of a JSON number, from its digits.

A number without a fraction and an exponent is an integer as long as it
fits in 64 bits (unsigned when positive, signed when negative, and not
`-0`).  Every other number is a double: its leading digits are gathered
into a 64-bit significand, which is then scaled by a power of ten in double
arithmetic.  A number too large for a double is refused.
-/
import SecurityGroups.Json.Basic

namespace SecurityGroups.Json

/-- A number as it is written: its sign and its digits. -/
structure Numeral where
  negative : Bool
  whole : List Nat
  fraction : List Nat := []
  /-- The digits after the exponent mark, and whether a minus sign stands before them. -/
  exponent : Option (Bool × List Nat) := none

/-- The largest significand. -/
def maxSignificand : Nat := UInt64.size - 1

/-- The largest exponent that is told apart from any larger one. -/
def maxExponent : Nat := Nat.pow 2 31 - 1

/-- Appends digits to a significand until one does not fit any more; also counts them. -/
def absorb (significand count : Nat) : List Nat → Nat × Nat
  | [] => (significand, count)
  | d :: ds =>
    let next := significand * 10 + d
    if next ≤ maxSignificand then absorb next (count + 1) ds else (significand, count)

/-- Scales a double by a power of ten, in steps that stay within a double's range;
`fuel` bounds the steps, and after three of them nothing is left. -/
def scaleDouble : Nat → Float → Int → Option Float
  | 0, f, _ => some f
  | fuel + 1, f, e =>
    if 0 ≤ e then
      if e ≤ 308 then
        let scaled := f * Float.ofScientific 1 false e.toNat
        if scaled.isInf then none else some scaled
      else if f == 0 then some f else none
    else if -308 ≤ e then some (f / Float.ofScientific 1 false (-e).toNat)
    else if f == 0 then some f
    else scaleDouble fuel (f / Float.ofScientific 1 false 308) (e + 308)

/-- The double with a sign, or nothing when the scaling fails. -/
def signedDouble (negative : Bool) (f : Float) : Json :=
  .double (if negative then -f else f).toBits

/-- The double `significand * 10 ^ exponent`. -/
def doubleOfParts (negative : Bool) (significand : Nat) (exponent : Int) : Option Json :=
  (scaleDouble 8 (UInt64.ofNat significand).toFloat exponent).map (signedDouble negative)

/-- The value of a run of digits, if it does not exceed `max`. -/
def boundedValue (max : Nat) (digits : List Nat) : Option Nat :=
  digits.foldlM (fun n d => if n * 10 + d ≤ max then some (n * 10 + d) else none) 0

/-- The value of a number, unless it is too large for a double. -/
def Numeral.value (n : Numeral) : Option Json :=
  let (head, kept) := absorb 0 0 n.whole
  let dropped : Int := (n.whole.length : Int) - kept
  if dropped = 0 ∧ n.fraction.isEmpty ∧ n.exponent.isNone then
    if n.negative then
      if 0 < head ∧ head ≤ Nat.pow 2 63 then some (.int (-head))
      else some (signedDouble true (UInt64.ofNat head).toFloat)
    else some (.int head)
  else
    -- digits of the whole part that did not fit still scale the number; those of the fraction do not
    let (significand, places) := absorb head 0 n.fraction
    let start := dropped - places
    match n.exponent with
    | none => doubleOfParts n.negative significand start
    | some (minus, digits) =>
      match boundedValue maxExponent digits with
      | some e => doubleOfParts n.negative significand (if minus then start - e else start + e)
      | none =>
        -- the exponent is beyond all bounds: the number is zero or too large
        if minus ∨ significand = 0 then some (signedDouble n.negative 0) else none

end SecurityGroups.Json
