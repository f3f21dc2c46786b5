/-
SecurityGroups/Decimal/Shortest.lean

The shortest decimal that reads back as a given double.

A finite double is `m * 2 ^ q`.  The reals that round to it form an
interval around it, whose ends belong to it exactly when `m` is even.  For
one digit, two digits, and so on, the two neighbours of the value on that
decimal grid are tested; the first grid with a hit wins, and of two hits
the nearer one.  All arithmetic is exact, on natural numbers.
-/
namespace SecurityGroups.Decimal

/-! ### A double as a number -/

/-- A finite double as `mantissa * 2 ^ exponent`, with the distance to its neighbour below
halved when `narrow`. -/
structure Binary where
  negative : Bool
  mantissa : Nat
  exponent : Int
  narrow : Bool
  deriving Repr, DecidableEq

/-- The number that the bits of a finite double stand for. -/
def Binary.ofBits (bits : UInt64) : Binary :=
  let fraction : Nat := bits.toNat % Nat.pow 2 52
  let biased : Nat := bits.toNat / Nat.pow 2 52 % Nat.pow 2 11
  { negative := Nat.pow 2 63 ≤ bits.toNat
    mantissa := if biased = 0 then fraction else Nat.pow 2 52 + fraction
    exponent := (if biased = 0 then 1 else (biased : Int)) - 1075
    narrow := fraction = 0 && 1 < biased }

/-- A fraction of two naturals. -/
structure Ratio where
  num : Nat
  den : Nat
  deriving Repr, DecidableEq

namespace Ratio

/-- `n * 2 ^ e`. -/
def scaled2 (n : Nat) (e : Int) : Ratio :=
  if 0 ≤ e then ⟨n * Nat.pow 2 e.toNat, 1⟩ else ⟨n, Nat.pow 2 (-e).toNat⟩

/-- `n * 10 ^ e`. -/
def scaled10 (n : Nat) (e : Int) : Ratio :=
  if 0 ≤ e then ⟨n * Nat.pow 10 e.toNat, 1⟩ else ⟨n, Nat.pow 10 (-e).toNat⟩

/-- Whether `a ≤ b`. -/
def le (a b : Ratio) : Bool := a.num * b.den ≤ b.num * a.den

/-- Whether `a < b`. -/
def lt (a b : Ratio) : Bool := a.num * b.den < b.num * a.den

/-- The whole part of `a / 10 ^ e`. -/
def floorDiv10 (a : Ratio) (e : Int) : Nat :=
  if 0 ≤ e then a.num / (a.den * Nat.pow 10 e.toNat) else a.num * Nat.pow 10 (-e).toNat / a.den

/-- Counts up from `e` to the first power of ten above `a`, within `fuel` steps. -/
def magnitudeFrom (a : Ratio) : Nat → Int → Int
  | 0, e => e
  | fuel + 1, e => if a.lt (scaled10 1 e) then e else magnitudeFrom a fuel (e + 1)

/-- The least `e` with `a < 10 ^ e`, for any positive double. -/
def magnitude (a : Ratio) : Int := magnitudeFrom a 640 (-324)

end Ratio

/-! ### The search -/

/-- The reals that round to a double. -/
structure Interval where
  low : Ratio
  high : Ratio
  closed : Bool

/-- Whether a decimal lies in the interval. -/
def Interval.contains (i : Interval) (r : Ratio) : Bool :=
  if i.closed then i.low.le r && r.le i.high else i.low.lt r && r.lt i.high

/-- The interval of the reals that round to a positive double. -/
def Binary.interval (b : Binary) : Interval where
  low := .scaled2 (4 * b.mantissa - if b.narrow then 1 else 2) (b.exponent - 2)
  high := .scaled2 (4 * b.mantissa + 2) (b.exponent - 2)
  closed := b.mantissa % 2 = 0

/-- The decimal of the grid `10 ^ e` that is nearest to `value` among those in the interval. -/
def nearestOnGrid (value : Ratio) (i : Interval) (e : Int) : Option Nat :=
  let down := value.floorDiv10 e
  let up := down + 1
  match i.contains (.scaled10 down e), i.contains (.scaled10 up e) with
  | true, true =>
    -- both neighbours read back: the nearer one, and the lower one halfway
    if (Ratio.mk (2 * value.num) value.den).le (.scaled10 (down + up) e) then some down
    else some up
  | true, false => some down
  | false, true => some up
  | false, false => none

/-- Tries the grids with `digits`, `digits + 1`, … significant digits. -/
def search (value : Ratio) (i : Interval) (magnitude : Int) : Nat → Nat → Nat × Int
  | 0, digits => (value.floorDiv10 (magnitude - digits), magnitude - digits)
  | fuel + 1, digits =>
    let e := magnitude - digits
    match nearestOnGrid value i e with
    | some n => (n, e)
    | none => search value i magnitude fuel (digits + 1)

/-- Drops the zeros at the end of a decimal. -/
def trimZeros : Nat → Nat → Int → Nat × Int
  | 0, n, e => (n, e)
  | fuel + 1, n, e => if n % 10 = 0 ∧ n ≠ 0 then trimZeros fuel (n / 10) (e + 1) else (n, e)

/-- The shortest `n * 10 ^ e` that rounds to a positive double. -/
def Binary.shortest (b : Binary) : Nat × Int :=
  let value := Ratio.scaled2 b.mantissa b.exponent
  let (n, e) := search value b.interval value.magnitude 17 1
  trimZeros 20 n e

/-! ### Text -/

/-- Writes `digits * 10 ^ e`: positionally up to 16 places before the point and down to four
zeros after it, and with an exponent beyond. -/
def writeDecimal (n : Nat) (e : Int) : String :=
  let digits := (toString n).toList
  let point : Int := digits.length + e
  if 0 ≤ e ∧ point ≤ 16 then
    String.ofList (digits ++ List.replicate e.toNat '0') ++ ".0"
  else if 0 < point ∧ point ≤ 16 then
    String.ofList (digits.take point.toNat ++ '.' :: digits.drop point.toNat)
  else if -5 < point ∧ point ≤ 0 then
    "0." ++ String.ofList (List.replicate (-point).toNat '0' ++ digits)
  else
    let mantissa := match digits with
      | [d] => String.ofList [d]
      | d :: ds => String.ofList (d :: '.' :: ds)
      | [] => "0"
    mantissa ++ "e" ++ toString (point - 1)

/-- The shortest text of a finite double, given by its bits. -/
def textOfBits (bits : UInt64) : String :=
  let b := Binary.ofBits bits
  let sign := if b.negative then "-" else ""
  if b.mantissa = 0 then sign ++ "0.0"
  else
    let (n, e) := b.shortest
    sign ++ writeDecimal n e

end SecurityGroups.Decimal
