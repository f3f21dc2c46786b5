/-
SecurityGroups/Time/Timestamp.lean

Timestamps: the texts of instants, after RFC 3339.

There are two readers.  The strict one takes fields of fixed width, as in
`2024-05-06T07:08:09.5+02:00`.  The lenient one also skips blanks between
fields, takes shorter fields and signed years, and knows `UTC` as an offset.
Both accept a space for the `T`, a leap second in any minute and any number
of decimals, of which nine count.

`Instant.text` writes an instant in UTC with zero, three, six or nine
decimals, the fewest that are exact.
-/
import SecurityGroups.Text.AsciiCase
import SecurityGroups.Text.Blank
import SecurityGroups.Text.Numeral
import SecurityGroups.Time.Instant

namespace SecurityGroups

/-- How closely a timestamp has to follow the standard. -/
inductive Reading where
  | strict | lenient
  deriving Repr, DecidableEq

namespace Timestamp

/-! ### Fields -/

/-- Skips blanks where they are allowed. -/
def skip : Reading → List Char → List Char
  | .strict, cs => cs
  | .lenient, cs => Text.trimStart cs

/-- A number of at least `least` and at most `most` digits. -/
def number? (least most : Nat) (cs : List Char) : Option (Nat × List Char) :=
  let ds := (cs.take most).takeWhile Char.isDigit
  if least ≤ ds.length then some (Nat.ofDigitChars 10 ds 0, cs.drop ds.length) else none

/-- A field of two digits; the lenient reader takes one digit as well. -/
def field? (r : Reading) (cs : List Char) : Option (Nat × List Char) :=
  match r with
  | .strict => number? 2 2 cs
  | .lenient => number? 1 2 (Text.trimStart cs)

/-- A year of four digits; the lenient reader takes fewer, and any number of them after a sign. -/
def year? (r : Reading) (cs : List Char) : Option (Int × List Char) :=
  match r with
  | .strict => (number? 4 4 cs).map fun (n, cs) => (n, cs)
  | .lenient =>
    match Text.trimStart cs with
    | '-' :: cs => (number? 1 cs.length cs).map fun (n, cs) => (-n, cs)
    | '+' :: cs => (number? 1 cs.length cs).map fun (n, cs) => (n, cs)
    | cs => (number? 1 4 cs).map fun (n, cs) => (n, cs)

/-- The character `c`. -/
def mark? (r : Reading) (c : Char) (cs : List Char) : Option (List Char) :=
  match skip r cs with
  | d :: cs => if d = c then some cs else none
  | [] => none

/-- The decimals of a second as nanoseconds, if a point follows. -/
def nanos? (cs : List Char) : Option (Nat × List Char) :=
  match cs with
  | '.' :: cs =>
    let ds := cs.takeWhile Char.isDigit
    if ds = [] then none
    else
      -- digits beyond the nanosecond are read and dropped
      let kept := ds.take 9
      some (Nat.ofDigitChars 10 kept 0 * Nat.pow 10 (9 - kept.length), cs.drop ds.length)
  | cs => some (0, cs)

/-- A date. -/
def date? (r : Reading) (cs : List Char) : Option (Date × List Char) := do
  let (year, cs) ← year? r cs
  let cs ← mark? r '-' cs
  let (month, cs) ← field? r cs
  let cs ← mark? r '-' cs
  let (day, cs) ← field? r cs
  return (⟨year, month, day⟩, cs)

/-- What stands between the date and the time. -/
def separator? : List Char → Option (List Char)
  | c :: cs => if c = 'T' ∨ c = 't' ∨ c = ' ' then some cs else none
  | [] => none

/-- A time of day: its second and its nanosecond. -/
def time? (r : Reading) (cs : List Char) : Option ((Nat × Nat) × List Char) := do
  let (hour, cs) ← field? r cs
  let cs ← mark? r ':' cs
  let (minute, cs) ← field? r cs
  let cs ← mark? r ':' cs
  let (second, cs) ← field? r cs
  let (nano, cs) ← nanos? cs
  if hour ≤ 23 ∧ minute ≤ 59 ∧ second ≤ 60 then
    let start := hour * 3600 + minute * 60
    -- a leap second is kept as a long last second
    if second = 60 then return ((start + 59, nanosPerSecond + nano), cs)
    else return ((start + second, nano), cs)
  else none

/-! ### Offsets -/

/-- The sign of an offset; the minus may be a hyphen or a minus sign. -/
def sign? : List Char → Option (Int × List Char)
  | '+' :: cs => some (1, cs)
  | '-' :: cs => some (-1, cs)
  | '−' :: cs => some (-1, cs)
  | _ => none

/-- Skips what stands between the hours and the minutes of an offset. -/
def skipColon? : Reading → List Char → Option (List Char)
  | .strict, ':' :: cs => some cs
  | .strict, _ => none
  | .lenient, cs => some (cs.dropWhile fun c => c = ':' || Text.isBlank c)

/-- An offset of hours and minutes, in seconds; it is shorter than a day. -/
def hoursMinutes? (r : Reading) (cs : List Char) : Option (Int × List Char) := do
  let (sign, cs) ← sign? cs
  let (hours, cs) ← number? 2 2 cs
  let cs ← skipColon? r cs
  let (minutes, cs) ← number? 2 2 cs
  if hours ≤ 23 ∧ minutes ≤ 59 then return (sign * (hours * 3600 + minutes * 60), cs) else none

/-- An offset from UTC, in seconds. -/
def offset? (r : Reading) (cs : List Char) : Option (Int × List Char) :=
  match skip r cs with
  | c :: cs =>
    if c = 'Z' ∨ c = 'z' then some (0, cs)
    else if r = .lenient ∧ ((c :: cs).take 3).map Char.toUpper = ['U', 'T', 'C'] then
      some (0, cs.drop 2)
    else hoursMinutes? r (c :: cs)
  | [] => none

/-! ### Texts -/

/-- Whether a year can be told. -/
def inCalendar (year : Int) : Bool := -262143 ≤ year && year ≤ 262142

/-- Reads a timestamp. -/
def readChars? (r : Reading) (cs : List Char) : Option Instant := do
  let (date, cs) ← date? r cs
  let cs ← separator? cs
  let ((second, nano), cs) ← time? r cs
  let (offset, cs) ← offset? r cs
  if skip r cs = [] ∧ date.Valid ∧ inCalendar date.year then
    let (day, second) := Instant.toUtc date second offset
    if inCalendar day.year then Instant.ofFields? day second nano else none
  else none

end Timestamp

namespace Instant

/-- Reads a timestamp. -/
def read? (r : Reading) (s : String) : Option Instant := Timestamp.readChars? r s.toList

/-- The last `width` digits of a number. -/
def fixedDigits : Nat → Nat → List Char
  | 0, _ => []
  | width + 1, n => fixedDigits width (n / 10) ++ [Nat.digitChar (n % 10)]

/-- The text of a year: four digits from 0 to 9999, else a sign and at least four digits. -/
def yearChars (year : Int) : List Char :=
  if 0 ≤ year ∧ year ≤ 9999 then fixedDigits 4 year.toNat
  else
    (if year < 0 then '-' else '+') ::
      if year.natAbs ≤ 9999 then fixedDigits 4 year.natAbs else Text.decimal year.natAbs

/-- The decimals of a second: as few groups of three as are exact. -/
def nanoChars (nano : Nat) : List Char :=
  if nano = 0 then []
  else if nano % 1000000 = 0 then '.' :: fixedDigits 3 (nano / 1000000)
  else if nano % 1000 = 0 then '.' :: fixedDigits 6 (nano / 1000)
  else '.' :: fixedDigits 9 nano

/-- The text of the second of a minute with its decimals; a leap second is the sixtieth. -/
def secondChars (second nano : Nat) : List Char :=
  if nano < nanosPerSecond then fixedDigits 2 second ++ nanoChars nano
  else fixedDigits 2 (second + 1) ++ nanoChars (nano - nanosPerSecond)

/-- The text of an instant. -/
def chars (t : Instant) : List Char :=
  yearChars t.date.year ++ '-' :: fixedDigits 2 t.date.month ++ '-' :: fixedDigits 2 t.date.day
    ++ 'T' :: fixedDigits 2 (t.second / 3600) ++ ':' :: fixedDigits 2 (t.second / 60 % 60)
    ++ ':' :: secondChars (t.second % 60) t.nano ++ ['Z']

/-- The text of an instant. -/
def text (t : Instant) : String := String.ofList t.chars

end Instant

end SecurityGroups
