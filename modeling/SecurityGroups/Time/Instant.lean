/-
SecurityGroups/Time/Instant.lean

Points in time, in the Gregorian calendar and in UTC.

An instant is a date, a second of that day and a nanosecond.  A leap second
belongs to the last second of its minute: there the nanoseconds run on
beyond one thousand million.  Instants are ordered field by field, so the
order is that of the calendar, and two instants are equal exactly when they
compare as equal.
-/
namespace SecurityGroups

/-! ### Dates -/

/-- Whether a year has 366 days. -/
def isLeapYear (year : Int) : Bool := year % 4 = 0 && (year % 100 ≠ 0 || year % 400 = 0)

/-- The number of days of a month. -/
def daysInMonth (year : Int) (month : Nat) : Nat :=
  if month = 2 then if isLeapYear year then 29 else 28
  else if month = 4 ∨ month = 6 ∨ month = 9 ∨ month = 11 then 30
  else 31

/-- A year, a month and a day. -/
structure Date where
  year : Int
  month : Nat
  day : Nat
  deriving Repr, DecidableEq

namespace Date

/-- A day of the calendar. -/
def Valid (d : Date) : Prop :=
  1 ≤ d.month ∧ d.month ≤ 12 ∧ 1 ≤ d.day ∧ d.day ≤ daysInMonth d.year d.month

instance (d : Date) : Decidable d.Valid := inferInstanceAs (Decidable (_ ∧ _ ∧ _ ∧ _))

/-- The day after. -/
def next (d : Date) : Date :=
  if d.day < daysInMonth d.year d.month then { d with day := d.day + 1 }
  else if d.month < 12 then ⟨d.year, d.month + 1, 1⟩
  else ⟨d.year + 1, 1, 1⟩

/-- The day before. -/
def previous (d : Date) : Date :=
  if 1 < d.day then { d with day := d.day - 1 }
  else if 1 < d.month then ⟨d.year, d.month - 1, daysInMonth d.year (d.month - 1)⟩
  else ⟨d.year - 1, 12, 31⟩

end Date

/-! ### Instants -/

/-- The seconds of a day. -/
def secondsPerDay : Nat := 86400

/-- The nanoseconds of a second. -/
def nanosPerSecond : Nat := 1000000000

/-- A point in time. -/
structure Instant where
  date : Date
  /-- The second of the day. -/
  second : Nat
  /-- The nanosecond, above a whole second only in a leap second. -/
  nano : Nat
  date_valid : date.Valid := by decide
  second_lt : second < secondsPerDay := by decide
  nano_lt : nano < 2 * nanosPerSecond := by decide
  leap_last : nanosPerSecond ≤ nano → second % 60 = 59 := by decide
  deriving Repr, DecidableEq

namespace Instant

/-- The instant with the given fields, if there is one. -/
def ofFields? (date : Date) (second nano : Nat) : Option Instant :=
  if h : date.Valid ∧ second < secondsPerDay ∧ nano < 2 * nanosPerSecond ∧
      (nanosPerSecond ≤ nano → second % 60 = 59) then
    some ⟨date, second, nano, h.1, h.2.1, h.2.2.1, h.2.2.2⟩
  else none

theorem ofFields?_self (t : Instant) : ofFields? t.date t.second t.nano = some t :=
  dif_pos ⟨t.date_valid, t.second_lt, t.nano_lt, t.leap_last⟩

/-- The date and second in UTC of a date and second at an offset of less than a day. -/
def toUtc (date : Date) (second : Nat) (offset : Int) : Date × Nat :=
  let s : Int := second - offset
  if s < 0 then (date.previous, (s + secondsPerDay).toNat)
  else if s < secondsPerDay then (date, s.toNat)
  else (date.next, (s - secondsPerDay).toNat)

/-! ### Order -/

/-- Field by field, from the year to the nanosecond. -/
instance : Ord Instant where
  compare := compareLex (compareOn (·.date.year)) <| compareLex (compareOn (·.date.month)) <|
    compareLex (compareOn (·.date.day)) <| compareLex (compareOn (·.second)) (compareOn (·.nano))

theorem compare_def (a b : Instant) : compare a b =
    (compareLex (compareOn (·.date.year)) <| compareLex (compareOn (·.date.month)) <|
      compareLex (compareOn (·.date.day)) <| compareLex (compareOn (·.second))
        (compareOn (·.nano)) : Instant → Instant → Ordering) a b := rfl

/-- Instants that compare as equal are equal. -/
theorem compare_eq_eq {a b : Instant} : compare a b = .eq ↔ a = b := by
  constructor
  · intro h
    obtain ⟨⟨_, _, _⟩, _, _, _, _, _, _⟩ := a
    obtain ⟨⟨_, _, _⟩, _, _, _, _, _, _⟩ := b
    simp only [compare_def, compareLex, Ordering.then_eq_eq, compareOn, Std.compare_eq_iff_eq] at h
    simp [h]
  · rintro rfl
    simp [compare_def, compareLex, compareOn]

instance : Std.TransOrd Instant :=
  inferInstanceAs (Std.TransCmp (compareLex (compareOn (·.date.year)) <|
    compareLex (compareOn (·.date.month)) <| compareLex (compareOn (·.date.day)) <|
    compareLex (compareOn (·.second)) (compareOn (·.nano)) : Instant → Instant → Ordering))

end Instant

end SecurityGroups
