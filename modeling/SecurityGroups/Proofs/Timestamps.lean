/-
SecurityGroups/Proofs/Timestamps.lean

Timestamps read back.

The text of an instant is made of fields of fixed width with marks between them.
Each reader takes a field off the front and leaves the rest: `number?_digits` for
digits, `mark?_cons` for marks, and from these one lemma for the date, one for the
time of day and one for the offset.  So both readers, the strict and the lenient
one, read an instant from its text (`read?_text`), as long as its year has four
digits, which is as far as RFC 3339 goes.
-/
import Mathlib.Algebra.Group.Nat.Defs
import Mathlib.Data.List.TakeWhile
import SecurityGroups.Time.Timestamp

namespace SecurityGroups

theorem daysInMonth_bounds (year : Int) (month : Nat) :
    28 ≤ daysInMonth year month ∧ daysInMonth year month ≤ 31 := by
  unfold daysInMonth
  repeat' split
  all_goals decide

/-! ### Digits -/

namespace Instant

/-- The year is one that RFC 3339 can write. -/
def HasPlainYear (t : Instant) : Prop := 0 ≤ t.date.year ∧ t.date.year ≤ 9999

instance (t : Instant) : Decidable t.HasPlainYear := inferInstanceAs (Decidable (_ ∧ _))

variable {width n : Nat} {c : Char}

theorem length_fixedDigits (width n : Nat) : (fixedDigits width n).length = width := by
  induction width generalizing n with
  | zero => rfl
  | succ width ih => rw [fixedDigits, List.length_append, ih, List.length_singleton]

theorem exists_digit_of_mem_fixedDigits (h : c ∈ fixedDigits width n) :
    ∃ d < 10, c = Nat.digitChar d := by
  induction width generalizing n with
  | zero => cases h
  | succ width ih =>
    rw [fixedDigits, List.mem_append, List.mem_singleton] at h
    rcases h with h | rfl
    · exact ih h
    · exact ⟨n % 10, Nat.mod_lt _ (by decide), rfl⟩

theorem isDigit_of_mem_fixedDigits (h : c ∈ fixedDigits width n) : c.isDigit = true := by
  obtain ⟨d, hd, rfl⟩ := exists_digit_of_mem_fixedDigits h
  rw [Nat.isDigit_digitChar, decide_eq_true hd]

/-- A digit is neither a blank nor a sign. -/
theorem plain_of_mem_fixedDigits (h : c ∈ fixedDigits width n) :
    Text.isBlank c = false ∧ c ≠ '-' ∧ c ≠ '+' := by
  have hdigits : ∀ d < 10, Text.isBlank (Nat.digitChar d) = false ∧ Nat.digitChar d ≠ '-' ∧
      Nat.digitChar d ≠ '+' := by decide
  obtain ⟨d, hd, rfl⟩ := exists_digit_of_mem_fixedDigits h
  exact hdigits d hd

/-- The last digits of a number, read as a number. -/
theorem ofDigitChars_fixedDigits (width n : Nat) :
    Nat.ofDigitChars 10 (fixedDigits width n) 0 = n % 10 ^ width := by
  induction width generalizing n with
  | zero => rw [Nat.pow_zero, Nat.mod_one]; rfl
  | succ width ih =>
    have hdigit : ∀ d < 10, (Nat.digitChar d).toNat - '0'.toNat = d := by decide
    rw [fixedDigits, Nat.ofDigitChars_append, ih, Nat.ofDigitChars_cons, Nat.ofDigitChars_nil,
      hdigit _ (Nat.mod_lt _ (by decide)), Nat.pow_succ, Nat.mul_comm (10 ^ width), Nat.mod_mul]
    omega

theorem ofDigitChars_fixedDigits_of_lt (h : n < 10 ^ width) :
    Nat.ofDigitChars 10 (fixedDigits width n) 0 = n := by
  rw [ofDigitChars_fixedDigits, Nat.mod_eq_of_lt h]

end Instant

namespace Timestamp

open Instant

variable {r : Reading} {n : Nat} {c : Char} {cs rest : List Char}

/-! ### Fields -/

theorem takeWhile_isDigit_append {ds : List Char} (hds : ∀ c ∈ ds, c.isDigit = true)
    (hc : c.isDigit = false) : (ds ++ c :: rest).takeWhile Char.isDigit = ds := by
  rw [List.takeWhile_append_of_pos hds, List.takeWhile_cons, hc, if_neg Bool.false_ne_true,
    List.append_nil]

/-- As many digits as a number may have are taken off, and no more. -/
theorem number?_digits {least most : Nat} (hleast : least ≤ most) (hn : n < 10 ^ most) :
    number? least most (fixedDigits most n ++ rest) = some (n, rest) := by
  have htake : (fixedDigits most n ++ rest).take most = fixedDigits most n :=
    List.take_left' (length_fixedDigits most n)
  have hall : (fixedDigits most n).takeWhile Char.isDigit = fixedDigits most n :=
    List.takeWhile_eq_self_iff.2 fun _ h => isDigit_of_mem_fixedDigits h
  rw [number?, htake, hall, length_fixedDigits, if_pos hleast, ofDigitChars_fixedDigits_of_lt hn,
    List.drop_left' (length_fixedDigits most n)]

/-- No blank is skipped before a digit. -/
theorem trimStart_fixedDigits (width n : Nat) (rest : List Char) :
    Text.trimStart (fixedDigits (width + 1) n ++ rest) = fixedDigits (width + 1) n ++ rest := by
  cases hds : fixedDigits (width + 1) n with
  | nil => exact absurd (congrArg List.length hds) (by rw [length_fixedDigits]; exact nofun)
  | cons d ds =>
    have hmem : d ∈ fixedDigits (width + 1) n := hds ▸ List.mem_cons_self
    exact Text.trimStart_cons (plain_of_mem_fixedDigits hmem).1

theorem field?_digits (r : Reading) (hn : n < 100) :
    field? r (fixedDigits 2 n ++ rest) = some (n, rest) := by
  cases r with
  | strict => exact number?_digits (Nat.le_refl 2) hn
  | lenient =>
    rw [field?, trimStart_fixedDigits]
    exact number?_digits (by decide) hn

theorem year?_digits (r : Reading) (hn : n < 10000) :
    year? r (fixedDigits 4 n ++ rest) = some ((n : Int), rest) := by
  cases r with
  | strict => rw [year?, number?_digits (Nat.le_refl 4) hn, Option.map_some]
  | lenient =>
    have hnumber : number? 1 4 (fixedDigits 4 n ++ rest) = some (n, rest) :=
      number?_digits (by decide) hn
    have hplain : ∀ c ∈ fixedDigits 4 n, c ≠ '-' ∧ c ≠ '+' := fun c hc =>
      (plain_of_mem_fixedDigits hc).2
    rw [year?, trimStart_fixedDigits]
    -- the text starts with a digit, and so with no sign
    cases hds : fixedDigits 4 n with
    | nil => exact absurd (congrArg List.length hds) (by rw [length_fixedDigits]; exact nofun)
    | cons d ds =>
      rw [hds] at hnumber hplain
      obtain ⟨hminus, hplus⟩ := hplain d List.mem_cons_self
      rw [List.cons_append] at hnumber ⊢
      split
      · rename_i heq
        exact absurd (List.cons.inj heq).1 hminus
      · rename_i heq
        exact absurd (List.cons.inj heq).1 hplus
      · rw [hnumber, Option.map_some]

theorem skip_cons (r : Reading) (hc : Text.isBlank c = false) : skip r (c :: cs) = c :: cs := by
  cases r with
  | strict => rfl
  | lenient => exact Text.trimStart_cons hc

theorem mark?_cons (r : Reading) (hc : Text.isBlank c = false) :
    mark? r c (c :: cs) = some cs := by
  rw [mark?, skip_cons r hc]
  exact if_pos rfl

/-- The decimals of a second are read back, up to what is no digit. -/
theorem nanos?_nanoChars (hn : n < nanosPerSecond) (hc : c.isDigit = false) (hpoint : c ≠ '.') :
    nanos? (nanoChars n ++ c :: rest) = some (n, c :: rest) := by
  have hpointed : ∀ {width k : Nat}, 0 < width → width ≤ 9 → k < 10 ^ width →
      k * 10 ^ (9 - width) = n →
      nanos? ('.' :: fixedDigits width k ++ c :: rest) = some (n, c :: rest) := by
    intro width k hpos hwidth hk hvalue
    have hlength : (fixedDigits width k).length = width := length_fixedDigits width k
    have hne : fixedDigits width k ≠ [] := by
      rintro hnil
      rw [hnil] at hlength
      exact absurd hlength (Nat.ne_of_lt hpos)
    rw [List.cons_append, nanos?]
    simp only [takeWhile_isDigit_append (fun _ => isDigit_of_mem_fixedDigits) hc, hne, if_false]
    rw [List.take_of_length_le (Nat.le_trans (Nat.le_of_eq hlength) hwidth),
      ofDigitChars_fixedDigits_of_lt hk, hlength, List.drop_left' hlength]
    exact congrArg (fun value => some (value, c :: rest)) hvalue
  unfold nanosPerSecond at hn
  rw [nanoChars]
  split
  · subst n
    rw [List.nil_append, nanos?]
    intro _ heq
    exact hpoint (List.cons.inj heq).1
  · split
    · exact hpointed (by decide) (by decide) (by omega) (by omega)
    · split
      · exact hpointed (by decide) (by decide) (by omega) (by omega)
      · exact hpointed (by decide) (by decide) hn (by omega)

/-! ### Dates, times and offsets -/

theorem date?_chars (r : Reading) (rest : List Char) {date : Date}
    (hyear : 0 ≤ date.year ∧ date.year ≤ 9999) (hvalid : date.Valid) :
    date? r (yearChars date.year ++ '-' :: fixedDigits 2 date.month ++ '-' :: fixedDigits 2 date.day
      ++ rest) = some (date, rest) := by
  obtain ⟨-, hmonth, -, hday⟩ := hvalid
  have hdays := (daysInMonth_bounds date.year date.month).2
  obtain ⟨year, hcast⟩ := Int.eq_ofNat_of_zero_le hyear.1
  have hchars : yearChars date.year = fixedDigits 4 year := by
    rw [yearChars, if_pos hyear, hcast]
    rfl
  have hdash : Text.isBlank '-' = false := by decide
  have hyear' : year < 10000 := by omega
  have hmonth' : date.month < 100 := by omega
  have hday' : date.day < 100 := by omega
  simp only [hchars, List.append_assoc, List.cons_append, date?, bind, Option.bind,
    year?_digits r hyear', mark?_cons r hdash, field?_digits r hmonth', field?_digits r hday']
  rw [← hcast]
  rfl

theorem time?_chars (r : Reading) (rest : List Char) {second nano : Nat}
    (hsecond : second < secondsPerDay) (hnano : nano < 2 * nanosPerSecond)
    (hleap : nanosPerSecond ≤ nano → second % 60 = 59) (hc : c.isDigit = false) (hpoint : c ≠ '.') :
    time? r (fixedDigits 2 (second / 3600) ++ ':' :: fixedDigits 2 (second / 60 % 60)
      ++ ':' :: secondChars (second % 60) nano ++ c :: rest) =
      some ((second, nano), c :: rest) := by
  unfold secondsPerDay at hsecond
  have hhour : second / 3600 < 100 := by omega
  have hminute : second / 60 % 60 < 100 := by omega
  have hstart : second / 3600 * 3600 + second / 60 % 60 * 60 + second % 60 = second := by omega
  have hcolon : Text.isBlank ':' = false := by decide
  simp only [List.append_assoc, List.cons_append, time?, bind, Option.bind, field?_digits r hhour,
    mark?_cons r hcolon, field?_digits r hminute]
  by_cases hlate : nano < nanosPerSecond
  · simp only [secondChars, if_pos hlate, List.append_assoc,
      field?_digits r (show second % 60 < 100 by omega), nanos?_nanoChars hlate hc hpoint]
    rw [if_pos (by omega), if_neg (by omega), hstart]
    rfl
  · -- a leap second is written as the sixtieth, and read as the last one of its minute
    obtain ⟨extra, rfl⟩ := Nat.exists_eq_add_of_le (Nat.le_of_not_lt hlate)
    have hlast : second % 60 = 59 := hleap (Nat.le_add_right _ _)
    have hextra : extra < nanosPerSecond := by omega
    have hchars : secondChars (second % 60) (nanosPerSecond + extra) =
        fixedDigits 2 60 ++ nanoChars extra := by
      rw [secondChars, if_neg hlate, hlast, Nat.add_sub_cancel_left]
    simp only [hchars, List.append_assoc, field?_digits r (show 60 < 100 by decide),
      nanos?_nanoChars hextra hc hpoint]
    rw [if_pos (by omega), if_pos trivial, ← hlast, hstart]
    rfl

/-- The offset of UTC. -/
theorem offset?_utc (r : Reading) : offset? r ('Z' :: rest) = some (0, rest) := by
  rw [offset?, skip_cons r (by decide)]
  rfl

theorem toUtc_zero (date : Date) {second : Nat} (h : second < secondsPerDay) :
    Instant.toUtc date second 0 = (date, second) := by
  simp only [Instant.toUtc, Int.sub_zero]
  rw [if_neg (by omega), if_pos (by omega), Int.toNat_natCast]

end Timestamp

namespace Instant

/-- **An instant is read from its text**, by both readers, if its year has four digits. -/
theorem read?_text (r : Reading) {t : Instant} (h : t.HasPlainYear) : read? r t.text = some t := by
  have hcalendar : Timestamp.inCalendar t.date.year = true := by
    rw [Timestamp.inCalendar, Bool.and_eq_true, decide_eq_true_iff, decide_eq_true_iff]
    unfold HasPlainYear at h
    omega
  have hend : Timestamp.skip r [] = [] := by cases r <;> rfl
  have hdate := fun rest => Timestamp.date?_chars r rest h t.date_valid
  have hzone : 'Z'.isDigit = false ∧ 'Z' ≠ '.' := by decide
  have htime := Timestamp.time?_chars r [] t.second_lt t.nano_lt t.leap_last hzone.1 hzone.2
  simp only [List.append_assoc, List.cons_append] at hdate htime
  simp only [read?, text, String.toList_ofList, chars, Timestamp.readChars?, List.append_assoc,
    List.cons_append, bind, Option.bind, hdate, Timestamp.separator?, true_or, if_true, htime,
    Timestamp.offset?_utc, Timestamp.toUtc_zero t.date t.second_lt, hend, t.date_valid, hcalendar,
    and_self]
  exact ofFields?_self t

end Instant

end SecurityGroups
