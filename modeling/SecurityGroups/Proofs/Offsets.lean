/-
SecurityGroups/Proofs/Offsets.lean

Timestamps at an offset from UTC.

An instant can be written with the date and the time of any place, followed by what these
are ahead of UTC (`Instant.textAt`).  To get there the day may move by one, and reading
moves it back:

    toUtc (toUtc day second (-offset)) offset = (day, second).

So whatever the offset, the text is read as the instant (`Instant.read?_textAt`), as long as
its local year has four digits.
-/
import SecurityGroups.Proofs.Timestamps

namespace SecurityGroups

/-! ### Days -/

namespace Date

variable {d : Date}

theorem one_le_daysInMonth (year : Int) (month : Nat) : 1 ≤ daysInMonth year month :=
  Nat.le_trans (by decide) (daysInMonth_bounds year month).1

theorem valid_next (h : d.Valid) : d.next.Valid := by
  obtain ⟨year, month, day⟩ := d
  obtain ⟨hmonth, hyear, hday, hlast⟩ := h
  dsimp only at hmonth hyear hday hlast
  rw [next]
  split
  · rename_i hlt
    exact ⟨hmonth, hyear, Nat.le_add_left 1 day, hlt⟩
  · split
    · rename_i hlt
      exact ⟨Nat.le_add_left 1 month, hlt, Nat.le_refl 1, one_le_daysInMonth _ _⟩
    · exact ⟨Nat.le_refl 1, Nat.le_add_left 1 11, Nat.le_refl 1, one_le_daysInMonth _ _⟩

theorem valid_previous (h : d.Valid) : d.previous.Valid := by
  obtain ⟨year, month, day⟩ := d
  obtain ⟨hmonth, hyear, hday, hlast⟩ := h
  dsimp only at hmonth hyear hday hlast
  rw [previous]
  split
  · rename_i hlt
    exact ⟨hmonth, hyear, Nat.le_sub_one_of_lt hlt, Nat.le_trans (Nat.sub_le day 1) hlast⟩
  · split
    · rename_i hlt
      exact ⟨Nat.le_sub_one_of_lt hlt, Nat.le_trans (Nat.sub_le month 1) hyear,
        one_le_daysInMonth _ _, Nat.le_refl _⟩
    · exact ⟨Nat.le_add_left 1 11, Nat.le_refl 12, Nat.le_add_left 1 30, Nat.le_refl 31⟩

/-- The day before the day after. -/
theorem previous_next (h : d.Valid) : d.next.previous = d := by
  obtain ⟨year, month, day⟩ := d
  obtain ⟨hmonth, hyear, hday, hlast⟩ := h
  dsimp only at hmonth hyear hday hlast
  rw [next]
  dsimp only
  split
  · rw [previous, if_pos (Nat.lt_add_of_pos_left hday)]
    rfl
  · rename_i hge
    obtain rfl : day = daysInMonth year month := Nat.le_antisymm hlast (Nat.not_lt.1 hge)
    split
    · rw [previous, if_neg (Nat.lt_irrefl 1), if_pos (Nat.lt_add_of_pos_left hmonth)]
      rfl
    · rename_i hdecember
      obtain rfl : month = 12 := Nat.le_antisymm hyear (Nat.not_lt.1 hdecember)
      rw [previous, if_neg (Nat.lt_irrefl 1), if_neg (Nat.lt_irrefl 1), Int.add_sub_cancel]
      rfl

/-- The day after the day before. -/
theorem next_previous (h : d.Valid) : d.previous.next = d := by
  obtain ⟨year, month, day⟩ := d
  obtain ⟨hmonth, hyear, hday, hlast⟩ := h
  dsimp only at hmonth hyear hday hlast
  rw [previous]
  dsimp only
  split
  · rw [next, if_pos (Nat.lt_of_lt_of_le (Nat.sub_one_lt_of_lt hday) hlast)]
    dsimp only
    rw [Nat.sub_add_cancel hday]
  · rename_i hge
    obtain rfl : day = 1 := Nat.le_antisymm (Nat.not_lt.1 hge) hday
    split
    · rw [next, if_neg (Nat.lt_irrefl _),
        if_pos (Nat.lt_of_lt_of_le (Nat.sub_one_lt_of_lt hmonth) hyear)]
      dsimp only
      rw [Nat.sub_add_cancel hmonth]
    · rename_i hjanuary
      obtain rfl : month = 1 := Nat.le_antisymm (Nat.not_lt.1 hjanuary) hmonth
      have hlast : ¬ 31 < daysInMonth (year - 1) 12 := Nat.not_lt.2 (daysInMonth_bounds _ _).2
      rw [next, if_neg hlast, if_neg (Nat.lt_irrefl 12), Int.sub_add_cancel]

theorem year_next (d : Date) : d.next.year = d.year ∨ d.next.year = d.year + 1 := by
  rw [next]
  split
  · exact .inl rfl
  · split
    · exact .inl rfl
    · exact .inr rfl

theorem year_previous (d : Date) : d.previous.year = d.year ∨ d.previous.year = d.year - 1 := by
  rw [previous]
  split
  · exact .inl rfl
  · split
    · exact .inl rfl
    · exact .inr rfl

end Date

/-! ### There and back -/

namespace Instant

variable {day : Date} {second s : Nat} {offset : Int}

theorem toUtc_of_before (hs : s < secondsPerDay) (h : second - offset = s - secondsPerDay) :
    toUtc day second offset = (day.previous, s) := by
  simp only [toUtc]
  rw [if_pos (by omega), h, Int.sub_add_cancel, Int.toNat_natCast]

theorem toUtc_of_same (hs : s < secondsPerDay) (h : second - offset = s) :
    toUtc day second offset = (day, s) := by
  simp only [toUtc]
  rw [if_neg (by omega), if_pos (by omega), h, Int.toNat_natCast]

theorem toUtc_of_after (h : second - offset = s + secondsPerDay) :
    toUtc day second offset = (day.next, s) := by
  simp only [toUtc]
  rw [if_neg (by omega), if_neg (by omega), h, Int.add_sub_cancel, Int.toNat_natCast]

/-- The three days on which the time at an offset can fall. -/
theorem toUtc_cases (day : Date) (hsecond : second < secondsPerDay)
    (hoffset : offset.natAbs < secondsPerDay) : ∃ s < secondsPerDay,
      (second - offset = s - secondsPerDay ∧ toUtc day second offset = (day.previous, s)) ∨
      (second - offset = s ∧ toUtc day second offset = (day, s)) ∨
      (second - offset = s + secondsPerDay ∧ toUtc day second offset = (day.next, s)) := by
  by_cases hbefore : second - offset < 0
  · obtain ⟨s, hs⟩ := Int.eq_ofNat_of_zero_le (a := second - offset + secondsPerDay) (by omega)
    have hlt : s < secondsPerDay := by omega
    have heq : second - offset = s - secondsPerDay := by omega
    exact ⟨s, hlt, .inl ⟨heq, toUtc_of_before hlt heq⟩⟩
  · by_cases hsame : second - offset < secondsPerDay
    · obtain ⟨s, hs⟩ := Int.eq_ofNat_of_zero_le (Int.not_lt.1 hbefore)
      have hlt : s < secondsPerDay := by omega
      exact ⟨s, hlt, .inr (.inl ⟨hs, toUtc_of_same hlt hs⟩)⟩
    · obtain ⟨s, hs⟩ := Int.eq_ofNat_of_zero_le (a := second - offset - secondsPerDay) (by omega)
      have hlt : s < secondsPerDay := by omega
      have heq : second - offset = s + secondsPerDay := by omega
      exact ⟨s, hlt, .inr (.inr ⟨heq, toUtc_of_after heq⟩)⟩

/-- **What is taken to a place is taken back** to UTC. -/
theorem toUtc_toUtc (hday : day.Valid) (hsecond : second < secondsPerDay)
    (hoffset : offset.natAbs < secondsPerDay) :
    toUtc (toUtc day second (-offset)).1 (toUtc day second (-offset)).2 offset = (day, second) := by
  have hback : (-offset).natAbs < secondsPerDay := by omega
  obtain ⟨s, -, ⟨hs, heq⟩ | ⟨hs, heq⟩ | ⟨hs, heq⟩⟩ := toUtc_cases day hsecond hback <;> rw [heq]
  · rw [toUtc_of_after (show (s : Int) - offset = second + secondsPerDay by omega),
      Date.next_previous hday]
  · exact toUtc_of_same hsecond (by omega)
  · rw [toUtc_of_before hsecond (show (s : Int) - offset = second - secondsPerDay by omega),
      Date.previous_next hday]

/-- What is written of an instant at an offset of whole minutes: a day of the calendar in the same
year or next to it, and a second of the day at the same place in its minute. -/
theorem toUtc_local (hday : day.Valid) (hsecond : second < secondsPerDay)
    (hoffset : offset.natAbs < secondsPerDay) (hminutes : offset % 60 = 0) :
    (toUtc day second offset).1.Valid ∧ (toUtc day second offset).2 < secondsPerDay ∧
      (toUtc day second offset).2 % 60 = second % 60 ∧
      (toUtc day second offset).1.year - 1 ≤ day.year ∧
      day.year ≤ (toUtc day second offset).1.year + 1 := by
  have hyear := day.year_next
  have hyear' := day.year_previous
  have hwhole : secondsPerDay = 86400 := rfl
  obtain ⟨s, hlt, ⟨hs, heq⟩ | ⟨hs, heq⟩ | ⟨hs, heq⟩⟩ := toUtc_cases day hsecond hoffset <;>
    rw [heq] <;> dsimp only
  · exact ⟨Date.valid_previous hday, hlt, by omega, by omega, by omega⟩
  · exact ⟨hday, hlt, by omega, by omega, by omega⟩
  · exact ⟨Date.valid_next hday, hlt, by omega, by omega, by omega⟩

/-! ### Texts -/

/-- The text of an offset of some minutes. -/
def offsetChars (minutes : Int) : List Char :=
  (if minutes < 0 then '-' else '+') :: fixedDigits 2 (minutes.natAbs / 60)
    ++ ':' :: fixedDigits 2 (minutes.natAbs % 60)

/-- The text of an instant at a place that is some minutes ahead of UTC. -/
def textAt (t : Instant) (minutes : Int) : String :=
  let (day, second) := toUtc t.date t.second (-(minutes * 60))
  String.ofList (yearChars day.year ++ '-' :: fixedDigits 2 day.month ++ '-' :: fixedDigits 2 day.day
    ++ 'T' :: fixedDigits 2 (second / 3600) ++ ':' :: fixedDigits 2 (second / 60 % 60)
    ++ ':' :: secondChars (second % 60) t.nano ++ offsetChars minutes)

/-- The offset is less than a day, and the instant has a year of four digits there. -/
def HasPlainYearAt (t : Instant) (minutes : Int) : Prop :=
  minutes.natAbs < 1440 ∧ 0 ≤ (toUtc t.date t.second (-(minutes * 60))).1.year ∧
    (toUtc t.date t.second (-(minutes * 60))).1.year ≤ 9999

instance (t : Instant) (minutes : Int) : Decidable (t.HasPlainYearAt minutes) :=
  inferInstanceAs (Decidable (_ ∧ _ ∧ _))

/-- An offset starts with a sign. -/
theorem exists_offsetChars (minutes : Int) : ∃ sign rest, offsetChars minutes = sign :: rest ∧
    sign.isDigit = false ∧ sign ≠ '.' := by
  refine ⟨_, _, rfl, ?_⟩
  split <;> decide

/-- Hours and minutes are read behind their sign. -/
theorem hoursMinutes?_chars {sign : Char} {factor : Int}
    (hsign : ∀ cs, Timestamp.sign? (sign :: cs) = some (factor, cs)) {n : Nat} (h : n < 1440) :
    Timestamp.hoursMinutes? .strict
      (sign :: fixedDigits 2 (n / 60) ++ ':' :: fixedDigits 2 (n % 60)) =
      some (factor * (n * 60), []) := by
  have hhours : n / 60 < 100 := by omega
  have hminutes : n % 60 < 100 := by omega
  have hlast : Timestamp.number? 2 2 (fixedDigits 2 (n % 60) ++ []) = some (n % 60, []) :=
    Timestamp.number?_digits (Nat.le_refl 2) hminutes
  have hsum : ((n / 60 : Nat) : Int) * 3600 + ((n % 60 : Nat) : Int) * 60 = n * 60 := by omega
  rw [List.append_nil] at hlast
  simp only [Timestamp.hoursMinutes?, List.cons_append, hsign, bind, Option.bind,
    Timestamp.number?_digits (Nat.le_refl 2) hhours, Timestamp.skipColon?, hlast]
  rw [if_pos (by omega), hsum]
  rfl

/-- **An offset is read** from its text. -/
theorem offset?_offsetChars {minutes : Int} (h : minutes.natAbs < 1440) :
    Timestamp.offset? .strict (offsetChars minutes) = some (minutes * 60, []) := by
  rw [offsetChars]
  split
  · have hread := @hoursMinutes?_chars '-' (-1) (fun _ => rfl) _ h
    have hminutes : -1 * ((minutes.natAbs : Int) * 60) = minutes * 60 := by omega
    rw [hminutes] at hread
    exact hread
  · have hread := @hoursMinutes?_chars '+' 1 (fun _ => rfl) _ h
    have hminutes : 1 * ((minutes.natAbs : Int) * 60) = minutes * 60 := by omega
    rw [hminutes] at hread
    exact hread

/-- **An instant is read from its text at any offset**, if its year has four digits there. -/
theorem read?_textAt {t : Instant} {minutes : Int} (h : t.HasPlainYearAt minutes) :
    read? .strict (t.textAt minutes) = some t := by
  obtain ⟨hminutes, hyear⟩ := h
  have hoffset : (minutes * 60).natAbs < secondsPerDay := by
    unfold secondsPerDay
    omega
  have hback : (-(minutes * 60)).natAbs < secondsPerDay := by omega
  obtain ⟨hvalid, hsecond, hlast, hnear⟩ :=
    toUtc_local t.date_valid t.second_lt hback (by omega)
  have hutc := toUtc_toUtc t.date_valid t.second_lt hoffset
  rw [textAt]
  generalize toUtc t.date t.second (-(minutes * 60)) = place at *
  obtain ⟨day, second⟩ := place
  dsimp only at *
  have hcalendar : Timestamp.inCalendar day.year = true ∧
      Timestamp.inCalendar t.date.year = true := by
    simp only [Timestamp.inCalendar, Bool.and_eq_true, decide_eq_true_iff]
    omega
  have hleap : nanosPerSecond ≤ t.nano → second % 60 = 59 := fun hnano => hlast ▸ t.leap_last hnano
  obtain ⟨sign, rest, hchars, hsign, hpoint⟩ := exists_offsetChars minutes
  have hzone := offset?_offsetChars hminutes
  have hdate := fun rest => Timestamp.date?_chars .strict rest hyear hvalid
  have htime := Timestamp.time?_chars .strict rest hsecond t.nano_lt hleap hsign hpoint
  rw [hchars] at hzone ⊢
  simp only [List.append_assoc, List.cons_append] at hdate htime
  simp only [read?, String.toList_ofList, Timestamp.readChars?, List.append_assoc,
    List.cons_append, bind, Option.bind, hdate, Timestamp.separator?, true_or, if_true, htime,
    hzone, hutc, Timestamp.skip, hvalid, hcalendar, and_self]
  exact ofFields?_self t

end Instant

end SecurityGroups
