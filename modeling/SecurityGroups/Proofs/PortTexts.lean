/-
SecurityGroups/Proofs/PortTexts.lean

What a text of ports means.

`WritesPort`, `WritesRange` and `PortSpec.WrittenBy` say what each text stands
for, without a reader: a port is digits, with blanks around them and perhaps a
plus sign before them; a range is one port, or two that a dash separates; a
list is ranges with commas between them.  The readers find exactly that
(`PortRange.readChars_eq_ok`, `PortSpec.read_eq_ok`).

The text of a specification is one of the texts that stand for it, as long as
its ranges are proper, and those that are read are.  So what is read from a text,
written out again, reads back (`port_texts_are_read_as_written`).
-/
import Mathlib.Data.List.Forall2
import SecurityGroups.Network.Port

namespace SecurityGroups

/-! ### What texts stand for -/

/-- The text of a port: digits with blanks around them, and perhaps a plus sign before them. -/
inductive WritesPort : List Char → UInt16 → Prop
  | digits {before sign digits after : List Char} {port : UInt16}
      (hbefore : ∀ c ∈ before, Text.isBlank c = true)
      (hafter : ∀ c ∈ after, Text.isBlank c = true)
      (hsign : sign = [] ∨ sign = ['+'])
      (hne : digits ≠ [])
      (hdigits : ∀ c ∈ digits, c.isDigit = true)
      (hvalue : Nat.ofDigitChars 10 digits 0 = port.toNat)
      (hpos : 1 ≤ port.toNat) :
      WritesPort (before ++ (sign ++ digits) ++ after) port

/-- The text of a range: one port, or two with the first dash of the text between them. -/
inductive WritesRange : List Char → PortRange → Prop
  | one {cs : List Char} {port : UInt16} (h : WritesPort cs port) : WritesRange cs ⟨port, port⟩
  | two {before after : List Char} {first last : UInt16} (hdash : '-' ∉ before)
      (hfirst : WritesPort before first) (hlast : WritesPort after last)
      (hle : first.toNat ≤ last.toNat) :
      WritesRange (before ++ '-' :: after) ⟨first, last⟩

/-- The three letters of the keyword, each of them capital or small. -/
def IsAll (s : String) : Prop :=
  ∃ a l l', s.toList = [a, l, l'] ∧ (a = 'A' ∨ a = 'a') ∧ (l = 'L' ∨ l = 'l') ∧
    (l' = 'L' ∨ l' = 'l')

/-- The text of a specification: the keyword, or one piece for each range, with commas between the
pieces. -/
def PortSpec.WrittenBy (s : String) : PortSpec → Prop
  | .all => IsAll s
  | .ranges rs => ∃ pieces, pieces ≠ [] ∧ (∀ piece ∈ pieces, ',' ∉ piece) ∧
      Text.join ',' pieces = s.toList ∧ List.Forall₂ WritesRange pieces rs

variable {cs : List Char} {s : String} {port first last : UInt16} {r : PortRange}
  {rs : List PortRange} {p : PortSpec}

/-! ### Ports -/

namespace PortRange

theorem readPort_eq_ok :
    readPort cs = .ok port ↔ Text.unsigned? 65535 (Text.trim cs) = some port.toNat := by
  unfold readPort
  split
  · rename_i n hn
    obtain ⟨_, _, _, _, _, hmax⟩ := Text.unsigned?_eq_some_iff.1 hn
    have hn' : (UInt16.ofNat n).toNat = n := UInt16.toNat_ofNat_of_lt' (Nat.lt_succ_of_le hmax)
    rw [Except.ok.injEq, hn, Option.some.injEq, ← UInt16.toNat_inj, hn']
  · rename_i hn
    simp [hn]

/-- The readable ports above zero are those that are written. -/
theorem writesPort_iff : WritesPort cs port ↔ readPort cs = .ok port ∧ 1 ≤ port.toNat := by
  rw [readPort_eq_ok]
  constructor
  · rintro ⟨hbefore, hafter, hsign, hne, hdigits, hvalue, hpos⟩
    refine ⟨?_, hpos⟩
    rw [Text.trim_append hbefore ?_ hafter, Text.unsigned?_eq_some_iff]
    · exact ⟨_, _, rfl, hsign, Text.natural?_eq_some_iff.2 ⟨hne, hdigits, hvalue⟩,
        Nat.le_of_lt_succ port.toNat_lt⟩
    · intro c hc
      rcases List.mem_append.1 hc with hc | hc
      · rcases hsign with rfl | rfl
        · cases hc
        · obtain rfl := List.mem_singleton.1 hc
          decide
      · exact Text.isBlank_of_isDigit (hdigits c hc)
  · rintro ⟨h, hpos⟩
    obtain ⟨before, after, hcs, hbefore, hafter⟩ := Text.exists_trim cs
    obtain ⟨sign, digits, htrim, hsign, hnat, -⟩ := Text.unsigned?_eq_some_iff.1 h
    obtain ⟨hne, hdigits, hvalue⟩ := Text.natural?_eq_some_iff.1 hnat
    rw [hcs, htrim]
    exact .digits hbefore hafter hsign hne hdigits hvalue hpos

/-- There is no dash in a port. -/
theorem dash_not_mem_of_writesPort (h : WritesPort cs port) : '-' ∉ cs := by
  obtain ⟨hbefore, hafter, hsign, -, hdigits, -, -⟩ := h
  intro hmem
  simp only [List.mem_append] at hmem
  rcases hmem with (hmem | hmem | hmem) | hmem
  · exact absurd (hbefore _ hmem) (by decide)
  · rcases hsign with rfl | rfl
    · cases hmem
    · exact absurd (List.mem_singleton.1 hmem) (by decide)
  · exact absurd (hdigits _ hmem) (by decide)
  · exact absurd (hafter _ hmem) (by decide)

/-- There is a digit in a port. -/
theorem exists_digit_of_writesPort (h : WritesPort cs port) : ∃ c ∈ cs, c.isDigit = true := by
  obtain ⟨-, -, -, hne, hdigits, -, -⟩ := h
  obtain ⟨c, hc⟩ := List.exists_mem_of_ne_nil _ hne
  exact ⟨c, by simp [hc], hdigits c hc⟩

theorem writesPort_decimal (h : 1 ≤ port.toNat) : WritesPort (Text.decimal port.toNat) port := by
  obtain ⟨hne, hdigits, hvalue⟩ := Text.natural?_eq_some_iff.1 (Text.natural?_decimal port.toNat)
  simpa using @WritesPort.digits [] [] _ [] port (by simp) (by simp) (.inl rfl) hne hdigits hvalue h

/-! ### Ranges -/

theorem proper_iff : r.Proper ↔ 1 ≤ r.first.toNat ∧ r.first.toNat ≤ r.last.toNat := by
  rw [Proper, UInt16.lt_iff_toNat_lt, UInt16.le_iff_toNat_le]
  rfl

/-- Two ports make a range when it is proper. -/
theorem between_eq_ok : between first last = .ok r ↔ r = ⟨first, last⟩ ∧ r.Proper := by
  unfold between
  split
  · rename_i hzero
    refine iff_of_false (by simp) ?_
    rintro ⟨rfl, hproper⟩
    obtain ⟨hpos, hle⟩ := proper_iff.1 hproper
    rcases hzero with rfl | rfl
    · exact Nat.not_succ_le_zero 0 hpos
    · exact Nat.not_succ_le_zero 0 (Nat.le_trans hpos hle)
  · rename_i hzero
    split
    · rename_i hlt
      refine iff_of_false (by simp) ?_
      rintro ⟨rfl, hproper⟩
      exact UInt16.not_lt.2 hproper.2 hlt
    · rename_i hle
      rw [Except.ok.injEq]
      constructor
      · rintro rfl
        exact ⟨rfl, UInt16.pos_iff_ne_zero.2 fun h => hzero (.inl h), UInt16.not_lt.1 hle⟩
      · rintro ⟨rfl, -⟩
        rfl

/-- What stands for a range stands for a proper one. -/
theorem proper_of_writesRange (h : WritesRange cs r) : r.Proper := by
  rw [proper_iff]
  cases h with
  | one hport => exact ⟨(writesPort_iff.1 hport).2, Nat.le_refl _⟩
  | two _ hfirst _ hle => exact ⟨(writesPort_iff.1 hfirst).2, hle⟩

theorem readChars_append_eq_ok {before after : List Char} (hdash : '-' ∉ before) :
    readChars (before ++ '-' :: after) = .ok r ↔ ∃ first last, readPort before = .ok first ∧
      readPort after = .ok last ∧ between first last = .ok r := by
  rw [readChars, Text.splitFirst?_append hdash]
  cases hbefore : readPort before with
  | error e => simp [hbefore]
  | ok first =>
    cases hafter : readPort after with
    | error e => simp [hbefore, hafter]
    | ok last => cases hr : between first last <;> simp [hbefore, hafter, hr]

theorem readChars_eq_ok_of_not_mem (hdash : '-' ∉ cs) :
    readChars cs = .ok r ↔ ∃ port, readPort cs = .ok port ∧ between port port = .ok r := by
  rw [readChars, Text.splitFirst?_eq_none.2 hdash]
  cases readPort cs <;> simp [single]

/-- **A range is read from the texts that stand for it**, and from no others. -/
theorem readChars_eq_ok : readChars cs = .ok r ↔ WritesRange cs r := by
  constructor
  · intro h
    cases hcut : Text.splitFirst? '-' cs with
    | none =>
      obtain ⟨port, hport, hr⟩ :=
        (readChars_eq_ok_of_not_mem (Text.splitFirst?_eq_none.1 hcut)).1 h
      obtain ⟨rfl, hproper⟩ := between_eq_ok.1 hr
      exact .one (writesPort_iff.2 ⟨hport, (proper_iff.1 hproper).1⟩)
    | some parts =>
      obtain ⟨hdash, rfl⟩ := Text.splitFirst?_eq_some hcut
      obtain ⟨first, last, hfirst, hlast, hr⟩ := (readChars_append_eq_ok hdash).1 h
      obtain ⟨rfl, hproper⟩ := between_eq_ok.1 hr
      obtain ⟨hpos, hle⟩ := proper_iff.1 hproper
      exact .two hdash (writesPort_iff.2 ⟨hfirst, hpos⟩)
        (writesPort_iff.2 ⟨hlast, Nat.le_trans hpos hle⟩) hle
  · intro h
    have hproper := proper_of_writesRange h
    cases h with
    | one hport =>
      exact (readChars_eq_ok_of_not_mem (dash_not_mem_of_writesPort hport)).2
        ⟨_, (writesPort_iff.1 hport).1, between_eq_ok.2 ⟨rfl, hproper⟩⟩
    | two hdash hfirst hlast _ =>
      exact (readChars_append_eq_ok hdash).2 ⟨_, _, (writesPort_iff.1 hfirst).1,
        (writesPort_iff.1 hlast).1, between_eq_ok.2 ⟨rfl, hproper⟩⟩

theorem exists_digit_of_writesRange (h : WritesRange cs r) : ∃ c ∈ cs, c.isDigit = true := by
  cases h with
  | one hport => exact exists_digit_of_writesPort hport
  | two _ hfirst _ _ =>
    obtain ⟨c, hc, hdigit⟩ := exists_digit_of_writesPort hfirst
    exact ⟨c, List.mem_append_left _ hc, hdigit⟩

/-- **The text of a range stands for it.** -/
theorem writesRange_chars (h : r.Proper) : WritesRange r.chars r := by
  obtain ⟨first, last⟩ := r
  obtain ⟨hpos, hle⟩ := proper_iff.1 h
  have hfirst := writesPort_decimal hpos
  have hlast := writesPort_decimal (Nat.le_trans hpos hle)
  unfold chars
  split
  · rename_i heq
    obtain rfl : first = last := heq
    exact .one hfirst
  · exact .two (dash_not_mem_of_writesPort hfirst) hfirst hlast hle

theorem comma_not_mem_chars : ',' ∉ r.chars := by
  have hdecimal : ∀ n, ',' ∉ Text.decimal n := Text.not_mem_decimal (by decide)
  unfold chars
  split
  · exact hdecimal _
  · simp [hdecimal]

end PortRange

/-! ### Specifications -/

namespace PortSpec

/-- A text is the keyword in any case when it has its letters, capital or small. -/
theorem sameIgnoringCase_keyword : Text.sameIgnoringCase s keyword = true ↔ IsAll s := by
  have ha : ∀ c : Char, c.toLower = 'a' ↔ c = 'A' ∨ c = 'a' :=
    fun c => @Text.toLower_eq_toLower_iff c 'A' (by decide)
  have hl : ∀ c : Char, c.toLower = 'l' ↔ c = 'L' ∨ c = 'l' :=
    fun c => @Text.toLower_eq_toLower_iff c 'L' (by decide)
  have hkeyword : keyword.toList.map Char.toLower = ['a', 'l', 'l'] := by decide
  rw [Text.sameIgnoringCase, beq_iff_eq, hkeyword]
  constructor
  · intro h
    obtain ⟨a, cs, hs, hfirst, h⟩ := List.map_eq_cons_iff.1 h
    obtain ⟨l, cs, rfl, hsecond, h⟩ := List.map_eq_cons_iff.1 h
    obtain ⟨l', cs, rfl, hthird, h⟩ := List.map_eq_cons_iff.1 h
    obtain rfl := List.map_eq_nil_iff.1 h
    exact ⟨a, l, l', hs, (ha a).1 hfirst, (hl l).1 hsecond, (hl l').1 hthird⟩
  · rintro ⟨a, l, l', hs, h, h', h''⟩
    rw [hs, List.map_cons, List.map_cons, List.map_cons, (ha a).2 h, (hl l).2 h', (hl l').2 h'']
    rfl

theorem readPieces_eq_ok {pieces : List (List Char)} :
    readPieces pieces = .ok rs ↔ List.Forall₂ WritesRange pieces rs := by
  induction pieces generalizing rs with
  | nil => cases rs <;> simp [readPieces]
  | cons piece pieces ih =>
    rw [List.forall₂_cons_left_iff, readPieces]
    cases hpiece : PortRange.readChars piece with
    | error e => simp [← PortRange.readChars_eq_ok, hpiece]
    | ok r =>
      cases hrest : readPieces pieces with
      | error e => simp [← ih, hrest]
      | ok rest => simp [← PortRange.readChars_eq_ok, ← ih, hpiece, hrest, eq_comm]

/-- The pieces are those between the commas of the text. -/
theorem writtenBy_ranges : (ranges rs).WrittenBy s ↔
    List.Forall₂ WritesRange (Text.split ',' s.toList) rs := by
  constructor
  · rintro ⟨pieces, hne, hcomma, hjoin, h⟩
    rwa [Text.split_eq_iff.2 ⟨hne, hcomma, hjoin⟩]
  · intro h
    obtain ⟨hne, hcomma, hjoin⟩ := Text.split_eq_iff.1 (Eq.refl (Text.split ',' s.toList))
    exact ⟨_, hne, hcomma, hjoin, h⟩

/-- There is a digit in every list of ranges, so it is neither blank nor the keyword. -/
theorem exists_digit (h : (ranges rs).WrittenBy s) : ∃ c ∈ s.toList, c.isDigit = true := by
  obtain ⟨pieces, hne, -, hjoin, h⟩ := h
  rw [← hjoin]
  cases h with
  | nil => exact absurd rfl hne
  | cons hfirst _ =>
    obtain ⟨c, hc, hdigit⟩ := PortRange.exists_digit_of_writesRange hfirst
    exact ⟨c, Text.mem_join_of_mem List.mem_cons_self hc, hdigit⟩

theorem not_isAll_of_ranges (h : (ranges rs).WrittenBy s) : ¬ IsAll s := by
  rintro ⟨a, l, l', hs, ha, hl, hl'⟩
  obtain ⟨c, hc, hdigit⟩ := exists_digit h
  simp only [hs, List.mem_cons, List.not_mem_nil, or_false] at hc
  rcases hc with rfl | rfl | rfl
  · rcases ha with rfl | rfl <;> exact absurd hdigit (by decide)
  · rcases hl with rfl | rfl <;> exact absurd hdigit (by decide)
  · rcases hl' with rfl | rfl <;> exact absurd hdigit (by decide)

theorem trim_ne_nil_of_ranges (h : (ranges rs).WrittenBy s) : Text.trim s.toList ≠ [] := by
  intro htrim
  obtain ⟨c, hc, hdigit⟩ := exists_digit h
  obtain ⟨before, after, hs, hbefore, hafter⟩ := Text.exists_trim s.toList
  rw [hs, htrim, List.append_nil, List.mem_append] at hc
  have hblank : Text.isBlank c = true := hc.elim (hbefore c) (hafter c)
  rw [Text.isBlank_of_isDigit hdigit] at hblank
  cases hblank

/-- **A specification is read from the texts that stand for it**, and from no others. -/
theorem read_eq_ok : read s = .ok p ↔ p.WrittenBy s := by
  unfold read
  split
  · rename_i hkeyword
    have hall := sameIgnoringCase_keyword.1 hkeyword
    cases p with
    | all => exact iff_of_true rfl hall
    | ranges rs => exact iff_of_false (by simp) fun h => not_isAll_of_ranges h hall
  · rename_i hkeyword
    have hall := mt sameIgnoringCase_keyword.2 hkeyword
    split
    · rename_i htrim
      cases p with
      | all => exact iff_of_false (by simp) hall
      | ranges rs => exact iff_of_false (by simp) fun h => trim_ne_nil_of_ranges h htrim
    · cases p with
      | all => exact iff_of_false (by split <;> simp) hall
      | ranges rs =>
        rw [writtenBy_ranges, ← readPieces_eq_ok]
        cases readPieces (Text.split ',' s.toList) <;> simp

/-! ### Texts of specifications -/

/-- **The text of ranges stands for them.** -/
theorem writtenBy_text_ranges (hne : rs ≠ []) (h : ∀ r ∈ rs, r.Proper) :
    (ranges rs).WrittenBy (ranges rs).text := by
  refine ⟨rs.map PortRange.chars, by simpa using hne, ?_, by simp [text], ?_⟩
  · intro piece hpiece
    obtain ⟨r, -, rfl⟩ := List.mem_map.1 hpiece
    exact PortRange.comma_not_mem_chars
  · rw [List.forall₂_map_left_iff, List.forall₂_same]
    exact fun r hr => PortRange.writesRange_chars (h r hr)

/-- There is a range in every list, and all of them are proper. -/
theorem proper_of_writtenBy (h : (ranges rs).WrittenBy s) : rs ≠ [] ∧ ∀ r ∈ rs, r.Proper := by
  obtain ⟨pieces, hne, -, -, h⟩ := h
  refine ⟨fun hnil => hne (List.forall₂_nil_right_iff.1 (hnil ▸ h)), ?_⟩
  clear hne
  induction h with
  | nil => exact fun r hr => by cases hr
  | cons hfirst _ ih => exact List.forall_mem_cons.2 ⟨PortRange.proper_of_writesRange hfirst, ih⟩

end PortSpec

/-! ### Reading and writing -/

/-- **Port texts are read as written.**  A text is read exactly when it stands for a specification:
the keyword in any case, or pieces with commas between them, each of them one port or two with a
dash between them, the smaller one first.  What is read has one range for each piece, in order and
with just those bounds, so there is at least one, and its ports lie between 1 and 65535.  Written
out again, it reads back. -/
theorem port_texts_are_read_as_written (s : String) (p : PortSpec) :
    (PortSpec.read s = .ok p ↔ p.WrittenBy s) ∧
    (PortSpec.read s = .ok p →
      (∀ rs, p = .ranges rs → rs ≠ [] ∧ ∀ r ∈ rs, 1 ≤ r.first.toNat ∧
        r.first.toNat ≤ r.last.toNat ∧ r.last.toNat ≤ 65535) ∧
      PortSpec.read p.text = .ok p) := by
  refine ⟨PortSpec.read_eq_ok, fun h => ?_⟩
  have hwritten := PortSpec.read_eq_ok.1 h
  cases p with
  | all => exact ⟨fun _ h => (nomatch h), by decide⟩
  | ranges rs =>
    obtain ⟨hne, hproper⟩ := PortSpec.proper_of_writtenBy hwritten
    refine ⟨?_, PortSpec.read_eq_ok.2 (PortSpec.writtenBy_text_ranges hne hproper)⟩
    rintro _ ⟨⟩
    refine ⟨hne, fun r hr => ?_⟩
    obtain ⟨hpos, hle⟩ := PortRange.proper_iff.1 (hproper r hr)
    exact ⟨hpos, hle, Nat.le_of_lt_succ r.last.toNat_lt⟩

/-- Blanks, a plus sign and zeros are not part of what is read. -/
theorem port_texts_are_read_as_written_padded :
    PortSpec.read " +080 - 0443,22" = .ok (.ranges [⟨80, 443⟩, ⟨22, 22⟩]) ∧
    PortSpec.read "80-443,22" = .ok (.ranges [⟨80, 443⟩, ⟨22, 22⟩]) := by
  have hread : PortSpec.read " +080 - 0443,22" = .ok (.ranges [⟨80, 443⟩, ⟨22, 22⟩]) := by decide
  exact ⟨hread, ((port_texts_are_read_as_written _ _).2 hread).2⟩

end SecurityGroups
