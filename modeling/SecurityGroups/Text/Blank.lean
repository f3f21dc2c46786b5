/-
SecurityGroups/Text/Blank.lean

Blank characters: the Unicode property White_Space, and texts without the
blanks at their ends.

`exists_trim`, `trim_append`: trimming takes blanks off both ends, all of
them where what is left holds none.
-/
import SecurityGroups.Text.CodePoints

namespace SecurityGroups.Text

/-- The boundaries of White_Space. -/
def blanks : List Nat :=
  [0x9, 0xE, 0x20, 0x21, 0x85, 0x86, 0xA0, 0xA1, 0x1680, 0x1681, 0x2000, 0x200B, 0x2028, 0x202A,
   0x202F, 0x2030, 0x205F, 0x2060, 0x3000, 0x3001]

/-- Whether a character is a blank. -/
def isBlank (c : Char) : Bool := inSet c.toNat blanks

/-- Drops the blanks at the start of a text. -/
def trimStart (cs : List Char) : List Char := cs.dropWhile isBlank

/-- Drops the blanks at both ends of a text. -/
def trim (cs : List Char) : List Char := (trimStart (trimStart cs).reverse).reverse

/-! ### Laws -/

theorem isBlank_of_isDigit {c : Char} (h : c.isDigit = true) : isBlank c = false := by
  have hdigit : 48 ≤ c.toNat ∧ c.toNat ≤ 57 := by
    simpa [Char.isDigit, UInt32.le_iff_toNat_le] using h
  simp [isBlank, blanks, inSet]
  omega

theorem trimStart_append {before : List Char} (h : ∀ c ∈ before, isBlank c = true)
    (cs : List Char) : trimStart (before ++ cs) = trimStart cs :=
  List.dropWhile_append_of_pos h

theorem trimStart_cons {c : Char} {cs : List Char} (h : isBlank c = false) :
    trimStart (c :: cs) = c :: cs :=
  List.dropWhile_cons_of_neg (Bool.eq_false_iff.1 h)

/-- A text is what is left of it when it is trimmed, between blanks. -/
theorem exists_trim (cs : List Char) : ∃ before after, cs = before ++ trim cs ++ after ∧
    (∀ c ∈ before, isBlank c = true) ∧ ∀ c ∈ after, isBlank c = true := by
  have hblank : ∀ xs : List Char, ∀ c ∈ xs.takeWhile isBlank, isBlank c = true :=
    fun xs => List.all_eq_true.1 List.all_takeWhile
  refine ⟨cs.takeWhile isBlank, ((trimStart cs).reverse.takeWhile isBlank).reverse, ?_,
    hblank cs, fun c hc => hblank _ c (List.mem_reverse.1 hc)⟩
  have hend : trim cs ++ ((trimStart cs).reverse.takeWhile isBlank).reverse = trimStart cs := by
    rw [trim, ← List.reverse_append]
    exact List.reverse_eq_iff.2 List.takeWhile_append_dropWhile
  rw [List.append_assoc, hend]
  exact List.takeWhile_append_dropWhile.symm

/-- **The blanks around a text without any are taken off.** -/
theorem trim_append {before body after : List Char} (hbefore : ∀ c ∈ before, isBlank c = true)
    (hbody : ∀ c ∈ body, isBlank c = false) (hafter : ∀ c ∈ after, isBlank c = true) :
    trim (before ++ body ++ after) = body := by
  rw [List.append_assoc, trim, trimStart_append hbefore]
  cases body with
  | nil =>
    have hnil : trimStart after = [] := by
      rw [← List.append_nil after, trimStart_append hafter]
      rfl
    rw [List.nil_append, hnil]
    rfl
  | cons c body =>
    have hafter' : ∀ d ∈ after.reverse, isBlank d = true :=
      fun d hd => hafter d (List.mem_reverse.1 hd)
    -- the last character of the body, which is not empty, stops the blanks at the end
    obtain ⟨d, rest, hlast⟩ := List.exists_cons_of_ne_nil
      (List.reverse_ne_nil_iff.2 (List.cons_ne_nil c body))
    have hd : isBlank d = false :=
      hbody d (List.mem_reverse.1 (hlast ▸ List.mem_cons_self))
    rw [List.cons_append, trimStart_cons (hbody c List.mem_cons_self),
      ← List.cons_append, List.reverse_append, trimStart_append hafter', hlast,
      trimStart_cons hd, ← hlast, List.reverse_reverse]

end SecurityGroups.Text
