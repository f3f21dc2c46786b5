/-
SecurityGroups/Text/AsciiCase.lean

Comparing keywords without regard to the case of the letters A to Z.

`toLower_eq_toLower_iff`: a letter is the same in two ways only.
-/
namespace SecurityGroups.Text

/-- Whether two texts are equal up to the case of the letters A to Z. -/
def sameIgnoringCase (a b : String) : Bool :=
  a.toList.map Char.toLower == b.toList.map Char.toLower

theorem sameIgnoringCase_refl (a : String) : sameIgnoringCase a a = true := by
  simp [sameIgnoringCase]

theorem sameIgnoringCase_comm (a b : String) : sameIgnoringCase a b = sameIgnoringCase b a :=
  BEq.comm

theorem toNat_toLower (c : Char) : c.toLower.toNat =
    if 65 ≤ c.toNat ∧ c.toNat ≤ 90 then c.toNat + 32 else c.toNat := by
  have hcase : ('A'.val ≤ c.val ∧ c.val ≤ 'Z'.val) ↔ 65 ≤ c.toNat ∧ c.toNat ≤ 90 := by
    rw [UInt32.le_iff_toNat_le, UInt32.le_iff_toNat_le]
    rfl
  by_cases h : 'A'.val ≤ c.val ∧ c.val ≤ 'Z'.val
  · have hnat := hcase.1 h
    have hlower : c.toLower = ⟨c.val + ('a'.val - 'A'.val), _⟩ := dif_pos h
    rw [if_pos hnat, hlower, Char.toNat_mk, UInt32.toNat_add]
    exact Nat.mod_eq_of_lt (by simp; omega)
  · have hlower : c.toLower = c := dif_neg h
    rw [if_neg (mt hcase.2 h), hlower]

/-- What is the same as a capital letter is that letter or its small one. -/
theorem toLower_eq_toLower_iff {c letter : Char} (h : 'A' ≤ letter ∧ letter ≤ 'Z') :
    c.toLower = letter.toLower ↔ c = letter ∨ c = letter.toLower := by
  have hletter : 65 ≤ letter.toNat ∧ letter.toNat ≤ 90 := by
    simpa [Char.le_def, UInt32.le_iff_toNat_le] using h
  rw [← Char.toNat_inj, ← Char.toNat_inj, ← Char.toNat_inj, toNat_toLower, toNat_toLower,
    if_pos hletter]
  split <;> omega

end SecurityGroups.Text
