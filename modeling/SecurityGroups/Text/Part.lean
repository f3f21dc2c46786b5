/-
SecurityGroups/Text/Part.lean

Texts within texts.
-/
namespace SecurityGroups.Text

/-- Whether the first text stands somewhere in the second. -/
def isPartOf (part : List Char) : List Char → Bool
  | [] => part.isEmpty
  | c :: cs => part.isPrefixOf (c :: cs) || isPartOf part cs

/-- A text stands in another exactly when the other is that text with something around it. -/
theorem isPartOf_iff {part cs : List Char} :
    isPartOf part cs = true ↔ ∃ before after, cs = before ++ part ++ after := by
  induction cs with
  | nil => simp [isPartOf]
  | cons c cs ih =>
    simp only [isPartOf, Bool.or_eq_true, List.isPrefixOf_iff_prefix, ih]
    constructor
    · rintro (⟨after, h⟩ | ⟨before, after, rfl⟩)
      · exact ⟨[], after, h.symm⟩
      · exact ⟨c :: before, after, rfl⟩
    · rintro ⟨before, after, h⟩
      cases before with
      | nil => exact .inl ⟨after, h.symm⟩
      | cons d before =>
        obtain ⟨rfl, rfl⟩ := List.cons.inj h
        exact .inr ⟨before, after, rfl⟩

end SecurityGroups.Text
