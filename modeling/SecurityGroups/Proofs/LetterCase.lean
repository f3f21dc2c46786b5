/-
SecurityGroups/Proofs/LetterCase.lean

Searching without regard to case.

The text that is searched for and the text of the cell are put into lower case, each on
its own.  Lower case goes by single characters, with one exception: a capital sigma
becomes a final sigma at the end of a word, and where a word ends depends on what
surrounds the sigma.  So a text can have another lower case on its own than where it
stands in a cell.

A capital sigma is settled (`Text.Settled`) when the text itself decides what becomes of
it: if nothing stands before it in the text but what casing skips, a cased letter follows
it, and if nothing follows it but what casing skips, no cased letter stands before it.

    found ignoring case wherever it stands  ↔  every capital sigma is settled

From right to left, the lower case of the text stands in that of the cell
(`Text.lowerWithin_of_settledFrom`).  From left to right, a letter put before the text or
after it changes a sigma that is not settled, and then the lower case of the text is
nowhere in what comes out (`Text.exists_unfound`).
-/
import SecurityGroups.Proofs.Comparisons

namespace SecurityGroups

namespace Text

variable {before after before' after' xs ys part : List Char} {c : Char}

/-! ### What casing skips -/

/-- Casing skips every character of a text. -/
def Skipped (cs : List Char) : Prop := ∀ c ∈ cs, isCaseIgnorable c = true

instance : DecidablePred Skipped := fun cs =>
  decidable_of_iff (cs.all isCaseIgnorable = true) List.all_eq_true

theorem skipped_cons {c : Char} {cs : List Char} :
    Skipped (c :: cs) ↔ isCaseIgnorable c = true ∧ Skipped cs :=
  List.forall_mem_cons

theorem meetsCased_cons (c : Char) (cs : List Char) :
    meetsCased (c :: cs) = if isCaseIgnorable c then meetsCased cs else isCased c := by
  cases h : isCaseIgnorable c <;> simp [meetsCased, h]

/-- Only when the first text is skipped does the second one matter. -/
theorem meetsCased_append (xs ys : List Char) :
    meetsCased (xs ++ ys) = if Skipped xs then meetsCased ys else meetsCased xs := by
  induction xs with
  | nil => exact (if_pos nofun).symm
  | cons c xs ih =>
    simp only [List.cons_append, meetsCased_cons, ih, skipped_cons]
    cases isCaseIgnorable c <;> simp

theorem meetsCased_of_skipped (h : Skipped xs) : meetsCased xs = false := by
  rw [← List.append_nil xs, meetsCased_append, if_pos h]
  rfl

/-! ### Lower case between other texts -/

/-- Whether a capital sigma between two texts, the first of them backwards, ends a word. -/
def endsWord (before after : List Char) : Bool := meetsCased before && !meetsCased after

/-- The lower case of a character between two texts, the first of them backwards. -/
def lowerBetween (before after : List Char) (c : Char) : List Char :=
  if c = 'Σ' then [if endsWord before after then 'ς' else 'σ']
  else if c = 'İ' then ['i', Char.ofNat 0x307]
  else [lowerChar c]

/-- The lower case of a text between two others, the first of them backwards. -/
def lowerWithin (before after : List Char) : List Char → List Char
  | [] => []
  | c :: cs => lowerBetween before (cs ++ after) c ++ lowerWithin (c :: before) after cs

theorem lowerFrom_eq (before cs : List Char) : lowerFrom before cs = lowerWithin before [] cs := by
  induction cs generalizing before with
  | nil => rfl
  | cons c cs ih =>
    rw [lowerFrom, ih, lowerWithin, List.append_nil]
    rfl

/-- In a text each part is put into lower case between what stands around it. -/
theorem lowerWithin_append (before after xs ys : List Char) :
    lowerWithin before after (xs ++ ys) =
      lowerWithin before (ys ++ after) xs ++ lowerWithin (xs.reverse ++ before) after ys := by
  induction xs generalizing before with
  | nil => rfl
  | cons c xs ih =>
    rw [List.cons_append, lowerWithin, ih, lowerWithin, List.append_assoc, List.append_assoc,
      List.reverse_cons, List.append_assoc]
    rfl

theorem length_lowerBetween (before after : List Char) (c : Char) :
    (lowerBetween before after c).length = if c = 'İ' then 2 else 1 := by
  rw [lowerBetween]
  split
  · rename_i hc
    have hne : c ≠ 'İ' := fun h => absurd (hc.symm.trans h) (by decide)
    rw [if_neg hne]
    rfl
  · split <;> rfl

/-- What stands around a text does not change how long its lower case is. -/
theorem length_lowerWithin (before after before' after' cs : List Char) :
    (lowerWithin before after cs).length = (lowerWithin before' after' cs).length := by
  induction cs generalizing before before' with
  | nil => rfl
  | cons c cs ih =>
    rw [lowerWithin, lowerWithin, List.length_append, List.length_append, length_lowerBetween,
      length_lowerBetween, ih]

/-- The lower case of a text shows which capital sigmas end a word. -/
theorem endsWord_eq_of_lowerWithin_eq
    (h : lowerWithin before after (xs ++ 'Σ' :: ys) =
      lowerWithin before' after' (xs ++ 'Σ' :: ys)) :
    endsWord (xs.reverse ++ before) (ys ++ after) =
      endsWord (xs.reverse ++ before') (ys ++ after') := by
  rw [lowerWithin_append, lowerWithin_append] at h
  obtain ⟨-, hsigma⟩ := List.append_inj h (length_lowerWithin _ _ _ _ _)
  have hhead : (if endsWord (xs.reverse ++ before) (ys ++ after) then 'ς' else 'σ') =
      if endsWord (xs.reverse ++ before') (ys ++ after') then 'ς' else 'σ' :=
    (List.cons.inj hsigma).1
  revert hhead
  cases endsWord (xs.reverse ++ before) (ys ++ after) <;>
    cases endsWord (xs.reverse ++ before') (ys ++ after') <;> decide

/-! ### Settled texts -/

/-- Each capital sigma of a text is settled, where `before` holds what stands before the text,
backwards. -/
def SettledFrom (before : List Char) : List Char → Prop
  | [] => True
  | c :: cs => (c = 'Σ' → (Skipped before → meetsCased cs = true) ∧
      (Skipped cs → meetsCased before = false)) ∧ SettledFrom (c :: before) cs

instance decidableSettledFrom : (before cs : List Char) → Decidable (SettledFrom before cs)
  | _, [] => inferInstanceAs (Decidable True)
  | before, c :: cs =>
    have := decidableSettledFrom (c :: before) cs
    inferInstanceAs (Decidable (_ ∧ _))

/-- Each capital sigma of a text has the same lower case wherever the text stands. -/
def Settled (cs : List Char) : Prop := SettledFrom [] cs

instance : DecidablePred Settled := decidableSettledFrom []

theorem settledFrom_of_not_mem (h : 'Σ' ∉ xs) : SettledFrom before xs := by
  induction xs generalizing before with
  | nil => trivial
  | cons c xs ih =>
    obtain ⟨hc, hxs⟩ := List.ne_and_not_mem_of_not_mem_cons h
    exact ⟨fun heq => absurd heq.symm hc, ih hxs⟩

/-- Nothing that is put around a settled sigma changes whether it ends a word. -/
theorem endsWord_append (hbefore : Skipped before → meetsCased after = true)
    (hafter : Skipped after → meetsCased before = false) (before' after' : List Char) :
    endsWord (before ++ before') (after ++ after') = endsWord before after := by
  rw [endsWord, endsWord, meetsCased_append, meetsCased_append]
  by_cases hb : Skipped before
  · -- a cased letter follows, so the sigma ends no word
    have ha : ¬ Skipped after := fun h =>
      Bool.false_ne_true ((meetsCased_of_skipped h).symm.trans (hbefore hb))
    rw [if_neg ha, hbefore hb, Bool.not_true, Bool.and_false, Bool.and_false]
  · rw [if_neg hb]
    by_cases ha : Skipped after
    · rw [hafter ha, Bool.false_and, Bool.false_and]
    · rw [if_neg ha]

/-- **A settled text has one lower case**, whatever stands around it. -/
theorem lowerWithin_of_settledFrom (h : SettledFrom before xs) (before' after : List Char) :
    lowerWithin (before ++ before') after xs = lowerWithin before [] xs := by
  induction xs generalizing before with
  | nil => rfl
  | cons c xs ih =>
    obtain ⟨hc, hxs⟩ := h
    have hchar : lowerBetween (before ++ before') (xs ++ after) c = lowerBetween before xs c := by
      by_cases hsigma : c = 'Σ'
      · obtain ⟨hbefore, hafter⟩ := hc hsigma
        rw [lowerBetween, lowerBetween, endsWord_append hbefore hafter]
      · rw [lowerBetween, lowerBetween, if_neg hsigma, if_neg hsigma]
    rw [lowerWithin, lowerWithin, hchar, List.append_nil, ← List.cons_append, ih hxs]

/-- What is found in a text stands in lower case in the lower case of the text, if it is settled. -/
theorem infix_lowercase_of_settled (h : Settled part) {cs : List Char} (hpart : part <:+: cs) :
    lowercase part <:+: lowercase cs := by
  obtain ⟨before, after, rfl⟩ := hpart
  have hlower : lowerWithin before.reverse after part = lowercase part := by
    rw [lowercase, lowerFrom_eq]
    exact lowerWithin_of_settledFrom h before.reverse after
  have hwhole : lowercase (before ++ part ++ after) = lowerWithin [] (part ++ after) before ++
      lowercase part ++ lowerWithin (before ++ part).reverse [] after := by
    rw [lowercase, lowerFrom_eq, lowerWithin_append, lowerWithin_append, List.append_nil,
      List.append_nil, List.append_nil, hlower]
  exact ⟨_, _, hwhole.symm⟩

/-! ### Texts that are not settled -/

/-- A text that is not settled has a capital sigma with nothing but what is skipped on one side of
it, and with what makes a difference to that side on the other. -/
theorem exists_of_not_settledFrom (h : ¬ SettledFrom before xs) :
    ∃ ls rs, xs = ls ++ 'Σ' :: rs ∧
      (Skipped (ls.reverse ++ before) ∧ meetsCased rs = false ∨
        Skipped rs ∧ meetsCased (ls.reverse ++ before) = true) := by
  induction xs generalizing before with
  | nil => exact absurd trivial h
  | cons c xs ih =>
    by_cases hc : c = 'Σ' → (Skipped before → meetsCased xs = true) ∧
        (Skipped xs → meetsCased before = false)
    · obtain ⟨ls, rs, rfl, hside⟩ := ih fun hxs => h ⟨hc, hxs⟩
      refine ⟨c :: ls, rs, rfl, ?_⟩
      rw [List.reverse_cons, List.append_assoc]
      exact hside
    · refine ⟨[], xs, ?_⟩
      simp only [Classical.not_imp, not_and_or, Bool.not_eq_true, Bool.not_eq_false] at hc
      obtain ⟨rfl, hside⟩ := hc
      exact ⟨rfl, hside⟩

/-- There is a cased letter in lower case other than a given character. -/
theorem exists_letter (o : Option Char) :
    ∃ c, o ≠ some c ∧ meetsCased [c] = true ∧
      ∀ before after, lowerBetween before after c = [c] := by
  have hlower : ∀ c, c ≠ 'Σ' → c ≠ 'İ' → lowerChar c = c →
      ∀ before after, lowerBetween before after c = [c] := by
    intro c hsigma hdotted hself before after
    rw [lowerBetween, if_neg hsigma, if_neg hdotted, hself]
  by_cases ho : o = some 'a'
  · exact ⟨'b', fun h => absurd (ho.symm.trans h) (by decide), by decide,
      hlower 'b' (by decide) (by decide) (by decide)⟩
  · exact ⟨'a', ho, by decide, hlower 'a' (by decide) (by decide) (by decide)⟩

/-- A text with one more character before or after it does not contain another text of its length
unless that has the character at its end on that side. -/
theorem not_infix_cons (hlength : xs.length = ys.length) (hne : xs ≠ ys)
    (hhead : xs.head? ≠ some c) : ¬ xs <:+: c :: ys := by
  rw [List.infix_cons_iff, List.prefix_cons_iff]
  rintro ((rfl | ⟨_, rfl, -⟩) | hpart)
  · exact hne (List.eq_nil_of_length_eq_zero hlength.symm).symm
  · exact hhead rfl
  · exact hne (hpart.eq_of_length hlength)

theorem not_infix_concat (hlength : xs.length = ys.length) (hne : xs ≠ ys)
    (hlast : xs.getLast? ≠ some c) : ¬ xs <:+: ys ++ [c] := by
  rw [← List.reverse_infix, List.reverse_concat]
  refine not_infix_cons ?_ ?_ ?_
  · rwa [List.length_reverse, List.length_reverse]
  · rwa [Ne, List.reverse_inj]
  · rwa [List.head?_reverse]

/-- **A text that is not settled is not found everywhere**: a letter before it, or after it, makes
another text of it. -/
theorem exists_unfound (h : ¬ Settled part) :
    ∃ cs, part <:+: cs ∧ ¬ lowercase part <:+: lowercase cs := by
  obtain ⟨ls, rs, rfl, hside⟩ := exists_of_not_settledFrom h
  simp only [lowercase, lowerFrom_eq]
  rcases hside with ⟨hskipped, hcased⟩ | ⟨hskipped, hcased⟩
  · -- alone, no cased letter stands before the sigma; a letter before the text is one
    obtain ⟨c, hhead, hletter, hlower⟩ := exists_letter (lowerWithin [] [] (ls ++ 'Σ' :: rs)).head?
    refine ⟨c :: (ls ++ 'Σ' :: rs), List.infix_cons List.infix_rfl, ?_⟩
    rw [lowerWithin, hlower]
    refine not_infix_cons (length_lowerWithin _ _ _ _ _) (fun heq => ?_) hhead
    have hends := endsWord_eq_of_lowerWithin_eq heq
    rw [List.append_nil] at hskipped
    rw [List.append_nil, List.append_nil, endsWord, endsWord, meetsCased_of_skipped hskipped,
      meetsCased_append, if_pos hskipped, hletter, hcased] at hends
    exact Bool.false_ne_true hends
  · -- alone, no cased letter follows the sigma; a letter after the text is one
    obtain ⟨c, hlast, hletter, hlower⟩ :=
      exists_letter (lowerWithin [] [] (ls ++ 'Σ' :: rs)).getLast?
    have hconcat : lowerWithin [] [] ((ls ++ 'Σ' :: rs) ++ [c]) =
        lowerWithin [] [c] (ls ++ 'Σ' :: rs) ++ [c] := by
      rw [lowerWithin_append, lowerWithin, hlower]
      rfl
    refine ⟨(ls ++ 'Σ' :: rs) ++ [c], (List.prefix_append _ _).isInfix, ?_⟩
    rw [hconcat]
    refine not_infix_concat (length_lowerWithin _ _ _ _ _) (fun heq => ?_) hlast
    have hends := endsWord_eq_of_lowerWithin_eq heq
    rw [List.append_nil] at hcased
    rw [List.append_nil, List.append_nil, endsWord, endsWord, meetsCased_of_skipped hskipped,
      meetsCased_append, if_pos hskipped, hletter, hcased] at hends
    exact Bool.false_ne_true hends.symm

/-- A text is found in lower case wherever it stands exactly when it is settled. -/
theorem infix_lowercase_iff_settled :
    (∀ cs, part <:+: cs → lowercase part <:+: lowercase cs) ↔ Settled part := by
  refine ⟨fun h => ?_, fun h cs => infix_lowercase_of_settled h⟩
  by_contra hnot
  obtain ⟨cs, hpart, hunfound⟩ := exists_unfound hnot
  exact hunfound (h cs hpart)

end Text

/-! ### Tests -/

namespace Row

variable {row : Row} {field part : String}

theorem passes_contains_iff : row.Passes field .contains (.str part) ↔
    part.toList <:+: (row.cell field).textOrEmpty.toList := by
  rw [Passes, Test.holds, Test.accepts, Except.ok.injEq, Text.isPartOf_iff_infix]

theorem passes_containsIgnoringCase_iff : row.Passes field .containsIgnoringCase (.str part) ↔
    Text.lowercase part.toList <:+: Text.lowercase (row.cell field).textOrEmpty.toList := by
  rw [Passes, Test.holds, Test.accepts, Except.ok.injEq, Text.isPartOf_iff_infix]

end Row

/-- **What is found is found ignoring case** when the text that is searched for is settled, as each
text without a capital sigma is.  For any other text there is a row that has it in a column and in
which it is not found ignoring case. -/
theorem found_ignoring_case_iff_settled (part : String) :
    ('Σ' ∉ part.toList → Text.Settled part.toList) ∧
    ((∀ (row : Row) (field : String), row.Passes field .contains (.str part) →
        row.Passes field .containsIgnoringCase (.str part)) ↔ Text.Settled part.toList) := by
  refine ⟨Text.settledFrom_of_not_mem, ?_⟩
  simp only [Row.passes_contains_iff, Row.passes_containsIgnoringCase_iff]
  rw [← Text.infix_lowercase_iff_settled]
  constructor
  · intro h cs hpart
    have hcell : (Row.empty.set "memo" (.string (String.ofList cs))).cell "memo" =
        .string (String.ofList cs) := Row.cell_of_get? (Row.get?_set_self _ _ _)
    have hrow := h (Row.empty.set "memo" (.string (String.ofList cs))) "memo"
    rw [hcell] at hrow
    simpa [Cell.textOrEmpty, Cell.string?] using hrow (by simpa [Cell.textOrEmpty, Cell.string?])
  · exact fun h row field => h _

/-- The letter at the end of a word is found as it is, and is not found ignoring case. -/
theorem found_ignoring_case_iff_settled_sigma :
    let row : Row := .ofCells [("name", .string "ΟΔΟΣ")]
    row.Passes "name" .contains (.str "Σ") ∧
    ¬ row.Passes "name" .containsIgnoringCase (.str "Σ") ∧
    ¬ (∀ (row : Row) (field : String), row.Passes field .contains (.str "Σ") →
        row.Passes field .containsIgnoringCase (.str "Σ")) := by
  intro row
  have h := (found_ignoring_case_iff_settled "Σ").2
  refine ⟨?_, ?_, mt h.1 (by decide)⟩
  · unfold Row.Passes
    decide
  · unfold Row.Passes
    decide

end SecurityGroups
