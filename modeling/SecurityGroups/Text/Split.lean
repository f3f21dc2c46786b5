/-
SecurityGroups/Text/Split.lean

Cutting a text at a separator, and putting pieces together again.

`split_eq_iff`: the pieces of a text are those without the separator that
make it again.
-/
namespace SecurityGroups.Text

/-- The text before and after the first separator, if there is one. -/
def splitFirst? (sep : Char) : List Char → Option (List Char × List Char)
  | [] => none
  | c :: cs =>
    if c = sep then some ([], cs)
    else (splitFirst? sep cs).map fun (before, after) => (c :: before, after)

/-- The text before and after the first pair of separators in a row, if there is one. -/
def splitDouble? (sep : Char) : List Char → Option (List Char × List Char)
  | a :: b :: cs =>
    if a = sep ∧ b = sep then some ([], cs)
    else (splitDouble? sep (b :: cs)).map fun (before, after) => (a :: before, after)
  | _ => none

/-- The pieces of a text between separators; there is always at least one. -/
def split (sep : Char) : List Char → List (List Char)
  | [] => [[]]
  | c :: cs =>
    if c = sep then [] :: split sep cs
    else match split sep cs with
      | piece :: rest => (c :: piece) :: rest
      | [] => [[c]]

/-- Pieces with a separator between them. -/
def join (sep : Char) : List (List Char) → List Char
  | [] => []
  | [piece] => piece
  | piece :: rest => piece ++ sep :: join sep rest

/-! ### Laws -/

theorem split_ne_nil (sep : Char) (cs : List Char) : split sep cs ≠ [] := by
  cases cs with
  | nil => simp [split]
  | cons c cs =>
    simp only [split]
    split
    · simp
    · split <;> simp

/-- A piece without separators is cut off whole. -/
theorem split_append_sep {sep : Char} {piece : List Char} (h : sep ∉ piece) (rest : List Char) :
    split sep (piece ++ sep :: rest) = piece :: split sep rest := by
  induction piece with
  | nil => simp [split]
  | cons c cs ih =>
    have hc : ¬ c = sep := fun e => h (e ▸ List.mem_cons_self)
    have hcs : sep ∉ cs := fun m => h (List.mem_cons_of_mem _ m)
    simp [split, hc, ih hcs]

/-- A text without separators is one piece. -/
theorem split_of_not_mem {sep : Char} {piece : List Char} (h : sep ∉ piece) :
    split sep piece = [piece] := by
  induction piece with
  | nil => rfl
  | cons c cs ih =>
    have hc : ¬ c = sep := fun e => h (e ▸ List.mem_cons_self)
    have hcs : sep ∉ cs := fun m => h (List.mem_cons_of_mem _ m)
    simp [split, hc, ih hcs]

/-- Pieces without separators come back from their join. -/
theorem split_join {sep : Char} {pieces : List (List Char)} (hne : pieces ≠ [])
    (h : ∀ piece ∈ pieces, sep ∉ piece) : split sep (join sep pieces) = pieces := by
  induction pieces with
  | nil => exact absurd rfl hne
  | cons piece rest ih =>
    cases rest with
    | nil => simpa [join] using split_of_not_mem (h piece (by simp))
    | cons next rest =>
      rw [join]
      · rw [split_append_sep (h piece (by simp)), ih (by simp) fun p hp => h p (by simp [hp])]
      · simp

/-- No piece holds the separator. -/
theorem not_mem_of_mem_split {sep : Char} {cs piece : List Char} (h : piece ∈ split sep cs) :
    sep ∉ piece := by
  induction cs generalizing piece with
  | nil =>
    obtain rfl := List.mem_singleton.1 h
    exact List.not_mem_nil
  | cons c cs ih =>
    simp only [split] at h
    split at h
    · rcases List.mem_cons.1 h with rfl | h
      · exact List.not_mem_nil
      · exact ih h
    · rename_i hc
      split at h
      · rename_i first rest hcs
        rw [hcs] at ih
        rcases List.mem_cons.1 h with rfl | h
        · intro hmem
          rcases List.mem_cons.1 hmem with heq | hmem
          · exact hc heq.symm
          · exact ih List.mem_cons_self hmem
        · exact ih (List.mem_cons_of_mem _ h)
      · rename_i hcs
        exact absurd hcs (split_ne_nil sep cs)

theorem join_cons {sep : Char} {rest : List (List Char)} (h : rest ≠ []) (piece : List Char) :
    join sep (piece :: rest) = piece ++ sep :: join sep rest := by
  cases rest with
  | nil => exact absurd rfl h
  | cons next rest => rfl

/-- The pieces of a text make the text again. -/
theorem join_split (sep : Char) (cs : List Char) : join sep (split sep cs) = cs := by
  induction cs with
  | nil => rfl
  | cons c cs ih =>
    simp only [split]
    split
    · rename_i hc
      rw [join_cons (split_ne_nil sep cs), ih, hc]
      rfl
    · split
      · rename_i first rest hcs
        rw [hcs] at ih
        rw [← ih]
        cases rest <;> rfl
      · rename_i hcs
        exact absurd hcs (split_ne_nil sep cs)

/-- **The pieces of a text** are those texts without the separator that make it again. -/
theorem split_eq_iff {sep : Char} {cs : List Char} {pieces : List (List Char)} :
    split sep cs = pieces ↔
      pieces ≠ [] ∧ (∀ piece ∈ pieces, sep ∉ piece) ∧ join sep pieces = cs := by
  constructor
  · rintro rfl
    exact ⟨split_ne_nil sep cs, fun _ => not_mem_of_mem_split, join_split sep cs⟩
  · rintro ⟨hne, hpieces, rfl⟩
    exact split_join hne hpieces

theorem mem_join {sep c : Char} {pieces : List (List Char)} (h : c ∈ join sep pieces) :
    c = sep ∨ ∃ piece ∈ pieces, c ∈ piece := by
  induction pieces with
  | nil => cases h
  | cons piece rest ih =>
    by_cases hrest : rest = []
    · subst hrest
      exact .inr ⟨piece, List.mem_cons_self, h⟩
    · rw [join_cons hrest, List.mem_append, List.mem_cons] at h
      rcases h with h | h | h
      · exact .inr ⟨piece, List.mem_cons_self, h⟩
      · exact .inl h
      · rcases ih h with h | ⟨other, hother, h⟩
        · exact .inl h
        · exact .inr ⟨other, List.mem_cons_of_mem _ hother, h⟩

theorem mem_join_of_mem {sep c : Char} {pieces : List (List Char)} {piece : List Char}
    (hpiece : piece ∈ pieces) (h : c ∈ piece) : c ∈ join sep pieces := by
  induction pieces with
  | nil => cases hpiece
  | cons first rest ih =>
    by_cases hrest : rest = []
    · subst hrest
      exact List.mem_singleton.1 hpiece ▸ h
    · rw [join_cons hrest, List.mem_append, List.mem_cons]
      rcases List.mem_cons.1 hpiece with rfl | hpiece
      · exact .inl h
      · exact .inr (.inr (ih hpiece))

/-- The text before the first separator holds none, and nothing is lost. -/
theorem splitFirst?_eq_some {sep : Char} {cs before after : List Char}
    (h : splitFirst? sep cs = some (before, after)) :
    sep ∉ before ∧ cs = before ++ sep :: after := by
  induction cs generalizing before with
  | nil => simp [splitFirst?] at h
  | cons c cs ih =>
    simp only [splitFirst?] at h
    split at h
    · obtain ⟨rfl, rfl⟩ := by simpa using h
      simp_all
    · rename_i hc
      obtain ⟨⟨b, a⟩, hb, heq⟩ := Option.map_eq_some_iff.1 h
      obtain ⟨rfl, rfl⟩ := by simpa using heq
      obtain ⟨hn, rfl⟩ := ih hb
      exact ⟨by simp [hn, Ne.symm hc], by simp⟩

/-- The first separator after a text without any is the cut. -/
theorem splitFirst?_append {sep : Char} {before : List Char} (h : sep ∉ before)
    (after : List Char) : splitFirst? sep (before ++ sep :: after) = some (before, after) := by
  induction before with
  | nil => simp [splitFirst?]
  | cons c cs ih =>
    have hc : ¬ c = sep := fun e => h (e ▸ List.mem_cons_self)
    have hcs : sep ∉ cs := fun m => h (List.mem_cons_of_mem _ m)
    simp [splitFirst?, hc, ih hcs]

/-- There is no cut exactly when there is no separator. -/
theorem splitFirst?_eq_none {sep : Char} {cs : List Char} :
    splitFirst? sep cs = none ↔ sep ∉ cs := by
  induction cs with
  | nil => simp [splitFirst?]
  | cons c cs ih =>
    by_cases hc : c = sep
    · simp [splitFirst?, hc]
    · simp [splitFirst?, hc, ih, Ne.symm hc]

/-- Nothing is lost at a double separator. -/
theorem splitDouble?_eq_some {sep : Char} {cs before after : List Char}
    (h : splitDouble? sep cs = some (before, after)) : cs = before ++ sep :: sep :: after := by
  fun_induction splitDouble? sep cs generalizing before with
  | case1 a b cs hsep =>
    obtain ⟨rfl, rfl⟩ := hsep
    cases h
    rfl
  | case2 a b cs hsep ih =>
    obtain ⟨⟨before, after⟩, hcut, heq⟩ := Option.map_eq_some_iff.1 h
    cases heq
    rw [ih hcut]
    rfl
  | case3 => cases h

/-- A character that is no separator is part of no double separator. -/
theorem splitDouble?_cons {sep c : Char} (hc : c ≠ sep) (cs : List Char) :
    splitDouble? sep (c :: cs) = (splitDouble? sep cs).map (Prod.map (c :: ·) id) := by
  cases cs with
  | nil => rfl
  | cons d cs =>
    rw [splitDouble?, if_neg fun h => hc h.1]
    rfl

theorem splitDouble?_cons_cons {sep c d : Char} (hd : d ≠ sep) (cs : List Char) :
    splitDouble? sep (c :: d :: cs) = (splitDouble? sep (d :: cs)).map (Prod.map (c :: ·) id) := by
  rw [splitDouble?, if_neg fun h => hd h.2]
  rfl

theorem splitDouble?_append {sep : Char} {piece : List Char} (h : sep ∉ piece) (cs : List Char) :
    splitDouble? sep (piece ++ cs) = (splitDouble? sep cs).map (Prod.map (piece ++ ·) id) := by
  induction piece with
  | nil => exact Option.map_id'.symm
  | cons c piece ih =>
    obtain ⟨hc, hpiece⟩ := List.ne_and_not_mem_of_not_mem_cons h
    rw [List.cons_append, splitDouble?_cons (Ne.symm hc), ih hpiece, Option.map_map]
    rfl

/-- Pieces with something in each of them hold no double separator, nor do they end one. -/
theorem splitDouble?_join_append {sep : Char} {pieces : List (List Char)}
    (hne : ∀ piece ∈ pieces, piece ≠ []) (h : ∀ piece ∈ pieces, sep ∉ piece) (cs : List Char) :
    splitDouble? sep (join sep pieces ++ cs) =
      (splitDouble? sep cs).map (Prod.map (join sep pieces ++ ·) id) := by
  induction pieces with
  | nil => exact Option.map_id'.symm
  | cons piece rest ih =>
    have hpiece := h piece List.mem_cons_self
    cases rest with
    | nil => exact splitDouble?_append hpiece cs
    | cons next rest =>
      have hrest := ih (fun p hp => hne p (List.mem_cons_of_mem _ hp))
        fun p hp => h p (List.mem_cons_of_mem _ hp)
      -- the separator after the piece stands alone, since the next piece is not empty
      obtain ⟨c, next', rfl⟩ := List.exists_cons_of_ne_nil (hne next (by simp))
      have hc : c ≠ sep := fun heq => h (c :: next') (by simp) (heq ▸ List.mem_cons_self)
      obtain ⟨tail, htail⟩ : ∃ tail, join sep ((c :: next') :: rest) = c :: tail := by
        cases rest <;> exact ⟨_, rfl⟩
      rw [htail] at hrest
      rw [join_cons (List.cons_ne_nil _ rest), htail, List.append_assoc, List.cons_append,
        List.cons_append, splitDouble?_append hpiece, splitDouble?_cons_cons hc, ← List.cons_append,
        hrest, Option.map_map, Option.map_map]
      refine congrArg (Option.map · _) (funext fun p => ?_)
      simp [Prod.map]

end SecurityGroups.Text
