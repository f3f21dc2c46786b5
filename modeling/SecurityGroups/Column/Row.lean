/-
SecurityGroups/Column/Row.lean

Rows: cells under the names of their columns.

The cells are kept in the order of their names, so a row is determined by
what `get?` finds in it (`Row.ext_get?`), and walking a row meets the names
in order.
-/
import SecurityGroups.Column.Cell

namespace SecurityGroups

/-! ### Ordered lists of cells -/

/-- The cell of a name. -/
def findCell (name : String) : List (String × Cell) → Option Cell
  | [] => none
  | (n, c) :: rest => if n = name then some c else findCell name rest

/-- Puts a cell in its place, in the order of the names. -/
def insertCell (name : String) (cell : Cell) : List (String × Cell) → List (String × Cell)
  | [] => [(name, cell)]
  | (n, c) :: rest =>
    if name < n then (name, cell) :: (n, c) :: rest
    else if n = name then (name, cell) :: rest
    else (n, c) :: insertCell name cell rest

/-- The names stand in strictly increasing order. -/
def Ordered (cells : List (String × Cell)) : Prop :=
  (cells.map Prod.fst).Pairwise (· < ·)

theorem mem_names_insertCell {name other : String} {cell : Cell} {cells : List (String × Cell)} :
    other ∈ (insertCell name cell cells).map Prod.fst →
      other = name ∨ other ∈ cells.map Prod.fst := by
  induction cells with
  | nil => simp [insertCell]
  | cons p rest ih =>
    obtain ⟨n, c⟩ := p
    simp only [insertCell]
    split
    · simp
    · split
      · simp_all
      · simp only [List.map_cons, List.mem_cons]
        rintro (h | h)
        · exact .inr (.inl h)
        · rcases ih h with h | h
          · exact .inl h
          · exact .inr (.inr h)

theorem ordered_insertCell {name : String} {cell : Cell} {cells : List (String × Cell)}
    (h : Ordered cells) : Ordered (insertCell name cell cells) := by
  induction cells with
  | nil => simp [Ordered, insertCell]
  | cons p rest ih =>
    obtain ⟨n, c⟩ := p
    obtain ⟨hn, hrest⟩ := List.pairwise_cons.1 h
    simp only [insertCell]
    split
    · rename_i hlt
      refine List.pairwise_cons.2 ⟨?_, h⟩
      intro m hm
      rcases List.mem_cons.1 hm with rfl | hm
      · exact hlt
      · exact Std.lt_trans hlt (hn m hm)
    · rename_i hlt
      split
      · rename_i heq
        subst heq
        exact List.pairwise_cons.2 ⟨hn, hrest⟩
      · rename_i hne
        refine List.pairwise_cons.2 ⟨?_, ih hrest⟩
        intro m hm
        rcases mem_names_insertCell hm with rfl | hm
        · exact Std.lt_of_le_of_ne (Std.not_lt.1 hlt) hne
        · exact hn m hm

theorem findCell_insertCell_self (name : String) (cell : Cell) (cells : List (String × Cell)) :
    findCell name (insertCell name cell cells) = some cell := by
  induction cells with
  | nil => simp [insertCell, findCell]
  | cons p rest ih =>
    obtain ⟨n, c⟩ := p
    simp only [insertCell]
    split
    · simp [findCell]
    · split
      · simp [findCell]
      · rename_i hne
        simp [findCell, hne, ih]

theorem findCell_insertCell_of_ne {name other : String} (h : name ≠ other) (cell : Cell)
    (cells : List (String × Cell)) :
    findCell other (insertCell name cell cells) = findCell other cells := by
  induction cells with
  | nil => simp [insertCell, findCell, h]
  | cons p rest ih =>
    obtain ⟨n, c⟩ := p
    simp only [insertCell]
    split
    · simp [findCell, h]
    · split
      · rename_i heq
        subst heq
        simp [findCell, h]
      · simp [findCell, ih]

theorem findCell_eq_none {name : String} {cells : List (String × Cell)}
    (h : ∀ n ∈ cells.map Prod.fst, name < n) : findCell name cells = none := by
  induction cells with
  | nil => rfl
  | cons p rest ih =>
    obtain ⟨n, c⟩ := p
    have hn : ¬ n = name := fun e => by
      subst e
      exact String.lt_irrefl _ (h _ (by simp))
    rw [findCell, if_neg hn, ih fun m hm => h m (by simp only [List.map_cons]; exact .tail _ hm)]

/-- Two ordered lists of cells in which the same is found are the same. -/
theorem eq_of_findCell {as bs : List (String × Cell)} (ha : Ordered as) (hb : Ordered bs)
    (h : ∀ name, findCell name as = findCell name bs) : as = bs := by
  induction as generalizing bs with
  | nil =>
    cases bs with
    | nil => rfl
    | cons p bs => have := h p.1; simp [findCell] at this
  | cons p as ih =>
    obtain ⟨n, c⟩ := p
    obtain ⟨hn, has⟩ := List.pairwise_cons.1 ha
    cases bs with
    | nil => have := h n; simp [findCell] at this
    | cons q bs =>
      obtain ⟨m, d⟩ := q
      obtain ⟨hm, hbs⟩ := List.pairwise_cons.1 hb
      have hnm : n = m := by
        have h₁ := h n
        have h₂ := h m
        apply Classical.byContradiction
        intro hne
        have hne' : ¬ m = n := fun e => hne e.symm
        simp only [findCell, hne, hne', if_true, if_false] at h₁ h₂
        by_cases hlt : n < m
        · rw [findCell_eq_none fun k hk => Std.lt_trans hlt (hm k hk)] at h₁
          cases h₁
        · have hgt := Std.lt_of_le_of_ne (Std.not_lt.1 hlt) hne'
          rw [findCell_eq_none fun k hk => Std.lt_trans hgt (hn k hk)] at h₂
          cases h₂
      subst hnm
      have hcd := h n
      simp only [findCell, if_true, Option.some.injEq] at hcd
      subst hcd
      congr 1
      refine ih has hbs fun name => ?_
      by_cases hname : n = name
      · subst hname
        rw [findCell_eq_none hn, findCell_eq_none hm]
      · simpa [findCell, hname] using h name

/-! ### Rows -/

/-- Cells under the names of their columns. -/
structure Row where
  cells : List (String × Cell)
  ordered : Ordered cells

namespace Row

/-- The row without cells. -/
def empty : Row := ⟨[], List.Pairwise.nil⟩

/-- The cell of a column. -/
def get? (row : Row) (name : String) : Option Cell := findCell name row.cells

/-- Writes the cell of a column. -/
def set (row : Row) (name : String) (cell : Cell) : Row :=
  ⟨insertCell name cell row.cells, ordered_insertCell row.ordered⟩

/-- Keeps the cells for which the condition holds. -/
def filter (row : Row) (keep : String → Cell → Bool) : Row where
  cells := row.cells.filter fun (n, c) => keep n c
  ordered := List.Pairwise.sublist (List.Sublist.map _ List.filter_sublist) row.ordered

/-- Takes the cell of a column out. -/
def erase (row : Row) (name : String) : Row := row.filter fun n _ => n ≠ name

/-- Takes the empty cells out. -/
def withoutNulls (row : Row) : Row := row.filter fun _ c => !c.isNull

/-- Writes some cells, one after the other. -/
def setAll (row : Row) (cells : List (String × Cell)) : Row :=
  cells.foldl (fun row (n, c) => row.set n c) row

/-- Writes the cells of the second row over those of the first. -/
def overlay (row values : Row) : Row := row.setAll values.cells

/-- The row with some cells. -/
def ofCells (cells : List (String × Cell)) : Row := empty.setAll cells

/-- The number of cells. -/
def size (row : Row) : Nat := row.cells.length

/-- The names of the cells, in order. -/
def names (row : Row) : List String := row.cells.map Prod.fst

/-- The cell of a column, or an empty one. -/
def cell (row : Row) (name : String) : Cell := (row.get? name).getD .null

/-! ### Laws -/

@[simp] theorem get?_empty (name : String) : empty.get? name = none := rfl

@[simp] theorem get?_set_self (row : Row) (name : String) (cell : Cell) :
    (row.set name cell).get? name = some cell :=
  findCell_insertCell_self name cell row.cells

theorem get?_set_of_ne {name other : String} (h : name ≠ other) (row : Row) (cell : Cell) :
    (row.set name cell).get? other = row.get? other :=
  findCell_insertCell_of_ne h cell row.cells

theorem get?_set (row : Row) (name other : String) (cell : Cell) :
    (row.set name cell).get? other = if name = other then some cell else row.get? other := by
  split
  · rename_i h; subst h; exact get?_set_self row name cell
  · rename_i h; exact get?_set_of_ne h row cell

/-- Rows in which the same is found are the same. -/
theorem ext_get? {a b : Row} (h : ∀ name, a.get? name = b.get? name) : a = b := by
  have := eq_of_findCell a.ordered b.ordered h
  cases a; cases b; cases this; rfl

end Row

end SecurityGroups
