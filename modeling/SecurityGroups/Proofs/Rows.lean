/-
SecurityGroups/Proofs/Rows.lean

What is found in a row after it was written.

A row is determined by what is found in it, so every law here is about
`get?`: `get?_overlay` for cells written over others, `get?_writeAll_of_mem`
for the cells of a record.  `eq_writeAll` turns them around: a row in which
the cells of a record and nothing else are found is the row of that record.

`readAll_eq_ok` reads a record back.  What comes out is the given record with
the attributes of the row copied into it (`copyAll`), which is all that can
be said before it is known that the attributes cover the whole record.
-/
import SecurityGroups.Record.Attribute

namespace SecurityGroups

/-! ### Cells -/

theorem Cell.string?_eq_some_iff {cell : Cell} {text : String} :
    cell.string? = some text ↔ cell = .string text := by
  cases cell <;> simp [Cell.string?]

theorem Ordered.nodup {cells : List (String × Cell)} (h : Ordered cells) :
    (cells.map Prod.fst).Nodup := by
  refine List.Pairwise.imp ?_ h
  intro m n hlt heq
  exact String.lt_irrefl n (heq ▸ hlt)

theorem findCell_eq_none_of_not_mem {name : String} {cells : List (String × Cell)}
    (h : name ∉ cells.map Prod.fst) : findCell name cells = none := by
  induction cells with
  | nil => rfl
  | cons p rest ih =>
    obtain ⟨n, c⟩ := p
    obtain ⟨hn, hrest⟩ := List.ne_and_not_mem_of_not_mem_cons h
    rw [findCell, if_neg (Ne.symm hn), ih hrest]

/-- In cells without a repeated name, each cell is found under its name. -/
theorem findCell_of_mem {name : String} {cell : Cell} {cells : List (String × Cell)}
    (hn : (cells.map Prod.fst).Nodup) (h : (name, cell) ∈ cells) :
    findCell name cells = some cell := by
  induction cells with
  | nil => cases h
  | cons p rest ih =>
    obtain ⟨n, c⟩ := p
    obtain ⟨hnot, hrest⟩ := List.nodup_cons.1 hn
    rcases List.mem_cons.1 h with heq | hmem
    · cases heq
      rw [findCell, if_pos rfl]
    · -- the first cell has another name, since no name is repeated
      have hne : n ≠ name := by
        rintro rfl
        exact hnot (List.mem_map.2 ⟨_, hmem, rfl⟩)
      rw [findCell, if_neg hne, ih hrest hmem]

theorem mem_of_findCell {name : String} {cell : Cell} {cells : List (String × Cell)}
    (h : findCell name cells = some cell) : (name, cell) ∈ cells := by
  induction cells with
  | nil => cases h
  | cons p rest ih =>
    obtain ⟨n, c⟩ := p
    rw [findCell] at h
    split at h
    · rename_i heq
      subst heq
      cases h
      exact List.mem_cons_self
    · exact List.mem_cons_of_mem _ (ih h)

namespace Row

variable {row values : Row} {name other : String} {cell : Cell}

theorem mem_cells_iff : (name, cell) ∈ row.cells ↔ row.get? name = some cell :=
  ⟨findCell_of_mem row.ordered.nodup, mem_of_findCell⟩

theorem get?_setAll {cells : List (String × Cell)} (h : (cells.map Prod.fst).Nodup) :
    (row.setAll cells).get? name = (findCell name cells).or (row.get? name) := by
  induction cells generalizing row with
  | nil => rfl
  | cons p rest ih =>
    obtain ⟨n, c⟩ := p
    obtain ⟨hnot, hrest⟩ := List.nodup_cons.1 h
    show ((row.set n c).setAll rest).get? name = _
    rw [ih hrest, get?_set, findCell]
    by_cases hn : n = name
    · -- no later cell has the name, so what is set first stays
      subst hn
      rw [findCell_eq_none_of_not_mem hnot, if_pos rfl, if_pos rfl]
      rfl
    · rw [if_neg hn, if_neg hn]

/-- Where the second row has a cell, that cell is found, and elsewhere that of the first. -/
theorem get?_overlay (row values : Row) (name : String) :
    (row.overlay values).get? name = (values.get? name).or (row.get? name) :=
  get?_setAll values.ordered.nodup

theorem cell_of_get? (h : row.get? name = some cell) : row.cell name = cell := by
  rw [Row.cell, h]
  rfl

/-- A cell that is not empty is found where it is read. -/
theorem get?_eq_some_iff (hne : cell ≠ .null) : row.get? name = some cell ↔ row.cell name = cell := by
  rw [Row.cell]
  cases row.get? name with
  | none =>
    constructor
    · intro h
      cases h
    · intro h
      exact absurd h.symm hne
  | some c => exact Option.some_inj

end Row

/-! ### Records -/

namespace Attribute

variable {α β : Type} {as bs : List (Attribute α)} {a : Attribute α} {x y : α} {row : Row}

@[simp] theorem names_append : names (as ++ bs) = names as ++ names bs := List.map_append

theorem name_mem_names (h : a ∈ as) : a.name ∈ names as := List.mem_map_of_mem h

/-- A column that no attribute has is left alone. -/
theorem get?_writeAll_of_not_mem {name : String} (h : name ∉ names as) :
    (writeAll as x row).get? name = row.get? name := by
  induction as generalizing row with
  | nil => rfl
  | cons a as ih =>
    obtain ⟨ha, has⟩ := List.ne_and_not_mem_of_not_mem_cons h
    rw [writeAll, ih has, write, Row.get?_set_of_ne (Ne.symm ha)]

/-- The column of each attribute holds its value. -/
theorem get?_writeAll_of_mem (hn : (names as).Nodup) (h : a ∈ as) :
    (writeAll as x row).get? a.name = some (a.kind.toCell (a.get x)) := by
  induction as generalizing row with
  | nil => cases h
  | cons b as ih =>
    obtain ⟨hb, has⟩ := List.nodup_cons.1 hn
    rw [writeAll]
    rcases List.mem_cons.1 h with rfl | h
    · rw [get?_writeAll_of_not_mem hb, write, Row.get?_set_self]
    · exact ih has h

/-- The row of a record is the one in which the cells of the record are found and nothing else. -/
theorem eq_writeAll (hn : (names as).Nodup)
    (hin : ∀ a ∈ as, row.get? a.name = some (a.kind.toCell (a.get x)))
    (hout : ∀ name ∉ names as, row.get? name = none) : row = writeAll as x Row.empty := by
  apply Row.ext_get?
  intro name
  by_cases h : name ∈ names as
  · obtain ⟨a, ha, rfl⟩ := List.mem_map.1 h
    rw [hin a ha, get?_writeAll_of_mem hn ha]
  · rw [hout name h, get?_writeAll_of_not_mem h, Row.get?_empty]

/-- An attribute that stands for absence is not written, and every other one is. -/
theorem get?_writePresent (a : Attribute α) (x : α) (row : Row) (name : String) :
    (a.writePresent x row).get? name =
      if a.name = name ∧ a.get x ≠ a.kind.blank then some (a.kind.toCell (a.get x))
      else row.get? name := by
  by_cases hb : a.get x = a.kind.blank
  · rw [writePresent, if_pos hb, if_neg (fun h => h.2 hb)]
  · rw [writePresent, if_neg hb, write, Row.get?_set]
    by_cases hn : a.name = name
    · rw [if_pos hn, if_pos ⟨hn, hb⟩]
    · rw [if_neg hn, if_neg fun h => hn h.1]

theorem get?_writeAllPresent_of_not_mem {name : String} (h : name ∉ names as) :
    (writeAllPresent as x row).get? name = row.get? name := by
  induction as generalizing row with
  | nil => rfl
  | cons a as ih =>
    obtain ⟨ha, has⟩ := List.ne_and_not_mem_of_not_mem_cons h
    rw [writeAllPresent, ih has, get?_writePresent, if_neg fun hn => ha hn.1.symm]

theorem get?_writeAllPresent_of_mem (hn : (names as).Nodup) (h : a ∈ as) :
    (writeAllPresent as x row).get? a.name =
      if a.get x = a.kind.blank then row.get? a.name else some (a.kind.toCell (a.get x)) := by
  induction as generalizing row with
  | nil => cases h
  | cons b as ih =>
    obtain ⟨hb, has⟩ := List.nodup_cons.1 hn
    rw [writeAllPresent]
    rcases List.mem_cons.1 h with rfl | h
    · -- the attribute is written first, and no other one has its name
      rw [get?_writeAllPresent_of_not_mem hb, get?_writePresent]
      by_cases hblank : a.get x = a.kind.blank
      · rw [if_neg (fun hp => hp.2 hblank), if_pos hblank]
      · rw [if_pos ⟨rfl, hblank⟩, if_neg hblank]
    · -- what is written first goes into another column
      have hne : b.name ≠ a.name := fun heq => hb (heq ▸ name_mem_names h)
      have hskip : (b.writePresent x row).get? a.name = row.get? a.name := by
        rw [get?_writePresent, if_neg fun hp => hne hp.1]
      rw [ih has h, hskip]

/-! #### Updates

An update writes one cell always, and besides it the attributes that do not stand for
absence. -/

section

variable {own : String} {cell : Cell}

theorem get?_revision_of_not_mem {name : String} (h : name ∉ own :: names as) :
    (writeAllPresent as x (Row.empty.set own cell)).get? name = none := by
  obtain ⟨hown, hother⟩ := List.ne_and_not_mem_of_not_mem_cons h
  rw [get?_writeAllPresent_of_not_mem hother, Row.get?_set_of_ne (Ne.symm hown), Row.get?_empty]

theorem get?_revision_own (h : own ∉ names as) :
    (writeAllPresent as x (Row.empty.set own cell)).get? own = some cell := by
  rw [get?_writeAllPresent_of_not_mem h, Row.get?_set_self]

theorem get?_revision_of_mem (hn : (own :: names as).Nodup) (h : a ∈ as) :
    (writeAllPresent as x (Row.empty.set own cell)).get? a.name =
      if a.get x = a.kind.blank then none else some (a.kind.toCell (a.get x)) := by
  obtain ⟨hown, hnames⟩ := List.nodup_cons.1 hn
  have hne : own ≠ a.name := fun heq => hown (heq ▸ name_mem_names h)
  rw [get?_writeAllPresent_of_mem hnames h, Row.get?_set_of_ne hne, Row.get?_empty]

end

/-! #### Reading -/

/-- Copies some attributes of one record into another. -/
def copyAll : List (Attribute α) → α → α → α
  | [], _, y => y
  | a :: rest, x, y => copyAll rest x (a.set (a.get x) y)

theorem copyAll_append : copyAll (as ++ bs) x y = copyAll bs x (copyAll as x y) := by
  induction as generalizing y with
  | nil => rfl
  | cons a as ih => exact ih

/-- Only what is copied of a record matters. -/
theorem copyAll_congr {x' : α} (h : ∀ a ∈ as, a.get x = a.get x') :
    copyAll as x y = copyAll as x' y := by
  induction as generalizing y with
  | nil => rfl
  | cons a as ih =>
    obtain ⟨ha, has⟩ := List.forall_mem_cons.1 h
    rw [copyAll, copyAll, ha, ih has]

/-- A row whose cells are those of a record is read as that record. -/
theorem readAll_eq_ok (h : ∀ a ∈ as, row.cell a.name = a.kind.toCell (a.get x)) :
    readAll as row y = .ok (copyAll as x y) := by
  induction as generalizing y with
  | nil => rfl
  | cons a as ih =>
    have hread : a.read row y = .ok (a.set (a.get x) y) := by
      rw [read, h a List.mem_cons_self, Kind.ofCell_toCell]
    rw [readAll, hread]
    exact ih fun b hb => h b (List.mem_cons_of_mem _ hb)

/-- What is written of a record into a row is read back. -/
theorem readAll_writeAll (hn : (names as).Nodup) :
    readAll as (writeAll as x row) y = .ok (copyAll as x y) :=
  readAll_eq_ok fun _ ha => Row.cell_of_get? (get?_writeAll_of_mem hn ha)

/-- Copying part of a record into a larger one copies the part. -/
theorem copyAll_map_lift (as : List (Attribute α)) (get : β → α) (set : α → β → β)
    (hget : ∀ v z, get (set v z) = v) (hset : ∀ v w z, set v (set w z) = set v z)
    (hself : ∀ z, set (get z) z = z) (w z : β) :
    copyAll (as.map (·.lift get set)) w z = set (copyAll as (get w) (get z)) z := by
  induction as generalizing z with
  | nil => exact (hself z).symm
  | cons a as ih =>
    rw [List.map_cons, copyAll, ih, copyAll]
    show set (copyAll as (get w) (get (set (a.set (a.get (get w)) (get z)) z))) (set _ z) = _
    rw [hget, hset]

end Attribute

end SecurityGroups
