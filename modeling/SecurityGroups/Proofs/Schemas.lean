/-
SecurityGroups/Proofs/Schemas.lean

Rows that fit a schema.

`Row.Fits` says that every cell of a row is one that its schema allows, and
`checkRow_eq_ok` that this is what the store checks before it writes.  What
the store writes by itself fits too, as long as the schema has the right
types for the columns that the store fills in (`Schema.Stamped`).
-/
import SecurityGroups.Proofs.Rows
import SecurityGroups.Store.Basic

namespace SecurityGroups

/-! ### Fitting -/

theorem Schema.contains_iff {s : Schema} {name : String} :
    s.contains name = true ↔ name ∈ s.names := by
  rw [contains, find?, List.find?_isSome, names, List.mem_map]
  simp

/-- Every cell of the row may stand in its column. -/
def Row.Fits (row : Row) (schema : Schema) : Prop :=
  ∀ name cell, row.get? name = some cell → schema.checkCell name cell = .ok ()

namespace Row

variable {row values : Row} {schema : Schema} {name : String} {cell : Cell}

theorem fits_empty (schema : Schema) : empty.Fits schema := by
  intro name cell h
  cases h

theorem Fits.set (h : row.Fits schema) (hc : schema.checkCell name cell = .ok ()) :
    (row.set name cell).Fits schema := by
  intro other c hget
  rw [get?_set] at hget
  split at hget
  · rename_i heq
    cases hget
    exact heq ▸ hc
  · exact h other c hget

theorem Fits.overlay (h : row.Fits schema) (hv : values.Fits schema) :
    (row.overlay values).Fits schema := by
  intro name c hget
  rw [get?_overlay] at hget
  cases hval : values.get? name with
  | none =>
    rw [hval] at hget
    exact h name c hget
  | some d =>
    rw [hval] at hget
    cases hget
    exact hv name _ hval

end Row

namespace Schema

/-- The columns that the store fills in have types for what it fills them with. -/
structure Stamped (schema : Schema) : Prop where
  id : schema.type? "id" = some .string
  created : schema.contains "created_at" = true → schema.type? "created_at" = some .time
  updated : schema.contains "updated_at" = true → schema.type? "updated_at" = some .time
  both : schema.contains "created_at" = true → schema.contains "updated_at" = true

/-- There are columns for the id and for the times of creation and of the last update. -/
structure Audited (schema : Schema) : Prop where
  id : schema.type? "id" = some .string
  created : schema.type? "created_at" = some .time
  updated : schema.type? "updated_at" = some .time

variable {schema : Schema} {name : String} {cell : Cell} {type : ColumnType}

theorem checkCell_of_type (h : schema.type? name = some type) (hc : type.accepts cell = true) :
    schema.checkCell name cell = .ok () := by
  obtain ⟨c, hfind, rfl⟩ := Option.map_eq_some_iff.1 h
  rw [checkCell, hfind]
  exact if_pos hc

theorem accepts_of_checkCell (h : schema.type? name = some type)
    (hc : schema.checkCell name cell = .ok ()) : type.accepts cell = true := by
  obtain ⟨c, hfind, rfl⟩ := Option.map_eq_some_iff.1 h
  simp only [checkCell, hfind] at hc
  split at hc
  · assumption
  · cases hc

theorem contains_of_type (h : schema.type? name = some type) : schema.contains name = true := by
  rw [type?] at h
  rw [contains, ← Option.isSome_map, h]
  rfl

theorem contains_of_checkCell (h : schema.checkCell name cell = .ok ()) :
    schema.contains name = true := by
  rw [checkCell] at h
  split at h
  · cases h
  · rename_i hfind
    rw [contains, hfind]
    rfl

theorem Audited.stamped (h : schema.Audited) : schema.Stamped :=
  ⟨h.id, fun _ => h.created, fun _ => h.updated, fun _ => contains_of_type h.updated⟩

theorem checkCell_null (h : name ∈ schema.names) : schema.checkCell name .null = .ok () := by
  obtain ⟨c, hfind⟩ := Option.isSome_iff_exists.1 (contains_iff.2 h)
  rw [checkCell, hfind]
  exact if_pos (ColumnType.accepts_null _)

end Schema

theorem Row.Fits.accepts {row : Row} {schema : Schema} {name : String} {type : ColumnType}
    (hf : row.Fits schema) (ht : schema.type? name = some type) :
    type.accepts (row.cell name) = true := by
  cases hget : row.get? name with
  | none =>
    rw [Row.cell, hget]
    exact ColumnType.accepts_null type
  | some cell =>
    rw [Row.cell_of_get? hget]
    exact Schema.accepts_of_checkCell ht (hf name cell hget)

/-- A record may be written over a row when the schema has the types of its attributes. -/
theorem Attribute.fits_writeAllPresent {α : Type} {as : List (Attribute α)} {schema : Schema}
    {row : Row} (x : α) (ht : ∀ a ∈ as, schema.type? a.name = some a.kind.columnType)
    (h : row.Fits schema) : (writeAllPresent as x row).Fits schema := by
  induction as generalizing row with
  | nil => exact h
  | cons a as ih =>
    refine ih (fun b hb => ht b (List.mem_cons_of_mem _ hb)) ?_
    rw [writePresent]
    split
    · exact h
    · exact h.set (Schema.checkCell_of_type (ht a List.mem_cons_self) (Kind.accepts_toCell _ _))

theorem Attribute.fits_writeAll {α : Type} {as : List (Attribute α)} {schema : Schema} {row : Row}
    (x : α) (ht : ∀ a ∈ as, schema.type? a.name = some a.kind.columnType)
    (h : row.Fits schema) : (writeAll as x row).Fits schema := by
  induction as generalizing row with
  | nil => exact h
  | cons a as ih =>
    refine ih (fun b hb => ht b (List.mem_cons_of_mem _ hb)) (h.set ?_)
    exact Schema.checkCell_of_type (ht a List.mem_cons_self) (Kind.accepts_toCell _ _)

theorem Cell.sameAs_text {cell : Cell} (h : ColumnType.string.accepts cell = true) (text : String) :
    cell.sameAs (.str text) = true ↔ cell = .string text := by
  cases cell with
  | string s => simp [Cell.sameAs]
  | null => simp [Cell.sameAs]
  | _ => cases h

theorem Cell.sameAs_number {cell : Cell} (h : ColumnType.numeric.accepts cell = true) (n : Int64) :
    cell.sameAs (.ofInt64 n) = true ↔ cell = .numeric n := by
  cases cell with
  | numeric m =>
    rw [Cell.sameAs, Json.int64?_ofInt64, beq_iff_eq, Option.some_inj, Cell.numeric.injEq, eq_comm]
  | null => simp [Cell.sameAs, Json.ofInt64]
  | _ => cases h

/-! ### What the store writes -/

namespace Store

variable {schema : Schema} {row values : Row} {id : String} {now : Instant}

/-- Rows are let through exactly when they fit. -/
theorem checkRow_eq_ok : checkRow schema row = .ok () ↔ row.Fits schema := by
  have hcells : ∀ cells, checkCells schema cells = .ok () ↔
      ∀ p ∈ cells, schema.checkCell p.1 p.2 = .ok () := by
    intro cells
    induction cells with
    | nil => simp [checkCells]
    | cons p rest ih =>
      obtain ⟨n, c⟩ := p
      rw [checkCells, List.forall_mem_cons]
      cases h : schema.checkCell n c with
      | error e => simp
      | ok _ => simp [ih]
  rw [checkRow, hcells]
  constructor
  · intro h name cell hget
    exact h (name, cell) (Row.mem_cells_iff.2 hget)
  · intro h p hp
    exact h p.1 p.2 (Row.mem_cells_iff.1 hp)

theorem checkRows_eq_ok {rows : List Row} :
    checkRows schema rows = .ok () ↔ ∀ row ∈ rows, row.Fits schema := by
  induction rows with
  | nil => simp [checkRows]
  | cons row rest ih =>
    have hrow : checkRow schema row = .ok () ↔ row.Fits schema := checkRow_eq_ok
    rw [checkRows, List.forall_mem_cons, ← hrow]
    cases h : checkRow schema row with
    | error e => simp
    | ok _ => simp [ih]

theorem checkFields_eq_ok {fields : List String} :
    checkFields schema fields = .ok () ↔ ∀ f ∈ fields, schema.contains f = true := by
  induction fields with
  | nil => simp [checkFields]
  | cons f rest ih =>
    rw [checkFields, List.forall_mem_cons]
    cases h : schema.contains f with
    | false => simp
    | true => simp [ih]

/-- Completing a row keeps what it has and puts an empty cell in every other column. -/
theorem get?_complete (schema : Schema) (row : Row) (name : String) :
    (complete schema row).get? name =
      (row.get? name).or (if name ∈ schema.names then some .null else none) := by
  rw [complete]
  generalize schema.names = names
  induction names generalizing row with
  | nil => simp
  | cons n names ih =>
    rw [List.foldl_cons, ih]
    cases hget : row.get? n with
    | some c =>
      -- the row has the column, and keeps its cell
      rw [if_neg (by simp)]
      by_cases hn : name = n
      · subst hn
        rw [hget]
        rfl
      · simp [hn]
    | none =>
      -- the row gets an empty cell, which no later column takes away
      rw [if_pos (by simp), Row.get?_set]
      by_cases hn : n = name
      · subst hn
        rw [hget]
        simp
      · simp [hn, Ne.symm hn]

/-- A row that lacks nothing is complete already. -/
theorem complete_eq_self (h : ∀ name ∈ schema.names, (row.get? name).isSome) :
    complete schema row = row := by
  apply Row.ext_get?
  intro name
  rw [get?_complete]
  by_cases hn : name ∈ schema.names
  · obtain ⟨c, hc⟩ := Option.isSome_iff_exists.1 (h name hn)
    rw [hc]
    rfl
  · rw [if_neg hn, Option.or_none]

/-- A stored row is found under the id that it was given. -/
theorem get?_id_stored : (stored schema id now row).get? "id" = some (.string id) := by
  simp only [stored]
  split <;> simp [Row.get?_set]

/-- An update writes its cells over those of a row. -/
theorem get?_revised {name : String} (hn : name ≠ "updated_at") :
    (revised schema now values row).get? name = (values.get? name).or (row.get? name) := by
  rw [revised]
  split
  · rw [Row.get?_set_of_ne (Ne.symm hn), Row.get?_overlay]
  · exact Row.get?_overlay row values name

/-- An update of other columns leaves a column alone. -/
theorem get?_revised_of_ne {name : String} (hv : values.get? name = none)
    (hn : name ≠ "updated_at") : (revised schema now values row).get? name = row.get? name := by
  rw [get?_revised hn, hv, Option.none_or]

theorem fits_stored (hs : schema.Stamped) (h : row.Fits schema) :
    (stored schema id now row).Fits schema := by
  -- an empty cell fits every column that the schema has
  have hcomplete : (complete schema row).Fits schema := by
    intro name cell hget
    rw [get?_complete] at hget
    cases hrow : row.get? name with
    | some c =>
      rw [hrow] at hget
      cases hget
      exact h name _ hrow
    | none =>
      rw [hrow, Option.none_or] at hget
      split at hget
      · cases hget
        exact Schema.checkCell_null ‹_›
      · cases hget
  have hid : ((complete schema row).set "id" (.string id)).Fits schema :=
    hcomplete.set (Schema.checkCell_of_type hs.id rfl)
  simp only [stored]
  split
  · rename_i hc
    exact (hid.set (Schema.checkCell_of_type (hs.created hc) rfl)).set
      (Schema.checkCell_of_type (hs.updated (hs.both hc)) rfl)
  · exact hid

theorem fits_revised (hs : schema.Stamped) (h : row.Fits schema) (hv : values.Fits schema) :
    (revised schema now values row).Fits schema := by
  have hover := h.overlay hv
  rw [revised]
  split
  · rename_i hc
    exact hover.set (Schema.checkCell_of_type (hs.updated hc) rfl)
  · exact hover

end Store

end SecurityGroups
