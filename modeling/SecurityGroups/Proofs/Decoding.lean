/-
SecurityGroups/Proofs/Decoding.lean

Which of the rows that fit a table can be read.

A table admits cells by the types of its columns, and an entity is read by the kinds of
its attributes.  Most kinds take every cell of their type.  Three demand more: a cell
of text has to be the name of a cloud or of a direction, and a JSON column, which admits
cells of all types, has to hold an array of strings.  Empty cells are always read.

    a row that fits is read  ↔  it meets every demand

A row that does not is refused for the first demand that it does not meet, in the order
in which the attributes are read (`Row.DecodedBy`).  Of an entry the direction is read
first; it is read again in its place, where it is met already.
-/
import SecurityGroups.Proofs.FilterForms
import SecurityGroups.Proofs.Regions

namespace SecurityGroups

/-! ### Demands -/

/-- What is demanded of the cells of a column, beyond their type. -/
structure Demand where
  column : String
  /-- The cells that are read. -/
  Admits : Cell → Prop
  /-- What is wrong with a cell that is not read. -/
  fault : Cell → CellFault

namespace Demand

/-- An empty cell, or one of the names of a type. -/
def choice {α : Type} (name : α → String) (unknown : String → CellFault) (column : String) :
    Demand where
  column := column
  Admits := fun c => c = .null ∨ ∃ x, c = .string (name x)
  fault := fun c => unknown c.textOrEmpty

/-- An empty cell, or the name of a cloud. -/
def vendor (column : String) : Demand := choice Vendor.name .unknownVendor column

/-- An empty cell, or the name of a direction. -/
def direction (column : String) : Demand := choice Direction.name .unknownDirection column

/-- An empty cell, or a JSON array of strings. -/
def texts (column : String) : Demand where
  column := column
  Admits := fun c => c = .null ∨ ∃ values : List String, c = .json (.arr (values.map .str))
  fault
    | .json _ => .notTexts
    | c => .wrongType c.typeName

/-- A cell is read when it is admitted, and has the fault of the demand otherwise. -/
structure Governs {α : Type} (d : Demand) (c : Cell) (answer : Except CellFault α) : Prop where
  read : d.Admits c → ∃ x, answer = .ok x
  refused : ¬ d.Admits c → answer = .error (d.fault c)

theorem Governs.map {α β : Type} {d : Demand} {c : Cell} {answer : Except CellFault α}
    (h : d.Governs c answer) (f : α → β) : d.Governs c (answer.map f) where
  read := by
    intro hc
    obtain ⟨x, rfl⟩ := h.read hc
    exact ⟨f x, rfl⟩
  refused := by
    intro hc
    rw [h.refused hc]
    rfl

end Demand

namespace Kind

variable {column : String} {c : Cell}

/-- The demand that a kind makes of its column. -/
def demand? (column : String) : Kind → Option Demand
  | optVendor => some (.vendor column)
  | optDirection => some (.direction column)
  | texts | optTexts => some (.texts column)
  | text | optText | number | optNumber | optTime => none

theorem governs_cellChoice {α : Type} {name : α → String} {find : String → Option α}
    {unknown : String → CellFault} (hfind : ∀ x, find (name x) = some x)
    (hname : ∀ {s x}, find s = some x → name x = s) (hc : ColumnType.enum.accepts c = true) :
    (Demand.choice name unknown column).Governs c (cellChoice find unknown c) where
  read := by
    rintro (rfl | ⟨x, rfl⟩)
    · exact ⟨none, rfl⟩
    · refine ⟨some x, ?_⟩
      simp only [cellChoice, cellText, hfind]
  refused := by
    intro hnot
    cases c with
    | null => exact absurd (.inl rfl) hnot
    | string s =>
      have hs : find s = none := by
        by_contra hsome
        obtain ⟨x, hx⟩ := Option.ne_none_iff_exists'.1 hsome
        exact hnot (.inr ⟨x, congrArg Cell.string (hname hx).symm⟩)
      simp only [cellChoice, cellText, hs]
      rfl
    | _ => cases hc

/-- An array of which every item is read as a string is an array of strings. -/
theorem eq_map_str_of_mapM {items : List Json} {values : List String}
    (h : items.mapM Json.text? = some values) : items = values.map .str := by
  induction items generalizing values with
  | nil =>
    cases h
    rfl
  | cons item rest ih =>
    simp only [List.mapM_cons, Option.bind_eq_bind, Option.bind_eq_some_iff] at h
    obtain ⟨value, hitem, others, hrest, hvalues⟩ := h
    cases hvalues
    rw [List.map_cons, Json.text?_eq_some_iff.1 hitem, ih hrest]

theorem governs_cellTexts : (Demand.texts column).Governs c (cellTexts c) where
  read := by
    rintro (rfl | ⟨values, rfl⟩)
    · exact ⟨none, rfl⟩
    · exact ⟨some values, cellTexts_ofTexts values⟩
  refused := by
    intro hnot
    cases c with
    | null => exact absurd (.inl rfl) hnot
    | json j =>
      have hj : j.list? Json.text? = none := by
        by_contra hsome
        obtain ⟨values, hvalues⟩ := Option.ne_none_iff_exists'.1 hsome
        cases j with
        | arr items =>
          cases eq_map_str_of_mapM hvalues
          exact hnot (.inr ⟨values, rfl⟩)
        | _ => cases hvalues
      simp only [cellTexts, hj]
      rfl
    | _ => rfl

theorem column_of_demand? {k : Kind} {d : Demand} (hd : k.demand? column = some d) :
    d.column = column := by
  cases k <;> cases hd <;> rfl

/-- **A demand says which cells of a column are read.** -/
theorem governs_ofCell {k : Kind} {d : Demand} (hd : k.demand? column = some d)
    (hc : k.columnType.accepts c = true) : d.Governs c (k.ofCell c) := by
  cases k <;> cases hd
  case optVendor => exact governs_cellChoice Vendor.find?_name Vendor.name_of_find? hc
  case optDirection => exact governs_cellChoice Direction.find?_name Direction.name_of_find? hc
  case texts => exact governs_cellTexts.map _
  case optTexts => exact governs_cellTexts

/-- A kind that demands nothing reads every cell of its column. -/
theorem ofCell_of_demand?_eq_none {k : Kind} (hd : k.demand? column = none)
    (hc : k.columnType.accepts c = true) : ∃ x, k.ofCell c = .ok x := by
  cases k with
  | text | optText =>
    cases c with
    | null | string _ => exact ⟨_, rfl⟩
    | _ => cases hc
  | number | optNumber =>
    cases c with
    | null | numeric _ => exact ⟨_, rfl⟩
    | _ => cases hc
  | optTime =>
    cases c with
    | null | time _ => exact ⟨_, rfl⟩
    | _ => cases hc
  | _ => cases hd

end Kind

/-! ### Rows -/

namespace Row

variable {α : Type} {row : Row} {d : Demand} {ds : List Demand}
  {answer : Except Attribute.ColumnFault α}

/-- The cell in the column of a demand is one that is read; a missing cell is an empty one. -/
def Meets (row : Row) (d : Demand) : Prop := d.Admits (row.cell d.column)

/-- A row that meets some demands is read, and any other is refused for the first demand that it
does not meet. -/
structure DecodedBy (row : Row) (ds : List Demand) (answer : Except Attribute.ColumnFault α) :
    Prop where
  read_iff : (∃ x, answer = .ok x) ↔ ∀ d ∈ ds, row.Meets d
  refused_iff : ∀ refusal, answer = .error refusal ↔
    ∃ before d later, ds = before ++ d :: later ∧ (∀ b ∈ before, row.Meets b) ∧ ¬ row.Meets d ∧
      refusal = (d.column, d.fault (row.cell d.column))

theorem decodedBy_nil (x : α) : row.DecodedBy [] (.ok x) where
  read_iff := iff_of_true ⟨x, rfl⟩ nofun
  refused_iff := by
    intro refusal
    refine iff_of_false nofun ?_
    rintro ⟨before, d, later, hds, -⟩
    exact List.append_ne_nil_of_right_ne_nil before (List.cons_ne_nil d later) hds.symm

/-- What is demanded first and met leaves the other demands. -/
theorem DecodedBy.cons (hd : row.Meets d) (h : row.DecodedBy ds answer) :
    row.DecodedBy (d :: ds) answer where
  read_iff := by
    rw [h.read_iff, List.forall_mem_cons]
    exact (and_iff_right hd).symm
  refused_iff := by
    intro refusal
    rw [h.refused_iff]
    constructor
    · rintro ⟨before, d', later, rfl, hbefore, hunmet⟩
      exact ⟨d :: before, d', later, rfl, List.forall_mem_cons.2 ⟨hd, hbefore⟩, hunmet⟩
    · rintro ⟨before, d', later, hds, hbefore, hunmet, hrefusal⟩
      rcases List.cons_eq_append_iff.1 hds with ⟨rfl, heq⟩ | ⟨rest, rfl, rfl⟩
      · cases heq
        exact absurd hd hunmet
      · exact ⟨rest, d', later, rfl, (List.forall_mem_cons.1 hbefore).2, hunmet, hrefusal⟩

/-- What is demanded first and not met is what the row is refused for. -/
theorem decodedBy_cons_of_not_meets (hd : ¬ row.Meets d) :
    row.DecodedBy (α := α) (d :: ds) (.error (d.column, d.fault (row.cell d.column))) where
  read_iff := iff_of_false nofun fun h => hd (h d List.mem_cons_self)
  refused_iff := by
    intro refusal
    constructor
    · intro h
      exact ⟨[], d, ds, rfl, nofun, hd, (Except.error.inj h).symm⟩
    · rintro ⟨before, d', later, hds, hbefore, -, rfl⟩
      rcases List.cons_eq_append_iff.1 hds with ⟨rfl, heq⟩ | ⟨rest, rfl, rfl⟩
      · cases heq
        rfl
      · exact absurd (hbefore d List.mem_cons_self) hd

end Row

namespace Attribute

variable {α : Type} {as : List (Attribute α)} {a : Attribute α} {row : Row} {d : Demand}

/-- The demand that an attribute makes of a row. -/
def demand? (a : Attribute α) : Option Demand := a.kind.demand? a.name

/-- The demands that some attributes make of a row, in order. -/
def demands (as : List (Attribute α)) : List Demand := as.filterMap demand?

theorem read_of_demand?_eq_none (hd : a.demand? = none)
    (hc : a.kind.columnType.accepts (row.cell a.name) = true) (x : α) :
    ∃ y, a.read row x = .ok y := by
  obtain ⟨v, hv⟩ := Kind.ofCell_of_demand?_eq_none hd hc
  exact ⟨a.set v x, by rw [read, hv]⟩

theorem read_of_meets (hd : a.demand? = some d)
    (hc : a.kind.columnType.accepts (row.cell a.name) = true) (hmeets : row.Meets d) (x : α) :
    ∃ y, a.read row x = .ok y := by
  rw [Row.Meets, Kind.column_of_demand? hd] at hmeets
  obtain ⟨v, hv⟩ := (Kind.governs_ofCell hd hc).read hmeets
  exact ⟨a.set v x, by rw [read, hv]⟩

theorem read_of_not_meets (hd : a.demand? = some d)
    (hc : a.kind.columnType.accepts (row.cell a.name) = true) (hmeets : ¬ row.Meets d) (x : α) :
    a.read row x = .error (d.column, d.fault (row.cell d.column)) := by
  rw [Row.Meets, Kind.column_of_demand? hd] at hmeets
  rw [read, (Kind.governs_ofCell hd hc).refused hmeets, Kind.column_of_demand? hd]

/-- **Attributes are read as their demands say**, if the cells have the types of the columns. -/
theorem decodedBy_readAll
    (hc : ∀ a ∈ as, a.kind.columnType.accepts (row.cell a.name) = true) (x : α) :
    row.DecodedBy (demands as) (readAll as row x) := by
  induction as generalizing x with
  | nil => exact Row.decodedBy_nil x
  | cons a as ih =>
    obtain ⟨ha, has⟩ := List.forall_mem_cons.1 hc
    cases hd : a.demand? with
    | none =>
      obtain ⟨y, hy⟩ := read_of_demand?_eq_none hd ha x
      rw [demands, List.filterMap_cons_none hd, readAll, hy]
      exact ih has y
    | some d =>
      rw [demands, List.filterMap_cons_some hd, readAll]
      by_cases hmeets : row.Meets d
      · obtain ⟨y, hy⟩ := read_of_meets hd ha hmeets x
        rw [hy]
        exact (ih has y).cons hmeets
      · rw [read_of_not_meets hd ha hmeets x]
        exact Row.decodedBy_cons_of_not_meets hmeets

end Attribute

/-! ### Entities -/

/-- The cells of a row that fits a table have the types of the columns of the entity. -/
theorem LawfulEntity.accepts_of_fits {α : Type} [Entity α] [LawfulEntity α] {row : Row}
    (h : row.Fits (Entity.schema α)) :
    ∀ a ∈ Entity.attributes (α := α), a.kind.columnType.accepts (row.cell a.name) = true :=
  fun a ha => h.accepts (types a ha)

/-- An entry is read as its attributes are: the direction, which is read first, is demanded first
among these. -/
theorem RuleEntry.decodedBy_ofRow {R : Type} [Shape R] [LawfulShape R] {row : Row}
    (h : row.Fits (Entity.schema (RuleEntry R))) :
    row.DecodedBy (Attribute.demands (attributes (R := R)))
      (Entity.ofRow (α := RuleEntry R) row) := by
  have haccepts := LawfulEntity.accepts_of_fits h
  have hmem : directionAttribute ∈ attributes (R := R) := by
    refine List.mem_append_left _ (List.mem_append_left _ ?_)
    simp [ownerAttributes]
  have hdemands : Attribute.demands (attributes (R := R)) =
      .direction "type" :: Attribute.demands (ruleAttributes (R := R) ++ auditAttributes) := rfl
  have hdemand : (directionAttribute (R := R)).demand? = some (.direction "type") := rfl
  show Row.DecodedBy _ _ (Attribute.readAll (directionAttribute :: attributes) row blank)
  rw [Attribute.readAll]
  by_cases hmeets : row.Meets (.direction "type")
  · obtain ⟨e, he⟩ := Attribute.read_of_meets hdemand (haccepts _ hmem) hmeets blank
    rw [he]
    exact Attribute.decodedBy_readAll haccepts e
  · rw [Attribute.read_of_not_meets hdemand (haccepts _ hmem) hmeets blank, hdemands]
    exact Row.decodedBy_cons_of_not_meets hmeets

namespace RuleCloud

/-- What the entries of a cloud demand of their rows. -/
def demands : RuleCloud → List Demand
  | tcloud | aws | huawei => [.direction "type"]
  | azure =>
    [.direction "type", .texts "destination_address_prefixes",
      .texts "cloud_destination_security_group_ids", .texts "destination_port_ranges",
      .texts "source_address_prefixes", .texts "cloud_source_security_group_ids",
      .texts "source_port_ranges"]

theorem demands_eq (c : RuleCloud) :
    Attribute.demands (RuleEntry.attributes (R := c.Rule)) = c.demands := by
  cases c <;> rfl

end RuleCloud

/-- **Which rows are read.**  A row that fits the table of regions or that of groups is read exactly
when its vendor is empty, missing or the name of a cloud, and a row that fits a table of rules when
its type is empty, missing or the name of a direction; for Azure, each of six columns has to be
empty, missing or a JSON array of strings, too.  Every other row is refused for the first of these
columns that is wrong. -/
theorem fitting_rows_decode :
    (∀ row : Row, row.Fits (Entity.schema Region) →
      row.DecodedBy [.vendor "vendor"] (Entity.ofRow (α := Region) row)) ∧
    (∀ row : Row, row.Fits (Entity.schema Group) →
      row.DecodedBy [.vendor "vendor"] (Entity.ofRow (α := Group) row)) ∧
    ∀ (c : RuleCloud) (row : Row), row.Fits (Entity.schema (RuleEntry c.Rule)) →
      row.DecodedBy c.demands (Entity.ofRow (α := RuleEntry c.Rule) row) := by
  refine ⟨fun row h => ?_, fun row h => ?_, fun c row h => ?_⟩
  · exact Attribute.decodedBy_readAll (LawfulEntity.accepts_of_fits h) ({} : Region)
  · exact Attribute.decodedBy_readAll (LawfulEntity.accepts_of_fits h) ({} : Group)
  · rw [← c.demands_eq]
    exact RuleEntry.decodedBy_ofRow h

/-- A JSON column admits a text and an array with a number in it, neither of which is read; the one
that is read first is named. -/
theorem fitting_rows_decode_azure :
    let row : Row := .ofCells [("type", .string "ingress"), ("source_port_ranges", .string "80"),
      ("destination_port_ranges", .json (.arr [.str "443", .ofInt64 80]))]
    row.Fits (Entity.schema (RuleEntry Azure.Rule)) ∧
      Entity.ofRow (α := RuleEntry Azure.Rule) row =
        .error ("destination_port_ranges", .notTexts) := by
  intro row
  have hfits : row.Fits (Entity.schema (RuleEntry Azure.Rule)) := Store.checkRow_eq_ok.1 (by decide)
  refine ⟨hfits, ?_⟩
  refine ((fitting_rows_decode.2.2 .azure row hfits).refused_iff _).2 ?_
  refine ⟨[.direction "type", .texts "destination_address_prefixes",
    .texts "cloud_destination_security_group_ids"], .texts "destination_port_ranges", _, rfl, ?_,
    ?_, rfl⟩
  · simp only [List.forall_mem_cons]
    exact ⟨.inr ⟨.ingress, rfl⟩, .inl rfl, .inl rfl, nofun⟩
  · rintro (h | ⟨values, h⟩)
    · cases h
    · have hports : [Json.str "443", Json.ofInt64 80] = values.map Json.str :=
        Json.arr.inj (Cell.json.inj h)
      have hmem : Json.ofInt64 80 ∈ values.map Json.str := hports ▸ .tail _ List.mem_cons_self
      obtain ⟨_, -, hstr⟩ := List.mem_map.1 hmem
      cases hstr

end SecurityGroups
