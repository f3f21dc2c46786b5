/-
SecurityGroups/Proofs/Comparisons.lean

How the operators of tests go together.

Whether a cell is the same as a value and how the two compare are told by two functions,
`Cell.sameAs` and `Cell.compareJson`, each with its own list of the kinds that go together.
They agree where a cell and a value can be ordered at all (`Cell.Comparable`): there the
cell is the same as the value exactly when the two compare as equal.  Hence exactly one of
`lt`, `eq` and `gt` holds, and the other operators are made up of these three
(`operators_are_coherent`).

The numbers of cells have 64 signed bits, those of a filter can be as large as 64 bits
without a sign allow.  A number beyond the cells is told apart from all of them, but it is
not ordered: no cell is found to be less than it (`numbers_compare_as_integers`).
-/
import Mathlib.Algebra.Group.Int.Defs
import SecurityGroups.Proofs.FilterMeaning
import SecurityGroups.Proofs.Offsets

namespace SecurityGroups

/-! ### Numbers -/

theorem Int64.compare_toInt (a b : Int64) : compare a.toInt b.toInt = compare a b := by
  cases h : compare a b with
  | lt => exact Std.compare_eq_lt.2 (Int64.lt_iff_toInt_lt.1 (Std.compare_eq_lt.1 h))
  | eq => exact Std.compare_eq_iff_eq.2 (Int64.toInt_inj.2 (Std.compare_eq_iff_eq.1 h))
  | gt => exact Std.compare_eq_gt.2 (Int64.lt_iff_toInt_lt.1 (Std.compare_eq_gt.1 h))

theorem Json.int64?_int {n : Int} (hlow : -2 ^ 63 ≤ n) (hhigh : n < 2 ^ 63) :
    int64? (.int n) = some (Int64.ofInt n) :=
  if_pos ⟨hlow, Int.le_sub_one_of_lt hhigh⟩

theorem Json.int64?_int_of_le {n : Int} (h : 2 ^ 63 ≤ n) : int64? (.int n) = none :=
  if_neg fun hfits => absurd (Int.le_sub_one_iff.1 hfits.2) (Int.not_lt.2 h)

namespace Cell

variable {cell : Cell} {value : Json} {a : Int64} {n : Int} {o : Ordering}

theorem compareJson_int (a : Int64) (hlow : -2 ^ 63 ≤ n) (hhigh : n < 2 ^ 63) :
    (numeric a).compareJson (.int n) = some (compare a.toInt n) := by
  rw [compareJson, Json.int64?_int hlow hhigh, Option.map_some, ← Int64.compare_toInt,
    Int64.toInt_ofInt_of_le hlow hhigh]

theorem compareJson_int_of_le (a : Int64) (h : 2 ^ 63 ≤ n) :
    (numeric a).compareJson (.int n) = none := by
  rw [compareJson, Json.int64?_int_of_le h, Option.map_none]

/-- A number is the same as an integer if it is that integer, however large this is. -/
theorem sameAs_int (a : Int64) (hlow : -2 ^ 63 ≤ n) :
    (numeric a).sameAs (.int n) = true ↔ a.toInt = n := by
  rw [sameAs, beq_iff_eq]
  by_cases hhigh : n < 2 ^ 63
  · rw [Json.int64?_int hlow hhigh, Option.some_inj, ← Int64.toInt_inj,
      Int64.toInt_ofInt_of_le hlow hhigh, eq_comm]
  · rw [Json.int64?_int_of_le (Int.not_lt.1 hhigh)]
    refine iff_of_false (Option.some_ne_none a).symm ?_
    rintro rfl
    exact hhigh a.toInt_lt

/-! ### Cells and values that can be ordered -/

/-- A cell and a value that one can put in order: two numbers of 64 signed bits, two texts, or an
instant and a timestamp. -/
inductive Comparable : Cell → Json → Prop where
  | number (a : Int64) {n : Int} : -2 ^ 63 ≤ n → n < 2 ^ 63 → Comparable (.numeric a) (.int n)
  | text (a b : String) : Comparable (.string a) (.str b)
  | time (a : Instant) {t : Instant} {s : String} : Instant.read? .strict s = some t →
      Comparable (.time a) (.str s)

/-- **What can be ordered** is ordered, and as equal exactly when it is the same. -/
theorem Comparable.exists_ordering (h : Comparable cell value) :
    ∃ o, cell.compareJson value = some o ∧ (cell.sameAs value = true ↔ o = .eq) := by
  cases h with
  | number a hlow hhigh =>
    refine ⟨_, compareJson_int a hlow hhigh, ?_⟩
    rw [sameAs_int a hlow, Std.compare_eq_iff_eq]
  | text a b => exact ⟨_, rfl, beq_iff_eq.trans Std.compare_eq_iff_eq.symm⟩
  | @time a t s hs =>
    refine ⟨compare a t, ?_, ?_⟩
    · rw [compareJson, hs, Option.map_some]
    · rw [sameAs, hs, beq_iff_eq, Option.some_inj, Instant.compare_eq_eq, eq_comm]

/-- What is ordered can be ordered. -/
theorem comparable_of_compareJson (h : cell.compareJson value = some o) :
    Comparable cell value := by
  cases cell with
  | numeric a =>
    obtain ⟨b, hb, -⟩ := Option.map_eq_some_iff.1 h
    cases value with
    | int n =>
      by_cases hlow : -2 ^ 63 ≤ n
      · by_cases hhigh : n < 2 ^ 63
        · exact .number a hlow hhigh
        · rw [Json.int64?_int_of_le (Int.not_lt.1 hhigh)] at hb
          cases hb
      · have hout : Json.int64? (.int n) = none := if_neg fun hfits => hlow hfits.1
        rw [hout] at hb
        cases hb
    | _ => cases hb
  | string a =>
    cases value with
    | str b => exact .text a b
    | _ => cases h
  | time a =>
    cases value with
    | str s =>
      obtain ⟨t, ht, -⟩ := Option.map_eq_some_iff.1 h
      exact .time a ht
    | _ => cases h
  | _ => cases h

theorem compareJson_eq_none (h : ¬ Comparable cell value) : cell.compareJson value = none := by
  cases hcompare : cell.compareJson value with
  | none => rfl
  | some o => exact absurd (comparable_of_compareJson hcompare) h

end Cell

/-! ### Operators -/

/-- A row passes a test of a column: the test can be made, and comes out true. -/
def Row.Passes (row : Row) (field : String) (op : Operator) (value : Json) : Prop :=
  Test.holds ⟨field, op, value⟩ row = .ok true

/-- The operators that compare a cell with any value. -/
def Operator.comparisons : List Operator := [.eq, .neq, .gt, .gte, .lt, .lte]

/-- The relation in which two things stand that compare in some way. -/
def Operator.ofOrdering : Ordering → Operator
  | .lt => .lt
  | .eq => .eq
  | .gt => .gt

theorem Operator.ofOrdering_mem (o : Ordering) : ofOrdering o ∈ [Operator.lt, .eq, .gt] := by
  cases o <;> decide

/-- The operators go together in a column of a row. -/
structure Row.Coherent (row : Row) (field : String) : Prop where
  decided : ∀ op value, op.Takes value → ∃ b, Test.holds ⟨field, op, value⟩ row = .ok b
  neq_iff : ∀ value, row.Passes field .neq value ↔ ¬ row.Passes field .eq value
  among_iff : ∀ options,
    row.Passes field .among (.arr options) ↔ ∃ j ∈ options, row.Passes field .eq j
  notAmong_iff : ∀ options,
    row.Passes field .notAmong (.arr options) ↔ ¬ row.Passes field .among (.arr options)
  /-- One of the three relations holds between what can be ordered, and only one. -/
  ordered : ∀ value, (row.cell field).Comparable value →
    ∃! op, op ∈ [Operator.lt, .eq, .gt] ∧ row.Passes field op value
  lte_iff : ∀ value, (row.cell field).Comparable value →
    (row.Passes field .lte value ↔ row.Passes field .lt value ∨ row.Passes field .eq value)
  gte_iff : ∀ value, (row.cell field).Comparable value →
    (row.Passes field .gte value ↔ row.Passes field .gt value ∨ row.Passes field .eq value)
  unordered : ∀ value, ¬ (row.cell field).Comparable value →
    ∀ op ∈ [Operator.lt, .lte, .gt, .gte], ¬ row.Passes field op value
  /-- Of a text only the instant counts that is read from it, if any is. -/
  instant : ∀ time, row.cell field = .time time → ∀ s s' : String,
    Instant.read? .strict s = Instant.read? .strict s' → ∀ op ∈ Operator.comparisons,
      Test.holds ⟨field, op, .str s⟩ row = Test.holds ⟨field, op, .str s'⟩ row
  /-- So the offset does not count at which an instant is written. -/
  offset : ∀ time, row.cell field = .time time → ∀ (t : Instant) (minutes : Int),
    t.HasPlainYearAt minutes →
      (row.Passes field .eq (.str (t.textAt minutes)) ↔ time = t) ∧
      (row.Passes field .lt (.str (t.textAt minutes)) ↔ compare time t = .lt) ∧
      (row.Passes field .gt (.str (t.textAt minutes)) ↔ compare time t = .gt)

namespace Row

variable {row : Row} {field : String} {op : Operator} {value : Json} {o : Ordering}

theorem passes_iff (h : op.Takes value) :
    row.Passes field op value ↔ op.Holds (row.cell field) value := by
  obtain ⟨b, hb, hholds⟩ := Test.accepts_answers (t := ⟨field, op, value⟩) h (row.cell field)
  rw [Passes, Test.holds, hb, Except.ok.injEq]
  exact hholds

theorem passes_eq_iff : row.Passes field .eq value ↔ (row.cell field).sameAs value = true :=
  passes_iff trivial

theorem passes_neq_iff : row.Passes field .neq value ↔ ¬ row.Passes field .eq value := by
  rw [passes_eq_iff, Bool.not_eq_true]
  exact passes_iff trivial

theorem passes_lt_iff :
    row.Passes field .lt value ↔ (row.cell field).compareJson value = some .lt :=
  passes_iff trivial

theorem passes_gt_iff :
    row.Passes field .gt value ↔ (row.cell field).compareJson value = some .gt :=
  passes_iff trivial

theorem passes_lte_iff : row.Passes field .lte value ↔
    (row.cell field).compareJson value = some .lt ∨ (row.cell field).compareJson value = some .eq :=
  passes_iff trivial

theorem passes_gte_iff : row.Passes field .gte value ↔
    (row.cell field).compareJson value = some .gt ∨ (row.cell field).compareJson value = some .eq :=
  passes_iff trivial

theorem passes_among_iff {options : List Json} :
    row.Passes field .among (.arr options) ↔ ∃ j ∈ options, row.Passes field .eq j := by
  have hpasses : row.Passes field .among (.arr options) ↔
      Operator.among.Holds (row.cell field) (.arr options) := passes_iff ⟨options, rfl⟩
  simp only [hpasses, passes_eq_iff]
  constructor
  · rintro ⟨_, ⟨⟩, hany⟩
    exact hany
  · exact fun hany => ⟨options, rfl, hany⟩

theorem passes_notAmong_iff {options : List Json} : row.Passes field .notAmong (.arr options) ↔
    ¬ row.Passes field .among (.arr options) := by
  have hpasses : row.Passes field .notAmong (.arr options) ↔
      Operator.notAmong.Holds (row.cell field) (.arr options) := passes_iff ⟨options, rfl⟩
  simp only [hpasses, passes_among_iff, passes_eq_iff, not_exists, not_and, Bool.not_eq_true]
  constructor
  · rintro ⟨_, ⟨⟩, hall⟩
    exact hall
  · exact fun hall => ⟨options, rfl, hall⟩

/-- **One relation holds** between a cell and a value that can be ordered, that of their order. -/
theorem passes_iff_eq_ofOrdering (hcompare : (row.cell field).compareJson value = some o)
    (hsame : (row.cell field).sameAs value = true ↔ o = .eq)
    (hop : op ∈ [Operator.lt, .eq, .gt]) : row.Passes field op value ↔ op = .ofOrdering o := by
  simp only [List.mem_cons, List.not_mem_nil, or_false] at hop
  rcases hop with rfl | rfl | rfl
  · rw [passes_lt_iff, hcompare]
    cases o <;> decide
  · rw [passes_eq_iff, hsame]
    cases o <;> decide
  · rw [passes_gt_iff, hcompare]
    cases o <;> decide

theorem holds_congr {value' : Json} (hop : op ∈ Operator.comparisons)
    (hsame : (row.cell field).sameAs value = (row.cell field).sameAs value')
    (hcompare : (row.cell field).compareJson value = (row.cell field).compareJson value') :
    Test.holds ⟨field, op, value⟩ row = Test.holds ⟨field, op, value'⟩ row := by
  simp only [Operator.comparisons, List.mem_cons, List.not_mem_nil, or_false] at hop
  rcases hop with rfl | rfl | rfl | rfl | rfl | rfl <;>
    simp only [Test.holds, Test.accepts, hsame, hcompare]

end Row

/-- **The operators go together**, in every column of every row. -/
theorem operators_are_coherent (row : Row) (field : String) : row.Coherent field where
  decided := by
    intro op value h
    obtain ⟨b, hb, -⟩ := Test.accepts_answers (t := ⟨field, op, value⟩) h (row.cell field)
    exact ⟨b, hb⟩
  neq_iff := fun _ => Row.passes_neq_iff
  among_iff := fun _ => Row.passes_among_iff
  notAmong_iff := fun _ => Row.passes_notAmong_iff
  ordered := by
    intro value h
    obtain ⟨o, hcompare, hsame⟩ := h.exists_ordering
    have hmem := Operator.ofOrdering_mem o
    refine ⟨.ofOrdering o, ⟨hmem, (Row.passes_iff_eq_ofOrdering hcompare hsame hmem).2 rfl⟩, ?_⟩
    rintro op ⟨hop, hpasses⟩
    exact (Row.passes_iff_eq_ofOrdering hcompare hsame hop).1 hpasses
  lte_iff := by
    intro value h
    obtain ⟨o, hcompare, hsame⟩ := h.exists_ordering
    rw [Row.passes_lte_iff, Row.passes_lt_iff, Row.passes_eq_iff, hcompare, hsame, Option.some_inj,
      Option.some_inj]
  gte_iff := by
    intro value h
    obtain ⟨o, hcompare, hsame⟩ := h.exists_ordering
    rw [Row.passes_gte_iff, Row.passes_gt_iff, Row.passes_eq_iff, hcompare, hsame, Option.some_inj,
      Option.some_inj]
  unordered := by
    intro value h op hop
    have hnone := Cell.compareJson_eq_none h
    simp only [List.mem_cons, List.not_mem_nil, or_false] at hop
    rcases hop with rfl | rfl | rfl | rfl
    · simp [Row.passes_lt_iff, hnone]
    · simp [Row.passes_lte_iff, hnone]
    · simp [Row.passes_gt_iff, hnone]
    · simp [Row.passes_gte_iff, hnone]
  instant := by
    intro time hcell s s' hread op hop
    refine Row.holds_congr hop ?_ ?_ <;> rw [hcell]
    · rw [Cell.sameAs, Cell.sameAs, hread]
    · rw [Cell.compareJson, Cell.compareJson, hread]
  offset := by
    intro time hcell t minutes h
    have hread := Instant.read?_textAt h
    have hcompare : (row.cell field).compareJson (.str (t.textAt minutes)) =
        some (compare time t) := by
      rw [hcell, Cell.compareJson, hread, Option.map_some]
    refine ⟨?_, ?_, ?_⟩
    · rw [Row.passes_eq_iff, hcell, Cell.sameAs, hread, beq_iff_eq, Option.some_inj, eq_comm]
    · rw [Row.passes_lt_iff, hcompare, Option.some_inj]
    · rw [Row.passes_gt_iff, hcompare, Option.some_inj]

/-- Noon in UTC is two in the afternoon two hours to the east, later than half past twelve one hour
to the east, and in no order with a number. -/
theorem operators_are_coherent_noon :
    let noon : Instant := { date := ⟨2024, 5, 6⟩, second := 43200, nano := 0 }
    let row : Row := .ofCells [("created_at", .time noon)]
    row.Passes "created_at" .eq (.str "2024-05-06T14:00:00+02:00") ∧
    row.Passes "created_at" .gt (.str "2024-05-06T12:30:00+01:00") ∧
    row.Passes "created_at" .gte (.str "2024-05-06T14:00:00+02:00") ∧
    ¬ row.Passes "created_at" .lt (.int 5) := by
  intro noon row
  have h := operators_are_coherent row "created_at"
  have hcell : row.cell "created_at" = .time noon := rfl
  let earlier : Instant := { date := ⟨2024, 5, 6⟩, second := 41400, nano := 0 }
  obtain ⟨heq, -, -⟩ := h.offset noon hcell noon 120 (by decide)
  obtain ⟨-, -, hgt⟩ := h.offset noon hcell earlier 60 (by decide)
  have hcomparable : (row.cell "created_at").Comparable (.str (noon.textAt 120)) :=
    .time noon (Instant.read?_textAt (by decide))
  have hnoon : noon.textAt 120 = "2024-05-06T14:00:00+02:00" := by decide
  have hearlier : earlier.textAt 60 = "2024-05-06T12:30:00+01:00" := by decide
  rw [← hnoon, ← hearlier]
  refine ⟨heq.2 rfl, hgt.2 (by decide), (h.gte_iff _ hcomparable).2 (.inr (heq.2 rfl)), ?_⟩
  exact h.unordered (.int 5) nofun .lt (by decide)

/-! ### Numbers in filters -/

/-- How a number is ordered by an operator: as integers are, if it is one that cells can hold. -/
theorem Cell.compareJson_int_eq_some_iff {a : Int64} {n : Int} {o : Ordering}
    (hlow : -2 ^ 63 ≤ n) : (numeric a).compareJson (.int n) = some o ↔
      compare a.toInt n = o ∧ n < 2 ^ 63 := by
  by_cases hhigh : n < 2 ^ 63
  · rw [compareJson_int a hlow hhigh, Option.some_inj, and_iff_left hhigh]
  · rw [compareJson_int_of_le a (Int.not_lt.1 hhigh)]
    exact iff_of_false nofun fun h => hhigh h.2

/-- **Numbers compare as integers.**  Take any number that a filter can have, of 64 bits with or
without a sign.  Whether a numeric cell is the same or not, greater, or greater or the same, is
decided as for integers, and so is whether it is less, or less or the same, when the number fits in
64 signed bits.  No cell is found to be less than a larger number. -/
theorem numbers_compare_as_integers (row : Row) (field : String) (a : Int64) (n : Int)
    (hcell : row.cell field = .numeric a) (hlow : -2 ^ 63 ≤ n) :
    Answers (Test.holds ⟨field, .eq, .int n⟩ row) (a.toInt = n) ∧
    Answers (Test.holds ⟨field, .neq, .int n⟩ row) (a.toInt ≠ n) ∧
    Answers (Test.holds ⟨field, .gt, .int n⟩ row) (a.toInt > n) ∧
    Answers (Test.holds ⟨field, .gte, .int n⟩ row) (a.toInt ≥ n) ∧
    Answers (Test.holds ⟨field, .lt, .int n⟩ row) (a.toInt < n ∧ n < 2 ^ 63) ∧
    Answers (Test.holds ⟨field, .lte, .int n⟩ row) (a.toInt ≤ n ∧ n < 2 ^ 63) := by
  have hsame := Cell.sameAs_int a hlow
  have hcompare := fun o => Cell.compareJson_int_eq_some_iff (a := a) (o := o) hlow
  have hlast := a.toInt_lt
  have hanswers : ∀ op : Operator, op.Takes (.int n) →
      Answers (Test.holds ⟨field, op, .int n⟩ row) (op.Holds (.numeric a) (.int n)) := by
    intro op hop
    rw [← hcell]
    exact Test.accepts_answers (t := ⟨field, op, .int n⟩) hop (row.cell field)
  refine ⟨(hanswers .eq trivial).congr hsame, (hanswers .neq trivial).congr ?_,
    (hanswers .gt trivial).congr ?_, (hanswers .gte trivial).congr ?_,
    (hanswers .lt trivial).congr ?_, (hanswers .lte trivial).congr ?_⟩ <;>
    simp only [Operator.Holds, hcompare, Std.compare_eq_lt, Std.compare_eq_gt,
      Std.compare_eq_iff_eq]
  · rw [← Bool.not_eq_true, hsame]
  · omega
  · omega
  · omega

/-- The number 5 is different from 2 ^ 63, but is not found to be less. -/
theorem numbers_compare_as_integers_beyond :
    let row : Row := .ofCells [("priority", .numeric 5)]
    Answers (Test.holds ⟨"priority", .lt, .int (2 ^ 63 - 1)⟩ row) True ∧
    Answers (Test.holds ⟨"priority", .neq, .int (2 ^ 63)⟩ row) True ∧
    Answers (Test.holds ⟨"priority", .lt, .int (2 ^ 63)⟩ row) False ∧
    Answers (Test.holds ⟨"priority", .gte, .int (2 ^ 63)⟩ row) False := by
  intro row
  have hcell : row.cell "priority" = .numeric 5 := rfl
  obtain ⟨-, -, -, -, hnear, -⟩ :=
    numbers_compare_as_integers row "priority" 5 (2 ^ 63 - 1) hcell (by decide)
  obtain ⟨-, hneq, -, hgte, hlt, -⟩ :=
    numbers_compare_as_integers row "priority" 5 (2 ^ 63) hcell (by decide)
  exact ⟨hnear.congr (by decide), hneq.congr (by decide), hlt.congr (by decide),
    hgte.congr (by decide)⟩

end SecurityGroups
