/-
SecurityGroups/Proofs/ListingOrder.lean

The order in which rows are listed.

Cells are ordered by their kinds, and within a kind by what they hold; all JSON
counts as equal.  So the order is lexicographic in keys each of which is ordered
totally (`Cell.order_eq`), and therefore total and transitive across all kinds.

Hence sorting by a column leaves the rows in the order of the column, upwards or
downwards, and rows that it does not tell apart in the order in which they were
(`Page.sortedBy_mergeSort`).  No other sequence of the rows is like that
(`Page.SortedBy.unique`).
-/
import SecurityGroups.Store.Match

namespace SecurityGroups

/-! ### Cells -/

namespace Cell

/-- The place of the kind of a cell among the kinds, which follow the names of their types. -/
def rank : Cell → Nat
  | null => 0
  | boolean _ => 1
  | json _ => 2
  | numeric _ => 3
  | string _ => 4
  | time _ => 5

/-- The truth value of a boolean cell. -/
def boolean? : Cell → Option Bool
  | boolean b => some b
  | _ => none

/-- **Cells are ordered by their kinds, and then by what they hold.** -/
theorem order_eq (a b : Cell) : a.order b =
    (compareLex (compareOn rank) <| compareLex (compareOn boolean?) <|
      compareLex (compareOn numeric?) <| compareLex (compareOn string?) (compareOn time?) :
        Cell → Cell → Ordering) a b := by
  cases a <;> cases b
  -- in one kind only the last key to differ counts
  case boolean.boolean x y => exact Ordering.then_eq.symm
  case numeric.numeric x y => exact Ordering.then_eq.symm
  case string.string x y => exact Ordering.then_eq.symm
  all_goals
    simp only [order, typeName, compareLex, compareOn, rank, boolean?, numeric?, string?, time?]
    rfl

instance : Std.TransCmp order := by
  rw [show order = _ from funext fun a => funext (order_eq a)]
  infer_instance

theorem order_swap (a b : Cell) : b.order a = (a.order b).swap := Std.OrientedCmp.eq_swap

end Cell

/-! ### Rows -/

namespace Page

variable {field : String} {order : Option Order} {a b c : Row} {rows : List Row}

theorem precedes_total (field : String) (order : Option Order) (a b : Row) :
    (precedes field order a b || precedes field order b a) = true := by
  rcases order with _ | _ | _ <;>
    simp only [precedes, Cell.order_swap (a.cell field) (b.cell field)] <;>
    cases (a.cell field).order (b.cell field) <;> rfl

theorem precedes_trans (hab : precedes field order a b = true)
    (hbc : precedes field order b c = true) : precedes field order a c = true := by
  rcases order with _ | _ | _ <;>
    simp only [precedes, decide_eq_true_eq, ← Ordering.isLE_iff_ne_gt,
      ← Ordering.isGE_iff_ne_lt] at hab hbc ⊢
  · exact Std.TransCmp.isLE_trans hab hbc
  · exact Std.TransCmp.isLE_trans hab hbc
  · exact Std.TransCmp.isGE_trans hab hbc

/-- The order of a column does not tell two rows apart. -/
def tied (field : String) (a b : Row) : Bool := (a.cell field).order (b.cell field) = .eq

theorem tied_of_tied (hb : tied field a b = true) (hc : tied field a c = true) :
    tied field b c = true := by
  simp only [tied, decide_eq_true_eq] at hb hc ⊢
  exact Std.TransCmp.eq_trans (Std.OrientedCmp.eq_symm hb) hc

theorem precedes_of_tied (h : tied field a b = true) : precedes field order a b = true := by
  have heq : (a.cell field).order (b.cell field) = .eq := of_decide_eq_true h
  rcases order with _ | _ | _ <;> simp [precedes, heq]

/-- How two things stand that a page puts in order: as they compare, or in reverse. -/
def directed (order : Option Order) (o : Ordering) : Ordering :=
  match order with
  | some .descending => o.swap
  | _ => o

theorem isLE_directed_of_precedes (h : precedes field order a b = true) :
    (directed order ((a.cell field).order (b.cell field))).isLE := by
  revert h
  rcases order with _ | _ | _ <;> simp only [precedes, directed] <;>
    cases (a.cell field).order (b.cell field) <;> decide

/-- Some rows in the order of a column: they are the same rows, any two of them stand in that order,
and those whose cells tie stand as they stood. -/
structure SortedBy (column : String) (order : Option Order) (rows sorted : List Row) : Prop where
  perm : sorted.Perm rows
  inOrder : sorted.Pairwise fun a b =>
    (directed order ((a.cell column).order (b.cell column))).isLE
  stable : ∀ row, sorted.filter (tied column row) = rows.filter (tied column row)

theorem tied_self (field : String) (a : Row) : tied field a a = true :=
  decide_eq_true Std.ReflCmp.compare_self

/-- Rows that may stand before each other are tied. -/
theorem tied_of_isLE_directed
    (h : (directed order ((a.cell field).order (b.cell field))).isLE)
    (h' : (directed order ((b.cell field).order (a.cell field))).isLE) :
    tied field a b = true := by
  rw [Cell.order_swap] at h'
  rw [tied]
  revert h h'
  rcases order with _ | _ | _ <;> simp only [directed] <;>
    cases (a.cell field).order (b.cell field) <;> decide

/-- Each row stands among its own ties. -/
theorem mem_iff_of_ties {xs ys : List Row}
    (h : ∀ row, xs.filter (tied field row) = ys.filter (tied field row)) (row : Row) :
    row ∈ xs ↔ row ∈ ys := by
  have hiff : row ∈ xs.filter (tied field row) ↔ row ∈ ys.filter (tied field row) := by rw [h]
  simpa only [List.mem_filter, tied_self, and_true] using hiff

/-- Two lists in the order of a column are the same if their ties are. -/
theorem eq_of_inOrder {xs ys : List Row}
    (hxs : xs.Pairwise fun a b => (directed order ((a.cell field).order (b.cell field))).isLE)
    (hys : ys.Pairwise fun a b => (directed order ((a.cell field).order (b.cell field))).isLE)
    (hties : ∀ row, xs.filter (tied field row) = ys.filter (tied field row)) : xs = ys := by
  have hmem := mem_iff_of_ties hties
  induction xs generalizing ys with
  | nil =>
    cases ys with
    | nil => rfl
    | cons y ys => cases (hmem y).2 List.mem_cons_self
  | cons x xs ih =>
    cases ys with
    | nil => cases (hmem x).1 List.mem_cons_self
    | cons y ys =>
      obtain ⟨hfirst, hxrest⟩ := List.pairwise_cons.1 hxs
      obtain ⟨hfirst', hyrest⟩ := List.pairwise_cons.1 hys
      -- neither of the first rows has to stand behind the other
      have htied : tied field x y = true := by
        rcases List.mem_cons.1 ((hmem x).1 List.mem_cons_self) with rfl | hx
        · exact tied_self field x
        · rcases List.mem_cons.1 ((hmem y).2 List.mem_cons_self) with rfl | hy
          · exact tied_self field y
          · exact tied_of_isLE_directed (hfirst y hy) (hfirst' x hx)
      have hheads := hties x
      rw [List.filter_cons_of_pos (tied_self field x), List.filter_cons_of_pos htied] at hheads
      obtain rfl := (List.cons.inj hheads).1
      have hrest : ∀ row, xs.filter (tied field row) = ys.filter (tied field row) := by
        intro row
        have hrow := hties row
        rw [List.filter_cons, List.filter_cons] at hrow
        split at hrow
        · exact (List.cons.inj hrow).2
        · exact hrow
      exact congrArg (x :: ·) (ih hxrest hyrest hrest (mem_iff_of_ties hrest))

/-- **There is one way to sort rows** by a column. -/
theorem SortedBy.unique {xs ys : List Row} (hxs : SortedBy field order rows xs)
    (hys : SortedBy field order rows ys) : xs = ys :=
  eq_of_inOrder hxs.inOrder hys.inOrder fun row => (hxs.stable row).trans (hys.stable row).symm

/-- **Sorting by a column** puts the rows in its order, and moves none past another that it does not
tell apart. -/
theorem sortedBy_mergeSort (column : String) (order : Option Order) (rows : List Row) :
    SortedBy column order rows (rows.mergeSort (precedes column order)) := by
  have htrans : ∀ a b c : Row, precedes column order a b = true →
      precedes column order b c = true → precedes column order a c = true :=
    fun _ _ _ => precedes_trans
  have htotal := precedes_total column order
  have hperm := List.mergeSort_perm rows (precedes column order)
  refine ⟨hperm, ?_, fun row => ?_⟩
  · exact (List.pairwise_mergeSort htrans htotal rows).imp isLE_directed_of_precedes
  · -- rows that are tied stand in order already, so sorting leaves them a sublist
    have hpairwise : (rows.filter (tied column row)).Pairwise
        fun a b => precedes column order a b = true :=
      List.pairwise_of_forall_mem_list fun a ha b hb =>
        precedes_of_tied (tied_of_tied (List.mem_filter.1 ha).2 (List.mem_filter.1 hb).2)
    have hsublist := (List.sublist_mergeSort htrans htotal hpairwise List.filter_sublist).filter
      (tied column row)
    simp only [List.filter_filter, Bool.and_self] at hsublist
    exact (hsublist.eq_of_length (hperm.filter _).length_eq.symm).symm

/-- Some rows in a chosen order: sorted by the column that is chosen, or else as they stood. -/
def Arranged (sort : Option String) (order : Option Order) (rows arranged : List Row) : Prop :=
  match sort with
  | some column => SortedBy column order rows arranged
  | none => arranged = rows

theorem Arranged.perm {sort : Option String} {arranged : List Row}
    (h : Arranged sort order rows arranged) : arranged.Perm rows := by
  cases sort with
  | some column => exact SortedBy.perm h
  | none => exact .of_eq h

/-- **A page puts rows in its order.** -/
theorem arranged_sorted (p : Page) (rows : List Row) :
    Arranged p.sort p.order rows (p.sorted rows) := by
  rw [sorted]
  cases p.sort with
  | some column => exact sortedBy_mergeSort column p.order rows
  | none => exact rfl

end Page

end SecurityGroups
