/-
SecurityGroups/Proofs/SortedListings.lean

Listings in the order of a column.

The cells of a column can be of any kinds, and of many columns some rows have no cell.
The order of cells is nevertheless a total preorder (`Cell.Preordered`), because a cell
is compared by keys, its kind and what it holds.  Empty cells come first, and only values
of JSON tie without being the same.

There is one sequence of the rows that pass a filter, and each page that goes by the
column cuts its window out of it (`listings_are_sorted`).  In descending order the order
of two cells is reversed, but not that of two rows whose cells tie: these stand as they
are stored, whichever way the page goes.
-/
import SecurityGroups.Proofs.Paging

namespace SecurityGroups

/-! ### Cells -/

instance : Std.LawfulEqOrd Instant where
  eq_of_compare := Instant.compare_eq_eq.1

namespace Cell

variable {a b : Cell}

/-- A comparison puts cells of all kinds in one row: any two are in some order, which carries over,
empty cells come first, and cells that are in one place are the same, or both JSON. -/
structure Preordered (compare : Cell → Cell → Ordering) : Prop where
  swap : ∀ a b, compare b a = (compare a b).swap
  trans : ∀ a b c, (compare a b).isLE → (compare b c).isLE → (compare a c).isLE
  null_first : ∀ c, c ≠ null → compare null c = .lt
  tied_iff : ∀ a b, compare a b = .eq ↔ a = b ∨ ∃ i j, a = json i ∧ b = json j

/-- Cells tie when they have the same keys. -/
theorem order_eq_eq_iff : a.order b = .eq ↔ a = b ∨ ∃ i j, a = json i ∧ b = json j := by
  simp only [order_eq, compareLex, compareOn, Ordering.then_eq_eq, Std.compare_eq_iff_eq]
  constructor
  · rintro ⟨hrank, hboolean, hnumeric, hstring, htime⟩
    cases a <;> cases b <;> simp_all [rank, boolean?, numeric?, string?, time?]
  · rintro (rfl | ⟨i, j, rfl, rfl⟩)
    · exact ⟨rfl, rfl, rfl, rfl, rfl⟩
    · exact ⟨rfl, rfl, rfl, rfl, rfl⟩

/-- **The order of cells** is a total preorder. -/
theorem preordered_order : Preordered order where
  swap := order_swap
  trans := fun _ _ _ => Std.TransCmp.isLE_trans
  null_first := by
    intro c hc
    cases c with
    | null => exact absurd rfl hc
    | _ => rfl
  tied_iff := fun _ _ => order_eq_eq_iff

end Cell

/-! ### Listings -/

namespace Page

/-- A page that goes by a column does not count. -/
theorem count_of_check {page : Page} {column : String} {maxLimit : UInt32}
    (hsort : page.sort = some column) (h : page.check maxLimit = .ok ()) : page.count = false := by
  cases hcount : page.count with
  | false => rfl
  | true =>
    rw [check, hcount, if_pos rfl, hsort, if_pos (.inr (.inr rfl))] at h
    cases h

end Page

/-- **Listings are sorted.**  The order of cells is a total preorder, on cells of all kinds.  For a
column of its schema, a table has one sequence of the rows that pass a filter, sorted by the column,
upwards or downwards, and each page in that order answers its window of the sequence. -/
theorem listings_are_sorted :
    Cell.Preordered Cell.order ∧
    ∀ (config : Store.Config) (s : Store) (table : TableName) (schema : Schema) (filter : Filter)
      (column : String) (order : Option Order),
      (∀ f ∈ filter.fields, schema.contains f = true) → filter.Decides (s.rows table) →
      schema.contains column = true →
      ∃ sorted, Page.SortedBy column order ((s.rows table).filter filter.passes) sorted ∧
        ∀ page : Page, page.sort = some column → page.order = order →
          page.check config.maxLimit = .ok () →
            s.perform config (.list table schema filter page) =
              (.ok ⟨none, (sorted.drop page.start.toNat).take page.limit.toNat⟩, s) := by
  refine ⟨Cell.preordered_order, ?_⟩
  intro config s table schema filter column order hfields hdecides hcolumn
  refine ⟨_, Page.sortedBy_mergeSort column order ((s.rows table).filter filter.passes), ?_⟩
  rintro page hsort rfl hcheck
  have hchecked : Store.checkSort schema page = .ok () := by
    rw [Store.checkSort, hsort]
    exact Store.checkFields_eq_ok.2 (List.forall_mem_singleton.2 hcolumn)
  rw [Store.perform_list hcheck hfields hchecked hdecides,
    if_neg (ne_true_of_eq_false (Page.count_of_check hsort hcheck)), Page.cut, Page.sorted, hsort]

/-- In a column with two texts, a number and a row without a cell, the texts tie and stay in the
order in which they are stored, although the page goes downwards. -/
theorem listings_are_sorted_downwards :
    let schema : Schema := ⟨[⟨"id", "id", .string⟩, ⟨"name", "name", .json⟩], by decide⟩
    let row (id : String) (name : Cell) : Row := .ofCells [("id", .string id), ("name", name)]
    let rows := [row "1" (.string "b"), .ofCells [("id", .string "2")], row "3" (.numeric 5),
      row "4" (.string "b")]
    let s := Store.empty.withRows .regions rows
    let page := (Page.ofRange 0 10).sortedBy "name" .descending
    ∃ listed, s.perform ⟨Supply.strokes, 10⟩ (.list .regions schema (.allOf []) page) =
        (.ok ⟨none, listed⟩, s) ∧
      Page.SortedBy "name" (some .descending) rows listed ∧
      listed.filter (Page.tied "name" (row "1" (.string "b"))) =
        [row "1" (.string "b"), row "4" (.string "b")] := by
  intro schema row rows s page
  have hdecides : (Filter.allOf []).Decides (s.rows .regions) := fun _ _ => rfl
  obtain ⟨sorted, hsorted, hpages⟩ := listings_are_sorted.2 ⟨Supply.strokes, 10⟩ s .regions schema
    (.allOf []) "name" (some .descending) nofun hdecides (by decide)
  -- every row passes the filter, and the page has place for all of them
  have hrows : (s.rows .regions).filter (Filter.allOf []).passes = rows := rfl
  rw [hrows] at hsorted
  have hwindow : (sorted.drop page.start.toNat).take page.limit.toNat = sorted :=
    List.take_of_length_le (by rw [List.length_drop, hsorted.perm.length_eq]; decide)
  refine ⟨sorted, ?_, hsorted, ?_⟩
  · rw [hpages page rfl rfl rfl, hwindow]
  · have htied : rows.map (Page.tied "name" (row "1" (.string "b"))) =
        [true, false, false, true] := by
      decide
    simp only [rows, List.map_cons, List.cons.injEq] at htied
    obtain ⟨hfirst, hsecond, hthird, hfourth, -⟩ := htied
    rw [hsorted.stable, List.filter_cons_of_pos hfirst,
      List.filter_cons_of_neg (ne_true_of_eq_false hsecond),
      List.filter_cons_of_neg (ne_true_of_eq_false hthird), List.filter_cons_of_pos hfourth]
    rfl

end SecurityGroups
