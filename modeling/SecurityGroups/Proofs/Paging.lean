/-
SecurityGroups/Proofs/Paging.lean

Paging through a listing.

Each page is a call of its own, which looks at every row again and sorts them
again.  As sorting answers the same sequence each time, and pages cut it into
slices of one size, the pages follow each other through that sequence
(`pages_follow_each_other`): no row is lost between two pages, none comes twice.
-/
import SecurityGroups.Proofs.ListingOrder
import SecurityGroups.Proofs.WellKept

namespace SecurityGroups

/-! ### Slices of one size -/

/-- The slice of a number, counted from zero, of some rows that are cut into slices of one size. -/
def slice (rows : List Row) (size i : Nat) : List Row := (rows.drop (i * size)).take size

section

variable {rows : List Row} {size i : Nat}

/-- The first slices hold the first rows. -/
theorem flatMap_slice (rows : List Row) (size n : Nat) :
    (List.range n).flatMap (slice rows size) = rows.take (n * size) := by
  induction n with
  | zero => simp
  | succ n ih =>
    rw [List.range_succ, List.flatMap_append, ih, List.flatMap_singleton, Nat.succ_mul,
      List.take_add]
    rfl

theorem length_slice (h : (i + 1) * size ≤ rows.length) : (slice rows size i).length = size := by
  rw [Nat.succ_mul] at h
  rw [slice, List.length_take, List.length_drop]
  omega

theorem slice_eq_nil (h : rows.length ≤ i * size) : slice rows size i = [] := by
  rw [slice, List.drop_of_length_le h, List.take_nil]

end

namespace Page

/-- The page of a number, counted from zero, where pages of one size follow each other. -/
def nth (p : Page) (i : Nat) : Page := { p with start := UInt32.ofNat (i * p.limit.toNat) }

variable {p : Page} {maxLimit : UInt32}

theorem check_nth (hcount : p.count = false) (hpos : 0 < p.limit) (hmax : p.limit ≤ maxLimit)
    (i : Nat) : (p.nth i).check maxLimit = .ok () := by
  have hzero : p.limit ≠ 0 := (UInt32.ne_of_lt hpos).symm
  have hlarge : ¬ maxLimit < p.limit := UInt32.not_lt.2 hmax
  simp [check, nth, hcount, hzero, hlarge]

/-- The page of a number cuts a slice out of the rows in their order. -/
theorem cut_nth {i : Nat} (h : i * p.limit.toNat < UInt32.size) (rows : List Row) :
    (p.nth i).cut rows = slice (p.sorted rows) p.limit.toNat i := by
  have hstart : (p.nth i).start.toNat = i * p.limit.toNat := UInt32.toNat_ofNat_of_lt' h
  rw [cut, hstart]
  rfl

end Page

/-! ### The pages of a listing -/

/-- **Pages follow each other.**  There is one sequence of the rows that pass the filter, in the
chosen order, and the page of each number whose start is a number of 32 bits answers the next rows
of it: the first pages together are its first rows, so all of them once they reach its end, a page
that the sequence fills is full, a page past the end is empty, and counting answers how many rows
there are and no row. -/
theorem pages_follow_each_other (config : Store.Config) {s : Store} {table : TableName}
    (schema : Schema) {filter : Filter} (page : Page)
    (hfields : ∀ f ∈ filter.fields, schema.contains f = true)
    (hdecides : filter.Decides (s.rows table))
    (hsort : ∀ column, page.sort = some column → schema.contains column = true)
    (hcount : page.count = false) (hpos : 0 < page.limit) (hmax : page.limit ≤ config.maxLimit) :
    ∃ (all : List Row) (pages : Nat → List Row),
      Page.Arranged page.sort page.order ((s.rows table).filter filter.passes) all ∧
      (∀ i, i * page.limit.toNat < UInt32.size →
        s.perform config (.list table schema filter (page.nth i)) = (.ok ⟨none, pages i⟩, s)) ∧
      (∀ n, (List.range n).flatMap pages = all.take (n * page.limit.toNat)) ∧
      (∀ i, (i + 1) * page.limit.toNat ≤ all.length → (pages i).length = page.limit.toNat) ∧
      (∀ i, all.length ≤ i * page.limit.toNat → pages i = []) ∧
      s.perform config (.list table schema filter .countOnly) = (.ok ⟨some all.length, []⟩, s) := by
  have harranged := Page.arranged_sorted page ((s.rows table).filter filter.passes)
  have hsorted : Store.checkSort schema page = .ok () := by
    rw [Store.checkSort]
    split
    · rename_i column hcolumn
      exact Store.checkFields_eq_ok.2 (List.forall_mem_singleton.2 (hsort column hcolumn))
    · rfl
  refine ⟨page.sorted ((s.rows table).filter filter.passes), slice (page.sorted _) page.limit.toNat,
    harranged, ?_, flatMap_slice _ _, fun _ => length_slice, fun _ => slice_eq_nil, ?_⟩
  · intro i hi
    have hno : (page.nth i).count = false := hcount
    rw [Store.perform_list (Page.check_nth hcount hpos hmax i) hfields hsorted hdecides,
      if_neg (ne_true_of_eq_false hno), Page.cut_nth hi]
  · rw [Store.perform_list rfl hfields rfl hdecides, harranged.perm.length_eq,
      List.countP_eq_length_filter]
    rfl

/-- Of three rows, two of which have one name, the first page of two holds these two as they are stored,
although the pages go downwards, and the second page the third row. -/
theorem pages_of_three_rows :
    let schema : Schema := ⟨[⟨"id", "id", .string⟩, ⟨"name", "name", .string⟩], by decide⟩
    let row (id name : String) : Row := .ofCells [("id", .string id), ("name", .string name)]
    let s := Store.empty.withRows .regions [row "1" "b", row "2" "a", row "3" "b"]
    let page (i : Nat) : Call := .list .regions schema (.allOf [⟨"name", .neq, .str "c"⟩])
      (((Page.ofRange 0 2).sortedBy "name" .descending).nth i)
    s.perform ⟨Supply.strokes, 2⟩ (page 0) = (.ok ⟨none, [row "1" "b", row "3" "b"]⟩, s) ∧
      s.perform ⟨Supply.strokes, 2⟩ (page 1) = (.ok ⟨none, [row "2" "a"]⟩, s) := by
  intro schema row s page
  have hdecides : (Filter.allOf [⟨"name", .neq, .str "c"⟩]).Decides (s.rows .regions) :=
    List.forall_mem_cons.2 ⟨rfl, List.forall_mem_cons.2 ⟨rfl, List.forall_mem_singleton.2 rfl⟩⟩
  obtain ⟨all, pages, harranged, hpages, hjoined, -⟩ := pages_follow_each_other
    ⟨Supply.strokes, 2⟩ schema ((Page.ofRange 0 2).sortedBy "name" .descending)
    (by decide) hdecides (by decide) rfl (by decide) (by decide)
  -- every row passes the filter
  have hrows : (s.rows .regions).filter (Filter.allOf [⟨"name", .neq, .str "c"⟩]).passes =
      [row "1" "b", row "2" "a", row "3" "b"] := rfl
  rw [hrows] at harranged
  have hsorted : Page.SortedBy "name" (some .descending) [row "1" "b", row "2" "a", row "3" "b"]
      [row "1" "b", row "3" "b", row "2" "a"] := by
    refine ⟨(List.Perm.swap ..).cons _, by decide, fun other => ?_⟩
    by_cases hthird : Page.tied "name" other (row "3" "b") = true
    · -- the second row has another name than the third, so it is not tied to the same rows
      have hsecond : ¬ Page.tied "name" other (row "2" "a") = true := fun h =>
        absurd (Page.tied_of_tied hthird h) (by decide)
      simp only [List.filter_cons, if_pos hthird, if_neg hsecond]
    · simp only [List.filter_cons, if_neg hthird]
  have hall : all = [row "1" "b", row "3" "b", row "2" "a"] := Page.SortedBy.unique harranged hsorted
  have hsize : ((Page.ofRange 0 2).sortedBy "name" .descending).limit.toNat = 2 := rfl
  rw [hsize] at hjoined
  have hfirst : pages 0 = all.take 2 := by simpa using hjoined 1
  have hboth : pages 0 ++ pages 1 = all.take 4 := by simpa [List.range_succ] using hjoined 2
  rw [hfirst, hall] at hboth
  have hsecond : pages 1 = [row "2" "a"] := List.append_cancel_left hboth
  refine ⟨?_, ?_⟩
  · rw [hpages 0 (by decide), hfirst, hall]
    rfl
  · rw [hpages 1 (by decide), hsecond]

end SecurityGroups
