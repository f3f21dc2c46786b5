/-
SecurityGroups/Proofs/FilterMeaning.lean

What a filter means.

A filter is evaluated from the left, and only as far as needed, with an error for a test
that can not be made.  What it means is said by `Clause.Describes`, in which nothing is
evaluated: clauses joined by `and` describe a row if all of them do, clauses joined by
`or` if one of them does, or if there are none.

When each test has a value that its operator takes, the two are one (`Clause.answers`).
Then only the meaning counts, and a filter can be written in other ways (`Clause.Rewrites`):
clauses can stand in any order and any number of times, a clause can be wrapped in a filter
of its own, and a filter within another that joins in the same way can be opened up.  The
one exception is an empty `or`: it describes every row, so it can not be left out of
another `or`.
-/
import Mathlib.Logic.Relation
import SecurityGroups.Proofs.FilterErrors

namespace SecurityGroups

/-! ### Tests -/

/-- The values that can be used with an operator: arrays, where a cell is looked for in the value,
texts, where the value is looked for in a cell, and else any value. -/
def Operator.Takes : Operator → Json → Prop
  | among, value => ∃ options, value = .arr options
  | notAmong, value => ∃ options, value = .arr options
  | contains, value => ∃ part, value = .str part
  | containsIgnoringCase, value => ∃ part, value = .str part
  | _, _ => True

/-- What an operator says of a cell and a value. -/
def Operator.Holds : Operator → Cell → Json → Prop
  | eq, cell, value => cell.sameAs value = true
  | neq, cell, value => cell.sameAs value = false
  | gt, cell, value => cell.compareJson value = some .gt
  | gte, cell, value => cell.compareJson value = some .gt ∨ cell.compareJson value = some .eq
  | lt, cell, value => cell.compareJson value = some .lt
  | lte, cell, value => cell.compareJson value = some .lt ∨ cell.compareJson value = some .eq
  | among, cell, value => ∃ options, value = .arr options ∧ ∃ j ∈ options, cell.sameAs j = true
  | notAmong, cell, value => ∃ options, value = .arr options ∧ ∀ j ∈ options, cell.sameAs j = false
  | contains, cell, value => ∃ part, value = .str part ∧ part.toList <:+: cell.textOrEmpty.toList
  | containsIgnoringCase, cell, value => ∃ part, value = .str part ∧
      Text.lowercase part.toList <:+: Text.lowercase cell.textOrEmpty.toList

/-- The outcome of an evaluation answers a question: it is no error, and `true` exactly if the
answer is yes. -/
def Answers (outcome : Except FilterError Bool) (p : Prop) : Prop :=
  ∃ b, outcome = .ok b ∧ (b = true ↔ p)

namespace Answers

variable {outcome outcome' : Except FilterError Bool} {p q : Prop}

theorem ok {b : Bool} (h : b = true ↔ p) : Answers (.ok b) p := ⟨b, rfl, h⟩

theorem congr (h : Answers outcome p) (hpq : p ↔ q) : Answers outcome q := by
  obtain ⟨b, hb, hp⟩ := h
  exact ⟨b, hb, hp.trans hpq⟩

/-- A question has one answer. -/
theorem unique (h : Answers outcome p) (h' : Answers outcome' p) : outcome = outcome' := by
  obtain ⟨b, rfl, hb⟩ := h
  obtain ⟨b', rfl, hb'⟩ := h'
  exact congrArg Except.ok (Bool.eq_iff_iff.2 (hb.trans hb'.symm))

end Answers

theorem Text.isPartOf_iff_infix {part cs : List Char} : isPartOf part cs = true ↔ part <:+: cs := by
  rw [isPartOf_iff]
  exact exists_congr fun _ => exists_congr fun _ => eq_comm

/-- How an ordering operator reads the comparison of a cell with a value. -/
theorem Operator.relates_iff {op : Operator} {cell : Cell} {value : Json}
    (hop : op = .gt ∨ op = .gte ∨ op = .lt ∨ op = .lte) :
    (match cell.compareJson value with
      | some o => op.relates o
      | none => false) = true ↔ op.Holds cell value := by
  rcases hop with rfl | rfl | rfl | rfl <;> simp only [Holds] <;>
    rcases cell.compareJson value with - | - | - | - <;> simp [relates]

/-- **A test whose operator takes its value** can be made, and says what its operator says. -/
theorem Test.accepts_answers {t : Test} (h : t.op.Takes t.value) (cell : Cell) :
    Answers (t.accepts cell) (t.op.Holds cell t.value) := by
  obtain ⟨field, op, value⟩ := t
  cases op with
  | eq => exact .ok Iff.rfl
  | neq => exact .ok (iff_of_eq (Bool.not_eq_true' _))
  | gt => exact .ok (Operator.relates_iff (.inl rfl))
  | gte => exact .ok (Operator.relates_iff (.inr (.inl rfl)))
  | lt => exact .ok (Operator.relates_iff (.inr (.inr (.inl rfl))))
  | lte => exact .ok (Operator.relates_iff (.inr (.inr (.inr rfl))))
  | among =>
    obtain ⟨options, rfl : value = .arr options⟩ := h
    refine .ok (List.any_eq_true.trans ⟨fun hany => ⟨options, rfl, hany⟩, ?_⟩)
    rintro ⟨_, ⟨⟩, hany⟩
    exact hany
  | notAmong =>
    obtain ⟨options, rfl : value = .arr options⟩ := h
    have hnone : (!options.any cell.sameAs) = true ↔ ∀ j ∈ options, cell.sameAs j = false := by
      simp
    refine .ok (hnone.trans ⟨fun hall => ⟨options, rfl, hall⟩, ?_⟩)
    rintro ⟨_, ⟨⟩, hall⟩
    exact hall
  | contains =>
    obtain ⟨part, rfl : value = .str part⟩ := h
    refine .ok (Text.isPartOf_iff_infix.trans ⟨fun hpart => ⟨part, rfl, hpart⟩, ?_⟩)
    rintro ⟨_, ⟨⟩, hpart⟩
    exact hpart
  | containsIgnoringCase =>
    obtain ⟨part, rfl : value = .str part⟩ := h
    refine .ok (Text.isPartOf_iff_infix.trans ⟨fun hpart => ⟨part, rfl, hpart⟩, ?_⟩)
    rintro ⟨_, ⟨⟩, hpart⟩
    exact hpart

/-! ### Clauses -/

namespace Clause

variable {row : Row} {c d : Clause} {clauses clauses' : List Clause} {op : Connective} {t : Test}

/-- **What a clause means**: which rows it describes. -/
inductive Describes (row : Row) : Clause → Prop where
  | test {t : Test} : t.op.Holds (row.cell t.field) t.value → Describes row (.test t)
  | all {clauses : List Clause} : (∀ c ∈ clauses, Describes row c) →
      Describes row (.nested .and clauses)
  | nothing : Describes row (.nested .or [])
  | any {clauses : List Clause} {c : Clause} : c ∈ clauses → Describes row c →
      Describes row (.nested .or clauses)

theorem describes_test : (Clause.test t).Describes row ↔
    t.op.Holds (row.cell t.field) t.value :=
  ⟨fun | .test h => h, .test⟩

theorem describes_and : (nested .and clauses).Describes row ↔ ∀ c ∈ clauses, c.Describes row :=
  ⟨fun | .all h => h, .all⟩

theorem describes_or : (nested .or clauses).Describes row ↔
    clauses = [] ∨ ∃ c ∈ clauses, c.Describes row := by
  constructor
  · intro h
    cases h with
    | nothing => exact .inl rfl
    | any hmem hc => exact .inr ⟨_, hmem, hc⟩
  · rintro (rfl | ⟨c, hmem, hc⟩)
    · exact .nothing
    · exact .any hmem hc

/-- Each test of the clause has a value that its operator takes. -/
def Proper (c : Clause) : Prop := ∀ t ∈ c.tests, t.op.Takes t.value

theorem mem_testsOfAll : t ∈ testsOfAll clauses ↔ ∃ c ∈ clauses, t ∈ c.tests := by
  induction clauses with
  | nil => simp [testsOfAll]
  | cons c rest ih => simp [testsOfAll, ih]

mutual
/-- **A clause is evaluated to what it means.** -/
theorem answers (row : Row) : ∀ c : Clause, c.Proper → Answers (c.holds row) (c.Describes row)
  | .test t, h =>
    (Test.accepts_answers (h t (List.mem_singleton_self t)) _).congr describes_test.symm
  | .nested .and clauses, h => (allHold_answers row clauses h).congr describes_and.symm
  | .nested .or [], _ => .ok (iff_of_true rfl .nothing)
  | .nested .or (c :: rest), h => by
    refine (anyHolds_answers row (c :: rest) h).congr (Iff.trans ?_ describes_or.symm)
    exact (or_iff_right (List.cons_ne_nil c rest)).symm

theorem allHold_answers (row : Row) : ∀ clauses : List Clause,
    (∀ t ∈ testsOfAll clauses, t.op.Takes t.value) →
      Answers (allHold clauses row) (∀ c ∈ clauses, c.Describes row)
  | [], _ => .ok (iff_of_true rfl (List.forall_mem_nil _))
  | c :: rest, h => by
    obtain ⟨hfirst, hrest⟩ := List.forall_mem_append.1 h
    obtain ⟨b, hb, hc⟩ := answers row c hfirst
    rw [allHold, hb]
    cases b with
    | true =>
      refine (allHold_answers row rest hrest).congr ?_
      rw [List.forall_mem_cons, and_iff_right (hc.1 rfl)]
    | false =>
      -- the rest does not matter
      refine .ok (iff_of_false Bool.false_ne_true fun hall => ?_)
      exact Bool.false_ne_true (hc.2 (hall c List.mem_cons_self))

theorem anyHolds_answers (row : Row) : ∀ clauses : List Clause,
    (∀ t ∈ testsOfAll clauses, t.op.Takes t.value) →
      Answers (anyHolds clauses row) (∃ c ∈ clauses, c.Describes row)
  | [], _ => .ok (iff_of_false Bool.false_ne_true fun ⟨_, hmem, _⟩ => List.not_mem_nil hmem)
  | c :: rest, h => by
    obtain ⟨hfirst, hrest⟩ := List.forall_mem_append.1 h
    obtain ⟨b, hb, hc⟩ := answers row c hfirst
    rw [anyHolds, hb]
    cases b with
    | true => exact .ok (iff_of_true rfl ⟨c, List.mem_cons_self, hc.1 rfl⟩)
    | false =>
      refine (anyHolds_answers row rest hrest).congr ?_
      rw [List.exists_mem_cons_iff, or_iff_right fun hdesc => Bool.false_ne_true (hc.2 hdesc)]
end

/-! ### Other ways to write a filter -/

/-- A clause is written in another way. -/
inductive Rewrites : Clause → Clause → Prop where
  /-- The same clauses, in any order and any number of times. -/
  | sameClauses {op : Connective} {clauses clauses' : List Clause} :
      (∀ c, c ∈ clauses ↔ c ∈ clauses') → Rewrites (.nested op clauses) (.nested op clauses')
  /-- A clause as the only one of a filter. -/
  | wrap (op : Connective) (c : Clause) : Rewrites c (.nested op [c])
  /-- The clauses of a filter in its place, within a filter that joins in the same way. -/
  | splice {op : Connective} (before inner after : List Clause) : (op = .or → inner ≠ []) →
      Rewrites (.nested op (before ++ .nested op inner :: after))
        (.nested op (before ++ inner ++ after))
  /-- Another way to write one of some clauses. -/
  | within (op : Connective) (before after : List Clause) {c d : Clause} : Rewrites c d →
      Rewrites (.nested op (before ++ c :: after)) (.nested op (before ++ d :: after))

namespace Rewrites

theorem mem_tests_iff (h : Rewrites c d) : t ∈ c.tests ↔ t ∈ d.tests := by
  induction h with
  | sameClauses h =>
    show t ∈ testsOfAll _ ↔ t ∈ testsOfAll _
    simp only [mem_testsOfAll, h]
  | wrap op c => simp [tests, testsOfAll]
  | splice before inner after _ =>
    show t ∈ testsOfAll _ ↔ t ∈ testsOfAll _
    simp only [mem_testsOfAll, List.mem_append, List.mem_cons, or_and_right, exists_or,
      exists_eq_left, tests, or_assoc]
  | within op before after _ ih =>
    show t ∈ testsOfAll _ ↔ t ∈ testsOfAll _
    simp only [mem_testsOfAll, List.mem_append, List.mem_cons, or_and_right, exists_or,
      exists_eq_left, ih]

/-- **A clause that is written in another way** describes the same rows. -/
theorem describes_iff (h : Rewrites c d) : c.Describes row ↔ d.Describes row := by
  induction h with
  | @sameClauses op clauses clauses' h =>
    have hempty : clauses = [] ↔ clauses' = [] := by
      simp only [List.eq_nil_iff_forall_not_mem, h]
    cases op with
    | and => simp only [describes_and, h]
    | or => simp only [describes_or, h, hempty]
  | wrap op c =>
    cases op with
    | and => rw [describes_and, List.forall_mem_singleton]
    | or => simp only [describes_or, List.cons_ne_nil, List.mem_singleton, exists_eq_left, false_or]
  | @splice op before inner after hinner =>
    cases op with
    | and =>
      simp only [describes_and, List.forall_mem_append, List.forall_mem_cons, and_assoc]
    | or =>
      have hne := hinner rfl
      simp only [describes_or, List.mem_append, List.mem_cons, or_and_right, exists_or,
        exists_eq_left, List.append_eq_nil_iff, List.cons_ne_nil, hne, and_false, false_and,
        false_or, or_assoc]
  | within op before after _ ih =>
    cases op with
    | and => simp only [describes_and, List.forall_mem_append, List.forall_mem_cons, ih]
    | or =>
      simp only [describes_or, List.mem_append, List.mem_cons, or_and_right, exists_or,
        exists_eq_left, List.append_eq_nil_iff, List.cons_ne_nil, and_false, false_or, ih]

end Rewrites

/-- **However often a clause is rewritten**, back and forth, its evaluation comes out the same. -/
theorem holds_eq_of_rewrites (h : Relation.EqvGen Rewrites c d) (hc : c.Proper) :
    d.holds row = c.holds row := by
  have hsame : (c.Proper ↔ d.Proper) ∧ (c.Describes row ↔ d.Describes row) := by
    clear hc
    induction h with
    | rel c d h =>
      exact ⟨forall_congr' fun t => imp_congr_left h.mem_tests_iff, h.describes_iff⟩
    | refl c => exact ⟨Iff.rfl, Iff.rfl⟩
    | symm c d _ ih => exact ⟨ih.1.symm, ih.2.symm⟩
    | trans c d e _ _ ih ih' => exact ⟨ih.1.trans ih'.1, ih.2.trans ih'.2⟩
  exact (answers row d (hsame.1.1 hc)).unique ((answers row c hc).congr hsame.2)

end Clause

/-- **A filter selects the rows that it describes.**  When each of its tests has a value that its
operator takes, it can be evaluated in every row, to `true` exactly when it describes the row; and
so does every filter into which it can be rewritten. -/
theorem filters_select_what_they_describe (f : Filter) (row : Row)
    (hf : ∀ t ∈ f.tests, t.op.Takes t.value) :
    Answers (f.holds row) (f.toClause.Describes row) ∧
    ∀ g : Filter, Relation.EqvGen Clause.Rewrites f.toClause g.toClause →
      g.holds row = f.holds row :=
  ⟨Clause.answers row f.toClause hf, fun _ h => Clause.holds_eq_of_rewrites h hf⟩

/-- A clause of the filter has one of its tests wrapped, and another clause has its tests turned round
and one of them repeated. -/
theorem filters_select_what_they_describe_cache :
    let web : Test := ⟨"name", .contains, .str "we"⟩
    let assigned : Test := ⟨"bk_biz_id", .gt, .int 0⟩
    let other : Test := ⟨"name", .notAmong, .arr [.str "db"]⟩
    let row : Row := .ofCells [("bk_biz_id", .numeric 7), ("name", .string "cache")]
    let f : Filter := ⟨.or, [.test web, .nested .and [.test assigned, .test other]]⟩
    let g : Filter :=
      ⟨.or, [.nested .and [.test other, .test assigned, .test other], .nested .or [.test web]]⟩
    (∀ t ∈ f.tests, t.op.Takes t.value) ∧ f.toClause.Describes row ∧ g.holds row = .ok true := by
  intro web assigned other row f g
  have hf : ∀ t ∈ f.tests, t.op.Takes t.value := by
    show ∀ t ∈ [web, assigned, other], t.op.Takes t.value
    simp [web, assigned, other, Operator.Takes]
  have hturn : ∀ c, c ∈ [Clause.test assigned, .test other] ↔
      c ∈ [Clause.test other, .test assigned, .test other] := by
    simp [or_comm]
  have hg : Relation.EqvGen Clause.Rewrites f.toClause g.toClause :=
    .trans _ _ _ (.rel _ _ (.within .or [.test web] [] (.sameClauses hturn))) <|
      .trans _ _ _ (.rel _ _ (.within .or [] _ (.wrap .or (.test web)))) <|
        .rel _ _ (.sameClauses (by simp [g, or_comm]))
  obtain ⟨⟨b, hb, hdescribes⟩, hsame⟩ := filters_select_what_they_describe f row hf
  have htrue : f.holds row = .ok true := by decide
  obtain rfl : b = true := Except.ok.inj (hb.symm.trans htrue)
  exact ⟨hf, hdescribes.1 rfl, (hsame g hg).trans htrue⟩

end SecurityGroups
