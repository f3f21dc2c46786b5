/-
SecurityGroups/Proofs/FilterErrors.lean

Why a listing is refused.

A filter that can not be evaluated has a test, at whatever depth, that can not be
made in any row (`Filter.exists_faulty_of_mark`): one that looks for a cell in
something else than an array, or for a part of a text in something else than a
text.  So a listing is refused only for its page, for a column that its filter or
its order names and the table does not have, or for such a test
(`Store.list_error_cases`).  Of several columns or rows that are at fault the
first one decides (`Store.first_of_checkFields`, `Filter.first_of_mark`).
-/
import SecurityGroups.Proofs.Calls

namespace SecurityGroups

/-! ### Tests that can not be made -/

/-- Why a test can not be made, whatever the cell is. -/
inductive Test.Faulty (t : Test) : FilterError → Prop where
  | array : t.op = .among ∨ t.op = .notAmong → (∀ options, t.value ≠ .arr options) →
      Faulty t (.arrayExpected t.field)
  | string : t.op = .contains ∨ t.op = .containsIgnoringCase → (∀ part, t.value ≠ .str part) →
      Faulty t (.stringExpected t.field)

theorem Test.faulty_of_accepts {t : Test} {cell : Cell} {e : FilterError}
    (h : t.accepts cell = .error e) : t.Faulty e := by
  rw [accepts] at h
  split at h
  -- cells that are compared with a value are never refused
  all_goals try cases h
  all_goals
    rename_i hop
    split at h
    · cases h
    · rename_i hvalue
      cases h
      first
        | exact .array (by simp [hop]) hvalue
        | exact .string (by simp [hop]) hvalue

/-! ### The tests of a filter -/

mutual
/-- The tests of a clause, at whatever depth. -/
def Clause.tests : Clause → List Test
  | .test t => [t]
  | .nested _ clauses => Clause.testsOfAll clauses

/-- The tests of some clauses, at whatever depth. -/
def Clause.testsOfAll : List Clause → List Test
  | [] => []
  | c :: rest => c.tests ++ Clause.testsOfAll rest
end

/-- The tests of a filter, at whatever depth. -/
def Filter.tests (f : Filter) : List Test := Clause.testsOfAll f.clauses

mutual
theorem Clause.exists_faulty_of_holds {row : Row} {e : FilterError} :
    ∀ c : Clause, c.holds row = .error e → ∃ t ∈ c.tests, t.Faulty e
  | .test t, h => ⟨t, List.mem_singleton_self t, Test.faulty_of_accepts h⟩
  | .nested .and clauses, h => Clause.exists_faulty_of_allHold clauses h
  | .nested .or [], h => by cases h
  | .nested .or (c :: rest), h => Clause.exists_faulty_of_anyHolds (c :: rest) h

theorem Clause.exists_faulty_of_allHold {row : Row} {e : FilterError} :
    ∀ clauses : List Clause, Clause.allHold clauses row = .error e →
      ∃ t ∈ Clause.testsOfAll clauses, t.Faulty e
  | [], h => by cases h
  | c :: rest, h => by
    rw [Clause.allHold] at h
    split at h
    · rename_i hc
      cases h
      obtain ⟨t, ht, hfaulty⟩ := Clause.exists_faulty_of_holds c hc
      exact ⟨t, List.mem_append_left _ ht, hfaulty⟩
    · obtain ⟨t, ht, hfaulty⟩ := Clause.exists_faulty_of_allHold rest h
      exact ⟨t, List.mem_append_right _ ht, hfaulty⟩
    · cases h

theorem Clause.exists_faulty_of_anyHolds {row : Row} {e : FilterError} :
    ∀ clauses : List Clause, Clause.anyHolds clauses row = .error e →
      ∃ t ∈ Clause.testsOfAll clauses, t.Faulty e
  | [], h => by cases h
  | c :: rest, h => by
    rw [Clause.anyHolds] at h
    split at h
    · rename_i hc
      cases h
      obtain ⟨t, ht, hfaulty⟩ := Clause.exists_faulty_of_holds c hc
      exact ⟨t, List.mem_append_left _ ht, hfaulty⟩
    · cases h
    · obtain ⟨t, ht, hfaulty⟩ := Clause.exists_faulty_of_anyHolds rest h
      exact ⟨t, List.mem_append_right _ ht, hfaulty⟩
end

/-- The error of marking some rows is that of the first row in which the filter can not be
evaluated. -/
theorem Filter.first_of_mark {filter : Filter} {rows : List Row} {e : FilterError}
    (h : filter.mark rows = .error e) : ∃ before row later,
      rows = before ++ row :: later ∧ filter.Decides before ∧ filter.holds row = .error e := by
  induction rows with
  | nil => cases h
  | cons first rest ih =>
    rw [mark] at h
    split at h
    · rename_i hfirst
      cases h
      exact ⟨[], first, rest, rfl, fun _ h => (by cases h), hfirst⟩
    · rename_i hfirst hrest
      cases h
      obtain ⟨before, row, later, rfl, hbefore, hrow⟩ := ih hrest
      refine ⟨first :: before, row, later, rfl, List.forall_mem_cons.2 ⟨?_, hbefore⟩, hrow⟩
      rw [Filter.passes_of_holds hfirst, hfirst]
    · cases h

/-- **A filter that can not be evaluated has a test that can not be made.** -/
theorem Filter.exists_faulty_of_mark {f : Filter} {rows : List Row} {e : FilterError}
    (h : f.mark rows = .error e) : ∃ t ∈ f.tests, t.Faulty e := by
  obtain ⟨before, row, later, -, -, hrow⟩ := Filter.first_of_mark h
  have hclause : f.toClause.holds row = .error e := hrow
  exact Clause.exists_faulty_of_holds f.toClause hclause

/-! ### Listings that are refused -/

namespace Store

variable {s : Store} {table : TableName} {schema : Schema} {filter : Filter} {page : Page}

/-- The error of checking some columns names the first one that the schema does not have. -/
theorem first_of_checkFields {fields : List String} {e : StoreError}
    (h : checkFields schema fields = .error e) :
    ∃ before name later, fields = before ++ name :: later ∧
      (∀ field ∈ before, schema.contains field = true) ∧ schema.contains name = false ∧
        e = .schema (.unknownColumn name) := by
  induction fields with
  | nil => cases h
  | cons first rest ih =>
    rw [checkFields] at h
    split at h
    · rename_i hfirst
      obtain ⟨before, name, later, rfl, hbefore, hname⟩ := ih h
      exact ⟨first :: before, name, later, rfl, List.forall_mem_cons.2 ⟨hfirst, hbefore⟩, hname⟩
    · rename_i hfirst
      cases h
      exact ⟨[], first, rest, rfl, fun _ h => (by cases h), Bool.eq_false_iff.2 hfirst, rfl⟩

theorem unknown_of_checkFields {fields : List String} {e : StoreError}
    (h : checkFields schema fields = .error e) :
    ∃ name ∈ fields, schema.contains name = false ∧ e = .schema (.unknownColumn name) := by
  obtain ⟨before, name, later, rfl, -, hunknown⟩ := first_of_checkFields h
  exact ⟨name, List.mem_append_right _ List.mem_cons_self, hunknown⟩

/-- **A listing within its pages is refused** only for an unknown column in its filter or its order, or
for a test that can not be made. -/
theorem list_error_cases {maxLimit : UInt32} {e : StoreError}
    (hpage : page.check maxLimit = .ok ())
    (h : s.list maxLimit table schema filter page = .error e) :
    (∃ name, (name ∈ filter.fields ∨ page.sort = some name) ∧ schema.contains name = false ∧
      e = .schema (.unknownColumn name)) ∨
    ∃ t ∈ filter.tests, ∃ fault, t.Faulty fault ∧ e = .filter fault := by
  rw [list, hpage] at h
  cases hfields : checkFilter schema filter with
  | error e' =>
    rw [hfields] at h
    cases h
    obtain ⟨name, hname, hunknown, rfl⟩ := unknown_of_checkFields hfields
    exact .inl ⟨name, .inl hname, hunknown, rfl⟩
  | ok _ =>
    cases hsort : checkSort schema page with
    | error e' =>
      rw [hfields, hsort] at h
      cases h
      rw [checkSort] at hsort
      split at hsort
      · rename_i field hfield
        obtain ⟨name, hname, hunknown, rfl⟩ := unknown_of_checkFields hsort
        exact .inl ⟨name, .inr (List.mem_singleton.1 hname ▸ hfield), hunknown, rfl⟩
      · cases hsort
    | ok _ =>
      cases hmark : filter.mark (s.rows table) with
      | error fault =>
        rw [hfields, hsort, mark, hmark] at h
        cases h
        obtain ⟨t, ht, hfaulty⟩ := Filter.exists_faulty_of_mark hmark
        exact .inr ⟨t, ht, fault, hfaulty, rfl⟩
      | ok marked =>
        rw [hfields, hsort, mark, hmark] at h
        cases h

end Store

end SecurityGroups
