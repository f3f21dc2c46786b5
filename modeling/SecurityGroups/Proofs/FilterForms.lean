/-
SecurityGroups/Proofs/FilterForms.lean

Filters written as JSON and read back.

Nothing but the member `op` tells a test from a filter: it names an operator in the one and a
connective in the other, and no name is both (`Filter.ofJson?_eq_none_of_test`).  So it does not
matter that a clause is tried as a test first, and each of the two is told by its own members
(`Test.ofJson?_obj_eq_some_iff`, `Filter.ofJson?_obj_eq_some_iff`): whatever else stands in an
object, a test stays a test and a filter a filter.
-/
import SecurityGroups.Query.Filter

namespace SecurityGroups

/-! ### Names -/

/-- The value is a name: a string, or an object with that name alone. -/
def Json.Names (name : String) (json : Json) : Prop :=
  json = .str name ∨ json = .obj [(name, .null)]

theorem Json.Names.inj {name other : String} {json : Json} (h : json.Names name)
    (h' : json.Names other) : name = other := by
  rcases h with rfl | rfl <;> rcases h' with h' | h' <;> cases h' <;> rfl

/-- A choice is made by the names of what can be chosen. -/
theorem Json.choice?_eq_some_iff {α : Type} {find : String → Option α} {name : α → String}
    (hfind : ∀ x, find (name x) = some x) (hname : ∀ {s x}, find s = some x → name x = s)
    {json : Json} {x : α} : json.choice? find = some x ↔ json.Names (name x) := by
  have h : ∀ s, find s = some x ↔ s = name x :=
    fun s => ⟨fun hs => (hname hs).symm, fun hs => hs ▸ hfind x⟩
  rw [Names]
  unfold choice?
  split
  · simp [h]
  · simp [h]
  · rename_i hstr hobj
    constructor
    · rintro ⟨⟩
    · rintro (rfl | rfl)
      · exact absurd rfl (hstr _)
      · exact absurd rfl (hobj _)

theorem Json.text?_eq_some_iff {json : Json} {s : String} :
    json.text? = some s ↔ json = .str s := by
  cases json <;> simp [text?]

theorem Operator.name_of_find? {s : String} {o : Operator} (h : find? s = some o) : o.name = s := by
  simpa using List.find?_some h

theorem Connective.name_of_find? {s : String} {c : Connective} (h : find? s = some c) :
    c.name = s := by
  simpa using List.find?_some h

/-- No operator is called like a connective. -/
theorem Operator.name_ne_name (o : Operator) (c : Connective) : o.name ≠ c.name := by
  cases o <;> cases c <;> decide

/-! ### Objects -/

/-- A field that may not be missing is read from what is there. -/
theorem Members.require_eq_some_iff {α : Type} {ms : Members} {name : String}
    {read : Json → Option α} {x : α} :
    ms.require name read = some x ↔ ∃ json, ms.find? name = some json ∧ read json = some x :=
  Option.bind_eq_some_iff

/-- **An object is a test** exactly when its three members are there and `op` names an operator. -/
theorem Test.ofJson?_obj_eq_some_iff {ms : Members} {t : Test} :
    Test.ofJson? (.obj ms) = some t ↔ (∃ op, ms.find? "op" = some op ∧ op.Names t.op.name) ∧
      ms.find? "field" = some (.str t.field) ∧ ms.find? "value" = some t.value := by
  have hread : Test.ofJson? (.obj ms) = do
      let field ← ms.require "field" Json.text?
      let op ← ms.require "op" (Json.choice? Operator.find?)
      let value ← ms.require "value" some
      return ⟨field, op, value⟩ := rfl
  obtain ⟨field, op, value⟩ := t
  rw [hread]
  simp only [Option.bind_eq_bind, Option.bind_eq_some_iff, Option.pure_def,
    Members.require_eq_some_iff, Json.text?_eq_some_iff,
    Json.choice?_eq_some_iff Operator.find?_name Operator.name_of_find?, Option.some.injEq,
    Test.mk.injEq]
  constructor
  · rintro ⟨_, ⟨_, hfield, rfl⟩, _, hop, _, ⟨_, hvalue, rfl⟩, rfl, rfl, rfl⟩
    exact ⟨hop, hfield, hvalue⟩
  · rintro ⟨hop, hfield, hvalue⟩
    exact ⟨_, ⟨_, hfield, rfl⟩, _, hop, _, ⟨_, hvalue, rfl⟩, rfl, rfl, rfl⟩

/-- The items of an array of clauses are read one by one. -/
theorem Clause.ofItems?_eq_mapM (items : List Json) :
    Clause.ofItems? items = items.mapM Clause.ofJson? := by
  induction items with
  | nil => rfl
  | cons json rest ih =>
    rw [List.mapM_cons, ← ih, ofItems?, ofJson?]
    cases Test.ofJson? json <;> cases Filter.ofJson? json <;> cases Clause.ofItems? rest <;> rfl

/-- The clauses of a filter are the items of its member `rules`; without the member there are
none. -/
theorem Clause.ofMembers?_eq_some_iff {ms : Members} {clauses : List Clause} :
    Clause.ofMembers? ms = some clauses ↔
      ms.find? "rules" = none ∧ clauses = [] ∨
        ∃ items, ms.find? "rules" = some (.arr items) ∧
          items.mapM Clause.ofJson? = some clauses := by
  rw [ofMembers?_eq]
  cases ms.find? "rules" with
  | none => simp [eq_comm]
  | some json => cases json <;> simp [ofArray?, ofItems?_eq_mapM]

/-- **An object is a filter** exactly when `op` names a connective and its clauses can be read. -/
theorem Filter.ofJson?_obj_eq_some_iff {ms : Members} {f : Filter} :
    Filter.ofJson? (.obj ms) = some f ↔ (∃ op, ms.find? "op" = some op ∧ op.Names f.op.name) ∧
      Clause.ofMembers? ms = some f.clauses := by
  obtain ⟨op, clauses⟩ := f
  rw [Filter.ofJson?]
  simp only [join?, Option.bind_eq_bind, Option.bind_eq_some_iff, Option.pure_def,
    Json.choice?_eq_some_iff Connective.find?_name Connective.name_of_find?, Option.some.injEq,
    Filter.mk.injEq]
  constructor
  · rintro ⟨json, hjson, _, hop, _, hclauses, rfl, rfl⟩
    exact ⟨⟨json, hjson, hop⟩, hclauses⟩
  · rintro ⟨⟨json, hjson, hop⟩, hclauses⟩
    exact ⟨json, hjson, _, hop, _, hclauses, rfl, rfl⟩

/-- The member `op` of a test does not make a filter, whatever stands beside it. -/
theorem Filter.ofJson?_eq_none_of_test {ms ms' : Members} {t : Test}
    (hop : ms'.find? "op" = ms.find? "op") (ht : Test.ofJson? (.obj ms) = some t) :
    Filter.ofJson? (.obj ms') = none := by
  refine Option.eq_none_iff_forall_ne_some.2 fun f hf => ?_
  obtain ⟨⟨json, hjson, hname⟩, -⟩ := Test.ofJson?_obj_eq_some_iff.1 ht
  obtain ⟨⟨json', hjson', hname'⟩, -⟩ := Filter.ofJson?_obj_eq_some_iff.1 hf
  obtain rfl := Option.some.inj (hjson.symm.trans (hop.symm.trans hjson'))
  exact t.op.name_ne_name f.op (hname.inj hname')

namespace Clause

variable {ms ms' : Members} {c c' : Clause}

theorem ofJson?_eq_test {json : Json} {t : Test} :
    Clause.ofJson? json = some (.test t) ↔ Test.ofJson? json = some t := by
  rw [ofJson?]
  cases Test.ofJson? json with
  | some t' => simp
  | none => cases Filter.ofJson? json <;> simp [Filter.toClause]

/-- What can be read as a filter can not be read as a test. -/
theorem ofJson?_obj_eq_nested {op : Connective} {clauses : List Clause} :
    Clause.ofJson? (.obj ms) = some (.nested op clauses) ↔
      Filter.ofJson? (.obj ms) = some ⟨op, clauses⟩ := by
  have hclause : ∀ f : Filter, f.toClause = .nested op clauses ↔ f = ⟨op, clauses⟩ := by
    rintro ⟨op', clauses'⟩
    simp [Filter.toClause]
  rw [ofJson?]
  cases ht : Test.ofJson? (.obj ms) with
  | none => simp [Option.map_eq_some_iff, hclause]
  | some t => simp [Filter.ofJson?_eq_none_of_test rfl ht]

/-- Whether a clause is a test. -/
def isTest : Clause → Bool
  | .test _ => true
  | .nested .. => false

/-- **The member `op` alone tells** whether an object is a test. -/
theorem isTest_eq_of_find?_op (hop : ms'.find? "op" = ms.find? "op")
    (h : Clause.ofJson? (.obj ms) = some c) (h' : Clause.ofJson? (.obj ms') = some c') :
    c'.isTest = c.isTest := by
  cases c with
  | test t =>
    cases c' with
    | test t' => rfl
    | nested op' clauses' =>
      have hnone := Filter.ofJson?_eq_none_of_test hop (ofJson?_eq_test.1 h)
      cases hnone.symm.trans (ofJson?_obj_eq_nested.1 h')
  | nested op clauses =>
    cases c' with
    | test t' =>
      have hnone := Filter.ofJson?_eq_none_of_test hop.symm (ofJson?_eq_test.1 h')
      cases hnone.symm.trans (ofJson?_obj_eq_nested.1 h)
    | nested op' clauses' => rfl

/-- The members of an object that tell which clause it is. -/
def keys : Clause → List String
  | .test _ => ["op", "field", "value"]
  | .nested .. => ["op", "rules"]

/-- Members that a clause does not have are not looked at. -/
theorem ofJson?_put_of_not_mem {key : String} (h : Clause.ofJson? (.obj ms) = some c)
    (hkey : key ∉ c.keys) (value : Json) : Clause.ofJson? (.obj (ms.put key value)) = some c := by
  cases c with
  | test t =>
    simp only [keys, List.mem_cons, List.not_mem_nil, or_false, not_or] at hkey
    obtain ⟨hop, hfield, hvalue⟩ := hkey
    rw [ofJson?_eq_test, Test.ofJson?_obj_eq_some_iff] at h ⊢
    rwa [Members.find?_put_of_ne hop, Members.find?_put_of_ne hfield,
      Members.find?_put_of_ne hvalue]
  | nested op clauses =>
    simp only [keys, List.mem_cons, List.not_mem_nil, or_false, not_or] at hkey
    obtain ⟨hop, hrules⟩ := hkey
    rw [ofJson?_obj_eq_nested, Filter.ofJson?_obj_eq_some_iff, ofMembers?_eq] at h ⊢
    rwa [Members.find?_put_of_ne hop, Members.find?_put_of_ne hrules]

end Clause

/-! ### Reading back -/

mutual

/-- **A clause is read back**, a test as a test and a filter as a filter. -/
theorem Clause.ofJson?_toJson : ∀ c : Clause, Clause.ofJson? c.toJson = some c
  | .test t => by
    rw [toJson]
    exact ofJson?_eq_test.2 (Test.ofJson?_obj_eq_some_iff.2 ⟨⟨_, rfl, .inl rfl⟩, rfl, rfl⟩)
  | .nested op clauses => by
    rw [toJson]
    exact ofJson?_obj_eq_nested.2 (Filter.ofJson?_obj_eq_some_iff.2
      ⟨⟨_, rfl, .inl rfl⟩, Clause.ofItems?_toJsonAll clauses⟩)

theorem Clause.ofItems?_toJsonAll : ∀ clauses : List Clause,
    Clause.ofItems? (Clause.toJsonAll clauses) = some clauses
  | [] => rfl
  | c :: rest => by
    rw [toJsonAll, ofItems?_eq_mapM, List.mapM_cons, ← ofItems?_eq_mapM, ofJson?_toJson c,
      ofItems?_toJsonAll rest]
    rfl

end

theorem Filter.ofJson?_toJson (f : Filter) : Filter.ofJson? f.toJson = some f := by
  have hclause := Clause.ofJson?_toJson f.toClause
  rw [toClause, Clause.toJson] at hclause
  rw [toJson, toClause, Clause.toJson]
  exact Clause.ofJson?_obj_eq_nested.1 hclause

/-- **Filters are read back from JSON, and their objects are read in one way only.**  What is
written of a filter is read as that filter, at any depth.  An object among the clauses of a filter
is a test exactly when `op` names an operator and there are a field and a value, and a filter
exactly when `op` names a connective and there are clauses that can be read, or no member for them.
Members that what is read does not have change nothing; one that it has, other than `op`, may change
what it says but not whether it is a test. -/
theorem filters_read_back :
    (∀ f : Filter, Filter.ofJson? f.toJson = some f) ∧
    (∀ (ms : Members) (t : Test), Clause.ofJson? (.obj ms) = some (.test t) ↔
      (∃ op, ms.find? "op" = some op ∧ op.Names t.op.name) ∧
        ms.find? "field" = some (.str t.field) ∧ ms.find? "value" = some t.value) ∧
    (∀ (ms : Members) (f : Filter), Filter.ofJson? (.obj ms) = some f ↔
      (∃ op, ms.find? "op" = some op ∧ op.Names f.op.name) ∧
        (ms.find? "rules" = none ∧ f.clauses = [] ∨ ∃ items,
          ms.find? "rules" = some (.arr items) ∧
            items.mapM Clause.ofJson? = some f.clauses)) ∧
    (∀ (ms : Members) (f : Filter), Clause.ofJson? (.obj ms) = some (.nested f.op f.clauses) ↔
      Filter.ofJson? (.obj ms) = some f) ∧
    ∀ (ms : Members) (c : Clause), Clause.ofJson? (.obj ms) = some c →
      ∀ (key : String) (value : Json),
        (key ∉ c.keys → Clause.ofJson? (.obj (ms.put key value)) = some c) ∧
        (key ≠ "op" → ∀ c', Clause.ofJson? (.obj (ms.put key value)) = some c' →
          c'.isTest = c.isTest) := by
  refine ⟨Filter.ofJson?_toJson, fun ms t => ?_, fun ms f => ?_, fun ms f => ?_, ?_⟩
  · exact Clause.ofJson?_eq_test.trans Test.ofJson?_obj_eq_some_iff
  · rw [Filter.ofJson?_obj_eq_some_iff, Clause.ofMembers?_eq_some_iff]
  · exact Clause.ofJson?_obj_eq_nested
  · intro ms c h key value
    refine ⟨fun hkey => Clause.ofJson?_put_of_not_mem h hkey value, fun hop c' h' => ?_⟩
    exact Clause.isTest_eq_of_find?_op (Members.find?_put_of_ne hop value ms) h h'

/-- A filter that looks like a test: it stays one when it gets a value, and also with clauses. -/
theorem filters_read_back_lookalike :
    let ms : Members := [("op", .str "or"), ("field", .str "name")]
    let rules : Json := .arr [.obj [("op", .str "eq"), ("field", .str "id"), ("value", .null)]]
    Clause.ofJson? (.obj ms) = some (.nested .or []) ∧
      Clause.ofJson? (.obj (ms.put "value" rules)) = some (.nested .or []) ∧
      ∃ c, Clause.ofJson? (.obj (ms.put "rules" rules)) = some c ∧ c.isTest = false := by
  intro ms rules
  have hms : Clause.ofJson? (.obj ms) = some (.nested .or []) := rfl
  obtain ⟨-, -, -, -, hothers⟩ := filters_read_back
  refine ⟨hms, (hothers ms _ hms "value" rules).1 (by decide), _, rfl, ?_⟩
  exact (hothers ms _ hms "rules" rules).2 (by decide) _ rfl

end SecurityGroups
