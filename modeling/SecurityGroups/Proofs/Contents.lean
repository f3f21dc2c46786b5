/-
SecurityGroups/Proofs/Contents.lean

What a table holds, as a list of entities.

The service writes rows of entities only, so a table can be looked at as a
list of entities (`Store.Holds`).  An insertion puts stamped entities after
those of the list, an update amends some of them where they stand, and a
deletion takes some out; what is read from the table is the list, with every
entity in its normal form (`Entity.ofRows_toRow`).

A table is looked up by the texts of its columns, and `Store.group?` and
`Store.rulesOf` are the two lookups that the service rests on.
-/
import SecurityGroups.Proofs.Entities

namespace SecurityGroups

/-! ### Lists of entities -/

section

variable {α : Type} [Entity α] [LawfulEntity α]

/-- The rows of some entities are read as the entities, each in its normal form. -/
theorem Entity.ofRows_toRow (es : List α) :
    Entity.ofRows (es.map Entity.toRow) = .ok (es.map LawfulEntity.normal) := by
  rw [Entity.ofRows_eq_ok, List.forall₂_map_left_iff, List.forall₂_map_right_iff,
    List.forall₂_same]
  intro e _
  exact LawfulEntity.ofRow_toRow e

namespace Store

variable {supply : Supply} {config : Config} {s s' : Store} {t : TableName} {es : List α}
  {filter : Filter}

omit [LawfulEntity α] in
/-- Rows each of which is that of an entity are those of a list of entities. -/
theorem exists_eq_map_toRow {P : α → Prop} {rows : List Row}
    (h : ∀ row ∈ rows, ∃ e : α, row = Entity.toRow e ∧ P e) :
    ∃ es : List α, rows = es.map Entity.toRow ∧ ∀ e ∈ es, P e := by
  induction rows with
  | nil => exact ⟨[], rfl, fun _ he => by cases he⟩
  | cons row rows ih =>
    obtain ⟨e, rfl, he⟩ := h row List.mem_cons_self
    obtain ⟨es, rfl, hes⟩ := ih fun r hr => h r (List.mem_cons_of_mem _ hr)
    exact ⟨e :: es, rfl, List.forall_mem_cons.2 ⟨he, hes⟩⟩

/-- The table of the entities holds these, in this order. -/
def Holds (s : Store) (es : List α) : Prop := s.rows (Entity.table α) = es.map Entity.toRow

omit [LawfulEntity α] in
theorem Holds.toRow_mem (h : s.Holds es) {e : α} (he : e ∈ es) :
    Entity.toRow e ∈ s.rows (Entity.table α) := by
  rw [h]
  exact List.mem_map_of_mem he

/-- New entities are stamped and put after those that were there. -/
theorem Holds.insert (h : s.Holds es) (new : List α) :
    (s.afterInsert supply (Entity.table α) (Entity.schema α) (new.map Entity.toRow)).Holds
      (es ++ List.zipWith (fun id e => LawfulEntity.stamp id (supply.clock s.ticks) e)
        (s.nextIds supply new.length) new) := by
  have hfresh : s.freshRows supply (Entity.schema α) (new.map Entity.toRow) =
      (List.zipWith (fun id e => LawfulEntity.stamp id (supply.clock s.ticks) e)
        (s.nextIds supply new.length) new).map Entity.toRow := by
    rw [freshRows, List.length_map, List.zipWith_map_right, List.map_zipWith]
    simp only [LawfulEntity.stored_toRow]
  show (s.withRows (Entity.table α) _).rows (Entity.table α) = _
  rw [rows_withRows_self, hfresh, h, List.map_append]

/-- Entities that pass the filter of an update are amended where they stand. -/
theorem Holds.update (h : s.Holds es) (u : α) :
    (s.afterUpdate supply (Entity.table α) (Entity.schema α) filter (Entity.updateRow u)).Holds
      (es.map fun e => if filter.passes (Entity.toRow e) then
        LawfulEntity.amend (supply.clock s.ticks) u e else e) := by
  show (s.withRows (Entity.table α) _).rows (Entity.table α) = _
  rw [rows_withRows_self, h, List.map_map, List.map_map]
  refine List.map_congr_left ?_
  intro e _
  simp only [Function.comp_apply, LawfulEntity.revised_toRow]
  exact (apply_ite _ _ _ _).symm

omit [LawfulEntity α] in
/-- Entities that pass the filter of a deletion are taken out. -/
theorem Holds.delete (h : s.Holds es) : (s.afterDelete (Entity.table α) filter).Holds
    (es.filter fun e => !filter.passes (Entity.toRow e)) := by
  show (s.withRows (Entity.table α) _).rows (Entity.table α) = _
  rw [rows_withRows_self, h, List.filter_map]
  rfl

/-! ### Ids -/

omit [LawfulEntity α] in
/-- Where ids are distinct, the entities of a table have distinct ids. -/
theorem Holds.nodup_ids {id : α → String} (h : s.Holds es) (hd : s.Distinct supply)
    (hid : ∀ e : α, (Entity.toRow e).get? "id" = some (.string (id e))) : (es.map id).Nodup := by
  have hrows := hd.nodup (Entity.table α)
  have hids : es.map ((·.get? "id") ∘ Entity.toRow) =
      (es.map id).map fun id => some (Cell.string id) := by
    rw [List.map_map]
    exact List.map_congr_left fun e _ => hid e
  rw [h, List.map_map, hids] at hrows
  exact hrows.of_map

/-! ### Other tables -/

theorem rows_afterInsert_of_ne {table : TableName} {schema : Schema} {rows : List Row}
    (ht : t ≠ table) : (s.afterInsert supply table schema rows).rows t = s.rows t :=
  rows_withRows_of_ne ht s _

theorem rows_afterUpdate_of_ne {table : TableName} {schema : Schema} {values : Row}
    (ht : t ≠ table) : (s.afterUpdate supply table schema filter values).rows t = s.rows t :=
  rows_withRows_of_ne ht s _

end Store

end

/-! ### Filters -/

/-- A filter that can be evaluated in any row can be evaluated in some. -/
theorem Filter.decides_of_holds {f : Filter} {p : Row → Bool} (h : ∀ row, f.holds row = .ok (p row))
    (rows : List Row) : f.Decides rows := by
  intro row _
  rw [Filter.passes_of_holds (h row), h row]

theorem Filter.holds_equal (name text : String) (row : Row) :
    (Filter.equal name (.str text)).holds row = .ok ((row.cell name).sameAs (.str text)) := by
  simp only [Filter.equal, Filter.allOf, Filter.holds, Filter.toClause, List.map_cons, List.map_nil,
    Clause.holds, Clause.allHold, Test.holds, Test.accepts]
  cases h : (row.cell name).sameAs (.str text) <;> rfl

theorem Service.holds_ruleOfGroup (groupId ruleId : String) (row : Row) :
    (ruleOfGroup groupId ruleId).holds row = .ok ((row.cell "id").sameAs (.str ruleId) &&
      (row.cell "security_group_id").sameAs (.str groupId)) := by
  simp only [ruleOfGroup, Filter.adding, Filter.equal, Filter.allOf, Filter.holds, Filter.toClause,
    List.map_cons, List.map_nil, List.cons_append, List.nil_append, Clause.holds, Clause.allHold,
    Test.holds, Test.accepts]
  cases h : (row.cell "id").sameAs (.str ruleId)
  · rfl
  · cases h' : (row.cell "security_group_id").sameAs (.str groupId) <;> rfl

theorem Row.sameAs_cell {row : Row} {name text : String} (h : row.get? name = some (.string text))
    (other : String) : (row.cell name).sameAs (.str other) = decide (text = other) := by
  rw [Row.cell_of_get? h, Bool.eq_iff_iff, Cell.sameAs_text rfl, Cell.string.injEq, decide_eq_true_iff]

theorem Group.passes_equal_toRow (id : String) (g : Group) :
    (Filter.equal "id" (.str id)).passes (Entity.toRow g) = decide (g.id = id) := by
  rw [Filter.passes_of_holds (Filter.holds_equal "id" id _), Row.sameAs_cell g.get?_id_toRow]

theorem RuleEntry.passes_ruleOfGroup_toRow {R : Type} [Shape R] [LawfulShape R]
    (groupId ruleId : String) (e : RuleEntry R) :
    (Service.ruleOfGroup groupId ruleId).passes (Entity.toRow e) =
      decide (e.id = ruleId ∧ e.groupId = groupId) := by
  rw [Filter.passes_of_holds (Service.holds_ruleOfGroup groupId ruleId _),
    Row.sameAs_cell e.get?_id_toRow, Row.sameAs_cell e.get?_groupId_toRow, Bool.decide_and]

/-! ### Lookups -/

namespace Store

variable {s : Store}

/-- The group of an id, the first one if there are more. -/
def group? (s : Store) (id : String) : Option Group :=
  (s.rows .groups).findSome? fun row =>
    match Entity.ofRow row with
    | .ok (g : Group) => if g.id = id then some g else none
    | .error _ => none

theorem id_of_group? {id : String} {g : Group} (h : s.group? id = some g) : g.id = id := by
  obtain ⟨row, -, hrow⟩ := List.exists_of_findSome?_eq_some h
  split at hrow
  · split at hrow
    · rename_i hid
      cases hrow
      exact hid
    · cases hrow
  · cases hrow

theorem Holds.group?_eq {gs : List Group} (h : s.Holds gs) (id : String) :
    s.group? id = gs.find? (·.id = id) := by
  have hrows : s.rows .groups = gs.map Entity.toRow := h
  rw [group?, hrows, List.findSome?_map, List.find?_eq_findSome?_guard]
  congr 1
  funext g
  have hread : Entity.ofRow (Entity.toRow g) = .ok g := LawfulEntity.ofRow_toRow g
  simp [hread, Option.guard]

theorem Holds.mem_of_group? {gs : List Group} (h : s.Holds gs) {id : String} {g : Group}
    (hg : s.group? id = some g) : g ∈ gs := by
  rw [h.group?_eq] at hg
  exact List.mem_of_find?_eq_some hg

/-- The rows of the rules of a group in a cloud. -/
def rulesOf (s : Store) (c : RuleCloud) (groupId : String) : List Row :=
  (s.rows c.table).filter fun row => (row.cell "security_group_id").string? = some groupId

theorem Holds.rows_table {c : RuleCloud} {es : List (RuleEntry c.Rule)} (h : s.Holds es) :
    s.rows c.table = es.map Entity.toRow := h

theorem Holds.rulesOf_eq {c : RuleCloud} {es : List (RuleEntry c.Rule)} (h : s.Holds es)
    (groupId : String) :
    s.rulesOf c groupId = (es.filter (·.groupId = groupId)).map Entity.toRow := by
  rw [rulesOf, h.rows_table, List.filter_map]
  refine congrArg (List.map Entity.toRow) (List.filter_congr ?_)
  intro e _
  simp [e.string?_groupId_toRow]

end Store

end SecurityGroups
