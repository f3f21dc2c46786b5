/-
SecurityGroups/Proofs/RuleUpdate.lean

Which rules can be updated, and what an update leaves alone.

An update reads the rule, lays its own fields over it and writes all columns of
the rule again.  Nothing is lost on the way: the row is read back with the fields
of the update laid over the rule (`RuleEntry.updated`), and a column that the
update omits has the cell that it had (`RuleEntry.get?_toRow_updated`).  Where ids
are distinct, no other row is reached (`updateRule_revises_one_row`).
-/
import SecurityGroups.Proofs.Completion
import SecurityGroups.Proofs.EntryChecks
import SecurityGroups.Proofs.Inventory

namespace SecurityGroups

open Service

/-! ### Updated entries -/

namespace RuleEntry

variable {U R : Type} [Shape R] [Change U R] {user : String} {now : Instant}

/-- A rule of a group as it is read back after it was updated. -/
def updated (user : String) (now : Instant) (u : U) (e : RuleEntry R) : RuleEntry R :=
  { e with
    rule := Change.apply u e.rule
    audit := { e.audit with reviser := user, updatedAt := some now } }

variable [LawfulShape R]

/-- What is written over an entry makes it the entry that is updated as it was read. -/
theorem amend_revisedEntry (u : U) (e : RuleEntry R) :
    LawfulEntity.amend now (revisedEntry user e.direction
      (Change.apply u (LawfulShape.undeclared e.rule))) e =
        updated user now u (LawfulEntity.normal e) := rfl

variable [LawfulChange U R]

/-- A rule that was read back declares no direction, and no update makes it declare one. -/
theorem declared_apply_undeclared (u : U) (rule : R) :
    Shape.declared (Change.apply u (LawfulShape.undeclared rule)) = none := by
  rw [LawfulChange.declared_apply, LawfulShape.declared_undeclared]

theorem ofRow_toRow_updated (u : U) (e : RuleEntry R) :
    Entity.ofRow (Entity.toRow (updated user now u (LawfulEntity.normal e))) =
      .ok (updated user now u (LawfulEntity.normal e)) := by
  have hrule : LawfulShape.undeclared (Change.apply u (LawfulShape.undeclared e.rule)) =
      Change.apply u (LawfulShape.undeclared e.rule) :=
    LawfulShape.undeclared_of_declared _ (declared_apply_undeclared u e.rule)
  rw [LawfulEntity.ofRow_toRow]
  exact congrArg (fun rule => Except.ok { updated user now u (LawfulEntity.normal e) with rule }) hrule

/-- A cell stays if it is neither stamped nor that of a field with another value. -/
theorem get?_toRow_amend (now : Instant) (v e : RuleEntry R) {name : String}
    (hreviser : name ≠ "reviser") (htime : name ≠ "updated_at")
    (hrule : ∀ a ∈ Shape.stored R, a.name = name → a.get v.rule = a.get e.rule) :
    (Entity.toRow (amend now v e)).get? name = (Entity.toRow e).get? name := by
  have hget : ∀ a ∈ attributes (R := R), a.name = name → a.get (amend now v e) = a.get e := by
    refine forall_attributes ?_ hrule ?_
    · intro a ha
      simp only [ownerAttributes, List.mem_cons, List.not_mem_nil, or_false] at ha
      rcases ha with rfl | rfl | rfl | rfl | rfl | rfl | rfl <;> exact fun _ => rfl
    · intro a ha
      simp only [Audit.attributes, List.mem_cons, List.not_mem_nil, or_false] at ha
      rcases ha with rfl | rfl | rfl | rfl
      · exact fun _ => rfl
      · exact fun hname => absurd hname.symm hreviser
      · exact fun _ => rfl
      · exact fun hname => absurd hname.symm htime
  by_cases hname : name ∈ Attribute.names (attributes (R := R))
  · obtain ⟨a, ha, rfl⟩ := List.mem_map.1 hname
    have hmem : a ∈ Entity.attributes (α := RuleEntry R) := ha
    rw [LawfulEntity.get?_toRow _ hmem, LawfulEntity.get?_toRow _ hmem, hget a ha rfl]
  · rw [LawfulEntity.get?_toRow_of_not_mem _ hname, LawfulEntity.get?_toRow_of_not_mem _ hname]

/-- **Cells that an update has nothing to do with stay.** -/
theorem get?_toRow_updated (u : U) (e : RuleEntry R) {name : String} (hreviser : name ≠ "reviser")
    (htime : name ≠ "updated_at") (homits : Change.Omits u name) :
    (Entity.toRow (updated user now u (LawfulEntity.normal e))).get? name =
      (Entity.toRow e).get? name := by
  rw [← amend_revisedEntry u e]
  refine get?_toRow_amend now _ e hreviser htime ?_
  -- what the update omits is what was read, and that is what was there
  rintro a ha rfl
  exact (LawfulChange.get_apply ha homits _).trans (LawfulShape.get_undeclared _ a ha)

end RuleEntry

/-! ### One row -/

section

variable {config : Store.Config} {s s' : Store}

/-- Where ids are distinct, no other entry has the id of an entry. -/
theorem Store.Holds.exists_split {supply : Supply} {R : Type} [Shape R] [LawfulShape R]
    {es : List (RuleEntry R)} (hes : s.Holds es) (hd : s.Distinct supply) {e : RuleEntry R}
    (he : e ∈ es) : ∃ before later, es = before ++ e :: later ∧
      ∀ other ∈ before ++ later, other.id ≠ e.id := by
  have hnodup := hes.nodup_ids hd RuleEntry.get?_id_toRow
  obtain ⟨before, later, rfl⟩ := List.append_of_mem he
  rw [List.map_append, List.map_cons, List.nodup_middle, List.nodup_cons, ← List.map_append] at hnodup
  refine ⟨before, later, rfl, ?_⟩
  intro other hother hid
  exact hnodup.1 (hid ▸ List.mem_map_of_mem hother)

/-- Where no other entry has its id, an entry is found by its id and its group. -/
theorem RuleEntry.find?_own {R : Type} {before later : List (RuleEntry R)} (e : RuleEntry R)
    (hother : ∀ other ∈ before ++ later, other.id ≠ e.id) :
    (before ++ e :: later).find? (fun other => other.id = e.id ∧ other.groupId = e.groupId) =
      some e := by
  refine List.find?_eq_some_iff_append.2 ⟨decide_eq_true ⟨rfl, rfl⟩, before, later, rfl, ?_⟩
  intro other hmem
  simp [hother other (List.mem_append_left _ hmem)]

/-- The rule of a group by its id, as a row of its table and as an entry. -/
theorem Store.Holds.exists_row_iff {supply : Supply} {c : RuleCloud} {es : List (RuleEntry c.Rule)}
    (hes : s.Holds es) (hd : s.Distinct supply) {groupId ruleId : String}
    {P : RuleEntry c.Rule → Prop} :
    (∃ e, es.find? (fun e => e.id = ruleId ∧ e.groupId = groupId) = some e ∧
        P (LawfulEntity.normal e)) ↔
      ∃ row ∈ s.rows c.table, (row.cell "id").string? = some ruleId ∧
        (row.cell "security_group_id").string? = some groupId ∧
        ∃ e : RuleEntry c.Rule, Entity.ofRow row = .ok e ∧ P e := by
  constructor
  · rintro ⟨e, hfind, hP⟩
    obtain ⟨hid, hgroup⟩ : e.id = ruleId ∧ e.groupId = groupId := by
      simpa using List.find?_some hfind
    exact ⟨_, hes.toRow_mem (List.mem_of_find?_eq_some hfind), hid ▸ e.string?_id_toRow,
      hgroup ▸ e.string?_groupId_toRow, _, LawfulEntity.ofRow_toRow e, hP⟩
  · rintro ⟨row, hrow, hid, hgroup, e, hread, hP⟩
    rw [hes.rows_table] at hrow
    obtain ⟨e', he, rfl⟩ := List.mem_map.1 hrow
    rw [LawfulEntity.ofRow_toRow] at hread
    cases hread
    rw [e'.string?_id_toRow, Option.some.injEq] at hid
    rw [e'.string?_groupId_toRow, Option.some.injEq] at hgroup
    refine ⟨e', ?_, hP⟩
    obtain ⟨before, later, rfl, hother⟩ := hes.exists_split hd he
    rw [← hid, ← hgroup]
    exact e'.find?_own hother

/-- An update of the rules with the id and the group of an entry reaches no other entry. -/
theorem Store.Holds.update_rule (supply : Supply) {R : Type} [Shape R] [LawfulShape R]
    {before later : List (RuleEntry R)} {e : RuleEntry R} (hes : s.Holds (before ++ e :: later))
    (hother : ∀ other ∈ before ++ later, other.id ≠ e.id) (update : RuleEntry R) :
    (s.afterUpdate supply (Entity.table (RuleEntry R)) (Entity.schema (RuleEntry R))
      (ruleOfGroup e.groupId e.id) (Entity.updateRow update)).Holds
        (before ++ LawfulEntity.amend (supply.clock s.ticks) update e :: later) := by
  have hpasses : ∀ other : RuleEntry R, (ruleOfGroup e.groupId e.id).passes (Entity.toRow other) =
      decide (other.id = e.id ∧ other.groupId = e.groupId) :=
    RuleEntry.passes_ruleOfGroup_toRow e.groupId e.id
  have hafter : (s.afterUpdate supply _ _ (ruleOfGroup e.groupId e.id) _).Holds _ :=
    hes.update update
  have hkept : ∀ es : List (RuleEntry R), (∀ other ∈ es, other.id ≠ e.id) →
      es.map (fun other => if (ruleOfGroup e.groupId e.id).passes (Entity.toRow other) then
        LawfulEntity.amend (supply.clock s.ticks) update other else other) = es := by
    intro es hne
    refine (List.map_congr_left ?_).trans (List.map_id es)
    intro other hmem
    rw [hpasses, decide_eq_false fun h => hne other hmem h.1]
    rfl
  rw [List.forall_mem_append] at hother
  rw [List.map_append, List.map_cons, hkept before hother.1, hkept later hother.2, hpasses,
    if_pos (decide_eq_true ⟨rfl, rfl⟩)] at hafter
  exact hafter

/-- **An update of a rule changes one row.**  It is accepted exactly when it passes its own check, the
group is there and belongs to the cloud, the rule is there, the user has between 1 and 64 characters,
and the rule with the fields of the update laid over it passes its check.  Then one row changes: it
is read with the fields laid over, its reviser and the time of the update, and every other cell that
the update omits stays. -/
theorem updateRule_revises_one_row (hs : Function.Injective config.supply.id)
    (hlimit : 0 < config.maxLimit) (hreach : s.Reachable config) (c : RuleCloud) (limit : UInt32)
    (user groupId ruleId : String) (u : c.Update) :
    (((updateRule limit user groupId ruleId u).run config s).1 = .ok () ↔
      Change.check u = .ok () ∧
      (∃ owner, s.group? groupId = some owner ∧ owner.vendor = some c.vendor) ∧
      (∃ row ∈ s.rows c.table, (row.cell "id").string? = some ruleId ∧
        (row.cell "security_group_id").string? = some groupId ∧
        ∃ e : RuleEntry c.Rule, Entity.ofRow row = .ok e ∧
          Shape.check (Change.apply u e.rule) = .ok ()) ∧
      1 ≤ user.length ∧ user.length ≤ 64) ∧
    ∀ s', (updateRule limit user groupId ruleId u).run config s = (.ok (), s') →
      (∀ t ≠ c.table, s'.rows t = s.rows t) ∧
      ∃ before row row' later, s.rows c.table = before ++ row :: later ∧
        s'.rows c.table = before ++ row' :: later ∧ (row.cell "id").string? = some ruleId ∧
        (row.cell "security_group_id").string? = some groupId ∧
        ∃ e : RuleEntry c.Rule, Entity.ofRow row = .ok e ∧
          Entity.ofRow row' = .ok (e.updated user (config.supply.clock s.ticks) u) ∧
          ∀ name, name ≠ "reviser" → name ≠ "updated_at" → Change.Omits u name →
            row'.get? name = row.get? name := by
  have hd := hreach.distinct hs
  obtain ⟨es, hes, -⟩ := hreach.readable.exists_entries c
  have hrun : ∀ s', (updateRule limit user groupId ruleId u).run config s = (.ok (), s') ↔ _ :=
    fun s' => run_updateRule_eq_ok hreach.readable hes
  have hcheck : ∀ e : RuleEntry c.Rule, Entity.updateCheck (revisedEntry user e.direction
      (Change.apply u (LawfulShape.undeclared e.rule))) = .ok () ↔ _ := fun e =>
    RuleEntry.updateCheck_revisedEntry (RuleEntry.declared_apply_undeclared u e.rule)
  simp only [hcheck, c.vendor_eq] at hrun
  constructor
  · rw [← hes.exists_row_iff hd (P := fun e => Shape.check (Change.apply u e.rule) = .ok ())]
    constructor
    · intro h
      obtain ⟨hu, -, owner, howner, hvendor, e, hfind, ⟨hrule, huser⟩, -⟩ :=
        (hrun _).1 (Prod.ext h rfl)
      exact ⟨hu, ⟨owner, howner, hvendor⟩, ⟨e, hfind, hrule⟩, huser⟩
    · rintro ⟨hu, ⟨owner, howner, hvendor⟩, ⟨e, hfind, hrule⟩, huser⟩
      exact congrArg Prod.fst ((hrun _).2 ⟨hu, hlimit, owner, howner, hvendor, e, hfind,
        ⟨hrule, huser⟩, rfl⟩)
  · intro s' h
    obtain ⟨-, -, owner, -, -, e, hfind, -, hstore⟩ := (hrun s').1 h
    obtain ⟨rfl, rfl⟩ : e.id = ruleId ∧ e.groupId = groupId := by
      simpa using List.find?_some hfind
    obtain ⟨before, later, rfl, hother⟩ := hes.exists_split hd (List.mem_of_find?_eq_some hfind)
    have hafter : s'.Holds _ := hstore ▸ hes.update_rule _ hother _
    rw [RuleEntry.amend_revisedEntry] at hafter
    refine ⟨?_, before.map Entity.toRow, Entity.toRow e, _, later.map Entity.toRow,
      hes.trans List.map_append, hafter.trans List.map_append, e.string?_id_toRow,
      e.string?_groupId_toRow, _, LawfulEntity.ofRow_toRow e, RuleEntry.ofRow_toRow_updated u e, ?_⟩
    · intro t ht
      rw [hstore]
      exact Store.rows_afterUpdate_of_ne ht
    · intro name hreviser htime homits
      exact RuleEntry.get?_toRow_updated u e hreviser htime homits

/-- The rule that `Job.ruleCreation` has created can be given a memo, which leaves its first port
alone, but nobody without a name can change it. -/
theorem updateRule_revises_ssh :
    let config : Store.Config := ⟨Supply.strokes, 500⟩
    let s := play config [.creation, .ruleCreation] .empty
    let u : Aws.Update := { memo := some "ssh" }
    (∃ row ∈ s.rows .awsRules,
      ∃ row' ∈ ((updateRule 500 "bob" "|" "||" u).run config s).2.rows .awsRules,
        ∃ e : RuleEntry Aws.Rule, Entity.ofRow row = .ok e ∧
          Entity.ofRow row' = .ok (e.updated "bob" (config.supply.clock s.ticks) u) ∧
          row'.get? "from_port" = row.get? "from_port") ∧
      ((updateRule 500 "" "|" "||" u).run config s).1 ≠ .ok () := by
  intro config s u
  have hupdate := fun user => @updateRule_revises_one_row config s Supply.injective_strokes
    (by decide) (reachable_play config [.creation, .ruleCreation]) .aws 500 user "|" "||" u
  constructor
  · have hanswer : ((updateRule 500 "bob" "|" "||" u).run config s).1.toOption = some () := by
      decide +kernel
    obtain ⟨-, before, row, row', later, hold, hnew, -, -, e, hread, hread', hkept⟩ :=
      (hupdate "bob").2 _ (Action.run_eq_ok_of_toOption hanswer)
    have homits : Change.Omits u "from_port" := by
      unfold Change.Omits
      decide
    refine ⟨row, ?_, row', ?_, e, hread, hread', hkept _ (by decide) (by decide) homits⟩
    · exact hold ▸ List.mem_append_right _ List.mem_cons_self
    · exact hnew ▸ List.mem_append_right _ List.mem_cons_self
  · intro h
    obtain ⟨-, -, -, huser, -⟩ := (hupdate "").1.1 h
    cases huser

end

end SecurityGroups
