/-
SecurityGroups/Proofs/Entities.lean

Entities in the store.

The row of an entity reads back as the entity.  When the store stamps a row or
writes over it, the row is that of another entity (`stored_toRow`,
`revised_toRow`), so what the store does to rows can be said of entities.
`LawfulEntity` is what this rests on; groups are instances of it, and so are
the entries of every cloud.
-/
import SecurityGroups.Proofs.Clouds
import SecurityGroups.Proofs.Conduct

namespace SecurityGroups

/-! ### Lawful entities -/

/-- An entity whose row reads back, and which can be stamped and updated as its row can. -/
class LawfulEntity (α : Type) [Entity α] where
  /-- The entity as it is read back. -/
  normal : α → α
  /-- The entity with an id and the times of its creation. -/
  stamp : String → Instant → α → α
  /-- The entity after an update by another. -/
  amend : Instant → α → α → α
  nodup : (Attribute.names (Entity.attributes (α := α))).Nodup
  mem_names : ∀ name, name ∈ (Entity.schema α).names ↔
    name ∈ Attribute.names (Entity.attributes (α := α))
  types : ∀ a ∈ Entity.attributes (α := α),
    (Entity.schema α).type? a.name = some a.kind.columnType
  stamped : ∀ name ∈ ["id", "created_at", "updated_at"],
    name ∈ Attribute.names (Entity.attributes (α := α))
  ofRow_toRow : ∀ e : α, Entity.ofRow (Entity.toRow e) = .ok (normal e)
  get_stamp : ∀ id now (e : α), ∀ a ∈ Entity.attributes (α := α),
    a.kind.toCell (a.get (stamp id now e)) =
      if a.name = "updated_at" ∨ a.name = "created_at" then .time now
      else if a.name = "id" then .string id
      else a.kind.toCell (a.get e)
  get_amend : ∀ now (u e : α), ∀ a ∈ Entity.attributes (α := α),
    a.kind.toCell (a.get (amend now u e)) =
      if a.name = "updated_at" then .time now
      else ((Entity.updateRow u).get? a.name).getD (a.kind.toCell (a.get e))
  get?_updateRow : ∀ (u : α), ∀ name ∉ Attribute.names (Entity.attributes (α := α)),
    (Entity.updateRow u).get? name = none

namespace LawfulEntity

variable {α : Type} [Entity α] [LawfulEntity α] {id : String} {now : Instant}

theorem get?_toRow {a : Attribute α} (e : α) (h : a ∈ Entity.attributes (α := α)) :
    (Entity.toRow e).get? a.name = some (a.kind.toCell (a.get e)) :=
  Attribute.get?_writeAll_of_mem nodup h

omit [LawfulEntity α] in
theorem get?_toRow_of_not_mem {name : String} (e : α)
    (h : name ∉ Attribute.names (Entity.attributes (α := α))) :
    (Entity.toRow e).get? name = none := by
  rw [Entity.toRow, Attribute.get?_writeAll_of_not_mem h, Row.get?_empty]

theorem contains_iff {name : String} : (Entity.schema α).contains name = true ↔
    name ∈ Attribute.names (Entity.attributes (α := α)) :=
  Schema.contains_iff.trans (mem_names name)

/-- The row of an entity may be stored in its table. -/
theorem fits_toRow (e : α) : (Entity.toRow e).Fits (Entity.schema α) :=
  Attribute.fits_writeAll e types (Row.fits_empty _)

/-- **What the store makes of a new row** is the row of the stamped entity. -/
theorem stored_toRow (id : String) (now : Instant) (e : α) :
    Store.stored (Entity.schema α) id now (Entity.toRow e) = Entity.toRow (stamp id now e) := by
  -- the row of an entity has a cell in every column, so nothing is filled in
  have hcomplete : Store.complete (Entity.schema α) (Entity.toRow e) = Entity.toRow e := by
    refine Store.complete_eq_self ?_
    intro name hname
    obtain ⟨a, ha, rfl⟩ := List.mem_map.1 ((mem_names name).1 hname)
    rw [get?_toRow e ha]
    rfl
  have hcreated : (Entity.schema α).contains "created_at" = true :=
    contains_iff.2 (stamped _ (by decide))
  have hstored : ∀ name, (Store.stored (Entity.schema α) id now (Entity.toRow e)).get? name =
      if name = "updated_at" ∨ name = "created_at" then some (.time now)
      else if name = "id" then some (.string id)
      else (Entity.toRow e).get? name := by
    intro name
    simp only [Store.stored, hcomplete, hcreated, if_true, Row.get?_set]
    by_cases hu : name = "updated_at"
    · simp [hu]
    · by_cases hc : name = "created_at"
      · simp [hc]
      · simp [hu, hc, Ne.symm hu, Ne.symm hc, eq_comm]
  refine Attribute.eq_writeAll nodup ?_ ?_
  · intro a ha
    rw [hstored, get_stamp id now e a ha, get?_toRow e ha]
    split
    · rfl
    · split <;> rfl
  · intro name hname
    have hne : ∀ other ∈ ["id", "created_at", "updated_at"], name ≠ other := by
      rintro other hother rfl
      exact hname (stamped _ hother)
    rw [hstored, if_neg (by simp [hne]), if_neg (hne _ (by decide)), get?_toRow_of_not_mem e hname]

/-- **What the store makes of a row that it writes over** is the row of the updated entity. -/
theorem revised_toRow (now : Instant) (u e : α) :
    Store.revised (Entity.schema α) now (Entity.updateRow u) (Entity.toRow e) =
      Entity.toRow (amend now u e) := by
  have hupdated : (Entity.schema α).contains "updated_at" = true :=
    contains_iff.2 (stamped _ (by decide))
  have hrevised : ∀ name, (Store.revised (Entity.schema α) now (Entity.updateRow u)
      (Entity.toRow e)).get? name = if name = "updated_at" then some (.time now)
        else ((Entity.updateRow u).get? name).or ((Entity.toRow e).get? name) := by
    intro name
    by_cases hu : name = "updated_at"
    · rw [if_pos hu, Store.revised, if_pos hupdated, hu, Row.get?_set_self]
    · rw [if_neg hu, Store.get?_revised hu]
  refine Attribute.eq_writeAll nodup ?_ ?_
  · intro a ha
    rw [hrevised, get_amend now u e a ha, get?_toRow e ha]
    split
    · rfl
    · cases (Entity.updateRow u).get? a.name <;> rfl
  · intro name hname
    have hne : name ≠ "updated_at" := by
      rintro rfl
      exact hname (stamped _ (by decide))
    rw [hrevised, if_neg hne, get?_updateRow u name hname, get?_toRow_of_not_mem e hname]
    rfl

end LawfulEntity

/-! ### The audit part -/

namespace Audit

variable {row : Row} {u : Audit}

theorem get_stamp (id : String) (now : Instant) (audit : Audit) : ∀ a ∈ attributes,
    a.kind.toCell (a.get { audit with createdAt := some now, updatedAt := some now }) =
      if a.name = "updated_at" ∨ a.name = "created_at" then .time now
      else if a.name = "id" then .string id
      else a.kind.toCell (a.get audit) := by
  intro a ha
  simp only [attributes, List.mem_cons, List.not_mem_nil, or_false] at ha
  rcases ha with rfl | rfl | rfl | rfl <;> rfl

/-- An update that writes the reviser and no other part of the audit leaves the creator and the time
of creation. -/
theorem get_amend (hreviser : row.get? "reviser" = some (.string u.reviser))
    (hcreator : row.get? "creator" = none) (hcreated : row.get? "created_at" = none)
    (now : Instant) (audit : Audit) : ∀ a ∈ attributes,
    a.kind.toCell (a.get { audit with reviser := u.reviser, updatedAt := some now }) =
      if a.name = "updated_at" then .time now
      else (row.get? a.name).getD (a.kind.toCell (a.get audit)) := by
  intro a ha
  simp only [attributes, List.mem_cons, List.not_mem_nil, or_false] at ha
  rcases ha with rfl | rfl | rfl | rfl
  · show _ = (row.get? "creator").getD _
    rw [hcreator]
    rfl
  · show _ = (row.get? "reviser").getD _
    rw [hreviser]
    rfl
  · show _ = (row.get? "created_at").getD _
    rw [hcreated]
    rfl
  · rfl

end Audit

/-! ### Groups -/

namespace Group

/-- A group with an id and the times of its creation. -/
def stamp (id : String) (now : Instant) (g : Group) : Group :=
  { g with id := id, audit := { g.audit with createdAt := some now, updatedAt := some now } }

/-- A group after an update: an empty name, a missing memo and the business zero change nothing. -/
def amend (now : Instant) (u g : Group) : Group :=
  { g with
    business := if u.business = 0 then g.business else u.business
    name := if u.name = "" then g.name else u.name
    memo := if u.memo = none then g.memo else u.memo
    audit := { g.audit with reviser := u.audit.reviser, updatedAt := some now } }

theorem forall_attributes {motive : Attribute Group → Prop}
    (hown : ∀ a ∈ ownAttributes, motive a)
    (haudit : ∀ a ∈ Audit.attributes, motive (a.lift audit fun v g => { g with audit := v })) :
    ∀ a ∈ attributes, motive a := by
  intro a ha
  rcases List.mem_append.1 ha with h | h
  · exact hown a h
  · obtain ⟨b, hb, rfl⟩ := List.mem_map.1 h
    exact haudit b hb

theorem get_stamp (id : String) (now : Instant) (g : Group) : ∀ a ∈ attributes,
    a.kind.toCell (a.get (stamp id now g)) =
      if a.name = "updated_at" ∨ a.name = "created_at" then .time now
      else if a.name = "id" then .string id
      else a.kind.toCell (a.get g) := by
  refine forall_attributes ?_ ?_
  · intro a ha
    simp only [ownAttributes, List.mem_cons, List.not_mem_nil, or_false] at ha
    rcases ha with rfl | rfl | rfl | rfl | rfl | rfl | rfl | rfl <;> rfl
  · exact Audit.get_stamp id now g.audit

/-- Of the columns that an update may write, it writes those that it has. -/
theorem get_amend_changeable (now : Instant) (u g : Group) : ∀ a ∈ changeable,
    a.kind.toCell (a.get (amend now u g)) =
      if a.get u = a.kind.blank then a.kind.toCell (a.get g) else a.kind.toCell (a.get u) := by
  intro a ha
  have hname : a.name = "name" ∨ a.name = "memo" ∨ a.name = "bk_biz_id" := by
    simpa using (List.mem_filter.1 ha).2
  have hmem := (List.mem_filter.1 ha).1
  simp only [ownAttributes, List.mem_cons, List.not_mem_nil, or_false] at hmem
  rcases hmem with rfl | rfl | rfl | rfl | rfl | rfl | rfl | rfl
  all_goals try exact absurd hname (by decide)
  · show Kind.number.toCell (if u.business = 0 then g.business else u.business) = _
    exact apply_ite _ _ _ _
  · show Kind.text.toCell (if u.name = "" then g.name else u.name) = _
    exact apply_ite _ _ _ _
  · show Kind.optText.toCell (if u.memo = none then g.memo else u.memo) = _
    exact apply_ite _ _ _ _

theorem get_amend (now : Instant) (u g : Group) : ∀ a ∈ attributes,
    a.kind.toCell (a.get (amend now u g)) =
      if a.name = "updated_at" then .time now
      else ((Entity.updateRow u).get? a.name).getD (a.kind.toCell (a.get g)) := by
  refine forall_attributes ?_ ?_
  · intro a ha
    have hupdated : a.name ≠ "updated_at" := by
      intro h
      have hmem := Attribute.name_mem_names ha
      rw [h] at hmem
      revert hmem
      decide
    rw [if_neg hupdated]
    by_cases hname : a.name = "name" ∨ a.name = "memo" ∨ a.name = "bk_biz_id"
    · -- a column that an update may write
      have hc : a ∈ changeable := List.mem_filter.2 ⟨ha, by simpa using hname⟩
      rw [get_amend_changeable now u g a hc, get?_updateRow_of_mem u hc]
      split <;> rfl
    · -- a column that no update writes
      simp only [ownAttributes, List.mem_cons, List.not_mem_nil, or_false] at ha
      rcases ha with rfl | rfl | rfl | rfl | rfl | rfl | rfl | rfl
      all_goals first
        | exact absurd (by decide) hname
        | rw [get?_updateRow_of_not_mem (by decide)]
          rfl
  · exact Audit.get_amend (get?_reviser_updateRow u) (get?_updateRow_of_not_mem (by decide))
      (get?_updateRow_of_not_mem (by decide)) now g.audit

instance : LawfulEntity Group where
  normal := fun g => g
  stamp := stamp
  amend := amend
  nodup := by decide
  mem_names := by
    intro name
    have hnames : (Entity.schema Group).names = Attribute.names attributes := by decide
    rw [hnames]
    exact Iff.rfl
  types := by decide
  stamped := by decide
  ofRow_toRow := fun _ => Attribute.readAll_writeAll (by decide)
  get_stamp := get_stamp
  get_amend := get_amend
  get?_updateRow := by
    intro u name hname
    refine get?_updateRow_of_not_mem ?_
    intro hmem
    have hsub : ∀ n ∈ ["reviser", "bk_biz_id", "name", "memo"], n ∈ Attribute.names attributes := by
      decide
    exact hname (hsub name hmem)

theorem get?_id_toRow (g : Group) : (Entity.toRow g).get? "id" = some (.string g.id) := by
  have hmem : ⟨"id", .text, id, fun v g => { g with id := v }, "id", false⟩ ∈ attributes :=
    List.mem_cons_self
  exact LawfulEntity.get?_toRow g hmem

theorem get?_business_toRow (g : Group) :
    (Entity.toRow g).get? "bk_biz_id" = some (.numeric g.business) := by
  have hmem : ⟨"bk_biz_id", .number, business, fun v g => { g with business := v }, "bk_biz_id",
      false⟩ ∈ attributes := .tail _ (.tail _ (.tail _ List.mem_cons_self))
  exact LawfulEntity.get?_toRow g hmem

theorem toRow_injective : Function.Injective (Entity.toRow (α := Group)) := by
  intro g g' h
  have hread : Entity.ofRow (Entity.toRow g) = .ok g := LawfulEntity.ofRow_toRow g
  have hread' : Entity.ofRow (Entity.toRow g') = .ok g' := LawfulEntity.ofRow_toRow g'
  rw [h, hread'] at hread
  exact (Except.ok.inj hread).symm

end Group

/-! ### Entries -/

namespace RuleEntry

variable {R : Type}

/-- An entry with an id and the times of its creation. -/
def stamp (id : String) (now : Instant) (e : RuleEntry R) : RuleEntry R :=
  { e with id := id, audit := { e.audit with createdAt := some now, updatedAt := some now } }

/-- An entry after an update: nothing but the rule changes. -/
def amend (now : Instant) (u e : RuleEntry R) : RuleEntry R :=
  { e with
    rule := u.rule
    audit := { e.audit with reviser := u.audit.reviser, updatedAt := some now } }

variable [Shape R]

theorem forall_attributes {motive : Attribute (RuleEntry R) → Prop}
    (howner : ∀ a ∈ ownerAttributes, motive a)
    (hrule : ∀ a ∈ Shape.stored R, motive (a.lift rule fun v e => { e with rule := v }))
    (haudit : ∀ a ∈ Audit.attributes, motive (a.lift audit fun v e => { e with audit := v })) :
    ∀ a ∈ attributes (R := R), motive a := by
  intro a ha
  rcases List.mem_append.1 ha with h | h
  · rcases List.mem_append.1 h with h | h
    · exact howner a h
    · obtain ⟨b, hb, rfl⟩ := List.mem_map.1 h
      exact hrule b hb
  · obtain ⟨b, hb, rfl⟩ := List.mem_map.1 h
    exact haudit b hb

theorem names_ruleAttributes :
    Attribute.names (ruleAttributes (R := R)) = Attribute.names (Shape.stored R) := by
  rw [ruleAttributes, Attribute.names, List.map_map]
  rfl

/-- The columns that the entries of every cloud have. -/
def ownNames : List String :=
  ["id", "cloud_id", "security_group_id", "cloud_security_group_id", "account_id", "region", "type",
    "creator", "reviser", "created_at", "updated_at"]

theorem names_of_mem_ownNames {name : String} (hname : name ∈ ownNames) :
    name ∈ Attribute.names (attributes (R := R)) := by
  have hown : name ∈ Attribute.names (ownerAttributes (R := R)) ++
      Attribute.names (auditAttributes (R := R)) := hname
  rw [attributes, Attribute.names_append, Attribute.names_append]
  rcases List.mem_append.1 hown with h | h
  · exact List.mem_append_left _ (List.mem_append_left _ h)
  · exact List.mem_append_right _ h

variable [LawfulShape R]

theorem nodup_stored : (Attribute.names (Shape.stored R)).Nodup := by
  have h := LawfulShape.nodup (R := R)
  rw [attributes, Attribute.names_append, Attribute.names_append, names_ruleAttributes,
    List.nodup_append, List.nodup_append] at h
  exact h.1.2.1

/-- The columns of the rules of a cloud have other names. -/
theorem stored_names {name : String} (hname : name ∈ ownNames) :
    name ∉ Attribute.names (Shape.stored R) := by
  intro hmem
  have h := LawfulShape.nodup (R := R)
  rw [attributes, Attribute.names_append, Attribute.names_append, names_ruleAttributes,
    List.nodup_append, List.nodup_append] at h
  obtain ⟨⟨-, -, howner⟩, -, haudit⟩ := h
  have hown : name ∈ Attribute.names (ownerAttributes (R := R)) ++
      Attribute.names (auditAttributes (R := R)) := hname
  rcases List.mem_append.1 hown with h | h
  · exact howner name h name hmem rfl
  · exact haudit name (List.mem_append_right _ hmem) name h rfl

theorem name_not_mem_ownNames {a : Attribute R} (h : a ∈ Shape.stored R) : a.name ∉ ownNames :=
  fun hname => stored_names hname (Attribute.name_mem_names h)

theorem get?_rule_updateRow (u : RuleEntry R) {a : Attribute R} (h : a ∈ Shape.stored R) :
    (Entity.updateRow u).get? a.name = some (a.kind.toCell (a.get u.rule)) :=
  Attribute.get?_writeAll_of_mem nodup_stored h

theorem get?_reviser_updateRow (u : RuleEntry R) :
    (Entity.updateRow u).get? "reviser" = some (.string u.audit.reviser) := by
  show (Attribute.writeAll (Shape.stored R) u.rule _).get? "reviser" = _
  rw [Attribute.get?_writeAll_of_not_mem (stored_names (by decide)), Row.get?_set_self]

/-- Of the columns that the entries of every cloud have, an update writes the reviser only. -/
theorem get?_own_updateRow (u : RuleEntry R) {name : String} (hname : name ∈ ownNames)
    (hne : name ≠ "reviser") : (Entity.updateRow u).get? name = none :=
  get?_updateRow_of_not_mem hne (stored_names hname)

omit [LawfulShape R] in
/-- The columns before those of the audit part hold the owner, and of the rule what its columns
hold. -/
theorem copyAll_placed (e z : RuleEntry R) : Attribute.copyAll (ownerAttributes ++ ruleAttributes) e z =
    { e with rule := Attribute.copyAll (Shape.stored R) e.rule z.rule, audit := z.audit } := by
  have howner : Attribute.copyAll ownerAttributes e z =
      { e with rule := z.rule, audit := z.audit } := rfl
  have hrule : ∀ z : RuleEntry R, Attribute.copyAll ruleAttributes e z =
      { z with rule := Attribute.copyAll (Shape.stored R) e.rule z.rule } := fun z =>
    Attribute.copyAll_map_lift (Shape.stored R) rule (fun v e => { e with rule := v })
      (fun _ _ => rfl) (fun _ _ _ => rfl) (fun _ => rfl) e z
  rw [Attribute.copyAll_append, hrule, howner]

omit [LawfulShape R] in
theorem copyAll_attributes (e z : RuleEntry R) : Attribute.copyAll attributes e z =
    { e with rule := Attribute.copyAll (Shape.stored R) e.rule z.rule } := by
  rw [attributes, Attribute.copyAll_append, copyAll_placed]
  rfl

theorem ofRow_toRow (e : RuleEntry R) :
    Entity.ofRow (Entity.toRow e) = .ok { e with rule := LawfulShape.undeclared e.rule } := by
  have hcells : ∀ a ∈ directionAttribute :: attributes (R := R),
      (Entity.toRow e).cell a.name = a.kind.toCell (a.get e) := by
    intro a ha
    have hmem : a ∈ attributes (R := R) := by
      rcases List.mem_cons.1 ha with rfl | hmem
      · refine List.mem_append_left _ (List.mem_append_left _ ?_)
        simp [ownerAttributes]
      · exact hmem
    exact Row.cell_of_get? (Attribute.get?_writeAll_of_mem LawfulShape.nodup hmem)
  rw [Entity.ofRow]
  refine (Attribute.readAll_eq_ok hcells).trans (congrArg Except.ok ?_)
  -- the direction is copied twice
  rw [Attribute.copyAll, copyAll_attributes]
  exact congrArg (fun rule => { e with rule := rule }) (LawfulShape.copyAll_blank e.rule)

theorem get_stamp (id : String) (now : Instant) (e : RuleEntry R) :
    ∀ a ∈ attributes (R := R), a.kind.toCell (a.get (stamp id now e)) =
      if a.name = "updated_at" ∨ a.name = "created_at" then .time now
      else if a.name = "id" then .string id
      else a.kind.toCell (a.get e) := by
  refine forall_attributes ?_ ?_ ?_
  · intro a ha
    simp only [ownerAttributes, List.mem_cons, List.not_mem_nil, or_false] at ha
    rcases ha with rfl | rfl | rfl | rfl | rfl | rfl | rfl <;> rfl
  · -- the columns of a rule are none of those that are stamped
    intro a ha
    have hname := name_not_mem_ownNames ha
    have hne : ∀ name ∈ ownNames, a.name ≠ name := by
      rintro name hmem heq
      exact hname (heq ▸ hmem)
    show a.kind.toCell (a.get e.rule) = if a.name = _ ∨ a.name = _ then _ else
      if a.name = _ then _ else a.kind.toCell (a.get e.rule)
    rw [if_neg (not_or.2 ⟨hne _ (by decide), hne _ (by decide)⟩), if_neg (hne _ (by decide))]
  · exact Audit.get_stamp id now e.audit

theorem get_amend (now : Instant) (u e : RuleEntry R) :
    ∀ a ∈ attributes (R := R), a.kind.toCell (a.get (amend now u e)) =
      if a.name = "updated_at" then .time now
      else ((Entity.updateRow u).get? a.name).getD (a.kind.toCell (a.get e)) := by
  refine forall_attributes ?_ ?_ ?_
  · -- the owner: an update writes none of these columns
    intro a ha
    have howner : a.name ∈ ownNames.take 7 := Attribute.name_mem_names ha
    have hother : ∀ name ∈ ownNames.take 7, name ∈ ownNames ∧ name ≠ "reviser" ∧
        name ≠ "updated_at" := by decide
    obtain ⟨hown, hreviser, hupdated⟩ := hother _ howner
    rw [if_neg hupdated, get?_own_updateRow u hown hreviser]
    simp only [ownerAttributes, List.mem_cons, List.not_mem_nil, or_false] at ha
    rcases ha with rfl | rfl | rfl | rfl | rfl | rfl | rfl <;> rfl
  · -- the rule: an update writes all of these columns
    intro a ha
    have hne : a.name ≠ "updated_at" := by
      intro heq
      exact name_not_mem_ownNames ha (heq ▸ by decide)
    show a.kind.toCell (a.get u.rule) = if a.name = _ then _ else
      ((Entity.updateRow u).get? a.name).getD (a.kind.toCell (a.get e.rule))
    rw [if_neg hne, get?_rule_updateRow u ha]
    rfl
  · exact Audit.get_amend (get?_reviser_updateRow u)
      (get?_own_updateRow u (by decide) (by decide)) (get?_own_updateRow u (by decide) (by decide))
      now e.audit

instance : LawfulEntity (RuleEntry R) where
  normal := fun e => { e with rule := LawfulShape.undeclared e.rule }
  stamp := stamp
  amend := amend
  nodup := LawfulShape.nodup
  mem_names := by
    intro name
    rw [LawfulShape.names_schema]
    exact Iff.rfl
  types := LawfulShape.types_schema
  stamped := by
    have hown : ∀ name ∈ ["id", "created_at", "updated_at"], name ∈ ownNames := by decide
    exact fun name hname => names_of_mem_ownNames (hown name hname)
  ofRow_toRow := ofRow_toRow
  get_stamp := get_stamp
  get_amend := get_amend
  get?_updateRow := by
    intro u name hname
    refine get?_updateRow_of_not_mem ?_ ?_
    · rintro rfl
      exact hname (names_of_mem_ownNames (by decide))
    · intro hstored
      refine hname ?_
      rw [← names_ruleAttributes] at hstored
      show name ∈ Attribute.names (ownerAttributes ++ ruleAttributes ++ auditAttributes)
      rw [Attribute.names_append, Attribute.names_append]
      exact List.mem_append_left _ (List.mem_append_right _ hstored)

/-- What an update of a rule writes may stand in its columns. -/
theorem fits_updateRow (u : RuleEntry R) : (Entity.updateRow u).Fits (Entity.schema (RuleEntry R)) := by
  have htypes : ∀ a ∈ Shape.stored R,
      (Entity.schema (RuleEntry R)).type? a.name = some a.kind.columnType := by
    intro a ha
    exact LawfulShape.types_schema (a.lift rule fun v e => { e with rule := v })
      (List.mem_append_left _ (List.mem_append_right _ (List.mem_map_of_mem ha)))
  have hreviser : (Entity.schema (RuleEntry R)).type? "reviser" = some .string := by
    have hmem : Attribute.lift ⟨"reviser", .text, Audit.reviser, fun v a => { a with reviser := v },
        "reviser", false⟩ audit (fun v (e : RuleEntry R) => { e with audit := v }) ∈
          attributes (R := R) := by
      refine List.mem_append_right _ (List.mem_map_of_mem ?_)
      exact .tail _ List.mem_cons_self
    exact LawfulShape.types_schema _ hmem
  exact Attribute.fits_writeAll u.rule htypes
    ((Row.fits_empty _).set (Schema.checkCell_of_type hreviser rfl))

theorem get?_id_toRow (e : RuleEntry R) : (Entity.toRow e).get? "id" = some (.string e.id) := by
  have hmem : ⟨"id", .text, id, fun v e => { e with id := v }, "id", false⟩ ∈ attributes (R := R) :=
    List.mem_append_left _ (List.mem_append_left _ List.mem_cons_self)
  exact LawfulEntity.get?_toRow e hmem

theorem get?_groupId_toRow (e : RuleEntry R) :
    (Entity.toRow e).get? "security_group_id" = some (.string e.groupId) := by
  have hmem : ⟨"security_group_id", .text, groupId, fun v e => { e with groupId := v },
      "security_group_id", false⟩ ∈ attributes (R := R) :=
    List.mem_append_left _ (List.mem_append_left _ (.tail _ (.tail _ List.mem_cons_self)))
  exact LawfulEntity.get?_toRow e hmem

theorem string?_id_toRow (e : RuleEntry R) : ((Entity.toRow e).cell "id").string? = some e.id := by
  rw [Row.cell_of_get? e.get?_id_toRow, Cell.string?]

theorem string?_groupId_toRow (e : RuleEntry R) :
    ((Entity.toRow e).cell "security_group_id").string? = some e.groupId := by
  rw [Row.cell_of_get? e.get?_groupId_toRow, Cell.string?]

end RuleEntry

end SecurityGroups
