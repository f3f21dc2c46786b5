/-
SecurityGroups/Proofs/UpdateRows.lean

Rows that are written over with an update.

An update is itself an entity, and of its fields only some are written.  What stands
for "unchanged" depends on the field: of a region an empty name and the availability
zero, of a group an empty name, the business zero and a missing memo, but not an empty
one.  An update of a rule always writes the whole rule.

    row of e, written over with the cells of u  =  row of what u makes of e

What the update makes of the entity is given as an entity (`Region.revisedBy`,
`Group.revisedBy`, `RuleEntry.revisedBy`), so its other fields, the times among them, are
those of `e`.  That the store then stamps the time of the update is a matter of the
store (`LawfulEntity.revised_toRow`).
-/
import SecurityGroups.Proofs.RowForms

namespace SecurityGroups

/-! ### Entities -/

/-- The cells that an update writes may stand in their columns, and over the row of an entity they
make the row of `updated`, which is read as it is. -/
structure Entity.Overlays {α : Type} [Entity α] (u e updated : α) : Prop where
  fits : (updateRow u).Fits (schema α)
  row : (toRow e).overlay (updateRow u) = toRow updated
  reads : ofRow ((toRow e).overlay (updateRow u)) = .ok updated

/-- An entity that is amended in all but the time of the update has the row of the one that is not
amended, with the update written over it. -/
theorem LawfulEntity.overlay_updateRow {α : Type} [Entity α] [LawfulEntity α] {u e updated : α}
    (htime : (Entity.updateRow u).get? "updated_at" = none)
    (hget : ∀ now, ∀ a ∈ Entity.attributes (α := α), a.get updated =
      if a.name = "updated_at" then a.get e else a.get (amend now u e)) :
    (Entity.toRow e).overlay (Entity.updateRow u) = Entity.toRow updated := by
  -- the time of the amendment plays no part
  have now : Instant := { date := ⟨1970, 1, 1⟩, second := 0, nano := 0 }
  refine Attribute.eq_writeAll nodup ?_ ?_
  · intro a ha
    rw [Row.get?_overlay, get?_toRow e ha, hget now a ha]
    by_cases hname : a.name = "updated_at"
    · rw [if_pos hname, hname, htime, Option.none_or]
    · have hamend := get_amend now u e a ha
      rw [if_neg hname] at hamend
      rw [if_neg hname, hamend]
      cases (Entity.updateRow u).get? a.name <;> rfl
  · intro name hname
    rw [Row.get?_overlay, get?_updateRow u name hname, get?_toRow_of_not_mem e hname,
      Option.none_or]

theorem LawfulEntity.overlays {α : Type} [Entity α] [LawfulEntity α] {u e updated : α}
    (hfits : (Entity.updateRow u).Fits (Entity.schema α))
    (htime : (Entity.updateRow u).get? "updated_at" = none)
    (hget : ∀ now, ∀ a ∈ Entity.attributes (α := α), a.get updated =
      if a.name = "updated_at" then a.get e else a.get (amend now u e))
    (hnormal : normal updated = updated) : Entity.Overlays u e updated where
  fits := hfits
  row := overlay_updateRow htime hget
  reads := by rw [overlay_updateRow htime hget, ofRow_toRow, hnormal]

/-- Of the audit part an update that leaves the times alone sets the reviser. -/
theorem Audit.get_revised (u audit : Audit) (now : Instant) : ∀ a ∈ attributes,
    a.get { audit with reviser := u.reviser } =
      if a.name = "updated_at" then a.get audit
      else a.get { audit with reviser := u.reviser, updatedAt := some now } := by
  intro a ha
  simp only [attributes, List.mem_cons, List.not_mem_nil, or_false] at ha
  rcases ha with rfl | rfl | rfl | rfl <;> rfl

/-! ### Regions -/

namespace Region

/-- What an update makes of a region: an empty name and the availability zero change nothing. -/
def revisedBy (r u : Region) : Region :=
  { r with
    regionName := if u.regionName = "" then r.regionName else u.regionName
    isAvailable := if u.isAvailable = 0 then r.isAvailable else u.isAvailable
    audit := { r.audit with reviser := u.audit.reviser } }

/-- What an update of a region writes may stand in its columns. -/
theorem fits_updateRow (u : Region) : (Entity.updateRow u).Fits (Entity.schema Region) := by
  have htypes : ∀ a ∈ changeable, (Entity.schema Region).type? a.name = some a.kind.columnType := by
    decide
  have hreviser : (Entity.schema Region).type? "reviser" = some .string := by decide
  exact Attribute.fits_writeAllPresent u htypes
    ((Row.fits_empty _).set (Schema.checkCell_of_type hreviser rfl))

theorem get_revisedBy (r u : Region) (now : Instant) : ∀ a ∈ attributes, a.get (r.revisedBy u) =
    if a.name = "updated_at" then a.get r else a.get (amend now u r) := by
  refine forall_attributes ?_ ?_
  · intro a ha
    simp only [attributes, List.cons_append, List.take_succ_cons, List.take_zero, List.mem_cons,
      List.not_mem_nil, or_false] at ha
    rcases ha with rfl | rfl | rfl | rfl | rfl <;> rfl
  · exact Audit.get_revised u.audit r.audit now

theorem overlays_revisedBy (r u : Region) : Entity.Overlays u r (r.revisedBy u) :=
  LawfulEntity.overlays (fits_updateRow u) (get?_updateRow_of_not_mem u (by decide))
    (get_revisedBy r u) rfl

end Region

/-! ### Groups -/

namespace Group

/-- What an update makes of a group: an empty name, a missing memo and the business zero change
nothing. -/
def revisedBy (g u : Group) : Group :=
  { g with
    business := if u.business = 0 then g.business else u.business
    name := if u.name = "" then g.name else u.name
    memo := if u.memo = none then g.memo else u.memo
    audit := { g.audit with reviser := u.audit.reviser } }

theorem get_revisedBy (g u : Group) (now : Instant) : ∀ a ∈ attributes, a.get (g.revisedBy u) =
    if a.name = "updated_at" then a.get g else a.get (amend now u g) := by
  refine forall_attributes ?_ ?_
  · intro a ha
    simp only [ownAttributes, List.mem_cons, List.not_mem_nil, or_false] at ha
    rcases ha with rfl | rfl | rfl | rfl | rfl | rfl | rfl | rfl <;> rfl
  · exact Audit.get_revised u.audit g.audit now

theorem overlays_revisedBy (g u : Group) : Entity.Overlays u g (g.revisedBy u) :=
  LawfulEntity.overlays (fits_updateRow u) (get?_updateRow_of_not_mem (by decide))
    (get_revisedBy g u) rfl

end Group

/-! ### Entries -/

namespace RuleEntry

variable {R : Type} [Shape R] [LawfulShape R]

/-- What an update makes of an entry: it has the rule of the update, without the direction that the
rule declares. -/
def revisedBy (e u : RuleEntry R) : RuleEntry R :=
  { e with
    rule := LawfulShape.undeclared u.rule
    audit := { e.audit with reviser := u.audit.reviser } }

theorem get_revisedBy (e u : RuleEntry R) (now : Instant) : ∀ a ∈ attributes (R := R),
    a.get (e.revisedBy u) = if a.name = "updated_at" then a.get e else a.get (amend now u e) := by
  refine forall_attributes ?_ ?_ ?_
  · intro a ha
    simp only [ownerAttributes, List.mem_cons, List.not_mem_nil, or_false] at ha
    rcases ha with rfl | rfl | rfl | rfl | rfl | rfl | rfl <;> rfl
  · intro a ha
    have hne : a.name ≠ "updated_at" := by
      intro heq
      exact name_not_mem_ownNames ha (heq ▸ by decide)
    show a.get (LawfulShape.undeclared u.rule) =
      if a.name = "updated_at" then a.get e.rule else a.get u.rule
    rw [if_neg hne, LawfulShape.get_undeclared u.rule a ha]
  · exact Audit.get_revised u.audit e.audit now

theorem overlays_revisedBy (e u : RuleEntry R) : Entity.Overlays u e (e.revisedBy u) := by
  refine LawfulEntity.overlays (fits_updateRow u)
    (get?_own_updateRow u (by decide) (by decide)) (get_revisedBy e u) ?_
  -- a rule that declares no direction is read as it is
  have hrule : LawfulShape.undeclared (LawfulShape.undeclared u.rule) =
      LawfulShape.undeclared u.rule :=
    LawfulShape.undeclared_of_declared _ (LawfulShape.declared_undeclared _)
  exact congrArg (fun rule => { e.revisedBy u with rule := rule }) hrule

end RuleEntry

/-- **An update writes what it sets.**  The cells of an update may stand in their columns, whether or
not the update passes its check.  Over the row of a region they set the reviser, a name that is not
empty and an availability other than zero; over that of a group the reviser, a name that is not
empty, a memo that is there, be it empty, and a business other than zero; over that of a rule of any
cloud the reviser and the whole rule.  All else is read back as it was. -/
theorem updates_overlay_rows :
    (∀ u r : Region, Entity.Overlays u r (r.revisedBy u)) ∧
    (∀ u g : Group, Entity.Overlays u g (g.revisedBy u)) ∧
    ∀ (c : RuleCloud) (u e : RuleEntry c.Rule), Entity.Overlays u e
      { e with
        rule := c.undeclared u.rule
        audit := { e.audit with reviser := u.audit.reviser } } := by
  refine ⟨fun u r => r.overlays_revisedBy u, fun u g => g.overlays_revisedBy u, fun c u e => ?_⟩
  rw [← c.undeclared_eq]
  exact e.overlays_revisedBy u

/-- An empty memo replaces a memo, while an empty name leaves the name. -/
example : Group.revisedBy { name := "web", memo := some "old" } { memo := some "" } =
    { name := "web", memo := some "" } := by
  decide

end SecurityGroups
