/-
SecurityGroups/Proofs/Regions.lean

Regions in the store.

A region is a lawful entity as a group is: its row reads back, and what the store
makes of its row is the row of a region.  An update writes the reviser, and of the
name and the availability those that are there; an empty name and an availability
of zero stand for absence.
-/
import SecurityGroups.Entity.Region
import SecurityGroups.Proofs.Entities

namespace SecurityGroups.Region

/-! ### What an update writes -/

theorem names_changeable : Attribute.names changeable = ["region_name", "is_available"] := by decide

/-- An update of a region writes no other column than these. -/
theorem get?_updateRow_of_not_mem (u : Region) {name : String}
    (h : name ∉ ["reviser", "region_name", "is_available"]) :
    (Entity.updateRow u).get? name = none :=
  Attribute.get?_revision_of_not_mem (names_changeable ▸ h)

/-- An update of a region writes what stands for no absence. -/
theorem get?_updateRow_of_mem (u : Region) {a : Attribute Region} (h : a ∈ changeable) :
    (Entity.updateRow u).get? a.name =
      if a.get u = a.kind.blank then none else some (a.kind.toCell (a.get u)) :=
  Attribute.get?_revision_of_mem (names_changeable ▸ by decide) h

theorem get?_reviser_updateRow (u : Region) :
    (Entity.updateRow u).get? "reviser" = some (.string u.audit.reviser) :=
  Attribute.get?_revision_own (names_changeable ▸ by decide)

/-! ### Stamps and updates -/

/-- A region with an id and the times of its creation. -/
def stamp (id : String) (now : Instant) (r : Region) : Region :=
  { r with id := id, audit := { r.audit with createdAt := some now, updatedAt := some now } }

/-- A region after an update: an empty name and an availability of zero change nothing. -/
def amend (now : Instant) (u r : Region) : Region :=
  { r with
    regionName := if u.regionName = "" then r.regionName else u.regionName
    isAvailable := if u.isAvailable = 0 then r.isAvailable else u.isAvailable
    audit := { r.audit with reviser := u.audit.reviser, updatedAt := some now } }

/-- The columns of a region, one after the other. -/
theorem forall_attributes {motive : Attribute Region → Prop}
    (hown : ∀ a ∈ attributes.take 5, motive a)
    (haudit : ∀ a ∈ Audit.attributes, motive (a.lift audit fun v r => { r with audit := v })) :
    ∀ a ∈ attributes, motive a := by
  intro a ha
  rcases List.mem_append.1 ha with h | h
  · exact hown a h
  · obtain ⟨b, hb, rfl⟩ := List.mem_map.1 h
    exact haudit b hb

theorem get_stamp (id : String) (now : Instant) (r : Region) : ∀ a ∈ attributes,
    a.kind.toCell (a.get (stamp id now r)) =
      if a.name = "updated_at" ∨ a.name = "created_at" then .time now
      else if a.name = "id" then .string id
      else a.kind.toCell (a.get r) := by
  refine forall_attributes ?_ ?_
  · intro a ha
    simp only [attributes, List.cons_append, List.take_succ_cons, List.take_zero, List.mem_cons,
      List.not_mem_nil, or_false] at ha
    rcases ha with rfl | rfl | rfl | rfl | rfl <;> rfl
  · exact Audit.get_stamp id now r.audit

/-- The cell of what an update leaves or replaces. -/
theorem toCell_ite (k : Kind) {p : Prop} [Decidable p] {x y : k.Carrier} :
    k.toCell (if p then x else y) = (if p then none else some (k.toCell y)).getD (k.toCell x) := by
  split <;> rfl

theorem get_amend (now : Instant) (u r : Region) : ∀ a ∈ attributes,
    a.kind.toCell (a.get (amend now u r)) =
      if a.name = "updated_at" then .time now
      else ((Entity.updateRow u).get? a.name).getD (a.kind.toCell (a.get r)) := by
  refine forall_attributes ?_ ?_
  · intro a ha
    simp only [attributes, List.cons_append, List.take_succ_cons, List.take_zero, List.mem_cons,
      List.not_mem_nil, or_false] at ha
    rcases ha with rfl | rfl | rfl | rfl | rfl
    · rw [get?_updateRow_of_not_mem u (by decide)]
      rfl
    · rw [get?_updateRow_of_not_mem u (by decide)]
      rfl
    · rw [get?_updateRow_of_not_mem u (by decide)]
      rfl
    · rw [get?_updateRow_of_mem u List.mem_cons_self]
      exact toCell_ite .text
    · rw [get?_updateRow_of_mem u (.tail _ List.mem_cons_self)]
      exact toCell_ite .number
  · exact Audit.get_amend (get?_reviser_updateRow u) (get?_updateRow_of_not_mem u (by decide))
      (get?_updateRow_of_not_mem u (by decide)) now r.audit

instance : LawfulEntity Region where
  normal := fun r => r
  stamp := stamp
  amend := amend
  nodup := by decide
  mem_names := by
    intro name
    have hnames : (Entity.schema Region).names = Attribute.names attributes := by decide
    rw [hnames]
    exact Iff.rfl
  types := by decide
  stamped := by decide
  ofRow_toRow := fun _ => Attribute.readAll_writeAll (by decide)
  get_stamp := get_stamp
  get_amend := get_amend
  get?_updateRow := by
    intro u name hname
    refine get?_updateRow_of_not_mem u ?_
    intro hmem
    have hsub : ∀ n ∈ ["reviser", "region_name", "is_available"],
        n ∈ Attribute.names attributes := by decide
    exact hname (hsub name hmem)

end SecurityGroups.Region
