/-
SecurityGroups/Proofs/RowForms.lean

Records written as rows and read back.

The row of an entity has a cell in each column of its table and nowhere else, every
cell may stand in its column, and the entity is read back (`Entity.Fills`).  The
columns of a rule are part of a row: writing them sets them and leaves the rest of
the row alone (`Shape.Overwrites`).

One thing is not kept: the direction that a rule of Azure declares has no column of
its own, because `type` is the column of the direction of the entry.  Such a rule is
read back without it (`RuleCloud.undeclared`).
-/
import SecurityGroups.Proofs.Regions

namespace SecurityGroups

/-! ### Entities -/

/-- The row of an entity is a full row of its table, and is read as `read`. -/
structure Entity.Fills {α : Type} [Entity α] (e read : α) : Prop where
  columns : ∀ name, ((toRow e).get? name).isSome = (schema α).contains name
  fits : (toRow e).Fits (schema α)
  reads : ofRow (toRow e) = .ok read

theorem LawfulEntity.fills {α : Type} [Entity α] [LawfulEntity α] (e : α) :
    Entity.Fills e (normal e) where
  columns := by
    intro name
    rw [Bool.eq_iff_iff, contains_iff]
    constructor
    · intro hcell
      by_contra hnot
      rw [get?_toRow_of_not_mem e hnot] at hcell
      exact absurd hcell (by decide)
    · intro hmem
      obtain ⟨a, ha, rfl⟩ := List.mem_map.1 hmem
      rw [get?_toRow e ha, Option.isSome_some]
  fits := fits_toRow e
  reads := ofRow_toRow e

/-! ### Rules -/

/-- Writing a rule into a row sets the columns of its cloud, whatever they held, and no others; the
columns are then read as `read`. -/
structure Shape.Overwrites {R : Type} [Shape R] (rule read : R) (row : Row) : Prop where
  set : ∀ name ∈ (columns R).map Column.name,
    ∃ cell, ∀ other : Row, (write rule other).get? name = some cell
  kept : ∀ name ∉ (columns R).map Column.name, (write rule row).get? name = row.get? name
  reads : Shape.read (write rule row) = .ok read

theorem Shape.names_columns (R : Type) [Shape R] :
    (columns R).map Column.name = Attribute.names (stored R) := List.map_map

theorem LawfulShape.overwrites {R : Type} [Shape R] [LawfulShape R] (rule : R) (row : Row) :
    Shape.Overwrites rule (undeclared rule) row where
  set := by
    intro name hname
    rw [Shape.names_columns] at hname
    obtain ⟨a, ha, rfl⟩ := List.mem_map.1 hname
    exact ⟨_, fun _ => Attribute.get?_writeAll_of_mem RuleEntry.nodup_stored ha⟩
  kept := by
    intro name hname
    rw [Shape.names_columns] at hname
    exact Attribute.get?_writeAll_of_not_mem hname
  reads := by
    have hread : Shape.read (Shape.write rule row) = .ok (Attribute.copyAll _ rule Shape.blank) :=
      Attribute.readAll_writeAll RuleEntry.nodup_stored
    rw [hread, copyAll_blank]

namespace RuleCloud

/-- A rule without the direction that it declares; only a rule of Azure can declare one. -/
def undeclared : (c : RuleCloud) → c.Rule → c.Rule
  | tcloud, rule | aws, rule | huawei, rule => rule
  | azure, rule => { rule with direction := none }

theorem undeclared_eq (c : RuleCloud) (rule : c.Rule) :
    LawfulShape.undeclared rule = c.undeclared rule := by
  cases c <;> rfl

end RuleCloud

/-- **Records are kept in rows.**  Regions, groups and the rules of every cloud fill the columns of
their tables with cells of the right types, and are read back as they were; a rule is written over
its own columns of any row and read back from there.  A direction declared by a rule itself is lost,
that of its entry is not. -/
theorem kept_in_rows :
    (∀ r : Region, Entity.Fills r r) ∧ (∀ g : Group, Entity.Fills g g) ∧
      ∀ c : RuleCloud,
        (∀ e : RuleEntry c.Rule, Entity.Fills e { e with rule := c.undeclared e.rule }) ∧
        ∀ (rule : c.Rule) (row : Row), Shape.Overwrites rule (c.undeclared rule) row := by
  refine ⟨LawfulEntity.fills, LawfulEntity.fills, fun c => ⟨?_, ?_⟩⟩
  · intro e
    rw [← c.undeclared_eq]
    exact LawfulEntity.fills e
  · intro rule row
    rw [← c.undeclared_eq]
    exact LawfulShape.overwrites rule row

end SecurityGroups
