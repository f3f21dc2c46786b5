/-
SecurityGroups/Proofs/Clouds.lean

The clouds that keep rules, and what their rules have in common.

`LawfulShape` says of the rules of a cloud what everything about stored rules
rests on: no two columns of an entry have one name, and the columns of a rule
hold all of it but the direction that it may declare.  All four clouds are
instances, so a statement about every `RuleCloud` is proved once, over any
lawful shape.
-/
import SecurityGroups.Proofs.Rows
import SecurityGroups.Proofs.WellKept
import SecurityGroups.Request.Rules

namespace SecurityGroups

/-! ### Lawful shapes -/

/-- The rules of a cloud are stored in columns of their own, all but their direction. -/
class LawfulShape (R : Type) [Shape R] where
  /-- The rule without the direction that it declares. -/
  undeclared : R → R
  nodup : (Attribute.names (RuleEntry.attributes (R := R))).Nodup
  names_schema : (Entity.schema (RuleEntry R)).names =
    Attribute.names (RuleEntry.attributes (R := R))
  types_schema : ∀ a ∈ RuleEntry.attributes (R := R),
    (Entity.schema (RuleEntry R)).type? a.name = some a.kind.columnType
  schema_table : (Shape.table R).schema = Entity.schema (RuleEntry R)
  table_ne_groups : Shape.table R ≠ .groups
  copyAll_blank : ∀ rule, Attribute.copyAll (Shape.stored R) rule Shape.blank = undeclared rule
  check_undeclared : ∀ rule, Shape.check (undeclared rule) = Shape.check rule
  declared_undeclared : ∀ rule, Shape.declared (undeclared rule) = none
  undeclared_of_declared : ∀ rule, Shape.declared rule = none → undeclared rule = rule
  get_undeclared : ∀ rule, ∀ a ∈ Shape.stored R, a.get (undeclared rule) = a.get rule

instance : LawfulShape TCloud.Rule where
  undeclared := id
  nodup := by decide
  names_schema := by decide
  types_schema := by decide
  schema_table := rfl
  table_ne_groups := by decide
  copyAll_blank := fun _ => rfl
  check_undeclared := fun _ => rfl
  declared_undeclared := fun _ => rfl
  undeclared_of_declared := fun _ _ => rfl
  get_undeclared := fun _ _ _ => rfl

instance : LawfulShape Aws.Rule where
  undeclared := id
  nodup := by decide
  names_schema := by decide
  types_schema := by decide
  schema_table := rfl
  table_ne_groups := by decide
  copyAll_blank := fun _ => rfl
  check_undeclared := fun _ => rfl
  declared_undeclared := fun _ => rfl
  undeclared_of_declared := fun _ _ => rfl
  get_undeclared := fun _ _ _ => rfl

instance : LawfulShape HuaWei.Rule where
  undeclared := id
  nodup := by decide
  names_schema := by decide
  types_schema := by decide
  schema_table := rfl
  table_ne_groups := by decide
  copyAll_blank := fun _ => rfl
  check_undeclared := fun _ => rfl
  declared_undeclared := fun _ => rfl
  undeclared_of_declared := fun _ _ => rfl
  get_undeclared := fun _ _ _ => rfl

/-- All fields of a rule but its direction are stored. -/
theorem Azure.stored_eq : Shape.stored Azure.Rule =
    Azure.Rule.attributes.take 14 ++ Azure.Rule.attributes.drop 15 := rfl

instance : LawfulShape Azure.Rule where
  undeclared := fun rule => { rule with direction := none }
  nodup := by decide
  names_schema := by decide
  types_schema := by decide
  schema_table := rfl
  table_ne_groups := by decide
  copyAll_blank := fun _ => rfl
  check_undeclared := fun _ => rfl
  declared_undeclared := fun _ => rfl
  undeclared_of_declared := by
    intro rule hdeclared
    exact congrArg (fun direction => { rule with direction := direction }) hdeclared.symm
  get_undeclared := by
    intro rule
    rw [Azure.stored_eq]
    simp [Azure.Rule.attributes]

/-! ### Lawful changes -/

/-- The update has no value for a column. -/
def Change.Omits {U R : Type} [Change U R] (u : U) (name : String) : Prop :=
  ∀ b ∈ Change.attributes (U := U), b.name = name → b.get u = b.kind.blank

/-- An update has one field for each column of a rule.  It either has a value for it, or leaves what
the rule has; the direction has no field and stays. -/
class LawfulChange (U R : Type) [Change U R] [Shape R] : Prop where
  declared_apply : ∀ (u : U) (rule : R), Shape.declared (Change.apply u rule) = Shape.declared rule
  kept : List.Forall₂ (fun (a : Attribute R) (b : Attribute U) => b.name = a.name ∧
    ∀ u rule, b.get u = b.kind.blank → a.get (Change.apply u rule) = a.get rule)
      (Shape.stored R) Change.attributes

/-- **A column that an update omits keeps its value.** -/
theorem LawfulChange.get_apply {U R : Type} [Change U R] [Shape R] [LawfulChange U R]
    {a : Attribute R} (ha : a ∈ Shape.stored R) {u : U} (h : Change.Omits u a.name) (rule : R) :
    a.get (Change.apply u rule) = a.get rule := by
  have hkept := LawfulChange.kept (U := U) (R := R)
  obtain ⟨i, hi, rfl⟩ := List.getElem_of_mem ha
  obtain ⟨hname, hget⟩ := hkept.get hi (hkept.length_eq ▸ hi)
  exact hget u rule (h _ (List.getElem_mem _) hname)

instance : LawfulChange TCloud.Update TCloud.Rule where
  declared_apply := fun _ _ => rfl
  kept := by
    show List.Forall₂ _ TCloud.Rule.attributes TCloud.Update.attributes
    simp +contextual [TCloud.Rule.attributes, TCloud.Update.attributes, Kind.blank, Change.apply,
      TCloud.Update.apply]

instance : LawfulChange Aws.Update Aws.Rule where
  declared_apply := fun _ _ => rfl
  kept := by
    show List.Forall₂ _ Aws.Rule.attributes Aws.Update.attributes
    simp +contextual [Aws.Rule.attributes, Aws.Update.attributes, Kind.blank, Change.apply,
      Aws.Update.apply]

instance : LawfulChange HuaWei.Update HuaWei.Rule where
  declared_apply := fun _ _ => rfl
  kept := by
    show List.Forall₂ _ HuaWei.Rule.attributes HuaWei.Update.attributes
    simp +contextual [HuaWei.Rule.attributes, HuaWei.Update.attributes, Kind.blank, Change.apply,
      HuaWei.Update.apply]

instance : LawfulChange Azure.Update Azure.Rule where
  declared_apply := fun _ _ => rfl
  kept := by
    rw [Azure.stored_eq]
    show List.Forall₂ _ _ Azure.Update.attributes
    simp +contextual [Azure.Rule.attributes, Azure.Update.attributes, Kind.blank, Change.apply,
      Azure.Update.apply]

/-! ### The four clouds -/

/-- A cloud that keeps rules. -/
inductive RuleCloud where
  | tcloud | aws | huawei | azure
  deriving Repr, DecidableEq

namespace RuleCloud

/-- The cloud among all clouds. -/
def vendor : RuleCloud → Vendor
  | tcloud => .tcloud
  | aws => .aws
  | huawei => .huawei
  | azure => .azure

/-- The rules of the cloud. -/
@[reducible] def Rule : RuleCloud → Type
  | tcloud => TCloud.Rule
  | aws => Aws.Rule
  | huawei => HuaWei.Rule
  | azure => Azure.Rule

/-- The partial updates of the rules of the cloud. -/
@[reducible] def Update : RuleCloud → Type
  | tcloud => TCloud.Update
  | aws => Aws.Update
  | huawei => HuaWei.Update
  | azure => Azure.Update

instance : (c : RuleCloud) → Shape c.Rule
  | tcloud => inferInstanceAs (Shape TCloud.Rule)
  | aws => inferInstanceAs (Shape Aws.Rule)
  | huawei => inferInstanceAs (Shape HuaWei.Rule)
  | azure => inferInstanceAs (Shape Azure.Rule)

instance : (c : RuleCloud) → LawfulShape c.Rule
  | tcloud => inferInstanceAs (LawfulShape TCloud.Rule)
  | aws => inferInstanceAs (LawfulShape Aws.Rule)
  | huawei => inferInstanceAs (LawfulShape HuaWei.Rule)
  | azure => inferInstanceAs (LawfulShape Azure.Rule)

instance : (c : RuleCloud) → Change c.Update c.Rule
  | tcloud => inferInstanceAs (Change TCloud.Update TCloud.Rule)
  | aws => inferInstanceAs (Change Aws.Update Aws.Rule)
  | huawei => inferInstanceAs (Change HuaWei.Update HuaWei.Rule)
  | azure => inferInstanceAs (Change Azure.Update Azure.Rule)

instance : (c : RuleCloud) → LawfulChange c.Update c.Rule
  | tcloud => inferInstanceAs (LawfulChange TCloud.Update TCloud.Rule)
  | aws => inferInstanceAs (LawfulChange Aws.Update Aws.Rule)
  | huawei => inferInstanceAs (LawfulChange HuaWei.Update HuaWei.Rule)
  | azure => inferInstanceAs (LawfulChange Azure.Update Azure.Rule)

/-- The table of the rules of the cloud. -/
def table (c : RuleCloud) : TableName := Shape.table c.Rule

theorem vendor_eq (c : RuleCloud) : Shape.vendor c.Rule = c.vendor := by cases c <;> rfl

theorem vendor_inj {c d : RuleCloud} (h : c.vendor = d.vendor) : c = d := by
  cases c <;> cases d <;> first | rfl | cases h

theorem table_inj {c d : RuleCloud} (h : c.table = d.table) : c = d := by
  cases c <;> cases d <;> first | rfl | cases h

/-- A cloud keeps rules exactly when it is one of the four. -/
theorem keepsRules_iff {v : Vendor} : v.keepsRules = true ↔ ∃ c : RuleCloud, v = c.vendor := by
  constructor
  · intro h
    cases v with
    | tcloud => exact ⟨tcloud, rfl⟩
    | aws => exact ⟨aws, rfl⟩
    | gcp => cases h
    | azure => exact ⟨azure, rfl⟩
    | huawei => exact ⟨huawei, rfl⟩
  · rintro ⟨c, rfl⟩
    cases c <;> rfl

end RuleCloud

/-! ### Requests of some cloud -/

namespace AnyCreation

/-- The cloud whose rules are created. -/
def cloud : AnyCreation → RuleCloud
  | tcloud _ => .tcloud
  | aws _ => .aws
  | huawei _ => .huawei
  | azure _ => .azure

/-- The creation itself. -/
def creation : (a : AnyCreation) → RuleCreation a.cloud.Rule
  | tcloud c => c
  | aws c => c
  | huawei c => c
  | azure c => c

end AnyCreation

namespace AnyChange

/-- The cloud whose rule is updated. -/
def cloud : AnyChange → RuleCloud
  | tcloud _ => .tcloud
  | aws _ => .aws
  | huawei _ => .huawei
  | azure _ => .azure

/-- The update itself. -/
def update : (a : AnyChange) → a.cloud.Update
  | tcloud u => u
  | aws u => u
  | huawei u => u
  | azure u => u

end AnyChange

end SecurityGroups
