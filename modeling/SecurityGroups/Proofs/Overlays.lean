/-
SecurityGroups/Proofs/Overlays.lean

Updates are laid over rules.

Every cloud writes out how an update changes a rule, field by field, and each in its own
mixture of fields that may be missing and fields that may not.  `Change.Overlays` says of
all of them what is meant: a field of the new rule is that of the update, where the update
has one, and else that of the old rule.  Since the fields and the declared direction make
up a rule, it holds of one new rule only:

    Overlays u r r'  ↔  r' = apply u r.

What holds of overlays therefore holds of updates.  An update without fields changes
nothing, and two updates one after the other are one (`RuleCloud.apply_apply_of_combined`),
which has the fields of the second and for the rest those of the first.  That an update
can be repeated is the case in which the two are the same.
-/
import SecurityGroups.Proofs.WireForms

namespace SecurityGroups

/-! ### One field -/

/-- What a field of a rule becomes under a field of an update: it is kept when the update has
nothing for it, and is else what the update has. -/
inductive Kind.Overlaid : (j : Kind) → j.Carrier → (k : Kind) → k.Carrier → k.Carrier → Prop where
  | kept (j k : Kind) (x : k.Carrier) : Overlaid j j.blank k x x
  | text (s x : String) : Overlaid .optText (some s) .text x s
  | optText (s : String) (x : Option String) : Overlaid .optText (some s) .optText x (some s)
  | number (n x : Int64) : Overlaid .optNumber (some n) .number x n
  | texts (l x : List String) : Overlaid .optTexts (some l) .texts x l

namespace Kind.Overlaid

variable {j k : Kind} {v w : j.Carrier} {x y z : k.Carrier}

theorem unique (h : Overlaid j v k x y) (h' : Overlaid j v k x z) : y = z := by
  cases h with
  | kept => cases j <;> cases h' <;> rfl
  | text => cases h'; rfl
  | optText => cases h'; rfl
  | number => cases h'; rfl
  | texts => cases h'; rfl

/-- Of two fields that are laid over a field one after the other, the second one counts where it
has something. -/
theorem trans (h : Overlaid j v k x y) (h' : Overlaid j w k y z) :
    Overlaid j (if w = j.blank then v else w) k x z := by
  cases h' with
  | kept => rwa [if_pos rfl]
  | text s => exact .text s x
  | optText s => exact .optText s x
  | number n => exact .number n x
  | texts l => exact .texts l x

/-! The ways in which the clouds write it. -/

theorem text_getD (v : Option String) (x : String) : Overlaid .optText v .text x (v.getD x) := by
  cases v with
  | none => exact .kept .optText .text x
  | some s => exact .text s x

theorem optText_or (v x : Option String) : Overlaid .optText v .optText x (v.or x) := by
  cases v with
  | none => exact .kept .optText .optText x
  | some s => exact .optText s x

theorem number_getD (v : Option Int64) (x : Int64) :
    Overlaid .optNumber v .number x (v.getD x) := by
  cases v with
  | none => exact .kept .optNumber .number x
  | some n => exact .number n x

theorem texts_getD (v : Option (List String)) (x : List String) :
    Overlaid .optTexts v .texts x (v.getD x) := by
  cases v with
  | none => exact .kept .optTexts .texts x
  | some l => exact .texts l x

end Kind.Overlaid

/-! ### Copying what is there -/

namespace Attribute

variable {α : Type} {as : List (Attribute α)} {a : Attribute α} {x y : α}

/-- The attributes are places of their own: what is set in one is found in it, and in no other. -/
structure Separate (as : List (Attribute α)) : Prop where
  get_set : ∀ a ∈ as, ∀ v x, a.get (a.set v x) = v
  apart : as.Pairwise fun a b => ∀ x,
    (∀ v, b.get (a.set v x) = b.get x) ∧ ∀ v, a.get (b.set v x) = a.get x

/-- Copies those attributes of one record into another that do not stand for absence. -/
def copyAllPresent : List (Attribute α) → α → α → α
  | [], _, y => y
  | a :: rest, x, y =>
    copyAllPresent rest x (if a.get x = a.kind.blank then y else a.set (a.get x) y)

theorem get_copyAllPresent_of_apart (h : ∀ b ∈ as, ∀ y v, a.get (b.set v y) = a.get y) :
    a.get (copyAllPresent as x y) = a.get y := by
  induction as generalizing y with
  | nil => rfl
  | cons b as ih =>
    obtain ⟨hb, has⟩ := List.forall_mem_cons.1 h
    rw [copyAllPresent, ih has]
    split
    · rfl
    · exact hb y _

/-- **Each attribute is copied** unless it stands for absence. -/
theorem get_copyAllPresent (hsep : Separate as) (ha : a ∈ as) :
    a.get (copyAllPresent as x y) = if a.get x = a.kind.blank then a.get y else a.get x := by
  induction as generalizing y with
  | nil => cases ha
  | cons b as ih =>
    obtain ⟨hself, hselves⟩ := List.forall_mem_cons.1 hsep.get_set
    obtain ⟨hb, has⟩ := List.pairwise_cons.1 hsep.apart
    rw [copyAllPresent]
    rcases List.mem_cons.1 ha with rfl | ha
    · rw [get_copyAllPresent_of_apart fun b hmem y => (hb b hmem y).2]
      split
      · rfl
      · exact hself _ y
    · -- whether the first attribute has been copied does not matter to the others
      rw [ih ⟨hselves, has⟩ ha]
      have hfirst : a.get (if b.get x = b.kind.blank then y else b.set (b.get x) y) = a.get y := by
        split
        · rfl
        · exact (hb a ha y).1 _
      rw [hfirst]

end Attribute

/-! ### Updates -/

namespace Change

variable {U R : Type} [Change U R]

/-- The update has no field. -/
def Empty (u : U) : Prop := ∀ b ∈ attributes (U := U), b.get u = b.kind.blank

/-- An update has the fields of two others: those of the second, and for the rest those of the
first. -/
def Combined (first second u : U) : Prop := ∀ b ∈ attributes (U := U),
  b.get u = if b.get second = b.kind.blank then b.get first else b.get second

/-- The second of two updates over the first. -/
def combine (first second : U) : U := Attribute.copyAllPresent attributes second first

/-- The update is laid over the first rule in the second: each field is that of the update, where
it has one, and else that of the first rule, and the direction is that of the first rule. -/
structure Overlays [Shape R] (u : U) (r r' : R) : Prop where
  fields : ∀ a ∈ Shape.stored R, ∀ b ∈ attributes (U := U), b.name = a.name →
    Kind.Overlaid b.kind (b.get u) a.kind (a.get r) (a.get r')
  declared : Shape.declared r' = Shape.declared r

end Change

/-- The updates of a cloud have a field for each field of its rules, and are laid over them. -/
class OverlayChange (U R : Type) [Change U R] [Shape R] : Prop where
  names_eq : Attribute.names (Shape.stored R) = Attribute.names (Change.attributes (U := U))
  separate : Attribute.Separate (Change.attributes (U := U))
  empty_blank : Change.Empty (Change.blank : U)
  overlays : ∀ (u : U) (r : R), Change.Overlays u r (Change.apply u r)

section

open Kind.Overlaid

instance : OverlayChange TCloud.Update TCloud.Rule where
  names_eq := rfl
  separate := by
    constructor <;> simp [Change.attributes, TCloud.Update.attributes]
  empty_blank := by
    simp [Change.Empty, Change.attributes, TCloud.Update.attributes, Change.blank, Kind.blank]
  overlays := by
    refine fun u r => ⟨?_, rfl⟩
    show ∀ a ∈ TCloud.Rule.attributes, ∀ b ∈ TCloud.Update.attributes, _
    simp [TCloud.Rule.attributes, TCloud.Update.attributes, Change.apply, TCloud.Update.apply,
      text_getD, optText_or]

instance : OverlayChange Aws.Update Aws.Rule where
  names_eq := rfl
  separate := by
    constructor <;> simp [Change.attributes, Aws.Update.attributes]
  empty_blank := by
    simp [Change.Empty, Change.attributes, Aws.Update.attributes, Change.blank, Kind.blank]
  overlays := by
    refine fun u r => ⟨?_, rfl⟩
    show ∀ a ∈ Aws.Rule.attributes, ∀ b ∈ Aws.Update.attributes, _
    simp [Aws.Rule.attributes, Aws.Update.attributes, Change.apply, Aws.Update.apply,
      number_getD, optText_or]

instance : OverlayChange HuaWei.Update HuaWei.Rule where
  names_eq := rfl
  separate := by
    constructor <;> simp [Change.attributes, HuaWei.Update.attributes]
  empty_blank := by
    simp [Change.Empty, Change.attributes, HuaWei.Update.attributes, Change.blank, Kind.blank]
  overlays := by
    refine fun u r => ⟨?_, rfl⟩
    show ∀ a ∈ HuaWei.Rule.attributes, ∀ b ∈ HuaWei.Update.attributes, _
    simp [HuaWei.Rule.attributes, HuaWei.Update.attributes, Change.apply, HuaWei.Update.apply,
      number_getD, optText_or]

instance : OverlayChange Azure.Update Azure.Rule where
  names_eq := rfl
  separate := by
    constructor <;> simp [Change.attributes, Azure.Update.attributes]
  empty_blank := by
    simp [Change.Empty, Change.attributes, Azure.Update.attributes, Change.blank, Kind.blank]
  overlays := by
    refine fun u r => ⟨?_, rfl⟩
    rw [Azure.stored_eq]
    show ∀ a ∈ _, ∀ b ∈ Azure.Update.attributes, _
    simp [Azure.Rule.attributes, Azure.Update.attributes, Change.apply, Azure.Update.apply,
      text_getD, optText_or, number_getD, texts_getD]

end

instance : (c : RuleCloud) → OverlayChange c.Update c.Rule
  | .tcloud => inferInstanceAs (OverlayChange TCloud.Update TCloud.Rule)
  | .aws => inferInstanceAs (OverlayChange Aws.Update Aws.Rule)
  | .huawei => inferInstanceAs (OverlayChange HuaWei.Update HuaWei.Rule)
  | .azure => inferInstanceAs (OverlayChange Azure.Update Azure.Rule)

/-! ### The algebra of overlays -/

namespace Change

variable {U R : Type} [Change U R] {first second u : U}

theorem combined_combine [Shape R] [OverlayChange U R] (first second : U) :
    Combined first second (combine first second) :=
  fun _ hb => Attribute.get_copyAllPresent OverlayChange.separate hb

/-- An update over itself is that update. -/
theorem combined_self (u : U) : Combined u u u := fun _ _ => (ite_self _).symm

namespace Overlays

variable [Shape R] {r r₁ r₂ : R}

theorem of_empty (hu : Empty u) (r : R) : Overlays u r r where
  fields := by
    intro a _ b hb _
    rw [hu b hb]
    exact .kept b.kind a.kind (a.get r)
  declared := rfl

/-- Overlays one after the other are one overlay. -/
theorem trans (h : Overlays first r r₁) (h' : Overlays second r₁ r₂)
    (hu : Combined first second u) : Overlays u r r₂ where
  fields := by
    intro a ha b hb hname
    rw [hu b hb]
    exact (h.fields a ha b hb hname).trans (h'.fields a ha b hb hname)
  declared := h'.declared.trans h.declared

end Overlays

end Change

/-! ### Rules -/

namespace RuleCloud

variable {c : RuleCloud} {first second u : c.Update} {r r' : c.Rule}

/-- A rule is made up of its fields and of the direction that it declares. -/
theorem rule_ext (hfields : ∀ a ∈ Shape.stored c.Rule, a.get r = a.get r')
    (hdeclared : Shape.declared r = Shape.declared r') : r = r' := by
  have hcopy := Attribute.copyAll_congr (y := Shape.blank) hfields
  rw [LawfulShape.copyAll_blank, LawfulShape.copyAll_blank] at hcopy
  cases c with
  | tcloud => exact hcopy
  | aws => exact hcopy
  | huawei => exact hcopy
  | azure =>
    exact congrArg₂ (fun (rule : Azure.Rule) direction => { rule with direction := direction })
      hcopy hdeclared

/-- **Laid over a rule, an update makes one rule**, that which it is applied to. -/
theorem eq_apply_iff : r' = Change.apply u r ↔ Change.Overlays u r r' := by
  have happly := OverlayChange.overlays u r
  constructor
  · rintro rfl
    exact happly
  · intro h
    refine rule_ext (fun a ha => ?_) (h.declared.trans happly.declared.symm)
    have hname : a.name ∈ Attribute.names (Change.attributes (U := c.Update)) :=
      OverlayChange.names_eq (U := c.Update) (R := c.Rule) ▸ Attribute.name_mem_names ha
    obtain ⟨b, hb, hname⟩ := List.mem_map.1 hname
    exact (h.fields a ha b hb hname).unique (happly.fields a ha b hb hname)

theorem apply_of_empty (hu : Change.Empty u) (r : c.Rule) : Change.apply u r = r :=
  (eq_apply_iff.2 (.of_empty hu r)).symm

/-- **Two updates one after the other** are one. -/
theorem apply_apply_of_combined (hu : Change.Combined first second u) (r : c.Rule) :
    Change.apply second (Change.apply first r) = Change.apply u r :=
  eq_apply_iff.2 ((OverlayChange.overlays first r).trans (OverlayChange.overlays second _) hu)

/-- What has been updated is not changed by the same update. -/
theorem apply_apply (u : c.Update) (r : c.Rule) :
    Change.apply u (Change.apply u r) = Change.apply u r :=
  apply_apply_of_combined (Change.combined_self u) r

end RuleCloud

/-- **Updates are laid over rules**, in every cloud.  An update has a field for each field of a rule
but the direction.  It makes of a rule exactly the one that has the fields of the update, where the
update has any, and for the rest those of the rule, whose direction it keeps.  So an update without
fields changes nothing, a second time an update changes nothing, and two updates are like the one
that has the fields of the second and for the rest those of the first, which there always is. -/
theorem updates_are_laid_over_rules (c : RuleCloud) :
    Attribute.names (Shape.stored c.Rule) = Attribute.names (Change.attributes (U := c.Update)) ∧
    (∀ (u : c.Update) (r r' : c.Rule), r' = Change.apply u r ↔ Change.Overlays u r r') ∧
    Change.Empty (Change.blank : c.Update) ∧
    (∀ (u : c.Update) (r : c.Rule), Change.Empty u → Change.apply u r = r) ∧
    (∀ (u : c.Update) (r : c.Rule), Change.apply u (Change.apply u r) = Change.apply u r) ∧
    ∀ first second : c.Update, Change.Combined first second (Change.combine first second) ∧
      ∀ u : c.Update, Change.Combined first second u →
        ∀ r : c.Rule, Change.apply second (Change.apply first r) = Change.apply u r :=
  ⟨OverlayChange.names_eq, fun _ _ _ => RuleCloud.eq_apply_iff, OverlayChange.empty_blank,
    fun _ r hu => RuleCloud.apply_of_empty hu r, RuleCloud.apply_apply,
    fun first second => ⟨Change.combined_combine first second,
      fun _ hu r => RuleCloud.apply_apply_of_combined hu r⟩⟩

/-- The first update empties a list of ports, the second one has another memo and a priority, and
neither has a direction. -/
theorem updates_are_laid_over_rules_azure :
    let r : Azure.Rule :=
      { name := "web", destPorts := ["80", "443"], priority := 100, direction := some .ingress }
    let close : Azure.Update := { destPorts := some [], memo := some "closed" }
    let lower : Azure.Update := { memo := some "shut", priority := some 300 }
    let both : Azure.Update :=
      { destPorts := some [], memo := some "shut", priority := some 300 }
    Change.apply ({} : Azure.Update) r = r ∧ Change.Overlays close r (Change.apply close r) ∧
      Change.combine close lower = both ∧
      Change.apply lower (Change.apply close r) =
        { name := "web", memo := some "shut", priority := 300, direction := some .ingress } := by
  intro r close lower both
  obtain ⟨-, happly, hblank, hempty, -, hcombined⟩ := updates_are_laid_over_rules .azure
  obtain ⟨hcombine, hboth⟩ := hcombined close lower
  have heq : Change.combine close lower = both := by decide
  exact ⟨hempty _ r hblank, (happly close r _).1 rfl, heq, hboth both (heq ▸ hcombine) r⟩

end SecurityGroups
