/-
SecurityGroups/Proofs/WireForms.lean

Rules written as JSON and read back.

A rule is written with its cloud beside its fields, and an entry with the members of
its rule between its own, all in one object.  Reading finds each member again because
no name stands for two things: no field of a rule is called `vendor`, and no field that
is written of a rule has the name of one of the columns that all entries have.

The one field for which the latter is not so is the direction that a rule of Azure
declares; it is left out when the rule declares none, as is every rule that comes out of
a row.
-/
import SecurityGroups.Proofs.Encodings
import SecurityGroups.Proofs.Entities

namespace SecurityGroups

/-! ### Rules -/

/-- The rules of a cloud can be told from their JSON members. -/
class WrittenShape (R : Type) [Shape R] : Prop where
  nodup : (Attribute.names (Shape.attributes (R := R))).Nodup
  untagged : "vendor" ∉ Attribute.names (Shape.attributes (R := R))
  timeless : ∀ a ∈ Shape.attributes (R := R), a.kind ≠ .optTime
  /-- An empty list is left out. -/
  quiet_texts : ∀ a ∈ Shape.attributes (R := R), a.kind = .texts → a.quiet = true
  vacant : ∀ rule : R, Attribute.Vacant Shape.attributes rule Shape.blank
  copyAll_blank : ∀ rule : R, Attribute.copyAll Shape.attributes rule Shape.blank = rule
  vacant_stored : ∀ rule : R, Attribute.Vacant (Shape.stored R) rule Shape.blank
  /-- The fields that are columns are all that is written of a rule without a direction. -/
  members_eq : ∀ rule : R, Shape.declared rule = none →
    Shape.members rule = Attribute.dumpAll (Shape.stored R) rule

instance : WrittenShape TCloud.Rule where
  nodup := by decide
  untagged := by decide
  timeless := by decide
  quiet_texts := by decide
  vacant := fun _ => by repeat' constructor
  copyAll_blank := fun _ => rfl
  vacant_stored := fun _ => by repeat' constructor
  members_eq := fun _ _ => rfl

instance : WrittenShape Aws.Rule where
  nodup := by decide
  untagged := by decide
  timeless := by decide
  quiet_texts := by decide
  vacant := fun _ => by repeat' constructor
  copyAll_blank := fun _ => rfl
  vacant_stored := fun _ => by repeat' constructor
  members_eq := fun _ _ => rfl

instance : WrittenShape HuaWei.Rule where
  nodup := by decide
  untagged := by decide
  timeless := by decide
  quiet_texts := by decide
  vacant := fun _ => by repeat' constructor
  copyAll_blank := fun _ => rfl
  vacant_stored := fun _ => by repeat' constructor
  members_eq := fun _ _ => rfl

instance : WrittenShape Azure.Rule where
  nodup := by decide
  untagged := by decide
  timeless := by decide
  quiet_texts := by decide
  vacant := fun _ => by repeat' constructor
  copyAll_blank := fun _ => rfl
  vacant_stored := fun _ => by repeat' constructor
  members_eq := by
    intro rule hdeclared
    have hrule : rule = { rule with direction := none } :=
      congrArg (fun direction => { rule with direction := direction }) hdeclared
    rw [hrule]
    rfl

instance : (c : RuleCloud) → WrittenShape c.Rule
  | .tcloud => inferInstanceAs (WrittenShape TCloud.Rule)
  | .aws => inferInstanceAs (WrittenShape Aws.Rule)
  | .huawei => inferInstanceAs (WrittenShape HuaWei.Rule)
  | .azure => inferInstanceAs (WrittenShape Azure.Rule)

/-- A rule is read from its members, also if its cloud stands before them. -/
theorem Shape.record?_members {R : Type} [Shape R] [WrittenShape R] (rule : R) (tag : Json) :
    Shape.record? (.obj (("vendor", tag) :: Shape.members rule)) = some rule := by
  have hms : ∀ a ∈ Shape.attributes (R := R),
      Members.find? a.name (("vendor", tag) :: Shape.members rule) =
        if a.Omitted rule then none else some (a.kind.toJson (a.get rule)) := by
    intro a ha
    have hne : "vendor" ≠ a.name := by
      intro heq
      exact WrittenShape.untagged (R := R) (heq ▸ Attribute.name_mem_names ha)
    rw [Members.find?_cons, if_neg hne]
    exact Attribute.find?_dumpAll WrittenShape.nodup ha
  have htell : ∀ a ∈ Shape.attributes (R := R), a.kind.Tellable (a.get rule) :=
    fun a ha => Kind.tellable_of_ne (WrittenShape.timeless a ha) _
  refine (Attribute.loadAll_eq_some hms htell (WrittenShape.vacant rule)).trans ?_
  rw [WrittenShape.copyAll_blank]

/-- **A rule is read back** from what is written of it, with its cloud beside its fields. -/
theorem Rule.tagged?_toJson (r : Rule) : Rule.tagged? r.toJson = some r := by
  have hbody : (r.members.map fun m => (m.1, m.2.bareName)) = r.members := by
    cases r <;> exact Attribute.map_bareName_dumpAll _ _
  have hread : ofJson r.vendor (.obj (("vendor", .str r.vendor.name) :: r.members)) = .ok r := by
    cases r with
    | tcloud rule =>
      exact congrArg (DecodeError.ofOption ∘ Option.map tcloud) (Shape.record?_members rule _)
    | aws rule =>
      exact congrArg (DecodeError.ofOption ∘ Option.map aws) (Shape.record?_members rule _)
    | huawei rule =>
      exact congrArg (DecodeError.ofOption ∘ Option.map huawei) (Shape.record?_members rule _)
    | azure rule =>
      exact congrArg (DecodeError.ofOption ∘ Option.map azure) (Shape.record?_members rule _)
  have hnamed : Rule.tagged? r.toJson = Rule.named? r.vendor.name
      (.obj (("vendor", .str r.vendor.name) :: r.members.map fun m => (m.1, m.2.bareName))) := rfl
  rw [hnamed, hbody, Rule.named?, Vendor.find?_name, Option.bind_some, hread]
  rfl

/-! ### Entries -/

/-- The times of a row have years of four digits. -/
def Audit.HasPlainYears (a : Audit) : Prop :=
  (∀ t ∈ a.createdAt, t.HasPlainYear) ∧ ∀ t ∈ a.updatedAt, t.HasPlainYear

theorem Audit.tellable {audit : Audit} (h : audit.HasPlainYears) :
    ∀ a ∈ Audit.attributes, a.kind.Tellable (a.get audit) := by
  have htime : ∀ time : Option Instant, (∀ t ∈ time, t.HasPlainYear) →
      Kind.optTime.Tellable time := by
    rintro (_ | t) hyear
    · trivial
    · exact hyear t rfl
  intro a ha
  simp only [Audit.attributes, List.mem_cons, List.not_mem_nil, or_false] at ha
  rcases ha with rfl | rfl | rfl | rfl
  · trivial
  · trivial
  · exact htime _ h.1
  · exact htime _ h.2

namespace Attribute

variable {α β : Type} {as bs : List (Attribute α)} {x : α}

theorem dumpAll_append : dumpAll (as ++ bs) x = dumpAll as x ++ dumpAll bs x :=
  List.flatMap_append

/-- The members of a part are written in the record as they are in the part. -/
theorem dumpAll_map_lift (as : List (Attribute α)) (get : β → α) (set : α → β → β) (z : β) :
    dumpAll (as.map (·.lift get set)) z = dumpAll as (get z) := by
  rw [dumpAll, List.flatMap_map]
  rfl

end Attribute

namespace RuleEntry

variable {R : Type} [Shape R]

theorem toJson_eq {e : RuleEntry R} (h : Shape.declared e.rule = none) :
    Entity.toJson e = .obj (Attribute.dumpAll attributes e) := by
  simp only [Entity.toJson, toJson, h]

section

variable [WrittenShape R]

/-- All that an entry holds can be told, if its times can. -/
theorem tellable {e : RuleEntry R} (h : e.audit.HasPlainYears) :
    ∀ a ∈ attributes (R := R), a.kind.Tellable (a.get e) := by
  refine forall_attributes ?_ ?_ ?_
  · have howner : ∀ a ∈ ownerAttributes (R := R), a.kind ≠ .optTime := by
      simp [ownerAttributes, directionAttribute]
    exact fun a ha => Kind.tellable_of_ne (howner a ha) _
  · intro a ha
    exact Kind.tellable_of_ne (WrittenShape.timeless a (List.mem_filter.1 ha).1) _
  · exact Audit.tellable h

/-- An entry is read into an empty one. -/
theorem vacant (e : RuleEntry R) : Attribute.Vacant attributes e blank := by
  refine Attribute.vacant_append.2 ⟨Attribute.vacant_append.2 ⟨?_, ?_⟩, ?_⟩
  · repeat' constructor
  · exact Attribute.vacant_map_lift (Shape.stored R) rule _ (fun _ _ => rfl) (fun _ => rfl)
      (WrittenShape.vacant_stored e.rule)
  · -- nothing but the audit part is copied into it
    rw [copyAll_placed]
    repeat' constructor

end

variable [LawfulShape R] [WrittenShape R]

/-- **An entry is read back** from what is written of it. -/
theorem ofJson?_toJson {e : RuleEntry R} (h : Shape.declared e.rule = none)
    (hyears : e.audit.HasPlainYears) : Entity.ofJson? (Entity.toJson e) = some e := by
  rw [toJson_eq h]
  have hms : ∀ a ∈ attributes (R := R), (Attribute.dumpAll attributes e).find? a.name =
      if a.Omitted e then none else some (a.kind.toJson (a.get e)) :=
    fun a ha => Attribute.find?_dumpAll LawfulShape.nodup ha
  refine (Attribute.loadAll_eq_some hms (tellable hyears) (vacant e)).trans ?_
  rw [copyAll_attributes]
  have hrule : Attribute.copyAll (Shape.stored R) e.rule Shape.blank = e.rule := by
    rw [LawfulShape.copyAll_blank, LawfulShape.undeclared_of_declared e.rule h]
  exact congrArg (fun rule => some { e with rule := rule }) hrule

/-- The members of the rule stand among those of the entry, under names that no column has that all
entries have. -/
theorem rule_members {e : RuleEntry R} (h : Shape.declared e.rule = none) :
    ∀ m ∈ Shape.members e.rule, m ∈ Attribute.dumpAll attributes e ∧ m.1 ∉ ownNames := by
  rintro ⟨key, value⟩ hm
  rw [WrittenShape.members_eq e.rule h] at hm
  constructor
  · rw [attributes, Attribute.dumpAll_append, Attribute.dumpAll_append, ruleAttributes,
      Attribute.dumpAll_map_lift]
    exact List.mem_append_left _ (List.mem_append_right _ hm)
  · obtain ⟨a, ha, -, rfl, -⟩ := Attribute.mem_dumpAll.1 hm
    exact name_not_mem_ownNames ha

end RuleEntry

/-! ### Round trips -/

/-- **Rules are read back from JSON.**  A rule that names its cloud is read as it was written, for
the same cloud.  An entry whose rule declares no direction is read as it was written too: in the
one object no name is repeated, and the members of the rule stand there as they would stand alone,
under names of their own. -/
theorem kept_in_json :
    (∀ r : Rule, ∃ ms : Members, r.toJson = .obj ms ∧
      ms.find? "vendor" = some (.str r.vendor.name) ∧ Rule.tagged? (.obj ms) = some r) ∧
    ∀ (c : RuleCloud) (e : RuleEntry c.Rule), Shape.declared e.rule = none →
      e.audit.HasPlainYears → ∃ ms : Members, Entity.toJson e = .obj ms ∧ ms.names.Nodup ∧
        (∀ m ∈ Shape.members e.rule, m ∈ ms ∧ m.1 ∉ RuleEntry.ownNames) ∧
        Entity.ofJson? (.obj ms) = some e := by
  refine ⟨fun r => ⟨_, rfl, ?_, r.tagged?_toJson⟩, fun c e hdeclared hyears => ?_⟩
  · rw [Members.find?_cons, if_pos rfl]
  · have hjson := RuleEntry.toJson_eq hdeclared
    refine ⟨_, hjson, Attribute.nodup_names_dumpAll LawfulShape.nodup e,
      RuleEntry.rule_members hdeclared, ?_⟩
    rw [← hjson, RuleEntry.ofJson?_toJson hdeclared hyears]

/-- A rule for a web server, last changed within a leap second. -/
def RuleEntry.webServer : RuleEntry RuleCloud.azure.Rule where
  id := "00000001"
  groupId := "00000002"
  direction := some .ingress
  rule :=
    { name := "web", destPorts := ["80", "443"], protocol := "Tcp", priority := 300,
      access := "Allow" }
  audit :=
    { creator := "ann"
      createdAt := some (Supply.strokes.clock 0)
      updatedAt := some { date := ⟨2024, 12, 31⟩, second := 86399, nano := 1500000000 } }

theorem RuleEntry.webServer_plain : RuleEntry.webServer.audit.HasPlainYears := by
  refine ⟨?_, ?_⟩
  · rintro t ⟨⟩
    decide
  · rintro t ⟨⟩
    decide

theorem kept_in_json_webServer :
    Shape.declared RuleEntry.webServer.rule = none ∧ RuleEntry.webServer.audit.HasPlainYears ∧
      ∃ ms : Members, Entity.toJson RuleEntry.webServer = .obj ms ∧ ms.names.Nodup ∧
        (∀ m ∈ Shape.members RuleEntry.webServer.rule, m ∈ ms ∧ m.1 ∉ RuleEntry.ownNames) ∧
        Entity.ofJson? (.obj ms) = some RuleEntry.webServer :=
  ⟨rfl, RuleEntry.webServer_plain, kept_in_json.2 .azure _ rfl RuleEntry.webServer_plain⟩

end SecurityGroups
