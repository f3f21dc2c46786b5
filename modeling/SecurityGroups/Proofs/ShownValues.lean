/-
SecurityGroups/Proofs/ShownValues.lean

Filtering by the values that are shown.

What is written of an entity as JSON is what a filter asks for: each member has the
name of a column, and the cell of the entity in that column is the same as the value of
the member (`Entity.Shows`).  The two are written apart, the cells with `Kind.toCell`
and the values with `Kind.toJson`, and compared loosely, with `Cell.sameAs`.

The members of a region and of a group are always the same; of an entry, the fields of
its rule that are empty may be left out (`RuleEntry.memberNames`).

A list is the one thing that would not be found: the empty list is written as `[]` but
has an empty cell.  It is always left out of the JSON of an entity.
-/
import SecurityGroups.Proofs.Regions
import SecurityGroups.Proofs.WireForms

namespace SecurityGroups

/-! ### Cells and values -/

theorem Json.sameItems_texts (texts : List String) :
    sameItems (texts.map .str) (texts.map .str) = true := by
  induction texts with
  | nil => rfl
  | cons s rest ih =>
    rw [List.map_cons, sameItems, ih, Bool.and_true, same]
    exact beq_self_eq_true s

/-- Strings are the same as themselves, one by one. -/
theorem Json.same_ofTexts (texts : List String) : (ofTexts texts).same (ofTexts texts) = true := by
  rw [ofTexts, same, sameItems_texts]

/-- **A cell is the same as the JSON value** of the same data, if this is not an empty list. -/
theorem Kind.sameAs_toJson {k : Kind} {x : k.Carrier} (h : k.Tellable x)
    (hlist : k = .texts → x ≠ k.blank) : (k.toCell x).sameAs (k.toJson x) = true := by
  cases k
  case text => exact beq_self_eq_true (α := String) x
  case optText =>
    cases x with
    | none => rfl
    | some s => exact beq_self_eq_true s
  case number =>
    show ((Json.ofInt64 x).int64? == some x) = true
    rw [Json.int64?_ofInt64, beq_self_eq_true]
  case optNumber =>
    cases x with
    | none => rfl
    | some n =>
      show ((Json.ofInt64 n).int64? == some n) = true
      rw [Json.int64?_ofInt64, beq_self_eq_true]
  case texts =>
    cases x with
    | nil => exact absurd rfl (hlist rfl)
    | cons s rest => exact Json.same_ofTexts (s :: rest)
  case optTexts =>
    cases x with
    | none => rfl
    | some texts => exact Json.same_ofTexts texts
  case optTime =>
    cases x with
    | none => rfl
    | some t =>
      simp only [toCell, cellOf, toJson, Json.ofOption, Cell.sameAs]
      rw [Instant.read?_text .strict h, beq_self_eq_true]
  case optVendor =>
    cases x with
    | none => rfl
    | some v => exact beq_self_eq_true v.name
  case optDirection =>
    cases x with
    | none => rfl
    | some d => exact beq_self_eq_true d.name

/-! ### Entities -/

/-- The names of the members that are written of a region. -/
def Region.memberNames : List String :=
  ["id", "vendor", "region_id", "region_name", "is_available",
    "creator", "reviser", "created_at", "updated_at"]

/-- The names of the members that are written of a group. -/
def Group.memberNames : List String :=
  ["id", "vendor", "cloud_id", "bk_biz_id", "region", "name", "memo", "account_id",
    "creator", "reviser", "created_at", "updated_at"]

/-- The names of the members that are written of an entry, which are those that are written of its
rule alone among its own. -/
def RuleEntry.memberNames {R : Type} [Shape R] (e : RuleEntry R) : List String :=
  ["id", "cloud_id", "security_group_id", "cloud_security_group_id", "account_id", "region", "type"]
  ++ (Shape.members e.rule).names ++ ["creator", "reviser", "created_at", "updated_at"]

/-- What is written of an entity has members of some names and can be filtered by: each member names a
column of its table, and asking for its value finds the row of the entity. -/
def Entity.Shows {α : Type} [Entity α] (e : α) (names : List String) : Prop :=
  ∃ ms : Members, toJson e = .obj ms ∧ ms.names = names ∧ ∀ key value, (key, value) ∈ ms →
    (schema α).contains key = true ∧ Test.holds ⟨key, .eq, value⟩ (toRow e) = .ok true

/-- An entity whose members are those of its columns shows what it holds. -/
theorem LawfulEntity.shows {α : Type} [Entity α] [LawfulEntity α] {names : List String} {e : α}
    (hjson : Entity.toJson e = .obj (Attribute.dumpAll Entity.attributes e))
    (hnames : Members.names (Attribute.dumpAll Entity.attributes e) = names)
    (hlists : ∀ a ∈ Entity.attributes (α := α), a.kind = .texts → a.quiet = true)
    (htell : ∀ a ∈ Entity.attributes (α := α), a.kind.Tellable (a.get e)) :
    Entity.Shows e names := by
  refine ⟨_, hjson, hnames, fun key value hm => ?_⟩
  obtain ⟨a, ha, hin, rfl, rfl⟩ := Attribute.mem_dumpAll.1 hm
  refine ⟨contains_iff.2 (Attribute.name_mem_names ha), congrArg Except.ok ?_⟩
  show ((Entity.toRow e).cell a.name).sameAs (a.kind.toJson (a.get e)) = true
  rw [Row.cell_of_get? (get?_toRow e ha)]
  refine Kind.sameAs_toJson (htell a ha) fun hkind hempty => ?_
  exact hin ⟨hlists a ha hkind, hempty⟩

theorem Region.shows {r : Region} (h : r.audit.HasPlainYears) : Entity.Shows r memberNames := by
  refine LawfulEntity.shows rfl (Attribute.names_dumpAll_of_loud (by decide) r) (by decide)
    (forall_attributes ?_ (Audit.tellable h))
  have hown : ∀ a ∈ attributes.take 5, a.kind ≠ .optTime := by decide
  exact fun a ha => Kind.tellable_of_ne (hown a ha) _

theorem Group.shows {g : Group} (h : g.audit.HasPlainYears) : Entity.Shows g memberNames := by
  refine LawfulEntity.shows rfl (Attribute.names_dumpAll_of_loud (by decide) g) (by decide)
    (forall_attributes ?_ (Audit.tellable h))
  have hown : ∀ a ∈ ownAttributes, a.kind ≠ .optTime := by decide
  exact fun a ha => Kind.tellable_of_ne (hown a ha) _

namespace RuleEntry

variable {R : Type} [Shape R] [WrittenShape R] {e : RuleEntry R}

theorem names_dumpAll (hdeclared : Shape.declared e.rule = none) :
    Members.names (Attribute.dumpAll attributes e) = e.memberNames := by
  have howner : Members.names (Attribute.dumpAll ownerAttributes e) = _ :=
    Attribute.names_dumpAll_of_loud (by simp [ownerAttributes, directionAttribute]) e
  have haudit : Members.names (Attribute.dumpAll Audit.attributes e.audit) = _ :=
    Attribute.names_dumpAll_of_loud (by decide) e.audit
  have hrule : Attribute.dumpAll ruleAttributes e = Shape.members e.rule :=
    (Attribute.dumpAll_map_lift ..).trans (WrittenShape.members_eq e.rule hdeclared).symm
  rw [attributes, Attribute.dumpAll_append, Attribute.dumpAll_append, hrule, auditAttributes,
    Attribute.dumpAll_map_lift, Members.names, List.map_append, List.map_append]
  exact congrArg₂ (fun owner audit => owner ++ (Shape.members e.rule).names ++ audit) howner haudit

theorem shows [LawfulShape R] (hdeclared : Shape.declared e.rule = none)
    (h : e.audit.HasPlainYears) : Entity.Shows e e.memberNames := by
  refine LawfulEntity.shows (toJson_eq hdeclared) (names_dumpAll hdeclared)
    (forall_attributes ?_ ?_ ?_) (tellable h)
  · simp [ownerAttributes, directionAttribute]
  · exact fun a ha => WrittenShape.quiet_texts a (List.mem_filter.1 ha).1
  · exact (by decide : ∀ a ∈ Audit.attributes, a.kind = .texts → a.quiet = true)

end RuleEntry

/-- **A field can be filtered by the value that is shown**, for every region, group and entry whose
times have years of four digits and whose rule declares no direction of its own. -/
theorem shown_values_found :
    (∀ r : Region, r.audit.HasPlainYears → Entity.Shows r Region.memberNames) ∧
    (∀ g : Group, g.audit.HasPlainYears → Entity.Shows g Group.memberNames) ∧
    ∀ (c : RuleCloud) (e : RuleEntry c.Rule), Shape.declared e.rule = none →
      e.audit.HasPlainYears → Entity.Shows e e.memberNames :=
  ⟨fun _ => Region.shows, fun _ => Group.shows, fun _ _ => RuleEntry.shows⟩

theorem shown_values_found_webServer :
    RuleEntry.webServer.audit.HasPlainYears ∧ Shape.declared RuleEntry.webServer.rule = none ∧
      Entity.Shows ({ regionId := "europe-west1", audit := RuleEntry.webServer.audit } : Region)
        Region.memberNames ∧
      Entity.Shows ({ name := "web", business := -1, audit := RuleEntry.webServer.audit } : Group)
        Group.memberNames ∧
      Entity.Shows RuleEntry.webServer
        ["id", "cloud_id", "security_group_id", "cloud_security_group_id", "account_id", "region",
          "type", "name", "destination_port_ranges", "protocol", "priority", "access",
          "creator", "reviser", "created_at", "updated_at"] :=
  ⟨RuleEntry.webServer_plain, rfl, shown_values_found.1 _ RuleEntry.webServer_plain,
    shown_values_found.2.1 _ RuleEntry.webServer_plain,
    shown_values_found.2.2 .azure _ rfl RuleEntry.webServer_plain⟩

end SecurityGroups
