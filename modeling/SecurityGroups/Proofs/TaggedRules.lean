/-
SecurityGroups/Proofs/TaggedRules.lean

Two ways to say of which cloud a rule is.

A rule is read for a cloud that is known, or for the cloud that stands beside its fields.  The
second way looks at the values of the fields under bare names, so a direction may also carry an
empty object there (`RuleCloud.HollowDirection`).  That is all: any other body is read alike in
both ways, or in neither (`Rule.tagged?_put_eq_some_iff`).  The rules of a creation are read in
the first way, each as it would be by itself (`AnyCreation.map_sets_ofJson`).

What is read of members is told by what each attribute finds among them (`Attribute.found`).
-/
import SecurityGroups.Proofs.WireForms

namespace SecurityGroups

/-! ### Bare names -/

namespace Kind

/-- Only what is a choice of names is read otherwise under bare names. -/
theorem ofJson?_bareName {k : Kind} (hv : k ≠ .optVendor) (hd : k ≠ .optDirection) (json : Json) :
    k.ofJson? json.bareName = k.ofJson? json := by
  unfold Json.bareName
  split
  · cases k <;> first | rfl | contradiction
  · rfl

/-- A direction is read otherwise under bare names only where its name carries an empty object. -/
theorem ofJson?_direction_bareName {json : Json}
    (h : ∀ d : Direction, json ≠ .obj [(d.name, .obj [])]) :
    Kind.optDirection.ofJson? json.bareName = Kind.optDirection.ofJson? json := by
  unfold Json.bareName
  split
  · rename_i s
    have hnone : Direction.find? s = none := by
      refine Option.eq_none_iff_forall_ne_some.2 fun d hd => ?_
      exact h d (by rw [Direction.name_of_find? hd])
    show (Direction.find? s).map some = none
    rw [hnone]
    rfl
  · rfl

end Kind

namespace Members

/-- The members with their values under bare names. -/
def withBareNames (ms : Members) : Members := ms.map fun m => (m.1, m.2.bareName)

theorem find?_withBareNames (ms : Members) (name : String) :
    ms.withBareNames.find? name = (ms.find? name).map Json.bareName := by
  induction ms with
  | nil => rfl
  | cons m rest ih =>
    have hcons : withBareNames (m :: rest) = (m.1, m.2.bareName) :: withBareNames rest := rfl
    rw [hcons, find?_cons, find?_cons, ih]
    split <;> rfl

end Members

/-! ### What attributes find -/

namespace Attribute

variable {α : Type} {as : List (Attribute α)} {a : Attribute α} {ms ms' : Members}

/-- What stands for the attribute among some members, as it is read. -/
def found (a : Attribute α) (ms : Members) : Option (Option a.kind.Carrier) :=
  (ms.find? a.name).map a.kind.ofJson?

theorem load_eq (a : Attribute α) (ms : Members) (x : α) :
    a.load ms x = match a.found ms with
      | some value => value.map (a.set · x)
      | none => some x := by
  rw [load, Members.readOr, found]
  cases ms.find? a.name <;> rfl

/-- Members in which all attributes find the same are read alike. -/
theorem loadAll_congr (h : ∀ a ∈ as, a.found ms = a.found ms') (x : α) :
    loadAll as ms x = loadAll as ms' x := by
  induction as generalizing x with
  | nil => rfl
  | cons a as ih =>
    obtain ⟨ha, has⟩ := List.forall_mem_cons.1 h
    rw [loadAll, loadAll, load_eq, load_eq, ha]
    exact congrArg _ (funext fun y => ih has y)

/-- Members in which an attribute finds what can not be read are not read. -/
theorem loadAll_eq_none (ha : a ∈ as) (h : a.found ms = some none) (x : α) :
    loadAll as ms x = none := by
  induction as generalizing x with
  | nil => cases ha
  | cons b as ih =>
    rw [loadAll]
    rcases List.mem_cons.1 ha with rfl | hmem
    · rw [load_eq, h]
      rfl
    · exact Option.bind_eq_none_iff.2 fun y _ => ih hmem y

end Attribute

/-! ### One rule -/

namespace DecodeError

theorem ofOption_eq_ok {α : Type} {x : Option α} {a : α} : ofOption x = .ok a ↔ x = some a := by
  cases x <;> simp [ofOption]

end DecodeError

namespace RuleCloud

/-- A rule of the cloud among the rules of all clouds. -/
def rule : (c : RuleCloud) → c.Rule → SecurityGroups.Rule
  | tcloud => .tcloud
  | aws => .aws
  | huawei => .huawei
  | azure => .azure

theorem vendor_rule (c : RuleCloud) (rule : c.Rule) : (c.rule rule).vendor = c.vendor := by
  cases c <;> rfl

theorem ofJson_eq (c : RuleCloud) (body : Json) : SecurityGroups.Rule.ofJson c.vendor body =
    DecodeError.ofOption ((Shape.record? body).map c.rule) := by
  cases c <;> rfl

/-- The direction of a rule of Azure is the only choice of names among the fields of rules. -/
theorem names_of_attributes (c : RuleCloud) : ∀ a ∈ Shape.attributes (R := c.Rule),
    a.kind ≠ .optVendor ∧ (a.kind = .optDirection ↔ a.name = "type") ∧
      (a.kind = .optDirection → c = .azure) := by
  cases c <;> decide

/-- The body gives a rule a direction, but as an object with its name that carries an empty
object. -/
def HollowDirection (c : RuleCloud) (ms : Members) (d : Direction) : Prop :=
  c = azure ∧ ms.find? "type" = some (.obj [(d.name, .obj [])])

variable {c : RuleCloud} {ms : Members} {d : Direction}

theorem record?_withBareNames (h : ∀ d, ¬ c.HollowDirection ms d) :
    Shape.record? (R := c.Rule) (.obj ms.withBareNames) = Shape.record? (.obj ms) := by
  refine Attribute.loadAll_congr (fun a ha => ?_) _
  obtain ⟨hvendor, hname, hazure⟩ := c.names_of_attributes a ha
  rw [Attribute.found, Attribute.found, Members.find?_withBareNames, Option.map_map]
  cases hfind : ms.find? a.name with
  | none => rfl
  | some json =>
    refine congrArg some ?_
    show a.kind.ofJson? json.bareName = a.kind.ofJson? json
    by_cases hkind : a.kind = .optDirection
    · rw [hkind]
      refine Kind.ofJson?_direction_bareName fun d hjson => h d ⟨hazure hkind, ?_⟩
      rw [← hname.1 hkind, hfind, hjson]
    · exact Kind.ofJson?_bareName hvendor hkind json

/-- Under bare names a hollow direction is the direction alone. -/
theorem record?_withBareNames_of_hollow (h : c.HollowDirection ms d) :
    Shape.record? (R := c.Rule) (.obj ms.withBareNames) =
      Shape.record? (.obj (ms.put "type" (.str d.name))) := by
  refine Attribute.loadAll_congr (fun a ha => ?_) _
  obtain ⟨hvendor, hname, -⟩ := c.names_of_attributes a ha
  rw [Attribute.found, Attribute.found, Members.find?_withBareNames, Option.map_map]
  by_cases hkind : a.kind = .optDirection
  · rw [hname.1 hkind, hkind, h.2, Members.find?_put_self]
    rfl
  · rw [Members.find?_put_of_ne fun heq => hkind (hname.2 heq.symm)]
    cases ms.find? a.name with
    | none => rfl
    | some json => exact congrArg some (Kind.ofJson?_bareName hvendor hkind json)

theorem record?_eq_none_of_hollow (h : c.HollowDirection ms d) :
    Shape.record? (R := c.Rule) (.obj ms) = none := by
  obtain ⟨rfl, hfind⟩ := h
  obtain ⟨a, ha, htype⟩ : ∃ a ∈ Azure.Rule.attributes, a.name = "type" := by decide
  obtain ⟨-, hname, -⟩ := names_of_attributes .azure a ha
  refine Attribute.loadAll_eq_none ha ?_ _
  rw [Attribute.found, htype, hfind, hname.2 htype]
  rfl

/-- A rule beside its cloud is read as one of that cloud, under bare names. -/
theorem tagged?_put (c : RuleCloud) (ms : Members) :
    SecurityGroups.Rule.tagged? (.obj (ms.put "vendor" (.str c.vendor.name))) =
      (Shape.record? (.obj ms.withBareNames)).map c.rule := by
  have hnamed : SecurityGroups.Rule.tagged? (.obj (ms.put "vendor" (.str c.vendor.name))) =
      SecurityGroups.Rule.named? c.vendor.name
        (.obj (ms.put "vendor" (.str c.vendor.name)).withBareNames) := by
    rw [SecurityGroups.Rule.tagged?, Members.find?_put_self]
    rfl
  have hrecord : Shape.record? (R := c.Rule)
      (.obj (ms.put "vendor" (.str c.vendor.name)).withBareNames) =
        Shape.record? (.obj ms.withBareNames) := by
    refine Attribute.loadAll_congr (fun a ha => ?_) _
    have hne : "vendor" ≠ a.name := by
      intro heq
      exact WrittenShape.untagged (R := c.Rule) (heq ▸ Attribute.name_mem_names ha)
    rw [Attribute.found, Attribute.found, Members.find?_withBareNames, Members.find?_withBareNames,
      Members.find?_put_of_ne hne]
  rw [hnamed, SecurityGroups.Rule.named?, Vendor.find?_name, Option.bind_some, ofJson_eq, hrecord]
  cases Shape.record? (R := c.Rule) (.obj ms.withBareNames) <;> rfl

end RuleCloud

namespace Rule

variable {c : RuleCloud} {ms : Members} {r : Rule}

/-- The cloud of a rule is the one that it was read for. -/
theorem vendor_of_ofJson {body : Json} (h : Rule.ofJson c.vendor body = .ok r) :
    r.vendor = c.vendor := by
  rw [c.ofJson_eq, DecodeError.ofOption_eq_ok, Option.map_eq_some_iff] at h
  obtain ⟨rule, -, rfl⟩ := h
  exact c.vendor_rule rule

/-- **Beside its cloud a rule is read as it is by itself**, unless its direction is hollow: then it
is read only there, with the direction alone. -/
theorem tagged?_put_eq_some_iff :
    Rule.tagged? (.obj (ms.put "vendor" (.str c.vendor.name))) = some r ↔
      Rule.ofJson c.vendor (.obj ms) = .ok r ∨
        ∃ d : Direction, c.HollowDirection ms d ∧
          Rule.ofJson c.vendor (.obj ms) = .error .malformed ∧
          Rule.ofJson c.vendor (.obj (ms.put "type" (.str d.name))) = .ok r := by
  simp only [c.ofJson_eq, DecodeError.ofOption_eq_ok, c.tagged?_put]
  by_cases h : ∃ d, c.HollowDirection ms d
  · obtain ⟨d, hd⟩ := h
    rw [RuleCloud.record?_withBareNames_of_hollow hd, RuleCloud.record?_eq_none_of_hollow hd]
    constructor
    · intro hr
      exact .inr ⟨d, hd, rfl, hr⟩
    · rintro (⟨⟨⟩⟩ | ⟨d', hd', -, hr⟩)
      have hname : d'.name = d.name := by simpa using hd'.2.symm.trans hd.2
      rwa [hname] at hr
  · rw [RuleCloud.record?_withBareNames (not_exists.1 h)]
    constructor
    · exact .inl
    · rintro (hr | ⟨d, hd, -⟩)
      · exact hr
      · exact absurd ⟨d, hd⟩ h

/-- A rule is read with its cloud only if the cloud is there and keeps rules. -/
theorem tagged?_eq_none (h : ∀ c : RuleCloud, ms.find? "vendor" ≠ some (.str c.vendor.name)) :
    Rule.tagged? (.obj ms) = none := by
  rw [tagged?]
  split
  · rename_i s hfind
    rw [named?]
    refine Option.bind_eq_none_iff.2 fun v hv => ?_
    obtain rfl := Vendor.name_of_find? hv
    cases v with
    | tcloud => exact absurd hfind (h .tcloud)
    | aws => exact absurd hfind (h .aws)
    | gcp => rfl
    | azure => exact absurd hfind (h .azure)
    | huawei => exact absurd hfind (h .huawei)
  · rfl

end Rule

/-! ### The rules of a creation -/

/-- The items of an array are first found and then read. -/
theorem Json.list?_eq_bind {α : Type} (read : Json → Option α) (json : Json) :
    json.list? read = (json.list? some).bind (·.mapM read) := by
  have hitems : ∀ items : List Json, items.mapM some = some items := by
    intro items
    induction items with
    | nil => rfl
    | cons item rest ih =>
      rw [List.mapM_cons, ih]
      rfl
  cases json with
  | arr items =>
    show items.mapM read = (items.mapM some).bind _
    rw [hitems, Option.bind_some]
  | _ => rfl

theorem Members.readOr_list?_eq_bind {α : Type} (ms : Members) (name : String)
    (read : Json → Option α) : ms.readOr name [] (Json.list? read) =
      (ms.readOr name [] (Json.list? some)).bind (·.mapM read) := by
  rw [readOr, readOr]
  cases ms.find? name with
  | none => rfl
  | some json => exact json.list?_eq_bind read

/-- The two sets of a creation, with their rules as they are written. -/
def RuleCreation.items? (body : Json) : Option (List Json × List Json) := do
  let ms ← body.record? ["egress_rule_set", "ingress_rule_set"]
  let egress ← ms.readOr "egress_rule_set" [] (Json.list? some)
  let ingress ← ms.readOr "ingress_rule_set" [] (Json.list? some)
  return (egress, ingress)

theorem RuleCreation.ofJson?_eq {R : Type} [Shape R] (body : Json) :
    RuleCreation.ofJson? (R := R) body = do
      let (egress, ingress) ← items? body
      return { egress := ← egress.mapM Shape.record?,
               ingress := ← ingress.mapM Shape.record? } := by
  rw [ofJson?, items?]
  cases body.record? ["egress_rule_set", "ingress_rule_set"] with
  | none => rfl
  | some ms =>
    simp only [Option.bind_eq_bind, Option.bind_some, ms.readOr_list?_eq_bind _ Shape.record?]
    cases ms.readOr "egress_rule_set" [] (Json.list? some) with
    | none => rfl
    | some egress =>
      cases ms.readOr "ingress_rule_set" [] (Json.list? some) with
      | none => simp
      | some ingress => rfl

/-- Rules that are read one after the other are read as each is by itself. -/
theorem RuleCloud.mapM_ofJson (c : RuleCloud) (items : List Json) :
    items.mapM (SecurityGroups.Rule.ofJson c.vendor) =
      DecodeError.ofOption ((items.mapM Shape.record?).map (List.map c.rule)) := by
  induction items with
  | nil => rfl
  | cons item rest ih =>
    rw [List.mapM_cons, List.mapM_cons, ih, c.ofJson_eq]
    cases Shape.record? (R := c.Rule) item with
    | none => rfl
    | some rule => cases rest.mapM (Shape.record? (R := c.Rule)) <;> rfl

namespace AnyCreation

/-- A creation of the rules of a cloud among the creations for all clouds. -/
def ofCloud : (c : RuleCloud) → RuleCreation c.Rule → AnyCreation
  | .tcloud => tcloud
  | .aws => aws
  | .huawei => huawei
  | .azure => azure

/-- The two sets of a creation, the one for egress first. -/
def sets (a : AnyCreation) : List Rule × List Rule :=
  (a.creation.egress.map a.cloud.rule, a.creation.ingress.map a.cloud.rule)

theorem sets_ofCloud (c : RuleCloud) (creation : RuleCreation c.Rule) :
    (ofCloud c creation).sets = (creation.egress.map c.rule, creation.ingress.map c.rule) := by
  cases c <;> rfl

theorem ofJson_eq (c : RuleCloud) (body : Json) : AnyCreation.ofJson c.vendor body =
    DecodeError.ofOption ((RuleCreation.ofJson? body).map (ofCloud c)) := by
  cases c <;> rfl

/-- **The rules of a creation are read as each is by itself.** -/
theorem map_sets_ofJson (c : RuleCloud) (body : Json) :
    (AnyCreation.ofJson c.vendor body).map sets = do
      let (egress, ingress) ← DecodeError.ofOption (RuleCreation.items? body)
      return (← egress.mapM (Rule.ofJson c.vendor), ← ingress.mapM (Rule.ofJson c.vendor)) := by
  rw [ofJson_eq, RuleCreation.ofJson?_eq]
  cases RuleCreation.items? body with
  | none => rfl
  | some items =>
    obtain ⟨egress, ingress⟩ := items
    show (DecodeError.ofOption (Option.map (ofCloud c) do
        let egress ← egress.mapM (Shape.record? (R := c.Rule))
        let ingress ← ingress.mapM (Shape.record? (R := c.Rule))
        return ⟨egress, ingress⟩)).map sets = do
      let egress ← egress.mapM (Rule.ofJson c.vendor)
      let ingress ← ingress.mapM (Rule.ofJson c.vendor)
      return (egress, ingress)
    rw [c.mapM_ofJson, c.mapM_ofJson]
    cases egress.mapM (Shape.record? (R := c.Rule)) with
    | none => rfl
    | some egress =>
      cases ingress.mapM (Shape.record? (R := c.Rule)) with
      | none => rfl
      | some ingress => exact congrArg Except.ok (sets_ofCloud c ⟨egress, ingress⟩)

end AnyCreation

/-! ### Both ways -/

/-- **The two ways of reading a rule agree, but for hollow directions.**  A body beside its cloud is
read as the rule that it is read as for that cloud; a body with a hollow direction, which is refused
for the cloud, is read beside it as if the direction stood there alone.  What is read is a rule of
the cloud.  Without a cloud that keeps rules nothing is read.  The rules of a creation for a cloud
are read as each is for the cloud by itself. -/
theorem rules_are_read_alike (c : RuleCloud) (ms : Members) (body : Json) :
    (∀ r : Rule, Rule.tagged? (.obj (ms.put "vendor" (.str c.vendor.name))) = some r ↔
      Rule.ofJson c.vendor (.obj ms) = .ok r ∨
        ∃ d : Direction, c.HollowDirection ms d ∧
          Rule.ofJson c.vendor (.obj ms) = .error .malformed ∧
          Rule.ofJson c.vendor (.obj (ms.put "type" (.str d.name))) = .ok r) ∧
    (∀ r : Rule, Rule.ofJson c.vendor body = .ok r → r.vendor = c.vendor) ∧
    ((∀ d : RuleCloud, ms.find? "vendor" ≠ some (.str d.vendor.name)) →
      Rule.tagged? (.obj ms) = none) ∧
    (AnyCreation.ofJson c.vendor body).map AnyCreation.sets = do
      let (egress, ingress) ← DecodeError.ofOption (RuleCreation.items? body)
      return (← egress.mapM (Rule.ofJson c.vendor), ← ingress.mapM (Rule.ofJson c.vendor)) :=
  ⟨fun _ => Rule.tagged?_put_eq_some_iff, fun _ => Rule.vendor_of_ofJson, Rule.tagged?_eq_none,
    AnyCreation.map_sets_ofJson c body⟩

/-- A rule of Azure with a hollow direction is read beside its cloud, but not for it. -/
theorem rules_are_read_alike_hollow :
    let ms : Members := [("name", .str "web"), ("type", .obj [("egress", .obj [])])]
    let r : Azure.Rule := { name := "web", direction := some .egress }
    Rule.ofJson .azure (.obj ms) = .error .malformed ∧
      Rule.tagged? (.obj (ms.put "vendor" (.str "azure"))) = some (.azure r) ∧
      (Rule.azure r).vendor = .azure ∧
      (∀ c : RuleCloud, ms.find? "vendor" ≠ some (.str c.vendor.name)) ∧
      Rule.tagged? (.obj ms) = none := by
  intro ms r
  obtain ⟨htagged, -, hnone, -⟩ := rules_are_read_alike .azure ms (.obj ms)
  have hrefused : Rule.ofJson .azure (.obj ms) = .error .malformed := rfl
  have halone : Rule.ofJson .azure (.obj (ms.put "type" (.str "egress"))) = .ok (.azure r) := rfl
  have huntagged : ∀ c : RuleCloud, ms.find? "vendor" ≠ some (.str c.vendor.name) := by
    rintro c ⟨⟩
  obtain ⟨-, hvendor, -⟩ := rules_are_read_alike .azure ms (.obj (ms.put "type" (.str "egress")))
  refine ⟨hrefused, ?_, hvendor _ halone, huntagged, hnone huntagged⟩
  exact (htagged _).2 (.inr ⟨.egress, ⟨rfl, rfl⟩, hrefused, halone⟩)

end SecurityGroups
