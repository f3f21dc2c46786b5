/-
SecurityGroups/Proofs/UnknownMembers.lean

Members that are no field of what is read.

A reader of objects looks at the members of its fields and at no others (`Json.LooksOnlyAt`): with
any other member among them, wherever it stands and whatever its value, an object is read as it is
without.

    read (.obj (before ++ (key, value) :: after)) = read (.obj (before ++ after))

It is enough that the reader finds the same under the names of its fields
(`Json.LooksOnlyAt.of_find?`).  Records are read attribute by attribute, which says this for all of
them at once (`Attribute.looksOnlyAt_record?`); what holds records is read from a few members of
its own.

Updates of the rules of Azure are the exception.  They refuse an object as soon as one of its names
is no field (`Change.record?_eq_none_of_unknown`), and the direction of a rule is none of their
fields.
-/
import SecurityGroups.Proofs.TaggedRules
import SecurityGroups.Request.Any

namespace SecurityGroups

/-! ### Looking at some members only -/

/-- A reader of objects looks at the members of some names only: a member of any other name may
stand anywhere among them, and changes nothing. -/
def Json.LooksOnlyAt {β : Type} (names : List String) (read : Json → β) : Prop :=
  ∀ (before after : Members) (key : String) (value : Json), key ∉ names →
    read (.obj (before ++ (key, value) :: after)) = read (.obj (before ++ after))

/-- Under every other name the same is found without a member as with it. -/
theorem Members.find?_insert_of_ne {key name : String} (h : key ≠ name) (before after : Members)
    (value : Json) : find? name (before ++ (key, value) :: after) = find? name (before ++ after) := by
  induction before with
  | nil => exact if_neg h
  | cons m before ih => rw [List.cons_append, List.cons_append, find?_cons, find?_cons, ih]

namespace Json

variable {α β : Type} {names : List String}

/-- What is read alike whenever the same is found under some names looks at no others. -/
theorem LooksOnlyAt.of_find? {read : Json → β}
    (h : ∀ ms ms' : Members, (∀ name ∈ names, ms.find? name = ms'.find? name) →
      read (.obj ms) = read (.obj ms')) : LooksOnlyAt names read := by
  intro before after key value hkey
  refine h _ _ fun name hname => Members.find?_insert_of_ne ?_ before after value
  rintro rfl
  exact hkey hname

/-- What is made of an answer does not look at the object again. -/
theorem LooksOnlyAt.comp {read : Json → α} (h : LooksOnlyAt names read) (f : α → β) :
    LooksOnlyAt names (fun json => f (read json)) := by
  intro before after key value hkey
  exact congrArg f (h before after key value hkey)

end Json

/-! ### Records -/

namespace Attribute

variable {α : Type} {as : List (Attribute α)} {ms ms' : Members}

/-- What is found under the names of the attributes is all that they read. -/
theorem loadAll_of_find? (h : ∀ name ∈ names as, ms.find? name = ms'.find? name) (x : α) :
    loadAll as ms x = loadAll as ms' x := by
  refine loadAll_congr (fun a ha => ?_) x
  rw [found, found, h a.name (name_mem_names ha)]

/-- **A record is read from the members of its attributes.** -/
theorem looksOnlyAt_record? (as : List (Attribute α)) (blank : α) :
    Json.LooksOnlyAt (names as) (record? as blank) :=
  Json.LooksOnlyAt.of_find? fun _ _ h => loadAll_of_find? h blank

end Attribute

namespace RuleEntry

/-- An entry and its rule are read from one object, each from the members of its own columns. -/
theorem looksOnlyAt_ofJson? {R : Type} [Shape R] :
    Json.LooksOnlyAt (Attribute.names (attributes (R := R))) (ofJson? (R := R)) :=
  Json.LooksOnlyAt.of_find? fun _ _ h => Attribute.loadAll_of_find? h blank

end RuleEntry

namespace Change

variable {U R : Type} [Change U R]

/-- An update that does not refuse names is read as a record. -/
theorem looksOnlyAt_record? (hopen : closed (U := U) = false) :
    Json.LooksOnlyAt (Attribute.names (attributes (U := U))) (record? (U := U)) := by
  intro before after key value hkey
  rw [record?, record?, hopen]
  exact Attribute.looksOnlyAt_record? attributes blank before after key value hkey

/-- **An update that refuses names is not read from an object with an unknown one**, whatever else
the object holds. -/
theorem record?_eq_none_of_unknown (hclosed : closed (U := U) = true) {ms : Members} {key : String}
    (hmem : key ∈ ms.names) (hkey : key ∉ Attribute.names (attributes (U := U))) :
    record? (U := U) (.obj ms) = none := by
  have hunknown : known U (.obj ms) = false := by
    rw [known, List.all_eq_false]
    exact ⟨key, hmem, by simpa using hkey⟩
  rw [record?, hclosed, hunknown]
  rfl

end Change

/-! ### Pages and filters -/

namespace Page

/-- The fields of a page. -/
def fields : List String := ["count", "start", "limit", "sort", "order"]

theorem looksOnlyAt_ofJson? : Json.LooksOnlyAt fields ofJson? := by
  refine Json.LooksOnlyAt.of_find? fun ms ms' h => ?_
  simp only [fields, List.forall_mem_cons] at h
  obtain ⟨hcount, hstart, hlimit, hsort, horder, -⟩ := h
  simp only [ofJson?, Json.record?, Window.ofMembers?, Option.bind_eq_bind, Option.bind_some,
    Members.readOr_congr hcount, Members.readOr_congr hstart, Members.readOr_congr hlimit,
    Members.readOr_congr hsort, Members.readOr_congr horder]

end Page

namespace Filter

/-- The fields of a filter. -/
def members : List String := ["op", "rules"]

theorem looksOnlyAt_ofJson? : Json.LooksOnlyAt members ofJson? := by
  refine Json.LooksOnlyAt.of_find? fun ms ms' h => ?_
  simp only [members, List.forall_mem_cons] at h
  obtain ⟨hop, hrules, -⟩ := h
  rw [ofJson?, ofJson?, hop, Clause.ofMembers?_eq, Clause.ofMembers?_eq, hrules]

end Filter

/-! ### Requests -/

namespace GroupQuery

theorem looksOnlyAt_ofJson? : Json.LooksOnlyAt ["filter", "page"] ofJson? := by
  refine Json.LooksOnlyAt.of_find? fun ms ms' h => ?_
  simp only [List.forall_mem_cons] at h
  obtain ⟨hfilter, hpage, -⟩ := h
  simp only [ofJson?, Json.record?, Option.bind_eq_bind, Option.bind_some,
    Members.readOr_congr hfilter, Members.readOr_congr hpage]

end GroupQuery

namespace RuleQuery

theorem looksOnlyAt_ofJson? : Json.LooksOnlyAt ["page"] ofJson? := by
  refine Json.LooksOnlyAt.of_find? fun ms ms' h => ?_
  have hpage := h "page" List.mem_cons_self
  simp only [ofJson?, Json.record?, Option.bind_eq_bind, Option.bind_some,
    Members.readOr_congr hpage]

end RuleQuery

namespace RuleCreation

theorem looksOnlyAt_ofJson? {R : Type} [Shape R] :
    Json.LooksOnlyAt ["egress_rule_set", "ingress_rule_set"] (ofJson? (R := R)) := by
  refine Json.LooksOnlyAt.of_find? fun ms ms' h => ?_
  simp only [List.forall_mem_cons] at h
  obtain ⟨hegress, hingress, -⟩ := h
  simp only [ofJson?, Json.record?, Option.bind_eq_bind, Option.bind_some,
    Members.readOr_congr hegress, Members.readOr_congr hingress]

end RuleCreation

namespace AnyCreation

theorem looksOnlyAt_ofJson (vendor : Vendor) :
    Json.LooksOnlyAt ["egress_rule_set", "ingress_rule_set"] (ofJson vendor) := by
  cases vendor with
  | tcloud =>
    exact RuleCreation.looksOnlyAt_ofJson?.comp fun c => DecodeError.ofOption (c.map tcloud)
  | aws => exact RuleCreation.looksOnlyAt_ofJson?.comp fun c => DecodeError.ofOption (c.map aws)
  | huawei =>
    exact RuleCreation.looksOnlyAt_ofJson?.comp fun c => DecodeError.ofOption (c.map huawei)
  | azure =>
    exact RuleCreation.looksOnlyAt_ofJson?.comp fun c => DecodeError.ofOption (c.map azure)
  | gcp => exact fun _ _ _ _ _ => rfl

end AnyCreation

namespace AnyChange

/-- The fields of an update of a rule of a cloud. -/
def fields : Vendor → List String
  | .tcloud => Attribute.names TCloud.Update.attributes
  | .aws => Attribute.names Aws.Update.attributes
  | .huawei => Attribute.names HuaWei.Update.attributes
  | .azure => Attribute.names Azure.Update.attributes
  | .gcp => []

/-- Only updates for Azure refuse names that are no field. -/
theorem looksOnlyAt_ofJson {vendor : Vendor} (hvendor : vendor ≠ .azure) :
    Json.LooksOnlyAt (fields vendor) (ofJson vendor) := by
  cases vendor with
  | tcloud =>
    exact (Change.looksOnlyAt_record? (U := TCloud.Update) rfl).comp
      fun u => DecodeError.ofOption (u.map tcloud)
  | aws =>
    exact (Change.looksOnlyAt_record? (U := Aws.Update) rfl).comp
      fun u => DecodeError.ofOption (u.map aws)
  | huawei =>
    exact (Change.looksOnlyAt_record? (U := HuaWei.Update) rfl).comp
      fun u => DecodeError.ofOption (u.map huawei)
  | azure => exact absurd rfl hvendor
  | gcp => exact fun _ _ _ _ _ => rfl

/-- An update for Azure with a name that is no field is refused. -/
theorem ofJson_azure_of_unknown {ms : Members} {key : String} (hmem : key ∈ ms.names)
    (hkey : key ∉ fields .azure) : ofJson .azure (.obj ms) = .error .malformed := by
  have hnone : Change.record? (U := Azure.Update) (.obj ms) = none :=
    Change.record?_eq_none_of_unknown rfl hmem hkey
  rw [ofJson, hnone]
  rfl

end AnyChange

namespace RequestKind

/-- The fields of the body of a request of a kind. -/
def fields : RequestKind → List String
  | list => ["filter", "page"]
  | listRules => ["page"]
  | update => Attribute.names GroupChange.attributes
  | delete => Attribute.names Deletion.attributes
  | assign => Attribute.names Assignment.attributes
  | createRules _ => ["egress_rule_set", "ingress_rule_set"]
  | updateRule vendor => AnyChange.fields vendor

end RequestKind

namespace Request

/-- **A request is read from the members of its fields**, unless it updates a rule of Azure. -/
theorem looksOnlyAt_ofJson {kind : RequestKind} (hkind : kind ≠ .updateRule .azure) :
    Json.LooksOnlyAt kind.fields (ofJson kind) := by
  cases kind with
  | list =>
    exact GroupQuery.looksOnlyAt_ofJson?.comp fun q => DecodeError.ofOption (q.map list)
  | listRules =>
    exact RuleQuery.looksOnlyAt_ofJson?.comp fun q => DecodeError.ofOption (q.map listRules)
  | update =>
    exact (Attribute.looksOnlyAt_record? GroupChange.attributes {}).comp
      fun c => DecodeError.ofOption (c.map update)
  | delete =>
    exact (Attribute.looksOnlyAt_record? Deletion.attributes {}).comp
      fun d => DecodeError.ofOption (d.map delete)
  | assign =>
    exact (Attribute.looksOnlyAt_record? Assignment.attributes {}).comp
      fun a => DecodeError.ofOption (a.map assign)
  | createRules vendor => exact (AnyCreation.looksOnlyAt_ofJson vendor).comp (·.map createRules)
  | updateRule vendor =>
    have hvendor : vendor ≠ .azure := fun h => hkind (congrArg _ h)
    exact (AnyChange.looksOnlyAt_ofJson hvendor).comp (·.map updateRule)

theorem ofJson_updateRule_azure_of_unknown {ms : Members} {key : String} (hmem : key ∈ ms.names)
    (hkey : key ∉ AnyChange.fields .azure) :
    ofJson (.updateRule .azure) (.obj ms) = .error .malformed := by
  rw [ofJson, AnyChange.ofJson_azure_of_unknown hmem hkey]
  rfl

end Request

/-! ### Members that are no field -/

/-- **Members that are no field are overlooked, but for updates of the rules of Azure.**  Regions,
groups, the rules and the entries of every cloud, pages, filters, and requests of every other kind
are read as if such members were not there.  An update of a rule of Azure has fifteen fields, and
an object with any other name is refused; so no object that is accepted has a direction. -/
theorem unknown_members_are_overlooked :
    Json.LooksOnlyAt (Attribute.names (Entity.attributes (α := Region)))
      (Entity.ofJson? (α := Region)) ∧
    Json.LooksOnlyAt (Attribute.names (Entity.attributes (α := Group)))
      (Entity.ofJson? (α := Group)) ∧
    (∀ c : RuleCloud, Json.LooksOnlyAt (Attribute.names (Shape.attributes (R := c.Rule)))
      (Shape.record? (R := c.Rule))) ∧
    (∀ c : RuleCloud, Json.LooksOnlyAt (Attribute.names (RuleEntry.attributes (R := c.Rule)))
      (Entity.ofJson? (α := RuleEntry c.Rule))) ∧
    (∀ kind, kind ≠ .updateRule .azure → Json.LooksOnlyAt kind.fields (Request.ofJson kind)) ∧
    Json.LooksOnlyAt Page.fields Page.ofJson? ∧
    Json.LooksOnlyAt Filter.members Filter.ofJson? ∧
    (AnyChange.fields .azure).length = 15 ∧
    (∀ (ms : Members) (key : String), key ∈ ms.names → key ∉ AnyChange.fields .azure →
      Request.ofJson (.updateRule .azure) (.obj ms) = .error .malformed) ∧
    ∀ (ms : Members) (request : Request),
      Request.ofJson (.updateRule .azure) (.obj ms) = .ok request → "type" ∉ ms.names := by
  refine ⟨Attribute.looksOnlyAt_record? _ _, Attribute.looksOnlyAt_record? _ _,
    fun c => Attribute.looksOnlyAt_record? _ _, fun c => RuleEntry.looksOnlyAt_ofJson?,
    fun kind => Request.looksOnlyAt_ofJson, Page.looksOnlyAt_ofJson?, Filter.looksOnlyAt_ofJson?,
    rfl, fun ms key => Request.ofJson_updateRule_azure_of_unknown, ?_⟩
  intro ms request h htype
  have hrefused := Request.ofJson_updateRule_azure_of_unknown htype (by decide)
  cases hrefused.symm.trans h

/-- With a direction an update is read as before for AWS, and refused for Azure. -/
theorem unknown_members_are_overlooked_type :
    let memo : Members := [("memo", .str "ssh")]
    let typed : Members := ("type", .str "egress") :: memo
    Request.ofJson (.updateRule .aws) (.obj typed) =
        .ok (.updateRule (.aws { memo := some "ssh" })) ∧
      Request.ofJson (.updateRule .azure) (.obj memo) =
        .ok (.updateRule (.azure { memo := some "ssh" })) ∧
      "type" ∉ memo.names ∧
      Request.ofJson (.updateRule .azure) (.obj typed) = .error .malformed := by
  intro memo typed
  obtain ⟨-, -, -, -, hrequests, -, -, -, hazure, htype⟩ := unknown_members_are_overlooked
  have haccepted : Request.ofJson (.updateRule .azure) (.obj memo) =
      .ok (.updateRule (.azure { memo := some "ssh" })) := rfl
  refine ⟨?_, haccepted, htype memo _ haccepted, ?_⟩
  · exact hrequests (.updateRule .aws) (by decide) [] memo "type" (.str "egress") (by decide)
  · exact hazure typed "type" (by decide) (by decide)

end SecurityGroups
