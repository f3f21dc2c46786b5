/-
SecurityGroups/Proofs/Conduct.lean

What the service writes, and what it never writes.

`Call.Made` lists the calls that the service makes, with the checks that
everything it writes has passed, and `Call.Entered` says whose rules it stores.
An operation obeys every discipline that lets it read and allows such calls
(`Operation.obeys_calls`), whatever the store answers, and so every job makes no
other calls (`Job.obeys_made`).

Some columns say whose a row is and are written once and for all
(`TableName.ownership`).  A call is lawful (`Call.Lawful`) if it leaves them
alone and writes a business into a group only where the group is still
unassigned.  All calls that the service makes are lawful (`Call.Made.lawful`).
-/
import SecurityGroups.Proofs.Jobs

namespace SecurityGroups

/-! ### Ownership -/

/-- The columns that are written when a row is stored and never again. -/
def TableName.ownership : TableName → List String
  | .regions => ["id", "creator", "created_at"]
  | .groups => ["id", "vendor", "cloud_id", "region", "account_id", "creator", "created_at"]
  | .tcloudRules | .awsRules | .huaweiRules | .azureRules =>
    ["id", "cloud_id", "security_group_id", "cloud_security_group_id", "account_id", "region",
      "type", "creator", "created_at"]

theorem TableName.id_mem_ownership (t : TableName) : "id" ∈ t.ownership := by cases t <;> decide

theorem TableName.updated_not_mem_ownership (t : TableName) : "updated_at" ∉ t.ownership := by
  cases t <;> decide

/-- The call leaves the columns of ownership alone, and assigns only what is still unassigned. -/
def Call.Lawful : Call → Prop
  | .update table schema filter values =>
    schema = table.schema ∧ (∀ name ∈ table.ownership, values.get? name = none) ∧
      (table = .groups → values.get? "bk_biz_id" = none ∨
        ∃ ids, filter = Service.stillUnassigned ids ∧
          ∃ business : Int64, 0 < business ∧ values.get? "bk_biz_id" = some (.numeric business))
  | c => c.Proper

theorem Call.Lawful.proper {c : Call} (h : c.Lawful) : c.Proper := by
  cases c with
  | update table schema filter values => exact h.1
  | insert table schema rows => exact h
  | delete table schema filter => exact h
  | list table schema filter page => exact h

/-! ### What updates write -/

theorem Group.names_changeable : Attribute.names Group.changeable = ["bk_biz_id", "name", "memo"] := by
  decide

/-- An update of a group writes no other column than these. -/
theorem Group.get?_updateRow_of_not_mem {update : Group} {name : String}
    (h : name ∉ ["reviser", "bk_biz_id", "name", "memo"]) :
    (Entity.updateRow update).get? name = none :=
  Attribute.get?_revision_of_not_mem (names_changeable ▸ h)

/-- An update of a group writes what stands for no absence. -/
theorem Group.get?_updateRow_of_mem {a : Attribute Group} (update : Group)
    (h : a ∈ Group.changeable) : (Entity.updateRow update).get? a.name =
      if a.get update = a.kind.blank then none else some (a.kind.toCell (a.get update)) :=
  Attribute.get?_revision_of_mem (names_changeable ▸ by decide) h

theorem Group.get?_reviser_updateRow (update : Group) :
    (Entity.updateRow update).get? "reviser" = some (.string update.audit.reviser) :=
  Attribute.get?_revision_own (names_changeable ▸ by decide)

/-- What an update of a group writes may stand in its columns. -/
theorem Group.fits_updateRow (update : Group) :
    (Entity.updateRow update).Fits (Entity.schema Group) := by
  have htypes : ∀ a ∈ Group.changeable,
      (Entity.schema Group).type? a.name = some a.kind.columnType := by decide
  have hreviser : (Entity.schema Group).type? "reviser" = some .string := by decide
  exact Attribute.fits_writeAllPresent update htypes
    ((Row.fits_empty _).set (Schema.checkCell_of_type hreviser rfl))

theorem Group.ownership_updateRow (update : Group) {name : String}
    (h : name ∈ TableName.groups.ownership) : (Entity.updateRow update).get? name = none := by
  apply Group.get?_updateRow_of_not_mem
  revert name
  decide

/-- Zero stands for an unchanged business. -/
theorem Group.get?_business_updateRow (update : Group) :
    (Entity.updateRow update).get? "bk_biz_id" =
      if update.business = 0 then none else some (.numeric update.business) := by
  have hmem : ⟨"bk_biz_id", .number, Group.business, fun v g => { g with business := v },
      "bk_biz_id", false⟩ ∈ Group.changeable := List.mem_cons_self
  exact Group.get?_updateRow_of_mem update hmem

theorem Group.lawful_update {update : Group} {filter : Filter}
    (h : update.business = 0 ∨ 0 < update.business ∧ ∃ ids, filter = Service.stillUnassigned ids) :
    (Call.update (Entity.table Group) (Entity.schema Group) filter
      (Entity.updateRow update)).Lawful := by
  refine ⟨rfl, fun name hname => Group.ownership_updateRow update hname, fun _ => ?_⟩
  have hbusiness := Group.get?_business_updateRow update
  rcases h with hzero | ⟨hpos, ids, hfilter⟩
  · -- the business is left out
    left
    exact hbusiness.trans (if_pos hzero)
  · -- the business is written, where there is none
    right
    refine ⟨ids, hfilter, update.business, hpos, hbusiness.trans (if_neg ?_)⟩
    intro hzero
    rw [hzero] at hpos
    exact absurd hpos (by decide)

/-- An update of a rule writes its reviser and the columns of the rule. -/
theorem RuleEntry.get?_updateRow_of_not_mem {R : Type} [Shape R] {update : RuleEntry R}
    {name : String} (hreviser : name ≠ "reviser")
    (h : name ∉ Attribute.names (Shape.stored R)) :
    (Entity.updateRow update).get? name = none := by
  show (Attribute.writeAll (Shape.stored R) update.rule _).get? name = none
  rw [Attribute.get?_writeAll_of_not_mem h, Row.get?_set_of_ne (Ne.symm hreviser), Row.get?_empty]

/-- None of the columns of ownership is a column of the rule itself. -/
theorem RuleCloud.ownership_not_stored (c : RuleCloud) {name : String}
    (h : name ∈ c.table.ownership) :
    name ≠ "reviser" ∧ name ∉ Attribute.names (Shape.stored c.Rule) := by
  revert name
  cases c <;> decide

theorem RuleCloud.table_ne_groups (c : RuleCloud) : c.table ≠ .groups :=
  LawfulShape.table_ne_groups (R := c.Rule)

theorem RuleCloud.schema_eq (c : RuleCloud) :
    Entity.schema (RuleEntry c.Rule) = c.table.schema :=
  (LawfulShape.schema_table (R := c.Rule)).symm

theorem RuleCloud.lawful_update (c : RuleCloud) (filter : Filter) (update : RuleEntry c.Rule) :
    (Call.update (Entity.table (RuleEntry c.Rule)) (Entity.schema (RuleEntry c.Rule)) filter
      (Entity.updateRow update)).Lawful := by
  refine ⟨c.schema_eq, ?_, fun heq => absurd heq c.table_ne_groups⟩
  intro name hname
  obtain ⟨hreviser, hstored⟩ := c.ownership_not_stored hname
  exact RuleEntry.get?_updateRow_of_not_mem hreviser hstored

/-! ### The calls of the service -/

/-- The calls that the service makes, and what it has checked before it makes them. -/
inductive Call.Made : Call → Prop where
  | list (table : TableName) (schema : Schema) (filter : Filter) (page : Page) :
      Made (.list table schema filter page)
  | newGroup {g : Group} : Entity.insertCheck g = .ok () → g.audit.reviser = g.audit.creator →
      Made (.insert (Entity.table Group) (Entity.schema Group) [Entity.toRow g])
  | changedGroup (filter : Filter) {u : Group} : Entity.updateCheck u = .ok () → u.business = 0 →
      Made (.update (Entity.table Group) (Entity.schema Group) filter (Entity.updateRow u))
  | assignedGroups (ids : List String) {user : String} {business : Int64} {g : Group} :
      0 < business → Service.checkAssignable user business g = .ok () →
      Made (.update (Entity.table Group) (Entity.schema Group) (Service.stillUnassigned ids)
        (Entity.updateRow (Service.assigned user business)))
  | deletedGroups (filter : Filter) :
      Made (.delete (Entity.table Group) (Entity.schema Group) filter)
  | newEntries (c : RuleCloud) {es : List (RuleEntry c.Rule)} :
      (∀ e ∈ es, Entity.insertCheck e = .ok ()) →
      Made (.insert (Entity.table (RuleEntry c.Rule)) (Entity.schema (RuleEntry c.Rule))
        (es.map Entity.toRow))
  | changedEntry (c : RuleCloud) (filter : Filter) {u : RuleEntry c.Rule} :
      Entity.updateCheck u = .ok () →
      Made (.update (Entity.table (RuleEntry c.Rule)) (Entity.schema (RuleEntry c.Rule)) filter
        (Entity.updateRow u))
  | deletedEntries (c : RuleCloud) (filter : Filter) :
      Made (.delete (Entity.table (RuleEntry c.Rule)) (Entity.schema (RuleEntry c.Rule)) filter)

/-- **All calls that the service makes are lawful.** -/
theorem Call.Made.lawful {c : Call} (h : c.Made) : c.Lawful := by
  cases h with
  | list table schema filter page => trivial
  | newGroup _ _ => exact rfl
  | changedGroup filter _ hzero => exact Group.lawful_update (.inl hzero)
  | assignedGroups ids hpos _ => exact Group.lawful_update (.inr ⟨hpos, ids, rfl⟩)
  | deletedGroups filter => exact rfl
  | newEntries c _ => exact c.schema_eq
  | changedEntry c filter _ => exact c.lawful_update filter _
  | deletedEntries c filter => exact c.schema_eq

/-- A call that stores rules stores those of a group that was read, in the table of its cloud. -/
inductive Call.Entered (G : Store → Prop) : Call → Prop where
  | entries (c : RuleCloud) {owner : Group} {es : List (RuleEntry c.Rule)} :
      ReadFrom G owner → owner.vendor = some c.vendor → (∀ e ∈ es, e.groupId = owner.id) →
      Entered G (.insert (Entity.table (RuleEntry c.Rule)) (Entity.schema (RuleEntry c.Rule))
        (es.map Entity.toRow))
  | other {c : Call} : (∀ (cloud : RuleCloud) (schema : Schema) (rows : List Row),
      c ≠ .insert cloud.table schema rows) → Entered G c

/-! ### Every operation -/

section

variable {config : Store.Config} {d : Discipline Unit} {G : Store → Prop}

/-- The calls of the service are allowed, and nothing is promised about what they answer. -/
def Discipline.AllowsCalls (d : Discipline Unit) (G : Store → Prop) : Prop :=
  ∀ c : Call, c.Made → c.Entered G →
    d.Allows () c (Action.Answered (fun _ _ => True) fun _ _ => True)

namespace Service

theorem obeys_calls_deleteRulesOf (hd : d.AllowsCalls G) (ids : List String) (v : Vendor) :
    (deleteRulesOf ids v).Obeys d () (fun _ _ => True) fun _ _ => True := by
  have hdelete : ∀ c : RuleCloud, (Action.delete (RuleEntry c.Rule)
      (oneOfTexts "security_group_id" ids)).Obeys d () (fun _ _ => True) fun _ _ => True := fun c =>
    Action.obeys_call (hd _ (.deletedEntries c _) (.other nofun))
  cases v with
  | tcloud => exact hdelete .tcloud
  | aws => exact hdelete .aws
  | huawei => exact hdelete .huawei
  | azure => exact hdelete .azure
  | gcp => exact Action.obeys_pure trivial

theorem obeys_calls_deleteRules (hd : d.AllowsCalls G) (groups : List Group)
    (vendors : List Vendor) :
    (deleteRules groups vendors).Obeys d () (fun _ _ => True) fun _ _ => True := by
  induction vendors with
  | nil => exact Action.obeys_pure trivial
  | cons v rest ih =>
    rw [deleteRules_cons]
    split
    · refine Action.Obeys.bind (obeys_calls_deleteRulesOf hd _ v) ?_
      intro _ _ _
      exact ih
    · exact ih

end Service

/-- **Every operation obeys a discipline that allows the calls of the service**, whatever the store
answers. -/
theorem Operation.obeys_calls (hr : d.Reads config G ()) (hd : d.AllowsCalls G) (limit : UInt32)
    (user : String) (operation : Operation) :
    (operation.action limit user).Obeys d () (fun _ _ => True) fun _ _ => True := by
  have hE : ∀ _ : ServiceError, True := fun _ => trivial
  cases operation with
  | listGroups q => exact Action.obeys_map (Service.obeys_listGroups hr hE fun _ => trivial)
  | getGroup id =>
    exact Action.obeys_map ((Service.obeys_group hr hE).mono (fun _ _ h => h) fun _ _ _ => trivial)
  | createGroup g =>
    refine Action.obeys_map (Service.obeys_createGroup hE ?_)
    intro stored hcheck hreviser
    have hother : ∀ (cloud : RuleCloud) (schema : Schema) (rows : List Row),
        Call.insert (Entity.table Group) (Entity.schema Group) [Entity.toRow stored] ≠
          .insert cloud.table schema rows := fun cloud _ _ h =>
      cloud.table_ne_groups (Call.insert.inj h).1.symm
    -- whether or not an id is answered, nothing more is promised
    refine (hd _ (.newGroup hcheck hreviser) (.other hother)).mono ?_
    intro _ answer _
    cases answer with
    | error e => trivial
    | ok ids =>
      simp only [Action.Answered]
      split <;> trivial
  | updateGroup id c =>
    refine Action.obeys_map (Service.obeys_updateGroup hr hE ?_)
    intro update hcheck hzero
    exact hd _ (.changedGroup _ hcheck hzero) (.other nofun)
  | assign a =>
    refine Action.obeys_map ?_
    rw [Service.assign_eq]
    refine Action.Obeys.bind (Service.obeys_assignable hr hE) ?_
    rintro _ groups ⟨-, hcheck, hgroups, hassignable⟩
    -- at least one group was loaded, and has passed the check of what is written
    obtain ⟨id, hid⟩ := List.exists_mem_of_ne_nil _ (Service.ids_ne_nil_of_check hcheck)
    obtain ⟨g, hg, -⟩ := hgroups.complete id hid
    refine Service.obeys_assignAll ((hd _ (.assignedGroups a.groupIds
      (Service.pos_of_check hcheck) (hassignable g hg)) (.other nofun)).mono ?_)
    intro _ answer _
    cases answer with
    | error e => trivial
    | ok n =>
      show if n = groups.length then True else True
      split <;> trivial
  | deleteGroups deletion tour =>
    refine Action.obeys_map ?_
    rw [Service.deleteGroups_eq]
    refine Action.Obeys.bind (Service.obeys_deletable hr hE) ?_
    intro _ groups _
    refine Action.Obeys.bind (Service.obeys_calls_deleteRules hd groups tour.stops) ?_
    intro _ _ _
    exact Action.obeys_call (hd _ (.deletedGroups _) (.other nofun))
  | listRules cloud groupId q =>
    exact Action.obeys_map (Service.obeys_listRules hr hE fun _ => trivial)
  | createRules groupId c =>
    refine Action.obeys_map ?_
    rw [Service.createAnyRules_eq]
    refine Service.obeys_createRules hr hE ?_
    intro owner direction _ hvendor hread hchecks
    rw [c.cloud.vendor_eq] at hvendor
    refine hd _ (.newEntries c.cloud ?_) (.entries c.cloud hread hvendor ?_)
    · intro e he
      obtain ⟨rule, hrule, rfl⟩ := List.mem_map.1 he
      exact hchecks rule hrule
    · -- new rules name the group that was read
      intro e he
      obtain ⟨rule, -, rfl⟩ := List.mem_map.1 he
      rfl
  | updateRule groupId ruleId c =>
    refine Action.obeys_map ?_
    rw [Service.updateAnyRule_eq]
    refine Service.obeys_updateRule hr hE ?_
    intro update hcheck
    exact hd _ (.changedEntry c.cloud _ hcheck) (.other nofun)

/-- Every job obeys a discipline that allows the calls of the service. -/
theorem Job.obeys_calls (hr : d.Reads config G ()) (hd : d.AllowsCalls G) (job : Job) :
    job.script.Obeys d () fun _ _ => True :=
  Script.Obeys.mono (job.operation.obeys_calls hr hd job.limit job.user) fun _ _ _ => trivial

end

/-! ### Calls of the service only -/

/-- The discipline of these calls, which remembers nothing and expects any answer that some store
gives. -/
def Discipline.made (config : Store.Config) : Discipline Unit where
  may := fun _ c => c.Made
  gives := fun _ c answer => ∃ s : Store, answer = (s.perform config c).1
  next := fun _ _ _ => ()

section

variable {config : Store.Config}

theorem Discipline.reads_made :
    (made config).Reads config (fun _ => True) () where
  may := fun t schema filter page => .list t schema filter page
  next := fun _ _ _ _ _ _ => rfl
  gives := fun _ _ _ _ _ ⟨s, hs⟩ => ⟨s, trivial, hs⟩

theorem Discipline.allowsCalls_made : (made config).AllowsCalls fun _ => True := by
  intro c hmade _
  refine ⟨hmade, ?_⟩
  intro answer _
  cases answer with
  | ok x => trivial
  | error e => trivial

/-- **Every job makes calls of the service only.** -/
theorem Job.obeys_made (config : Store.Config) (job : Job) :
    job.script.Obeys (.made config) () fun _ _ => True :=
  job.obeys_calls Discipline.reads_made Discipline.allowsCalls_made

end

end SecurityGroups
