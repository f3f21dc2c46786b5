/-
SecurityGroups/Proofs/StoreRefusals.lean

Which refusals of the store a user can see.

Every filter, page and row that the service makes up is one that the store
accepts, and every row of a readable store can be decoded, so on readable stores
no operation ends in a refusal of the store (`Operation.unrefused`).  There is
one exception: a listing of groups takes its filter and its order from the user,
and is refused for what is wrong with these (`GroupQuery.Blames`).

Stores stay readable whatever jobs there are, so this holds for a job that has the
store to itself, and for every job of a schedule
(`store_refuses_listings_only`).
-/
import SecurityGroups.Proofs.Effects
import SecurityGroups.Proofs.FilterErrors
import SecurityGroups.Proofs.Retrieval

namespace SecurityGroups

open Service

/-! ### Actions that the store does not refuse -/

/-- The refusal is one of the service itself. -/
def ServiceError.Own : ServiceError → Prop
  | .store _ => False
  | _ => True

/-- The discipline of scripts whose calls are answered by readable stores. -/
def Discipline.readable (config : Store.Config) : Discipline Unit where
  may := fun _ _ => True
  gives := fun _ c answer => ∃ s : Store, s.Readable ∧ answer = (s.perform config c).1
  next := fun _ _ _ => ()

/-- On readable stores, even if they change from call to call, the action is refused by the service
itself or answers as promised. -/
def Action.Unrefused {α : Type} (config : Store.Config) (action : Action α) (Q : α → Prop) : Prop :=
  action.Obeys (.readable config) () (fun _ e => e.Own) fun _ x => Q x

section

variable {α β : Type} {config : Store.Config} {Q : α → Prop}

namespace Action

theorem Unrefused.bind {action : Action α} {f : α → Action β} {R : β → Prop}
    (h : action.Unrefused config Q) (hf : ∀ x, Q x → (f x).Unrefused config R) :
    (action >>= f).Unrefused config R := Obeys.bind h fun _ x hx => hf x hx

theorem Unrefused.map {action : Action α} (h : action.Unrefused config Q) (f : α → β) :
    (f <$> action).Unrefused config fun _ => True :=
  obeys_map (Obeys.mono h (fun _ _ he => he) fun _ _ _ => trivial)

theorem unrefused_pure {x : α} (h : Q x) : (pure x : Action α).Unrefused config Q := obeys_pure h

theorem unrefused_throw {e : ServiceError} (h : e.Own) :
    (throw e : Action α).Unrefused config Q := obeys_throw h

/-- What is demanded is refused by the service itself. -/
theorem unrefused_demand (v : Verdict) : (demand v).Unrefused config fun _ => v = .ok () := by
  cases v with
  | ok _ => exact obeys_pure rfl
  | error v => exact obeys_throw trivial

/-- A call that every readable store carries out. -/
theorem unrefused_call {c : Call} {Q : c.Answer → Prop}
    (h : ∀ s : Store, s.Readable → ∃ x, (s.perform config c).1 = .ok x ∧ Q x) :
    (call c).Unrefused config Q := by
  refine obeys_call ⟨trivial, ?_⟩
  rintro _ ⟨s, hs, rfl⟩
  obtain ⟨x, hx, hQ⟩ := h s hs
  rw [hx]
  exact hQ

/-! #### Listings -/

end Action

/-- A page has no rows but those that it is cut from. -/
theorem Page.mem_of_mem_cut {page : Page} {rows : List Row} {row : Row} (h : row ∈ page.cut rows) :
    row ∈ rows := by
  have hsorted : row ∈ page.sorted rows := List.mem_of_mem_drop (List.mem_of_mem_take h)
  rw [Page.sorted] at hsorted
  split at hsorted
  · exact List.mem_mergeSort.1 hsorted
  · exact hsorted

namespace Action

variable [Entity α] [LawfulEntity α] {filter : Filter} {page : Page}

/-- **A listing is refused only by the store itself**: what a readable store lists can be decoded. -/
theorem obeys_list_readable {E : Unit → ServiceError → Prop}
    (hread : ∀ s : Store, s.Readable → ∃ es : List α, s.Holds es)
    (hE : ∀ (s : Store) (e : StoreError), s.list config.maxLimit (Entity.table α) (Entity.schema α)
      filter page = .error e → E () (.store e)) :
    (Action.list α filter page).Obeys (.readable config) () E fun _ _ => True := by
  refine Obeys.bind (Q := fun _ listing => ∃ es : List α, listing.rows = es.map Entity.toRow) ?_ ?_
  · refine obeys_call ⟨trivial, ?_⟩
    rintro _ ⟨s, hs, rfl⟩
    show Answered E _ () (s.list config.maxLimit (Entity.table α) (Entity.schema α) filter page)
    cases hlist : s.list config.maxLimit (Entity.table α) (Entity.schema α) filter page with
    | error e => exact hE s e hlist
    | ok listing =>
      -- a count has no rows, and the rows of a page are rows of the table
      obtain ⟨-, -, -, -, rfl⟩ := Store.list_eq_ok.1 hlist
      obtain ⟨es, hes⟩ := hread s hs
      show ∃ es : List α, (if page.count then _ else _ : Listing).rows = es.map Entity.toRow
      split
      · exact ⟨[], rfl⟩
      · have hcut : ∀ row ∈ page.cut ((s.rows (Entity.table α)).filter filter.passes),
            ∃ e : α, row = Entity.toRow e ∧ True := by
          intro row hrow
          have hmem := List.mem_of_mem_filter (Page.mem_of_mem_cut hrow)
          rw [hes] at hmem
          obtain ⟨e, -, rfl⟩ := List.mem_map.1 hmem
          exact ⟨e, rfl, trivial⟩
        obtain ⟨es', hrows, -⟩ := Store.exists_eq_map_toRow hcut
        exact ⟨es', hrows⟩
  · rintro _ listing ⟨es, hrows⟩
    refine Obeys.bind (Q := fun _ _ => True) ?_ fun _ _ _ => obeys_pure trivial
    rw [decode, hrows, Entity.ofRows_toRow]
    exact obeys_pure trivial

/-- A listing by columns of the table, whose page is allowed and which can be evaluated. -/
theorem unrefused_list (hread : ∀ s : Store, s.Readable → ∃ es : List α, s.Holds es)
    (hpage : page.check config.maxLimit = .ok ())
    (hfields : ∀ f ∈ filter.fields, (Entity.schema α).contains f = true)
    (hsort : Store.checkSort (Entity.schema α) page = .ok ())
    (hdecides : ∀ rows, filter.Decides rows) :
    (Action.list α filter page).Unrefused config fun _ => True := by
  refine obeys_list_readable hread ?_
  intro s e he
  rw [Store.list_eq_ok.2 ⟨hpage, hfields, hsort, hdecides _, rfl⟩] at he
  cases he

/-! #### Calls that write -/

omit [LawfulEntity α] in
theorem unrefused_update {values : Row}
    (hfields : ∀ f ∈ filter.fields, (Entity.schema α).contains f = true)
    (hdecides : ∀ rows, filter.Decides rows) (hfit : values.Fits (Entity.schema α))
    (hid : values.get? "id" = none) :
    (Action.update α filter values).Unrefused config fun _ => True := by
  refine unrefused_call fun s _ => ?_
  rw [Store.perform_update hfields hfit hid (hdecides _)]
  exact ⟨_, rfl, trivial⟩

omit [LawfulEntity α] in
theorem unrefused_deleteOf {name : String} (texts : List String)
    (h : (Entity.schema α).contains name = true) :
    (Action.delete α (oneOfTexts name texts)).Unrefused config fun _ => True := by
  refine unrefused_call fun s _ => ?_
  rw [Store.perform_deleteOf config texts h]
  exact ⟨_, rfl, trivial⟩

/-- New entities are stored, and each of them is given an id. -/
theorem unrefused_insert (new : List α) :
    (Action.insert α new).Unrefused config fun ids => ids.length = new.length := by
  refine unrefused_call fun s _ => ?_
  rw [Store.perform_insert fun row hrow => ?_]
  · refine ⟨_, rfl, ?_⟩
    simp [Store.nextIds]
  · obtain ⟨e, -, rfl⟩ := List.mem_map.1 hrow
    exact LawfulEntity.fits_toRow e

end Action

end

/-! ### Operations -/

theorem Store.Readable.holds_groups {s : Store} (h : s.Readable) : ∃ gs : List Group, s.Holds gs :=
  h.exists_groups.imp fun _ hgs => hgs.1

theorem Store.Readable.holds_entries {s : Store} (h : s.Readable) (c : RuleCloud) :
    ∃ es : List (RuleEntry c.Rule), s.Holds es := (h.exists_entries c).imp fun _ hes => hes.1

namespace Service

variable {config : Store.Config} (hmax : 0 < config.maxLimit)

/-! #### Loading -/

theorem unrefused_loadBatches {batches : List (List String)}
    (hbatches : ∀ batch ∈ batches, batch ≠ [] ∧ batch.length ≤ config.maxLimit.toNat) :
    (loadBatches batches).Unrefused config fun _ => True := by
  induction batches with
  | nil => exact Action.unrefused_pure trivial
  | cons batch rest ih =>
    obtain ⟨⟨hne, hle⟩, hrest⟩ := List.forall_mem_cons.1 hbatches
    refine (Action.unrefused_list (fun _ hs => hs.holds_groups)
      (Page.check_ofRange (List.length_pos_iff.2 hne) hle) (Group.contains_fields_oneOfTexts batch)
      rfl (decides_oneOfTexts "id" batch)).bind ?_
    rintro ⟨count, found⟩ -
    exact (ih hrest).bind fun _ _ => Action.unrefused_pure trivial

include hmax

/-- Groups are loaded in batches none of which is too long for a page. -/
theorem unrefused_load (ids : List String) :
    (load config.maxLimit ids).Unrefused config fun _ => True :=
  unrefused_loadBatches fun _ hbatch => Batch.bounds_of_mem_split hmax hbatch

theorem unrefused_group (id : String) :
    (group config.maxLimit id).Unrefused config fun _ => True := by
  refine (unrefused_load hmax [id]).bind fun groups _ => ?_
  cases groups.getLast? with
  | some g => exact Action.unrefused_pure trivial
  | none => exact Action.unrefused_throw trivial

theorem unrefused_require (ids : List String) :
    (require config.maxLimit ids).Unrefused config fun _ => True := by
  refine (unrefused_load hmax ids).bind fun groups _ => ?_
  split
  · exact Action.unrefused_throw trivial
  · exact Action.unrefused_pure trivial

theorem unrefused_groupOf (vendor : Vendor) (id : String) :
    (groupOf vendor config.maxLimit id).Unrefused config fun _ => True :=
  (unrefused_group hmax id).bind fun _ _ =>
    (Action.unrefused_demand _).bind fun _ _ => Action.unrefused_pure trivial

/-! #### Groups -/

omit hmax in
/-- One row is stored, so an id is answered. -/
theorem unrefused_createGroup (user : String) (g : Group) :
    (createGroup user g).Unrefused config fun _ => True := by
  refine (Action.unrefused_demand _).bind fun _ _ => ?_
  refine (Action.unrefused_insert _).bind fun ids hids => ?_
  cases hlast : ids.getLast? with
  | some id => exact Action.unrefused_pure trivial
  | none =>
    rw [List.getLast?_eq_none_iff.1 hlast] at hids
    cases hids

theorem unrefused_updateGroup (user id : String) (c : GroupChange) :
    (updateGroup config.maxLimit user id c).Unrefused config fun _ => True := by
  refine (Action.unrefused_demand _).bind fun _ _ => ?_
  refine (unrefused_group hmax id).bind fun current _ => ?_
  refine (Action.unrefused_demand _).bind fun _ _ => ?_
  refine Action.Unrefused.bind (Q := fun _ => True) ?_ fun _ _ => Action.unrefused_pure trivial
  exact Action.unrefused_update (Group.contains_fields_equal id)
    (Filter.decides_of_holds (Filter.holds_equal "id" id)) (Group.fits_updateRow _)
    (Group.get?_updateRow_of_not_mem (by decide))

theorem unrefused_assign (user : String) (a : Assignment) :
    (assign config.maxLimit user a).Unrefused config fun _ => True := by
  refine (Action.unrefused_demand _).bind fun _ _ => ?_
  refine (unrefused_require hmax a.groupIds).bind fun groups _ => ?_
  refine (Action.unrefused_demand _).bind fun _ _ => ?_
  refine Action.Unrefused.bind (Q := fun _ => True) ?_ fun affected _ => ?_
  · refine Action.unrefused_call fun s _ => ?_
    exact ⟨_, congrArg Prod.fst (perform_assignCall config s user a), trivial⟩
  · split
    · exact Action.unrefused_pure trivial
    · exact Action.unrefused_throw trivial

omit hmax in
theorem unrefused_deleteRules (groups : List Group) (vendors : List Vendor) :
    (deleteRules groups vendors).Unrefused config fun _ => True := by
  have hcloud : ∀ (c : RuleCloud) (ids : List String), (Action.delete (RuleEntry c.Rule)
      (oneOfTexts "security_group_id" ids)).Unrefused config fun _ => True := fun c ids =>
    Action.unrefused_deleteOf ids
      (LawfulEntity.contains_iff.2 (RuleEntry.names_of_mem_ownNames (by decide)))
  have hvendor : ∀ (v : Vendor) (ids : List String),
      (deleteRulesOf ids v).Unrefused config fun _ => True := by
    intro v ids
    cases v with
    | tcloud => exact hcloud .tcloud ids
    | aws => exact hcloud .aws ids
    | huawei => exact hcloud .huawei ids
    | azure => exact hcloud .azure ids
    | gcp => exact Action.unrefused_pure trivial
  induction vendors with
  | nil => exact Action.unrefused_pure trivial
  | cons v rest ih =>
    rw [deleteRules_cons]
    split
    · exact (hvendor v _).bind fun _ _ => ih
    · exact ih

theorem unrefused_deleteGroups (d : Deletion) (tour : Vendor.Tour) :
    (deleteGroups config.maxLimit d tour).Unrefused config fun _ => True := by
  have hid : (Entity.schema Group).contains "id" = true := by decide
  refine (Action.unrefused_demand _).bind fun _ _ => ?_
  refine (unrefused_require hmax d.ids).bind fun groups _ => ?_
  refine (unrefused_deleteRules groups tour.stops).bind fun _ _ => ?_
  exact Action.unrefused_deleteOf d.ids hid

/-! #### Rules -/

theorem unrefused_listRules (c : RuleCloud) (groupId : String) (q : RuleQuery) :
    (listRules c.Rule config.maxLimit groupId q).Unrefused config fun _ => True := by
  refine (Action.unrefused_demand _).bind fun _ hcheck => ?_
  refine (unrefused_groupOf hmax _ groupId).bind fun _ _ => ?_
  refine Action.Unrefused.bind (Q := fun _ => True) ?_ fun _ _ => Action.unrefused_pure trivial
  -- the page was checked against the limit that the store has too
  have hpage : ((q.page.getD {}).toPage).check config.maxLimit = .ok () := by
    rw [RuleQuery.check] at hcheck
    split at hcheck
    · cases hcheck
    · rename_i window hwindow
      rw [hwindow]
      exact mapError_eq_ok.1 hcheck
  have hown : ∀ f ∈ (Filter.equal "security_group_id" (.str groupId)).fields,
      f ∈ RuleEntry.ownNames := by
    simp [Filter.equal, Filter.allOf, Filter.fields, Clause.fieldsOfAll, Clause.fields,
      RuleEntry.ownNames]
  exact Action.unrefused_list (fun _ hs => hs.holds_entries c) hpage
    (RuleEntry.contains_fields_of_own hown) rfl
    (Filter.decides_of_holds (Filter.holds_equal "security_group_id" groupId))

theorem unrefused_createRules (c : RuleCloud) (user groupId : String)
    (creation : RuleCreation c.Rule) :
    (createRules config.maxLimit user groupId creation).Unrefused config fun _ => True := by
  refine (Action.unrefused_demand _).bind fun _ _ => ?_
  cases creation.direction? with
  | none => exact Action.unrefused_throw trivial
  | some direction =>
    refine (unrefused_groupOf hmax _ groupId).bind fun _ _ => ?_
    refine (Action.unrefused_demand _).bind fun _ _ => ?_
    exact Action.Obeys.mono (Action.unrefused_insert _) (fun _ _ he => he) fun _ _ _ => trivial

theorem unrefused_updateRule (c : RuleCloud) (user groupId ruleId : String) (u : c.Update) :
    (updateRule config.maxLimit user groupId ruleId u).Unrefused config fun _ => True := by
  have hfields := RuleEntry.contains_fields_ruleOfGroup (R := c.Rule) groupId ruleId
  have hdecides := Filter.decides_of_holds (holds_ruleOfGroup groupId ruleId)
  refine (Action.unrefused_demand _).bind fun _ _ => ?_
  refine (unrefused_groupOf hmax _ groupId).bind fun _ _ => ?_
  refine (Action.unrefused_list (fun _ hs => hs.holds_entries c)
    (Page.check_ofRange (n := 1) Nat.one_pos (UInt32.lt_iff_toNat_lt.1 hmax)) hfields rfl
    hdecides).bind ?_
  rintro ⟨count, found⟩ -
  cases hhead : found.head? with
  | none =>
    simp only [hhead]
    exact Action.unrefused_throw trivial
  | some current =>
    simp only [hhead]
    refine (Action.unrefused_demand _).bind fun _ _ => ?_
    refine Action.Unrefused.bind (Q := fun _ => True) ?_ fun _ _ => Action.unrefused_pure trivial
    exact Action.unrefused_update hfields hdecides (RuleEntry.fits_updateRow _)
      (RuleEntry.get?_own_updateRow _ (by decide) (by decide))

end Service

/-! ### Listings of groups -/

/-- What a user asks for, and for what the store refuses it: a column that the table does not have, or a
test that can not be made. -/
inductive GroupQuery.Blames (q : GroupQuery) : StoreError → Prop where
  | field {filter : Filter} {name : String} : q.filter = some filter → name ∈ filter.fields →
      (Entity.schema Group).contains name = false → Blames q (.schema (.unknownColumn name))
  | sort {page : Page} {name : String} : q.page = some page → page.sort = some name →
      (Entity.schema Group).contains name = false → Blames q (.schema (.unknownColumn name))
  | test {filter : Filter} {t : Test} {fault : FilterError} : q.filter = some filter →
      t ∈ filter.tests → t.Faulty fault → Blames q (.filter fault)

/-- **A listing of groups is refused by the store** only for its filter or its order. -/
theorem Service.obeys_listGroups_readable (config : Store.Config) (q : GroupQuery) :
    (listGroups config.maxLimit q).Obeys (.readable config) ()
      (fun _ e => ∀ e', e = .store e' → q.Blames e') fun _ _ => True := by
  have hown : ∀ e : ServiceError, e.Own → ∀ e', e = .store e' → q.Blames e' := by
    rintro _ he e' rfl
    exact he.elim
  refine Action.Obeys.bind (Q := fun _ _ => q.check config.maxLimit = .ok ())
    (Action.Obeys.mono (Action.unrefused_demand _) (fun _ => hown) fun _ _ h => h) ?_
  intro _ _ hcheck
  cases hfilter : q.filter with
  | none => exact Action.obeys_throw (hown _ trivial)
  | some filter =>
    cases hpage : q.page with
    | none => exact Action.obeys_throw (hown _ trivial)
    | some page =>
      refine Action.Obeys.bind (Q := fun _ _ => True) ?_ fun _ _ _ => Action.obeys_pure trivial
      refine Action.obeys_list_readable (fun _ hs => hs.holds_groups) ?_
      rintro s e he _ ⟨⟩
      have hallowed : page.check config.maxLimit = .ok () := by
        have hpages := (Verdict.first_cons_eq_ok.1 (Verdict.first_cons_eq_ok.1 hcheck).2).1
        rw [hpage] at hpages
        exact mapError_eq_ok.1 hpages
      rcases Store.list_error_cases hallowed he with
        ⟨name, hname | hname, hunknown, rfl⟩ | ⟨t, ht, fault, hfaulty, rfl⟩
      · exact .field hfilter hname hunknown
      · exact .sort hpage hname hunknown
      · exact .test hfilter ht hfaulty

/-! ### Jobs -/

section

variable {config : Store.Config}

/-- No operation but a listing of groups is refused by a readable store. -/
theorem Operation.unrefused (hmax : 0 < config.maxLimit) (user : String) {operation : Operation}
    (h : ∀ q, operation ≠ .listGroups q) :
    (operation.action config.maxLimit user).Unrefused config fun _ => True := by
  cases operation with
  | listGroups q => exact absurd rfl (h q)
  | getGroup id => exact (Service.unrefused_group hmax id).map _
  | createGroup g => exact (Service.unrefused_createGroup user g).map _
  | updateGroup id c => exact (Service.unrefused_updateGroup hmax user id c).map _
  | assign a => exact (Service.unrefused_assign hmax user a).map _
  | deleteGroups d tour => exact (Service.unrefused_deleteGroups hmax d tour).map _
  | listRules cloud groupId q => exact (Service.unrefused_listRules hmax cloud groupId q).map _
  | createRules groupId c =>
    refine Action.Unrefused.map (Q := fun _ => True) ?_ _
    rw [Service.createAnyRules_eq]
    exact Service.unrefused_createRules hmax c.cloud user groupId c.creation
  | updateRule groupId ruleId c =>
    refine Action.Unrefused.map (Q := fun _ => True) ?_ _
    rw [Service.updateAnyRule_eq]
    exact Service.unrefused_updateRule hmax c.cloud user groupId ruleId c.update

/-- The job may end like this: in a refusal of the store only if it lists groups, and is to blame. -/
def Job.MayEnd (config : Store.Config) (job : Job) (result : Except ServiceError Outcome) : Prop :=
  job.limit = config.maxLimit → ∀ e, result = .error (.store e) →
    ∃ q, job.operation = .listGroups q ∧ q.Blames e

theorem Script.obeys_readable {α : Type} (p : Script α) :
    p.Obeys (.readable config) () fun _ _ => True := by
  induction p with
  | done a => trivial
  | call c next ih => exact ⟨trivial, fun answer _ => ih answer⟩

/-- **What the calls of a job are answered by readable stores** decides how it may end. -/
theorem Job.obeys_readable (hmax : 0 < config.maxLimit) (job : Job) :
    job.script.Obeys (.readable config) () fun _ result => job.MayEnd config result := by
  obtain ⟨limit, user, operation⟩ := job
  by_cases hlimit : limit = config.maxLimit
  · subst hlimit
    by_cases hlist : ∃ q, operation = .listGroups q
    · obtain ⟨q, rfl⟩ := hlist
      refine Script.Obeys.mono (Action.obeys_map (f := Outcome.groups) (R := fun _ _ => True)
        (Service.obeys_listGroups_readable config q)) ?_
      rintro _ result hend - e rfl
      exact ⟨q, rfl, hend e rfl⟩
    · have hrun := Operation.unrefused hmax user fun q hq => hlist ⟨q, hq⟩
      refine Script.Obeys.mono hrun ?_
      rintro _ result hend - e rfl
      exact hend.elim
  · exact Script.Obeys.mono (Script.obeys_readable _) fun _ _ _ heq => absurd heq hlimit

/-- A script that makes calls of the service on a readable store gets answers of readable stores. -/
theorem Script.run_readable {α : Type} {p : Script α} {Q Q' : Unit → α → Prop}
    (hmade : p.Obeys (.made config) () Q') (h : p.Obeys (.readable config) () Q) {s : Store}
    (hs : s.Readable) : Q () (p.run (Store.perform config) s).1 := by
  induction p generalizing s with
  | done a => exact h
  | call c next ih =>
    exact ih _ (hmade.2 _ ⟨s, rfl⟩) (h.2 _ ⟨s, hs, rfl⟩) (hs.perform hmade.1)

/-- **The store refuses only listings of groups**, and these only for a column that the table does not
have, in their filter or their order, or for a test of their filter that can not be made: one that
looks for a cell in something else than an array, or for a part of a text in something else than a
text.  This holds for each job on each reachable store, and for the jobs of every schedule, if the
limit of pages is that of the store and allows a row. -/
theorem store_refuses_listings_only (config : Store.Config) (hmax : 0 < config.maxLimit) :
    (∀ (s : Store) (job : Job) (e : StoreError), s.Reachable config →
      job.limit = config.maxLimit → (job.run config s).1 = .error (.store e) →
      ∃ q, job.operation = .listGroups q ∧ q.Blames e) ∧
    ∀ (moves : List Move) (session : Session) (e : StoreError),
      session ∈ (System.after config .empty moves).sessions →
      session.job.limit = config.maxLimit → session.rest = .done (.error (.store e)) →
      ∃ q, session.job.operation = .listGroups q ∧ q.Blames e := by
  constructor
  · intro s job e hreach hlimit hrun
    exact Script.run_readable (job.obeys_made config) (job.obeys_readable hmax) hreach.readable
      hlimit e hrun
  · intro moves session e hsession hlimit hrest
    have hobeys := System.obeys_after (d := .readable config) (fun job => job.obeys_readable hmax) (by
      rintro _ ⟨before, later, rfl, rfl⟩ c
      have hreach : (System.after config .empty before).store.Reachable config := ⟨before, rfl⟩
      exact ⟨_, hreach.readable, rfl⟩) session hsession
    rw [hrest] at hobeys
    exact hobeys hlimit e rfl

/-- A query for the groups of a zone, which is no column of theirs. -/
def GroupQuery.byZone : GroupQuery where
  filter := some (.equal "zone" (.str "a"))
  page := some (.ofRange 0 1)

/-- The store refuses a query by a column that groups do not have, and the query is to blame. -/
theorem store_refuses_byZone :
    let config : Store.Config := ⟨Supply.strokes, 500⟩
    let job : Job := ⟨500, "bob", .listGroups .byZone⟩
    let e : StoreError := .schema (.unknownColumn "zone")
    (job.run config (play config [.creation] .empty)).1 = .error (.store e) ∧
      GroupQuery.byZone.Blames e := by
  intro config job e
  have hrefused : (job.run config (play config [.creation] .empty)).1 = .error (.store e) := by
    have herror : (match (job.run config (play config [.creation] .empty)).1 with
        | .error e => some e
        | .ok _ => none) = some (.store e) := by decide +kernel
    split at herror
    · rename_i hrun
      rw [hrun, Option.some.inj herror]
    · cases herror
  obtain ⟨q, hq, hblames⟩ := (store_refuses_listings_only config (by decide)).1 _ job e
    (reachable_play config [.creation]) rfl hrefused
  cases hq
  exact ⟨hrefused, hblames⟩

end

end SecurityGroups
