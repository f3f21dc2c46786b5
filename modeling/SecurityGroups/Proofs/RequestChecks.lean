/-
SecurityGroups/Proofs/RequestChecks.lean

The checker of requests and the service.

The checker says what is wrong with a request without a service.  It may speak
for the service because each operation looks at its request before it calls the
store: with a request that is wrong the operation ends there, and with one that
is fine it turns to the store (`Action.Heeds`).  So the service refuses without a
call exactly what the checker finds wrong, for the same reason, and what it
answers then does not depend on the store, the user or the group.

What is wrong with a creation of rules is what is wrong with its two sets or else
with the first rule that is not fine (`RuleCreation.check_eq_error_iff`).
-/
import SecurityGroups.Checker
import SecurityGroups.Proofs.SingleCalls

namespace SecurityGroups

/-! ### The first violation -/

theorem Verdict.first_cons_eq_error_iff {w : Verdict} {rest : List Verdict} {v : Violation} :
    first (w :: rest) = .error v ↔ w = .error v ∨ w = .ok () ∧ first rest = .error v := by
  cases w <;> simp [first]

/-- A row of verdicts is not fine because of one of them, after others that are. -/
theorem Verdict.first_eq_error_iff {vs : List Verdict} {v : Violation} : first vs = .error v ↔
    ∃ before later, vs = before ++ .error v :: later ∧ first before = .ok () := by
  constructor
  · intro h
    induction vs with
    | nil => cases h
    | cons w vs ih =>
      obtain rfl | ⟨rfl, h⟩ := first_cons_eq_error_iff.1 h
      · exact ⟨[], vs, rfl, rfl⟩
      · obtain ⟨before, later, rfl, hbefore⟩ := ih h
        exact ⟨.ok () :: before, later, rfl, hbefore⟩
  · rintro ⟨before, later, rfl, hbefore⟩
    exact first_append_error hbefore v later

/-- Some items are not fine because of the first that is not. -/
theorem Check.each_eq_error_iff {α : Type} {values : List α} {check : α → Verdict} {v : Violation} :
    each values check = .error v ↔ ∃ before x later, values = before ++ x :: later ∧
      (∀ y ∈ before, check y = .ok ()) ∧ check x = .error v := by
  rw [each, Verdict.first_eq_error_iff]
  constructor
  · rintro ⟨before, later, hvalues, hbefore⟩
    obtain ⟨ys, zs, rfl, rfl, hzs⟩ := List.map_eq_append_iff.1 hvalues
    obtain ⟨x, xs, rfl, hx, -⟩ := List.map_eq_cons_iff.1 hzs
    exact ⟨ys, x, xs, rfl, each_eq_ok.1 hbefore, hx⟩
  · rintro ⟨before, x, later, rfl, hbefore, hx⟩
    exact ⟨before.map check, later.map check, by rw [List.map_append, List.map_cons, hx],
      each_eq_ok.2 hbefore⟩

namespace RuleCreation

variable {R : Type} [Shape R] {c : RuleCreation R} {v : Violation}

/-- What is wrong with a creation: something about its two sets or else, if these are fine, about
one of its rules, the first that is not fine. -/
inductive Wrong (c : RuleCreation R) (v : Violation) : Prop where
  | sets (h : c.envelopeCheck = .error v)
  | rule (hsets : c.envelopeCheck = .ok ()) (before : List R) (rule : R) (later : List R)
      (hrules : c.egress ++ c.ingress = before ++ rule :: later)
      (hbefore : ∀ r ∈ before, Shape.check r = .ok ()) (hrule : Shape.check rule = .error v)

omit [Shape R] in
/-- If the sets are fine, one is empty and the rules are those of the other. -/
theorem rules_eq_append (h : c.envelopeCheck = .ok ()) : c.rules = c.egress ++ c.ingress := by
  obtain ⟨egress, ingress⟩ := c
  cases egress with
  | nil => rfl
  | cons r egress =>
    cases ingress with
    | nil => exact (List.append_nil _).symm
    | cons _ _ => cases h

/-- What a creation is refused for. -/
theorem check_eq_error_iff : c.check = .error v ↔ c.Wrong v := by
  have hsplit : c.check = .error v ↔ c.envelopeCheck = .error v ∨
      c.envelopeCheck = .ok () ∧ Check.each c.rules Shape.check = .error v := by
    rw [check, Verdict.first_cons_eq_error_iff, Verdict.first_cons_eq_error_iff]
    simp
  rw [hsplit, Check.each_eq_error_iff]
  constructor
  · rintro (hsets | ⟨hsets, before, rule, later, hrules, hbefore, hrule⟩)
    · exact .sets hsets
    · exact .rule hsets before rule later (rules_eq_append hsets ▸ hrules) hbefore hrule
  · rintro (hsets | ⟨hsets, before, rule, later, hrules, hbefore, hrule⟩)
    · exact .inl hsets
    · exact .inr ⟨hsets, before, rule, later, rules_eq_append hsets ▸ hrules, hbefore, hrule⟩

end RuleCreation

theorem AnyCreation.check_eq (c : AnyCreation) : c.check = c.creation.check := by
  cases c <;> rfl

theorem AnyChange.check_eq (c : AnyChange) : c.check = Change.check c.update := by
  cases c <;> rfl

/-! ### Actions that look before they call -/

namespace Action

variable {α β : Type} {c : Call} {v : Verdict}

/-- The action begins with a call. -/
def Calls (action : Action α) : Prop := ∃ c next, ExceptT.run action = .call c next

/-- The action heeds a verdict: what is wrong it refuses, and with what is fine it turns to the
store. -/
def Heeds : Verdict → Action α → Prop
  | .ok (), action => action.Calls
  | .error v, action => ExceptT.run action = .done (.error (.violation v))

theorem Single.calls {action : Action α} (h : action.Single c) : action.Calls := by
  obtain ⟨finish, hfinish⟩ := h
  exact ⟨c, _, hfinish⟩

theorem Calls.bind {action : Action α} (h : action.Calls) (next : α → Action β) :
    (action >>= next).Calls := by
  obtain ⟨c, rest, hrest⟩ := h
  rw [Calls, script_bind, hrest]
  exact ⟨c, _, rfl⟩

/-- What is demanded first is heeded. -/
theorem heeds_demand {next : Unit → Action β} (h : v = .ok () → (next ()).Calls) :
    (demand v >>= next).Heeds v := by
  cases v with
  | error v => rfl
  | ok _ => exact h rfl

theorem Heeds.bind {action : Action α} (h : action.Heeds v) (next : α → Action β) :
    (action >>= next).Heeds v := by
  cases v with
  | error v =>
    have hdone : ExceptT.run action = .done (.error (.violation v)) := h
    show ExceptT.run (action >>= next) = _
    rw [script_bind, hdone]
    rfl
  | ok _ => exact Calls.bind h next

theorem Heeds.map {action : Action α} (h : action.Heeds v) (f : α → β) :
    (f <$> action).Heeds v := by
  rw [map_eq_pure_bind]
  exact h.bind _

/-- **An action that heeds a verdict refuses without a call what is wrong**, and nothing else. -/
theorem Heeds.refuses_iff {action : Action α} (h : action.Heeds v) {w : Violation} :
    v = .error w ↔ ExceptT.run action = .done (.error (.violation w)) := by
  cases v with
  | error v =>
    have hdone : ExceptT.run action = .done (.error (.violation v)) := h
    rw [hdone]
    simp
  | ok _ =>
    obtain ⟨c, next, hcall⟩ := h
    rw [hcall]
    simp

end Action

namespace Service

variable {limit : UInt32} {user id : String}

theorem calls_group : (group limit id).Calls := (single_group limit id).calls

theorem calls_groupOf {vendor : Vendor} : (groupOf vendor limit id).Calls :=
  (single_groupOf vendor limit id).calls

/-- Some groups are loaded with at least one call. -/
theorem calls_require {ids : List String} (h : ids ≠ []) : (require limit ids).Calls := by
  have hload : (load limit ids).Calls := by
    cases ids with
    | nil => exact absurd rfl h
    | cons id ids =>
      rw [load, List.eraseDups_cons, Batch.split]
      exact ((Action.single_list _ _).calls).bind _
  exact hload.bind _

theorem heeds_listGroups (q : GroupQuery) : (listGroups limit q).Heeds (q.check limit) := by
  refine Action.heeds_demand fun hcheck => ?_
  obtain ⟨filter, page⟩ := q
  cases filter with
  | none => cases hcheck
  | some filter =>
    cases page with
    | none => cases hcheck
    | some page => exact (Action.single_list _ _).calls.bind _

theorem heeds_updateGroup (c : GroupChange) : (updateGroup limit user id c).Heeds c.check :=
  Action.heeds_demand fun _ => calls_group.bind _

theorem heeds_assign (a : Assignment) : (assign limit user a).Heeds a.check :=
  Action.heeds_demand fun hcheck => (calls_require (ids_ne_nil_of_check hcheck)).bind _

theorem heeds_deleteGroups (d : Deletion) (tour : Vendor.Tour) :
    (deleteGroups limit d tour).Heeds d.check := by
  refine Action.heeds_demand fun hcheck => (calls_require ?_).bind _
  rintro hids
  rw [Deletion.check, hids] at hcheck
  cases hcheck

theorem heeds_listRules (c : RuleCloud) (q : RuleQuery) :
    (listRules c.Rule limit id q).Heeds (q.check limit) :=
  Action.heeds_demand fun _ => calls_groupOf.bind _

theorem heeds_createRules {R : Type} [Shape R] (c : RuleCreation R) :
    (createRules limit user id c).Heeds c.check := by
  refine Action.heeds_demand fun hcheck => ?_
  -- one of the two sets holds rules, so there is a direction
  obtain ⟨egress, ingress⟩ := c
  cases egress with
  | nil =>
    cases ingress with
    | nil => cases hcheck
    | cons rule ingress => exact calls_groupOf.bind _
  | cons rule egress =>
    cases ingress with
    | nil => exact calls_groupOf.bind _
    | cons _ _ => cases hcheck

theorem heeds_updateRule {U R : Type} [Change U R] [Shape R] {ruleId : String} (u : U) :
    (updateRule limit user id ruleId u).Heeds (Change.check u) :=
  Action.heeds_demand fun _ => calls_groupOf.bind _

end Service

/-! ### Requests -/

/-- The operation is what the request asks for, for some group, rule and cloud of rules where the
request does not name them. -/
inductive Request.Asks : Request → Operation → Prop where
  | list (q : GroupQuery) : Asks (.list q) (.listGroups q)
  | listRules (cloud : RuleCloud) (groupId : String) (q : RuleQuery) :
    Asks (.listRules q) (.listRules cloud groupId q)
  | update (id : String) (c : GroupChange) : Asks (.update c) (.updateGroup id c)
  | delete (d : Deletion) (tour : Vendor.Tour) : Asks (.delete d) (.deleteGroups d tour)
  | assign (a : Assignment) : Asks (.assign a) (.assign a)
  | createRules (groupId : String) (c : AnyCreation) :
    Asks (.createRules c) (.createRules groupId c)
  | updateRule (groupId ruleId : String) (c : AnyChange) :
    Asks (.updateRule c) (.updateRule groupId ruleId c)

/-- **Every operation heeds the check of its request.** -/
theorem Request.Asks.heeds {request : Request} {op : Operation} (h : request.Asks op)
    (limit : UInt32) (user : String) : (op.action limit user).Heeds (request.check limit) := by
  cases h with
  | list q => exact (Service.heeds_listGroups q).map _
  | listRules cloud groupId q => exact (Service.heeds_listRules cloud q).map _
  | update id c => exact (Service.heeds_updateGroup c).map _
  | delete d tour => exact (Service.heeds_deleteGroups d tour).map _
  | assign a => exact (Service.heeds_assign a).map _
  | createRules groupId c =>
    rw [Operation.action, Service.createAnyRules_eq, Request.check, AnyCreation.check_eq]
    exact (Service.heeds_createRules c.creation).map _
  | updateRule groupId ruleId c =>
    rw [Operation.action, Service.updateAnyRule_eq, Request.check, AnyChange.check_eq]
    exact (Service.heeds_updateRule c.update).map _

/-- A job that a request asks for ends without a call in a violation exactly when the check of the
request finds it. -/
theorem Job.script_eq_refused_iff {request : Request} {job : Job}
    (h : request.Asks job.operation) {v : Violation} :
    request.check job.limit = .error v ↔ job.script = .done (.error (.violation v)) :=
  (h.heeds job.limit job.user).refuses_iff

theorem Job.run_of_script {job : Job} {result : Except ServiceError Outcome}
    (h : job.script = .done result) (config : Store.Config) (s : Store) :
    job.run config s = (result, s) := by
  show Script.run _ job.script s = _
  rw [h]
  rfl

namespace Checker

theorem verdict_eq_ok {limit : UInt32} {kind : String} {vendor : Option String} {body : Json}
    {result : Verdict} : verdict limit kind vendor body = .ok result ↔
      ∃ request, readRequest kind vendor body = .ok request ∧ request.check limit = result := by
  rw [verdict]
  cases readRequest kind vendor body with
  | error e => simp [bind, Except.bind]
  | ok request => simp [bind, Except.bind, pure, Except.pure]

end Checker

/-- **The checker speaks for the service.**  Let the checker read a request and say what is wrong
with it, or that nothing is.  Every operation that the request asks for, under the same limit of
pages, ends without a call to the store in a violation exactly when the checker says this violation;
then every store is left as it is.  Of a creation, the checker says what is wrong with the two sets
or else with the first rule that is not fine. -/
theorem checker_speaks_for_the_service {limit : UInt32} {kind : String} {vendor : Option String}
    {body : Json} {result : Verdict} (h : Checker.verdict limit kind vendor body = .ok result) :
    ∃ request, Checker.readRequest kind vendor body = .ok request ∧
      (∀ job : Job, job.limit = limit → request.Asks job.operation → ∀ v,
        (result = .error v ↔ job.script = .done (.error (.violation v))) ∧
        (result = .error v →
          ∀ config s, job.run config s = (.error (.violation v), s))) ∧
      ∀ c, request = .createRules c → ∀ v, result = .error v → c.creation.Wrong v := by
  obtain ⟨request, hread, rfl⟩ := Checker.verdict_eq_ok.1 h
  refine ⟨request, hread, ?_, ?_⟩
  · rintro job rfl hasks v
    have hscript := Job.script_eq_refused_iff hasks (v := v)
    exact ⟨hscript, fun hv => Job.run_of_script (hscript.1 hv)⟩
  · rintro c rfl v hv
    rw [Request.check, AnyCreation.check_eq] at hv
    exact RuleCreation.check_eq_error_iff.1 hv

/-- Of two rules of AWS the second has its ports out of order, so no service stores the first. -/
theorem checker_speaks_for_the_service_ports :
    let body : Json := .obj [("ingress_rule_set",
      .arr [.obj [("from_port", .int 22), ("to_port", .int 22)],
        .obj [("from_port", .int 30), ("to_port", .int 20)]])]
    let c : RuleCreation Aws.Rule :=
      { ingress := [{ fromPort := 22, toPort := 22 }, { fromPort := 30, toPort := 20 }] }
    let job : Job := ⟨500, "ann", .createRules "sg" (.aws c)⟩
    let v : Violation := .invalidFormat "to_port" "from_port 30 is greater than to_port 20"
    Checker.verdict 500 "create-rules" (some "aws") body = .ok (.error v) ∧
      job.script = .done (.error (.violation v)) ∧
      (∀ config s, job.run config s = (.error (.violation v), s)) ∧ c.Wrong v := by
  intro body c job v
  have hread : Checker.readRequest "create-rules" (some "aws") body = .ok (.createRules (.aws c)) :=
    rfl
  have hcheck : Request.check 500 (.createRules (.aws c)) = .error v := by decide
  have hverdict : Checker.verdict 500 "create-rules" (some "aws") body = .ok (.error v) :=
    Checker.verdict_eq_ok.2 ⟨_, hread, hcheck⟩
  obtain ⟨request, hrequest, hjobs, hwrong⟩ := checker_speaks_for_the_service hverdict
  obtain rfl : request = .createRules (.aws c) := Except.ok.inj (hrequest.symm.trans hread)
  obtain ⟨hscript, hrun⟩ := hjobs job rfl (.createRules "sg" (.aws c)) v
  exact ⟨hverdict, hscript.1 rfl, hrun rfl, hwrong (.aws c) rfl v rfl⟩

end SecurityGroups
