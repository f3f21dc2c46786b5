/-
SecurityGroups/Proofs/UpdateChecks.lean

The checks of rules and of their updates.

Every cloud lists what a rule has to be twice, once for rules and once for
updates, where every field may be missing.  A field of an updated rule is that of
the update or else that of the rule, so if the rule is fine, the field is fine
exactly when it is fine in the update (`Check.optional_or_eq_ok`,
`Check.getD_eq_ok`), and the two lists can be compared field by field.

They agree but for two things.  An update of AWS does not know both ports, so
their order is checked in the updated rule only.  An update of HuaWei Cloud may not
name the priority zero, which a rule may have (`HuaWei.Update.ranked`).
-/
import SecurityGroups.Proofs.Overlays

namespace SecurityGroups

/-! ### One field -/

namespace Check

variable {α : Type} {value value' : Option α} {x : α} {check : α → Verdict}

theorem optional_none : optional none check = .ok () := rfl

/-- A value that is taken over, if there is none, does not matter if it is fine. -/
theorem optional_or_eq_ok (h : optional value' check = .ok ()) :
    optional (value.or value') check = .ok () ↔ optional value check = .ok () := by
  cases value with
  | none => exact iff_of_true h rfl
  | some _ => rfl

theorem getD_eq_ok (h : check x = .ok ()) :
    check (value.getD x) = .ok () ↔ optional value check = .ok () := by
  cases value with
  | none => exact iff_of_true h rfl
  | some _ => rfl

/-- A text that must not be empty and must be something that the empty text is not need only be
that. -/
theorem required_and_iff {field text : String} {check : String → Verdict} {p : Prop}
    (hempty : check "" ≠ .ok ()) :
    required field text = .ok () ∧ check text = .ok () ∧ p ↔ check text = .ok () ∧ p := by
  refine and_iff_right_of_imp fun ⟨hcheck, _⟩ => Verdict.provided_eq_ok.2 (decide_eq_true ?_)
  rintro rfl
  exact hempty hcheck

end Check

namespace TCloud

variable {r : Rule} {u : Update}

theorem Update.check_apply_iff (h : r.check = .ok ()) :
    (u.apply r).check = .ok () ↔ u.check = .ok () := by
  simp only [Rule.check, Update.check, Update.apply, Verdict.first_cons_eq_ok] at h ⊢
  obtain ⟨hprotocol, hport, hipv4, hipv6, htarget, hmemo, -, haction, -⟩ := h
  rw [Check.optional_or_eq_ok hprotocol, Check.optional_or_eq_ok hport,
    Check.optional_or_eq_ok hipv4, Check.optional_or_eq_ok hipv6, Check.optional_or_eq_ok htarget,
    Check.optional_or_eq_ok hmemo, Check.required_and_iff (by decide), Check.getD_eq_ok haction]
  -- a rule has its memo checked before its action, an update after it
  rw [and_left_comm (a := Check.optional u.memo checkMemo = .ok ())]

end TCloud

namespace Aws

variable {r : Rule} {u : Update}

/-- The order of the ports is a matter of the updated rule. -/
theorem Update.check_apply_iff (h : r.check = .ok ()) : (u.apply r).check = .ok () ↔
    (u.apply r).portsInOrder = true ∧ u.check = .ok () := by
  simp only [Rule.check, Update.check, Verdict.first_cons_eq_ok, Verdict.provided_eq_ok] at h ⊢
  obtain ⟨hipv4, hipv6, hmemo, hfrom, hto, -, hprotocol, htarget, -⟩ := h
  simp only [Update.apply]
  rw [Check.optional_or_eq_ok hipv4, Check.optional_or_eq_ok hipv6, Check.optional_or_eq_ok hmemo,
    Check.getD_eq_ok hfrom, Check.getD_eq_ok hto, Check.optional_or_eq_ok hprotocol,
    Check.optional_or_eq_ok htarget]
  constructor
  · rintro ⟨hipv4, hipv6, hmemo, hfrom, hto, horder, hrest⟩
    exact ⟨horder, hipv4, hipv6, hmemo, hfrom, hto, hrest⟩
  · rintro ⟨horder, hipv4, hipv6, hmemo, hfrom, hto, hrest⟩
    exact ⟨hipv4, hipv6, hmemo, hfrom, hto, horder, hrest⟩

end Aws

namespace HuaWei

variable {r : Rule} {u : Update}

/-- The update, without a priority of zero. -/
def Update.ranked (u : Update) : Update := { u with priority := u.priority.filter (· ≠ 0) }

theorem Update.ranked_eq_self (h : u.priority ≠ some 0) : u.ranked = u := by
  obtain ⟨memo, protocol, ethertype, remoteGroupId, remoteIp, port, action, priority⟩ := u
  cases priority with
  | none => rfl
  | some n =>
    have hn : n ≠ 0 := fun hn => h (congrArg some hn)
    simp [ranked, hn]

/-- Zero is no priority for an update. -/
theorem Update.priority_ne_zero_of_check (h : u.check = .ok ()) : u.priority ≠ some 0 := by
  intro hzero
  simp only [Update.check, Verdict.first_cons_eq_ok, hzero] at h
  obtain ⟨-, -, -, -, -, -, -, hpriority, -⟩ := h
  revert hpriority
  decide

/-- A rule may have the priority zero, so a priority of zero is as good as none. -/
theorem checkPriority_getD {n : Int64} {value : Option Int64}
    (h : n ≠ 0 → checkPriority n = .ok ()) :
    (value.getD n ≠ 0 → checkPriority (value.getD n) = .ok ()) ↔
      Check.optional (value.filter (· ≠ 0)) checkPriority = .ok () := by
  cases value with
  | none => exact iff_of_true h rfl
  | some m =>
    by_cases hm : m = 0
    · subst hm
      exact iff_of_true (fun hzero => absurd rfl hzero) rfl
    · have hfilter : (some m).filter (· ≠ 0) = some m := by simp [hm]
      rw [hfilter]
      exact forall_prop_of_true hm

theorem Rule.check_priority_eq_ok :
    (if r.priority = 0 then .fine else checkPriority r.priority) = Except.ok () ↔
      (r.priority ≠ 0 → checkPriority r.priority = .ok ()) := ite_eq_left_iff

theorem Update.check_apply_iff (h : r.check = .ok ()) :
    (u.apply r).check = .ok () ↔ u.ranked.check = .ok () := by
  simp only [Rule.check, Update.check, Update.ranked, Verdict.first_cons_eq_ok,
    Rule.check_priority_eq_ok] at h ⊢
  obtain ⟨hmemo, hprotocol, hethertype, hremote, hip, hport, haction, hpriority, -⟩ := h
  simp only [Update.apply]
  rw [Check.optional_or_eq_ok hmemo, Check.optional_or_eq_ok hprotocol,
    Check.optional_or_eq_ok hethertype, Check.optional_or_eq_ok hremote,
    Check.optional_or_eq_ok hip, Check.optional_or_eq_ok hport, Check.optional_or_eq_ok haction,
    checkPriority_getD hpriority]

/-- An update that names the priority zero is not fine, but what it makes of a rule is, if the
update is fine without its priority. -/
theorem Update.check_apply_of_zero (h : r.check = .ok ()) (hzero : u.priority = some 0) :
    u.check ≠ .ok () ∧
      ((u.apply r).check = .ok () ↔ Update.check { u with priority := none } = .ok ()) := by
  have hranked : u.ranked = { u with priority := none } := by
    rw [ranked, hzero]
    rfl
  exact ⟨fun hu => priority_ne_zero_of_check hu hzero, hranked ▸ check_apply_iff h⟩

end HuaWei

namespace Azure

variable {r : Rule} {u : Update}

theorem Update.check_apply_iff (h : r.check = .ok ()) :
    (u.apply r).check = .ok () ↔ u.check = .ok () := by
  simp only [Rule.check, Update.check, Update.apply, Verdict.first_cons_eq_ok] at h ⊢
  obtain ⟨hname, hmemo, hdest, hdests, hdestGroups, hdestPort, hdestPorts, -, hprotocol, hsource,
    hsources, hsourceGroups, hsourcePort, hsourcePorts, hpriority, -, haccess, -⟩ := h
  rw [Check.getD_eq_ok hname, Check.optional_or_eq_ok hmemo, Check.optional_or_eq_ok hdest,
    Check.getD_eq_ok hdests, Check.getD_eq_ok hdestGroups, Check.optional_or_eq_ok hdestPort,
    Check.getD_eq_ok hdestPorts, Check.required_and_iff (by decide), Check.getD_eq_ok hprotocol,
    Check.optional_or_eq_ok hsource, Check.getD_eq_ok hsources, Check.getD_eq_ok hsourceGroups,
    Check.optional_or_eq_ok hsourcePort, Check.getD_eq_ok hsourcePorts, Check.getD_eq_ok hpriority,
    Check.required_and_iff (by decide), Check.getD_eq_ok haccess]

end Azure

/-! ### Every cloud -/

namespace RuleCloud

variable {c : RuleCloud}

/-- The ports of a rule of AWS are in order, unless one of them stands for every port. -/
def PortsInOrder : (c : RuleCloud) → c.Rule → Prop
  | aws, r => r.fromPort = -1 ∨ r.toPort = -1 ∨ r.fromPort ≤ r.toPort
  | tcloud, _ => True
  | huawei, _ => True
  | azure, _ => True

/-- An update of HuaWei Cloud names the priority zero. -/
def NamesZero : (c : RuleCloud) → c.Update → Prop
  | huawei, u => u.priority = some 0
  | tcloud, _ => False
  | aws, _ => False
  | azure, _ => False

theorem portsInOrder_iff {r : Aws.Rule} : r.portsInOrder = true ↔ aws.PortsInOrder r := by
  simp only [Aws.Rule.portsInOrder, Bool.or_eq_true, decide_eq_true_eq, or_assoc]
  rfl

/-- **An update that is fine** leaves a fine rule if the ports are in order then. -/
theorem check_apply_of_check {r : c.Rule} {u : c.Update} (hr : Shape.check r = .ok ())
    (hu : Change.check u = .ok ()) :
    Shape.check (Change.apply u r) = .ok () ↔ c.PortsInOrder (Change.apply u r) := by
  cases c with
  | tcloud => exact iff_of_true ((TCloud.Update.check_apply_iff hr).2 hu) trivial
  | aws =>
    have h := Aws.Update.check_apply_iff (u := u) hr
    exact h.trans ((and_iff_left hu).trans portsInOrder_iff)
  | huawei =>
    have hranked : u.ranked = u :=
      HuaWei.Update.ranked_eq_self (HuaWei.Update.priority_ne_zero_of_check hu)
    exact iff_of_true ((HuaWei.Update.check_apply_iff hr).2 (hranked.symm ▸ hu)) trivial
  | azure => exact iff_of_true ((Azure.Update.check_apply_iff hr).2 hu) trivial

/-- **An update that leaves a fine rule** is fine, unless it names the priority zero. -/
theorem check_of_check_apply {r : c.Rule} {u : c.Update} (hr : Shape.check r = .ok ())
    (hzero : ¬ c.NamesZero u) (h : Shape.check (Change.apply u r) = .ok ()) :
    Change.check u = .ok () := by
  cases c with
  | tcloud => exact (TCloud.Update.check_apply_iff hr).1 h
  | aws => exact ((Aws.Update.check_apply_iff hr).1 h).2
  | huawei =>
    have hranked := (HuaWei.Update.check_apply_iff hr).1 h
    rwa [HuaWei.Update.ranked_eq_self hzero] at hranked
  | azure => exact (Azure.Update.check_apply_iff hr).1 h

/-- The update that has one field of another. -/
def only (b : Attribute c.Update) (u : c.Update) : c.Update := b.set (b.get u) Change.blank

/-- Each field of an update that is fine is fine by itself. -/
theorem check_only {u : c.Update} (hu : Change.check u = .ok ()) :
    ∀ b ∈ Change.attributes (U := c.Update), Change.check (only b u) = .ok () := by
  cases c with
  | tcloud =>
    simp only [Change.check, TCloud.Update.check, Verdict.first_cons_eq_ok] at hu
    simp [Change.attributes, TCloud.Update.attributes, only, Change.blank, Change.check,
      TCloud.Update.check, Verdict.first_cons_eq_ok, Check.optional_none, hu]
  | aws =>
    simp only [Change.check, Aws.Update.check, Verdict.first_cons_eq_ok] at hu
    simp [Change.attributes, Aws.Update.attributes, only, Change.blank, Change.check,
      Aws.Update.check, Verdict.first_cons_eq_ok, Check.optional_none, hu]
  | huawei =>
    simp only [Change.check, HuaWei.Update.check, Verdict.first_cons_eq_ok] at hu
    simp [Change.attributes, HuaWei.Update.attributes, only, Change.blank, Change.check,
      HuaWei.Update.check, Verdict.first_cons_eq_ok, Check.optional_none, hu]
  | azure =>
    simp only [Change.check, Azure.Update.check, Verdict.first_cons_eq_ok] at hu
    simp [Change.attributes, Azure.Update.attributes, only, Change.blank, Change.check,
      Azure.Update.check, Verdict.first_cons_eq_ok, Check.optional_none, hu]

/-- A rule that is fine. -/
def plain : (c : RuleCloud) → c.Rule
  | tcloud => { action := "ACCEPT" }
  | aws => { fromPort := -1, toPort := -1 }
  | huawei => {}
  | azure => { name := "web", protocol := "*", priority := 100, access := "Allow" }

theorem check_plain (c : RuleCloud) : Shape.check c.plain = .ok () := by
  cases c <;> decide

/-- One port alone does not put the ports out of order where both stood for every port. -/
theorem portsInOrder_only (c : RuleCloud) (u : c.Update) :
    ∀ b ∈ Change.attributes (U := c.Update), c.PortsInOrder (Change.apply (only b u) c.plain) := by
  cases c with
  | tcloud => exact fun _ _ => trivial
  | aws =>
    simp [Change.attributes, Aws.Update.attributes, only, Change.blank, Change.apply,
      Aws.Update.apply, plain, PortsInOrder]
  | huawei => exact fun _ _ => trivial
  | azure => exact fun _ _ => trivial

/-- **What an update that is fine has in a field** is in that field of some rule that is fine. -/
theorem exists_rule_of_check {u : c.Update} (hu : Change.check u = .ok ())
    {b : Attribute c.Update} (hb : b ∈ Change.attributes (U := c.Update)) :
    ∃ r : c.Rule, Shape.check r = .ok () ∧ Change.apply (only b u) r = r :=
  ⟨Change.apply (only b u) c.plain,
    (check_apply_of_check c.check_plain (check_only hu b hb)).2 (c.portsInOrder_only u b hb),
    apply_apply _ _⟩

end RuleCloud

/-- **Updates are checked like rules.**  Take a rule that is fine.  An update that is fine leaves a
rule that is fine, but for AWS only if the ports are in order then; and an update that leaves a rule
that is fine is fine itself, unless it is of HuaWei Cloud and names the priority zero.  Such an
update is never fine, while it leaves a fine rule if nothing else is wrong with it.  So whatever an
update that is fine has in one of its fields, there is a rule that is fine and has it too. -/
theorem updates_are_checked_like_rules :
    (∀ (c : RuleCloud) (r : c.Rule) (u : c.Update), Shape.check r = .ok () →
      (Change.check u = .ok () →
        (Shape.check (Change.apply u r) = .ok () ↔ c.PortsInOrder (Change.apply u r))) ∧
      (Shape.check (Change.apply u r) = .ok () → ¬ c.NamesZero u → Change.check u = .ok ())) ∧
    (∀ (r : HuaWei.Rule) (u : HuaWei.Update), r.check = .ok () → u.priority = some 0 →
      u.check ≠ .ok () ∧
        ((u.apply r).check = .ok () ↔ HuaWei.Update.check { u with priority := none } = .ok ())) ∧
    ∀ (c : RuleCloud) (u : c.Update), Change.check u = .ok () →
      ∀ b ∈ Change.attributes (U := c.Update),
        ∃ r : c.Rule, Shape.check r = .ok () ∧ Change.apply (RuleCloud.only b u) r = r :=
  ⟨fun _ _ _ hr => ⟨RuleCloud.check_apply_of_check hr,
      fun h hzero => RuleCloud.check_of_check_apply hr hzero h⟩,
    fun _ _ => HuaWei.Update.check_apply_of_zero,
    fun _ _ hu _ hb => RuleCloud.exists_rule_of_check hu hb⟩

/-- The first port can be moved by itself, but not behind the last one; and the priority zero is
fine in a rule only. -/
theorem updates_are_checked_like_rules_ports :
    let r : Aws.Rule := { fromPort := 22, toPort := 25 }
    let near : Aws.Update := { fromPort := some 23 }
    let far : Aws.Update := { fromPort := some 30 }
    let zero : HuaWei.Update := { priority := some 0 }
    r.check = .ok () ∧ near.check = .ok () ∧ (near.apply r).check = .ok () ∧
      far.check = .ok () ∧ (far.apply r).check ≠ .ok () ∧
      zero.check ≠ .ok () ∧ (zero.apply {}).check = .ok () ∧
      ∃ r' : Aws.Rule, r'.check = .ok () ∧ r'.fromPort = 30 := by
  intro r near far zero
  obtain ⟨hclouds, hzero, hvalues⟩ := updates_are_checked_like_rules
  have hr : Shape.check r = .ok () := by decide
  have hnear : Change.check near = .ok () := by decide
  have hfar : Change.check far = .ok () := by decide
  obtain ⟨hforth, hback⟩ := hclouds .aws r near hr
  have happly := (hforth hnear).2 (.inr (.inr (by decide)))
  have horder : ¬ RuleCloud.aws.PortsInOrder (far.apply r) := by
    rintro (h | h | h) <;> revert h <;> decide
  obtain ⟨hrefused, hzeroIff⟩ := hzero {} zero (by decide) rfl
  refine ⟨hr, hback happly id, happly, hfar, fun h => horder ?_, hrefused,
    hzeroIff.2 (by decide), ?_⟩
  · exact ((hclouds .aws r far hr).1 hfar).1 h
  · obtain ⟨r', hr', hsame⟩ := hvalues .aws far hfar Aws.Update.attributes[3] (List.getElem_mem _)
    exact ⟨r', hr', congrArg Aws.Rule.fromPort hsame.symm⟩

end SecurityGroups
