/-
SecurityGroups/Proofs/EntryChecks.lean

When an entry of a rule may be written.

New entries and updates are checked for the same things (`first_checks_eq_ok`),
most of which are about the owner: an update has none, and a new entry takes it
over from a group that is stored.  Neither can fail there, so whether an entry
may be written is a matter of the rule, the direction and the user
(`insertCheck_newEntry`, `updateCheck_revisedEntry`).
-/
import SecurityGroups.Proofs.Reachability

namespace SecurityGroups

open Service

theorem Verdict.first_append_eq_ok {vs ws : List Verdict} :
    Verdict.first (vs ++ ws) = .ok () ↔ Verdict.first vs = .ok () ∧ Verdict.first ws = .ok () := by
  simp only [Verdict.first_eq_ok, List.forall_mem_append]

/-- The other direction. -/
def Direction.opposite : Direction → Direction
  | .egress => .ingress
  | .ingress => .egress

/-- What is declared agrees with a direction unless it is the other one. -/
theorem Direction.agrees_iff {declared : Option Direction} {direction : Direction} :
    (∀ d, declared = some d → d = direction) ↔ declared ≠ some direction.opposite := by
  cases declared with
  | none => simp
  | some d => cases d <;> cases direction <;> simp [opposite]

theorem one_le_length_iff {text : String} : 1 ≤ text.length ↔ text ≠ "" := by
  rw [Nat.one_le_iff_ne_zero, ne_eq, ne_eq, String.length_eq_zero_iff]

namespace RuleEntry

variable {R : Type}

/-- What is said of the owner is within its bounds, and what the store stamps is left to it. -/
structure Placeable (e : RuleEntry R) : Prop where
  id : e.id = ""
  cloudId : e.cloudId.length ≤ cloudIdMaxLength
  groupId : e.groupId.length ≤ idMaxLength
  cloudGroupId : e.cloudGroupId.length ≤ cloudIdMaxLength
  accountId : e.accountId.length ≤ idMaxLength
  region : e.region.length ≤ regionMaxLength
  createdAt : e.audit.createdAt = none
  updatedAt : e.audit.updatedAt = none

variable [Shape R]

theorem checkDirection_eq_ok {e : RuleEntry R} : e.checkDirection = .ok () ↔
    ∀ declared direction, Shape.declared e.rule = some declared → e.direction = some direction →
      declared = direction := by
  rw [checkDirection]
  cases hdeclared : Shape.declared e.rule with
  | none => simp
  | some declared =>
    cases hdirection : e.direction with
    | none => simp
    | some direction => simp [Verdict.provided_eq_ok]

/-- The checks that new entries and updates have in common. -/
theorem first_checks_eq_ok {e : RuleEntry R} : Verdict.first e.checks = .ok () ↔
    e.Placeable ∧ Shape.check e.rule = .ok () ∧ e.checkDirection = .ok () ∧
      e.audit.creator.length ≤ Naming.userMaxLength ∧
      e.audit.reviser.length ≤ Naming.userMaxLength := by
  simp only [checks, Audit.checks, List.cons_append, List.nil_append, Verdict.first_cons_eq_ok,
    Verdict.first_nil, Check.mustBeEmpty, Check.maxLength, Check.absent, Verdict.provided_eq_ok,
    decide_eq_true_eq, Option.isNone_iff_eq_none, and_true]
  constructor
  · rintro ⟨hid, hcloudId, hgroupId, hcloudGroupId, haccountId, hregion, hrule, hdirection, hcreator,
      hreviser, hcreatedAt, hupdatedAt⟩
    exact ⟨⟨hid, hcloudId, hgroupId, hcloudGroupId, haccountId, hregion, hcreatedAt, hupdatedAt⟩,
      hrule, hdirection, hcreator, hreviser⟩
  · rintro ⟨h, hrule, hdirection, hcreator, hreviser⟩
    exact ⟨h.id, h.cloudId, h.groupId, h.cloudGroupId, h.accountId, h.region, hrule, hdirection,
      hcreator, hreviser, h.createdAt, h.updatedAt⟩

/-- **What an entry takes over from its group never fails a check**, so the check of a new entry is
about the rule, its direction and the user. -/
theorem insertCheck_newEntry {owner : Group} (hid : owner.id ≠ "")
    (hlength : owner.id.length ≤ idMaxLength) (haccount : owner.accountId ≠ "")
    (hlend : owner.Lendable) {user : String} {direction : Direction} {rule : R} :
    Entity.insertCheck (newEntry user owner direction rule) = .ok () ↔
      Shape.check rule = .ok () ∧ Shape.declared rule ≠ some direction.opposite ∧
        1 ≤ user.length ∧ user.length ≤ Naming.userMaxLength := by
  have hplaceable : (newEntry user owner direction rule).Placeable :=
    ⟨rfl, Nat.zero_le _, hlength, hlend.cloudId, hlend.accountId, hlend.region, rfl, rfl⟩
  have hdirection : (newEntry user owner direction rule).checkDirection = .ok () ↔
      Shape.declared rule ≠ some direction.opposite := by
    rw [checkDirection_eq_ok, ← Direction.agrees_iff]
    simp [newEntry]
  have howner : Verdict.first
      [.provided (owner.id ≠ "") (.invariant "security group id can not be empty"),
        .provided (owner.accountId ≠ "") (.invariant "account id can not be empty"),
        Check.requiredSome "type" (some direction),
        .provided (user ≠ "") (.invariant "creator can not be empty")] = .ok () ↔ user ≠ "" := by
    simp [Verdict.first_cons_eq_ok, Verdict.provided_eq_ok, Check.requiredSome, hid, haccount]
  show Verdict.first ([_, _, _, _] ++ (newEntry user owner direction rule).checks) = .ok () ↔ _
  rw [Verdict.first_append_eq_ok, first_checks_eq_ok, hdirection, one_le_length_iff]
  constructor
  · rintro ⟨h, -, hrule, hdeclared, hlong, -⟩
    exact ⟨hrule, hdeclared, howner.1 h, hlong⟩
  · rintro ⟨hrule, hdeclared, huser, hlong⟩
    exact ⟨howner.2 huser, hplaceable, hrule, hdeclared, hlong, hlong⟩

/-- **The check of an update is about the rule and the user**, if the rule declares no direction. -/
theorem updateCheck_revisedEntry {user : String} {direction : Option Direction} {rule : R}
    (hdeclared : Shape.declared rule = none) :
    Entity.updateCheck (revisedEntry user direction rule) = .ok () ↔
      Shape.check rule = .ok () ∧ 1 ≤ user.length ∧ user.length ≤ Naming.userMaxLength := by
  have hplaceable : (revisedEntry user direction rule).Placeable := by
    constructor <;> first | rfl | exact Nat.zero_le _
  have hdirection : (revisedEntry user direction rule).checkDirection = .ok () := by
    rw [checkDirection_eq_ok]
    intro declared _ h
    rw [show Shape.declared (revisedEntry user direction rule).rule = none from hdeclared] at h
    cases h
  have hrevises : Verdict.first
      [.provided ("" = "") (.invariant "creator can not update"),
        .provided (user ≠ "") (.invariant "reviser can not be empty")] = .ok () ↔ user ≠ "" := by
    simp [Verdict.first_cons_eq_ok, Verdict.provided_eq_ok]
  show Verdict.first ((revisedEntry user direction rule).checks ++ [_, _]) = .ok () ↔ _
  rw [Verdict.first_append_eq_ok, first_checks_eq_ok, one_le_length_iff]
  constructor
  · rintro ⟨⟨-, hrule, -, -, hlong⟩, h⟩
    exact ⟨hrule, hrevises.1 h, hlong⟩
  · rintro ⟨hrule, huser, hlong⟩
    exact ⟨⟨hplaceable, hrule, hdirection, Nat.zero_le _, hlong⟩, hrevises.2 huser⟩

end RuleEntry

end SecurityGroups
