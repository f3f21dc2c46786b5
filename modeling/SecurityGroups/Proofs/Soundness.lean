/-
SecurityGroups/Proofs/Soundness.lean

What is true of every group and of every rule that is stored.

A group is sound if it has what new groups are checked for, and an update is
apt if it has what updates are checked for.  Apt updates keep groups sound,
although they leave most columns out, because a column that is left out keeps
what it had (`Group.Sound.amend`).
-/
import SecurityGroups.Proofs.Entities
import SecurityGroups.Proofs.Ownership

namespace SecurityGroups

/-! ### Groups -/

namespace Group

/-- What is true of every group that is stored. -/
structure Sound (g : Group) : Prop where
  vendor : ∃ v ∈ [Vendor.tcloud, .aws, .azure, .huawei], g.vendor = some v
  cloudId : g.cloudId ≠ ""
  accountId : g.accountId ≠ ""
  creator : g.audit.creator ≠ ""
  reviser : g.audit.reviser ≠ ""
  name : Naming.groupName g.name = .ok ()
  business : g.business = unassigned ∨ 0 < g.business

/-- What is true of every update of a group. -/
structure Apt (u : Group) : Prop where
  name : u.name = "" ∨ Naming.groupName u.name = .ok ()
  business : u.business = 0 ∨ 0 < u.business
  reviser : u.audit.reviser ≠ ""

variable {g u : Group}

theorem Sound.stamp (h : g.Sound) (id : String) (now : Instant) : (Group.stamp id now g).Sound :=
  ⟨h.vendor, h.cloudId, h.accountId, h.creator, h.reviser, h.name, h.business⟩

/-- **An apt update keeps a group sound.** -/
theorem Sound.amend (h : g.Sound) (hu : u.Apt) (now : Instant) : (Group.amend now u g).Sound where
  vendor := h.vendor
  cloudId := h.cloudId
  accountId := h.accountId
  creator := h.creator
  reviser := hu.reviser
  name := by
    show Naming.groupName (if u.name = "" then g.name else u.name) = .ok ()
    split
    · exact h.name
    · exact hu.name.resolve_left ‹_›
  business := by
    show (if u.business = 0 then g.business else u.business) = unassigned ∨
      0 < (if u.business = 0 then g.business else u.business)
    split
    · exact h.business
    · exact .inr (hu.business.resolve_left ‹_›)

theorem unassigned_or_pos {business : Int64} (h : -1 ≤ business) (hne : business ≠ 0) :
    business = unassigned ∨ 0 < business := by
  rw [Int64.le_iff_toInt_le] at h
  rw [← Int64.toInt_inj, Int64.lt_iff_toInt_lt, unassigned]
  have hne' : business.toInt ≠ 0 := fun hz => hne (Int64.toInt_inj.1 hz)
  have hone : (-1 : Int64).toInt = -1 := by decide
  have hzero : (0 : Int64).toInt = 0 := by decide
  omega

/-- A new group that passes its check is sound, if it names its creator as its reviser. -/
theorem sound_of_insertCheck (h : Entity.insertCheck g = .ok ())
    (hreviser : g.audit.reviser = g.audit.creator) : g.Sound := by
  have hchecks : Verdict.first ([g.checkVendor,
    .provided (g.cloudId ≠ "") (.invariant "cloud id can not be empty"),
    .provided (g.accountId ≠ "") (.invariant "account id can not be empty"),
    .provided (g.name ≠ "") (.invariant "name can not be empty"),
    g.audit.hasCreator,
    .provided (g.business ≠ 0) (.invariant "bk_biz_id should be -1 or a business id")]
    ++ g.checks) = .ok () := h
  -- the checks of a new group come first, and then those of each column
  obtain ⟨hvendor, h⟩ := Verdict.first_cons_eq_ok.1 hchecks
  obtain ⟨hcloudId, h⟩ := Verdict.first_cons_eq_ok.1 h
  obtain ⟨haccountId, h⟩ := Verdict.first_cons_eq_ok.1 h
  obtain ⟨hname, h⟩ := Verdict.first_cons_eq_ok.1 h
  obtain ⟨hcreator, h⟩ := Verdict.first_cons_eq_ok.1 h
  obtain ⟨hbusiness, h⟩ := Verdict.first_cons_eq_ok.1 h
  obtain ⟨-, h⟩ := Verdict.first_cons_eq_ok.1 h
  obtain ⟨-, h⟩ := Verdict.first_cons_eq_ok.1 h
  obtain ⟨hrange, h⟩ := Verdict.first_cons_eq_ok.1 h
  obtain ⟨-, h⟩ := Verdict.first_cons_eq_ok.1 h
  obtain ⟨hgroupName, -⟩ := Verdict.first_cons_eq_ok.1 h
  simp only [Audit.hasCreator, Check.range, Verdict.provided_eq_ok, decide_eq_true_eq,
    Bool.and_eq_true] at hcloudId haccountId hname hcreator hbusiness hrange
  rw [if_neg hname] at hgroupName
  refine ⟨?_, hcloudId, haccountId, hcreator, hreviser ▸ hcreator, hgroupName,
    unassigned_or_pos hrange.1 hbusiness⟩
  rw [checkVendor] at hvendor
  split at hvendor
  · cases hvendor
  · rename_i v hv
    refine ⟨v, ?_, hv⟩
    have hkeeps := Verdict.provided_eq_ok.1 hvendor
    revert hkeeps
    cases v <;> decide

theorem reviser_of_updateCheck (h : Entity.updateCheck u = .ok ()) : u.audit.reviser ≠ "" := by
  have hreviser : Verdict.provided (u.audit.reviser ≠ "") (.invariant "reviser can not be empty") =
      .ok () := Verdict.first_eq_ok.1 h _ (by simp [Audit.revises])
  simpa using Verdict.provided_eq_ok.1 hreviser

/-- An update that passes its check and names no business is apt. -/
theorem apt_of_updateCheck (h : Entity.updateCheck u = .ok ()) (hbusiness : u.business = 0) :
    u.Apt := by
  have hname : (if u.name = "" then .fine else Naming.groupName u.name) = .ok () :=
    Verdict.first_eq_ok.1 h _ (by simp [checks])
  refine ⟨?_, .inl hbusiness, reviser_of_updateCheck h⟩
  by_cases hempty : u.name = ""
  · exact .inl hempty
  · rw [if_neg hempty] at hname
    exact .inr hname

/-- What an assignment writes is apt, if one group at least may be assigned. -/
theorem apt_assigned {user : String} {business : Int64} (hpos : 0 < business)
    (h : Service.checkAssignable user business g = .ok ()) :
    (Service.assigned user business).Apt := by
  have hcheck := (Verdict.first_cons_eq_ok.1 (Verdict.first_cons_eq_ok.1 h).2).1
  have hreviser := reviser_of_updateCheck hcheck
  exact ⟨.inl rfl, .inr hpos, hreviser⟩

end Group

/-! ### Rules -/

namespace RuleEntry

variable {R : Type} [Shape R] {e u : RuleEntry R}

/-- What is true of every rule that is stored. -/
structure Sound (e : RuleEntry R) : Prop where
  direction : e.direction.isSome = true
  rule : Shape.check e.rule = .ok ()

theorem Sound.stamp (h : e.Sound) (id : String) (now : Instant) :
    (RuleEntry.stamp id now e).Sound := ⟨h.direction, h.rule⟩

theorem Sound.amend (h : e.Sound) (hu : Entity.updateCheck u = .ok ()) (now : Instant) :
    (RuleEntry.amend now u e).Sound := by
  have hchecks : Verdict.first (u.checks ++ u.audit.revises) = .ok () := hu
  refine ⟨h.direction, ?_⟩
  exact Verdict.first_eq_ok.1 hchecks _ (by simp [checks, RuleEntry.amend])

theorem sound_of_insertCheck (h : Entity.insertCheck e = .ok ()) : e.Sound := by
  have hchecks : Verdict.first
    ([.provided (e.groupId ≠ "") (.invariant "security group id can not be empty"),
      .provided (e.accountId ≠ "") (.invariant "account id can not be empty"),
      Check.requiredSome "type" e.direction,
      e.audit.hasCreator] ++ e.checks) = .ok () := h
  have hall := Verdict.first_eq_ok.1 hchecks
  have hdirection : Check.requiredSome "type" e.direction = .ok () := hall _ (by simp)
  exact ⟨Verdict.provided_eq_ok.1 hdirection, hall _ (by simp [checks])⟩

end RuleEntry

/-! ### Stores -/

/-- The group is the one that a rule of a cloud belongs to. -/
structure Group.Owns (g : Group) (c : RuleCloud) (e : RuleEntry c.Rule) : Prop where
  vendor : g.vendor = some c.vendor
  id : g.id = e.groupId
  cloudId : g.cloudId = e.cloudGroupId
  accountId : g.accountId = e.accountId
  region : g.region = e.region

theorem Group.Owns.stamp {g : Group} {c : RuleCloud} {e : RuleEntry c.Rule} (h : g.Owns c e)
    (id : String) (now : Instant) : g.Owns c (RuleEntry.stamp id now e) :=
  ⟨h.vendor, h.id, h.cloudId, h.accountId, h.region⟩

theorem Group.Owns.amend {g : Group} {c : RuleCloud} {e : RuleEntry c.Rule} (h : g.Owns c e)
    (now : Instant) (u : RuleEntry c.Rule) : g.Owns c (RuleEntry.amend now u e) :=
  ⟨h.vendor, h.id, h.cloudId, h.accountId, h.region⟩

/-- A rule of a cloud belongs to a group that is stored. -/
def Store.Owned (s : Store) (c : RuleCloud) (e : RuleEntry c.Rule) : Prop :=
  ∃ g : Group, Entity.toRow g ∈ s.rows .groups ∧ g.Owns c e

/-- Every row is that of a sound group, or of a sound rule that belongs to a group. -/
structure Store.Sound (s : Store) : Prop where
  groups : ∀ row ∈ s.rows .groups, ∃ g : Group, row = Entity.toRow g ∧ g.Sound
  entries : ∀ c : RuleCloud, ∀ row ∈ s.rows c.table,
    ∃ e : RuleEntry c.Rule, row = Entity.toRow e ∧ e.Sound ∧ s.Owned c e

theorem Store.sound_empty : Store.empty.Sound where
  groups := fun _ h => by cases h
  entries := fun _ _ h => by cases h

/-- A group that was read from some store is one that the store has, if its rows are those of
groups. -/
theorem ReadFrom.exists_toRow_mem {G : Store → Prop} {g : Group} (h : ReadFrom G g)
    (hG : ∀ s, G s → ∀ row ∈ s.rows .groups, ∃ g : Group, row = Entity.toRow g) :
    ∃ s, G s ∧ Entity.toRow g ∈ s.rows .groups := by
  obtain ⟨s, hs, row, hrow, -, hread⟩ := h
  obtain ⟨g', rfl⟩ := hG s hs row hrow
  have hof : Entity.ofRow (Entity.toRow g') = .ok g' := LawfulEntity.ofRow_toRow g'
  rw [hof] at hread
  cases hread
  exact ⟨s, hs, hrow⟩

/-- A group that was read from a sound store is one that the store has. -/
theorem ReadFrom.toRow_mem {s : Store} (hsound : s.Sound) {g : Group} (h : ReadFrom (· = s) g) :
    Entity.toRow g ∈ s.rows .groups := by
  obtain ⟨_, rfl, hmem⟩ := h.exists_toRow_mem fun _ hs row hrow =>
    (hsound.groups row (hs ▸ hrow)).imp fun _ h => h.1
  exact hmem

/-- What a group has in a column of ownership is told by its row. -/
theorem Group.get_eq_of_sameOwnership {g g' : Group}
    (hsame : TableName.groups.SameOwnership (Entity.toRow g) (Entity.toRow g')) :
    ∀ a ∈ Group.ownAttributes, a.name ∈ TableName.groups.ownership → a.get g' = a.get g := by
  -- a cell that has stayed the same is read as the same value
  intro a ha hname
  have hmem : a ∈ Entity.attributes (α := Group) := List.mem_append_left _ ha
  have hcells := hsame a.name hname
  rw [LawfulEntity.get?_toRow g hmem, LawfulEntity.get?_toRow g' hmem] at hcells
  have hread := congrArg a.kind.ofCell (Option.some.inj hcells)
  rw [Kind.ofCell_toCell, Kind.ofCell_toCell] at hread
  exact Except.ok.inj hread

theorem Group.vendor_eq_of_sameOwnership {g g' : Group}
    (hsame : TableName.groups.SameOwnership (Entity.toRow g) (Entity.toRow g')) :
    g'.vendor = g.vendor := by
  have hget := Group.get_eq_of_sameOwnership hsame
  simp only [Group.ownAttributes, List.forall_mem_cons] at hget
  exact hget.2.1 (by decide)

/-- Groups whose rows have the same ownership own the same rules. -/
theorem Group.Owns.of_sameOwnership {g g' : Group} {c : RuleCloud} {e : RuleEntry c.Rule}
    (h : g.Owns c e)
    (hsame : TableName.groups.SameOwnership (Entity.toRow g) (Entity.toRow g')) : g'.Owns c e := by
  have hget := Group.get_eq_of_sameOwnership hsame
  simp only [Group.ownAttributes, List.forall_mem_cons] at hget
  obtain ⟨hid, hvendor, hcloudId, -, hregion, -, -, haccountId, -⟩ := hget
  exact ⟨(hvendor (by decide)).trans h.vendor, (hid (by decide)).trans h.id,
    (hcloudId (by decide)).trans h.cloudId, (haccountId (by decide)).trans h.accountId,
    (hregion (by decide)).trans h.region⟩

end SecurityGroups
