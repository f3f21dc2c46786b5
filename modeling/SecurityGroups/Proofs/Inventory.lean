/-
SecurityGroups/Proofs/Inventory.lean

What is true of the inventory after any jobs.

Every group is sound, every rule is sound, and every rule belongs to one
group, which it names correctly.  Each effect of a job keeps this
(`Store.Sound.effect`).  Insertions and updates are alike in that they keep
every group with its ownership, so a rule that had a group still has it
(`Store.Sound.of_call`).  A deletion is different: it takes groups out, but
the rules of these groups were taken out before, cloud by cloud
(`Store.Sound.deletedGroups`).
-/
import SecurityGroups.Proofs.Effects

namespace SecurityGroups

open Service

namespace Store

variable {config : Config} {s s' : Store} {t table : TableName} {row : Row}

/-! ### Rows that stay -/

/-- Both stores have the same groups as far as ownership goes. -/
def KeepsGroups (s s' : Store) : Prop :=
  ∀ row ∈ s.rows .groups, ∃ row' ∈ s'.rows .groups, TableName.groups.SameOwnership row row'

theorem keepsGroups_insert (config : Config) (s : Store) (table : TableName) (schema : Schema)
    (rows : List Row) : s.KeepsGroups (s.perform config (.insert table schema rows)).2 := by
  intro row hrow
  have hw := perform_cases config s (.insert table schema rows)
  generalize (s.perform config (.insert table schema rows)).2 = s' at hw
  cases hw with
  | nothing => exact ⟨row, hrow, .refl _ row⟩
  | insert table hfit => exact ⟨row, mem_rows_afterInsert.2 (.inl hrow), .refl _ row⟩

/-- An update keeps the groups, if it leaves their ownership alone. -/
theorem keepsGroups_update {schema : Schema} {filter : Filter} {values : Row}
    (hv : table = .groups → ∀ name ∈ TableName.groups.ownership, values.get? name = none) :
    s.KeepsGroups (s.perform config (.update table schema filter values)).2 := by
  intro row hrow
  have hw := perform_cases config s (.update table schema filter values)
  generalize (s.perform config (.update table schema filter values)).2 = s' at hw
  cases hw with
  | nothing => exact ⟨row, hrow, .refl _ row⟩
  | update table filter hfit hid =>
    refine ⟨_, mem_rows_afterUpdate.2 ⟨row, hrow, rfl⟩, ?_⟩
    split
    · rename_i hwritten
      -- the time of the update is not in a column of ownership either
      intro name hname
      refine get?_revised_of_ne (hv hwritten.1.symm name hname) ?_
      rintro rfl
      exact TableName.groups.updated_not_mem_ownership hname
    · exact .refl _ row

/-- A rule keeps its group. -/
theorem Owned.of_keepsGroups {c : RuleCloud} {e : RuleEntry c.Rule} (h : s.Owned c e)
    (hkeeps : s.KeepsGroups s')
    (hgroups : ∀ row ∈ s'.rows .groups, ∃ g : Group, row = Entity.toRow g ∧ g.Sound) :
    s'.Owned c e := by
  obtain ⟨g, hg, howns⟩ := h
  obtain ⟨row, hrow, hsame⟩ := hkeeps _ hg
  obtain ⟨g', rfl, -⟩ := hgroups row hrow
  exact ⟨g', hrow, howns.of_sameOwnership hsame⟩

namespace Sound

/-! ### Insertions and updates -/

/-- **A call that keeps the groups leaves the store sound**, if what it writes is sound. -/
theorem of_call {c : Call} (hkeeps : s.KeepsGroups (s.perform config c).2)
    (hgroups : ∀ row, Origin config.supply s (s.perform config c).2 c .groups row →
      ∃ g : Group, row = Entity.toRow g ∧ g.Sound)
    (hentries : ∀ (d : RuleCloud) (row : Row),
      Origin config.supply s (s.perform config c).2 c d.table row →
        ∃ e : RuleEntry d.Rule, row = Entity.toRow e ∧ e.Sound ∧ s.Owned d e) :
    (s.perform config c).2.Sound where
  groups := fun row hrow => hgroups row (perform_origin hrow)
  entries := fun d row hrow => by
    obtain ⟨e, rfl, he, howned⟩ := hentries d row (perform_origin hrow)
    exact ⟨e, rfl, he,
      howned.of_keepsGroups hkeeps fun row hrow => hgroups row (perform_origin hrow)⟩

theorem newGroup (h : s.Sound) {g : Group} (hg : g.Sound) :
    (s.perform config (.insert (Entity.table Group) (Entity.schema Group)
      [Entity.toRow g])).2.Sound := by
  refine .of_call (keepsGroups_insert config s _ _ _) ?_ ?_
  · intro row horigin
    cases horigin with
    | same hold => exact h.groups row hold
    | stored hc hgiven =>
      obtain ⟨-, rfl, rfl⟩ := Call.insert.inj hc
      rw [List.mem_singleton.1 hgiven, LawfulEntity.stored_toRow]
      exact ⟨_, rfl, hg.stamp _ _⟩
    | revised hc => cases hc
  · intro d row horigin
    cases horigin with
    | same hold => exact h.entries d row hold
    | stored hc => exact absurd (Call.insert.inj hc).1.symm d.table_ne_groups
    | revised hc => cases hc

theorem changedGroups (h : s.Sound) (filter : Filter) {u : Group} (hu : u.Apt) :
    (s.perform config (.update (Entity.table Group) (Entity.schema Group) filter
      (Entity.updateRow u))).2.Sound := by
  refine .of_call (keepsGroups_update fun _ _ hname => Group.ownership_updateRow u hname) ?_ ?_
  · intro row horigin
    cases horigin with
    | same hold => exact h.groups row hold
    | stored hc => cases hc
    | revised hc hfit hid hold =>
      obtain ⟨-, rfl, -, rfl⟩ := Call.update.inj hc
      obtain ⟨g, rfl, hg⟩ := h.groups _ hold
      rw [LawfulEntity.revised_toRow]
      exact ⟨_, rfl, hg.amend hu _⟩
  · intro d row horigin
    cases horigin with
    | same hold => exact h.entries d row hold
    | stored hc => cases hc
    | revised hc => exact absurd (Call.update.inj hc).1.symm d.table_ne_groups

theorem newEntries (h : s.Sound) (c : RuleCloud) {owner : Group} {es : List (RuleEntry c.Rule)}
    (howner : Entity.toRow owner ∈ s.rows .groups)
    (hes : ∀ e ∈ es, e.Sound ∧ owner.Owns c e) :
    (s.perform config (.insert (Entity.table (RuleEntry c.Rule)) (Entity.schema (RuleEntry c.Rule))
      (es.map Entity.toRow))).2.Sound := by
  refine .of_call (keepsGroups_insert config s _ _ _) ?_ ?_
  · intro row horigin
    cases horigin with
    | same hold => exact h.groups row hold
    | stored hc => exact absurd (Call.insert.inj hc).1 c.table_ne_groups
    | revised hc => cases hc
  · intro d row horigin
    cases horigin with
    | same hold => exact h.entries d row hold
    | stored hc hgiven =>
      -- no two clouds have one table
      obtain ⟨htable, rfl, rfl⟩ := Call.insert.inj hc
      obtain rfl : c = d := RuleCloud.table_inj htable
      obtain ⟨e, he, rfl⟩ := List.mem_map.1 hgiven
      obtain ⟨hsound, howns⟩ := hes e he
      rw [LawfulEntity.stored_toRow]
      exact ⟨_, rfl, hsound.stamp _ _, owner, howner, howns.stamp _ _⟩
    | revised hc => cases hc

theorem changedEntries (h : s.Sound) (c : RuleCloud) (filter : Filter) {u : RuleEntry c.Rule}
    (hu : Entity.updateCheck u = .ok ()) :
    (s.perform config (.update (Entity.table (RuleEntry c.Rule)) (Entity.schema (RuleEntry c.Rule))
      filter (Entity.updateRow u))).2.Sound := by
  refine .of_call (keepsGroups_update fun heq => absurd heq c.table_ne_groups) ?_ ?_
  · intro row horigin
    cases horigin with
    | same hold => exact h.groups row hold
    | stored hc => cases hc
    | revised hc => exact absurd (Call.update.inj hc).1 c.table_ne_groups
  · intro d row horigin
    cases horigin with
    | same hold => exact h.entries d row hold
    | stored hc => cases hc
    | revised hc hfit hid hold =>
      obtain ⟨htable, rfl, -, rfl⟩ := Call.update.inj hc
      obtain rfl : c = d := RuleCloud.table_inj htable
      obtain ⟨e, rfl, he, owner, howner, howns⟩ := h.entries c _ hold
      rw [LawfulEntity.revised_toRow]
      exact ⟨_, rfl, he.amend hu _, owner, howner, howns.amend _ _⟩

/-! ### Deletions -/

/-- **Groups are deleted after their rules**, so no rule loses its group. -/
theorem deletedGroups (h : s.Sound) (hd : s.Distinct config.supply) {ids : List String}
    {groups : List Group} (hgroups : Required (· = s) ids groups)
    (hcleared : s.Cleared groups Vendor.all s') :
    (s'.afterDelete .groups (oneOfTexts "id" ids)).Sound where
  groups := fun row hrow => h.groups row (hcleared.rows _ row (mem_rows_afterDelete.1 hrow).1)
  entries := fun c row hrow => by
    have hleft := (mem_rows_afterDelete.1 hrow).1
    obtain ⟨e, rfl, he, g, hg, howns⟩ := h.entries c row (hcleared.rows _ row hleft)
    refine ⟨e, rfl, he, g, mem_rows_afterDelete.2 ⟨hcleared.kept ▸ hg, fun _ => ?_⟩, howns⟩
    rw [passes_oneOfTexts_of_text (Group.get?_id_toRow g), decide_eq_false_iff_not]
    -- a group that is deleted was loaded, and its rules were taken out
    intro hid
    have hmem := hgroups.mem h hd hg hid
    have hall : c.vendor ∈ Vendor.all := by cases c <;> decide
    refine hcleared.cleared c hall g hmem howns.vendor _ hleft ?_
    rw [RuleEntry.get?_groupId_toRow, howns.id]

/-! ### Jobs -/

/-- **Every effect of a job keeps a store sound.** -/
theorem effect (h : s.Sound) (hd : s.Distinct config.supply) (heffect : s.Effect config s') :
    s'.Sound := by
  cases heffect with
  | nothing => exact h
  | newGroup hg => exact h.newGroup hg
  | changedGroups filter hu => exact h.changedGroups filter hu
  | deletedGroups hgroups hcleared => exact h.deletedGroups hd hgroups hcleared
  | newEntries c howner hes => exact h.newEntries c howner hes
  | changedEntries c filter hu => exact h.changedEntries c filter hu

end Sound

/-- After any jobs on the empty store, the store is sound and its ids are distinct. -/
theorem sound_play (hs : Function.Injective config.supply.id) (jobs : List Job) :
    (play config jobs .empty).Sound ∧ (play config jobs .empty).Distinct config.supply := by
  refine play_induction (I := fun s => s.Sound ∧ s.Distinct config.supply) ?_ jobs
    ⟨sound_empty, distinct_empty _⟩
  rintro s job ⟨hsound, hd⟩
  exact ⟨hsound.effect hd (job.run_effect hsound hd).1, (job.evolves_run config s).distinct hs hd⟩

/-- Where ids are distinct, exactly one row has the id of a row. -/
theorem Distinct.countP_id {supply : Supply} (hd : s.Distinct supply) (hrow : row ∈ s.rows t)
    {id : String} (hid : row.get? "id" = some (.string id)) :
    (s.rows t).countP (fun r => (r.cell "id").string? = some id) = 1 := by
  have hsame : ∀ r ∈ s.rows t, (r.cell "id").string? = some id ↔ r = row := by
    intro r hr
    rw [Cell.string?_eq_some_iff, ← Row.get?_eq_some_iff (by simp)]
    constructor
    · intro hrid
      exact hd.eq_of_id hr hrow (hrid.trans hid.symm)
    · rintro rfl
      exact hid
  have hnodup : ((s.rows t).filter fun r => (r.cell "id").string? = some id).Nodup :=
    List.filter_sublist.nodup (List.Nodup.of_map _ (hd.nodup t))
  have hperm : ((s.rows t).filter fun r => (r.cell "id").string? = some id).Perm [row] := by
    refine (List.perm_ext_iff_of_nodup hnodup (List.nodup_singleton row)).2 ?_
    intro r
    rw [List.mem_filter, List.mem_singleton, decide_eq_true_iff]
    constructor
    · rintro ⟨hr, hrid⟩
      exact (hsame r hr).1 hrid
    · rintro rfl
      exact ⟨hrow, (hsame r hrow).2 rfl⟩
  rw [List.countP_eq_length_filter, hperm.length_eq]
  rfl

end Store

/-! ### After any jobs -/

/-- **The inventory is sound after any jobs**, whatever each of them answers.  Every row of the
groups is read as a sound group.  Every row of the rules of a cloud is read as a sound rule, whose
group is the only one of its id; that group belongs to the cloud, and the rule names its id at the
cloud, its account and its region. -/
theorem inventory_is_sound (config : Store.Config) (hs : Function.Injective config.supply.id)
    (jobs : List Job) :
    let s := play config jobs .empty
    (∀ row ∈ s.rows .groups, ∃ g : Group, Entity.ofRow row = .ok g ∧ g.Sound) ∧
    ∀ c : RuleCloud, ∀ row ∈ s.rows c.table,
      ∃ e : RuleEntry c.Rule, Entity.ofRow row = .ok e ∧ e.Sound ∧
        (s.rows .groups).countP (fun owner => (owner.cell "id").string? = some e.groupId) = 1 ∧
        ∃ owner ∈ s.rows .groups, ∃ g : Group, Entity.ofRow owner = .ok g ∧ g.Owns c e := by
  intro s
  obtain ⟨hsound, hd⟩ : s.Sound ∧ s.Distinct config.supply := Store.sound_play hs jobs
  constructor
  · intro row hrow
    obtain ⟨g, rfl, hg⟩ := hsound.groups row hrow
    exact ⟨g, LawfulEntity.ofRow_toRow g, hg⟩
  · intro c row hrow
    obtain ⟨e, rfl, he, g, hg, howns⟩ := hsound.entries c row hrow
    -- a direction that the rule declared is not read back, and is not checked
    refine ⟨_, RuleEntry.ofRow_toRow e, ⟨he.direction, ?_⟩, ?_, _, hg, g,
      LawfulEntity.ofRow_toRow g, ⟨howns.vendor, howns.id, howns.cloudId, howns.accountId,
        howns.region⟩⟩
    · exact (LawfulShape.check_undeclared e.rule).trans he.rule
    · refine hd.countP_id hg ?_
      rw [Group.get?_id_toRow, howns.id]

/-- A job that creates a rule in the group that `Job.creation` has created. -/
def Job.ruleCreation : Job where
  limit := 500
  user := "ann"
  operation := .createRules "|" (.aws { ingress := [{ fromPort := 22, toPort := 22 }] })

/-- The rule of a group that was created before belongs to that group. -/
theorem owner_of_created_rule :
    let s := play ⟨Supply.strokes, 500⟩ [.creation, .ruleCreation] .empty
    (s.rows .awsRules).length = 1 ∧ ∀ row ∈ s.rows .awsRules,
      ∃ e : RuleEntry Aws.Rule, Entity.ofRow row = .ok e ∧
        ∃ owner ∈ s.rows .groups, ∃ g : Group, Entity.ofRow owner = .ok g ∧
          g.Owns .aws e := by
  refine ⟨by decide +kernel, ?_⟩
  intro row hrow
  obtain ⟨e, he, -, -, howner⟩ := (inventory_is_sound ⟨Supply.strokes, 500⟩
    Supply.injective_strokes [.creation, .ruleCreation]).2 .aws row hrow
  exact ⟨e, he, howner⟩

end SecurityGroups
