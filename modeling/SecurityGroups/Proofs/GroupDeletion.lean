/-
SecurityGroups/Proofs/GroupDeletion.lean

What a deletion of groups does.

The rules of the groups are deleted cloud by cloud, in the clouds of the groups
that were loaded and in no others (`run_deleteRules`); the tour of the clouds
does not matter (`run_deleteRules_of_same_clouds`).  This reaches every rule of
the groups, because in a reachable store a rule stands in the table of the cloud
of its group (`Store.rows_withoutRules_of_attributed`).  So a deletion that is
accepted leaves the store without the groups and without their rules,

    (deleteGroups max d tour).run config s = (.ok n, s.without d.ids),

where `n` is the number of distinct ids, and all other rows stay as they are.
-/
import SecurityGroups.Proofs.Attribution
import SecurityGroups.Proofs.Effects
import SecurityGroups.Proofs.Inventory
import SecurityGroups.Proofs.Retrieval

namespace SecurityGroups

open Service

/-! ### Rows of groups -/

/-- Whether the text of a column is one of some texts. -/
def Row.isOneOf (row : Row) (name : String) (texts : List String) : Bool :=
  (row.cell name).string?.any fun text => decide (text ∈ texts)

theorem Row.isOneOf_of_text {row : Row} {name text : String}
    (h : row.get? name = some (.string text)) (texts : List String) :
    row.isOneOf name texts = decide (text ∈ texts) := by
  rw [isOneOf, Row.cell_of_get? h, Cell.string?, Option.any_some]

/-- The column that names a group: the one that a row is, or the one that it belongs to. -/
def TableName.groupColumn? : TableName → Option String
  | .regions => none
  | .groups => some "id"
  | .tcloudRules | .awsRules | .huaweiRules | .azureRules => some "security_group_id"

theorem RuleCloud.groupColumn?_table (c : RuleCloud) :
    c.table.groupColumn? = some "security_group_id" := by cases c <;> rfl

/-- The store without some groups and without all rows that belong to them. -/
def Store.without (s : Store) (ids : List String) : Store :=
  { s with rows := fun t => (s.rows t).filter fun row =>
      !t.groupColumn?.any fun name => row.isOneOf name ids }

/-! ### Deleting rules -/

/-- The table of the rules of a cloud, if rules are kept for it. -/
def Vendor.ruleTable? : Vendor → Option TableName
  | .tcloud => some .tcloudRules
  | .aws => some .awsRules
  | .huawei => some .huaweiRules
  | .azure => some .azureRules
  | .gcp => none

theorem RuleCloud.ruleTable?_eq_some {v : Vendor} {c : RuleCloud} :
    v.ruleTable? = some c.table ↔ v = c.vendor := by
  cases v <;> cases c <;> decide

theorem Vendor.ruleTable?_ne_groups (v : Vendor) : v.ruleTable? ≠ some .groups := by
  cases v <;> decide

namespace Service

/-- Whether a row of a table is a rule of one of some groups of a cloud. -/
def isRuleOf (groups : List Group) (t : TableName) (row : Row) (v : Vendor) : Bool :=
  decide (v.ruleTable? = some t) && (oneOfTexts "security_group_id"
    ((groups.filter (·.vendor = some v)).map Group.id)).passes row

end Service

/-- The store without the rules of some groups in some clouds. -/
def Store.withoutRules (s : Store) (groups : List Group) (vendors : List Vendor) : Store :=
  { s with rows := fun t => (s.rows t).filter fun row => !vendors.any (isRuleOf groups t row) }

section

variable {config : Store.Config} {s : Store} {groups : List Group}

namespace Store

theorem withoutRules_nil (s : Store) (groups : List Group) : s.withoutRules groups [] = s := by
  simp [withoutRules]

theorem withoutRules_cons (s : Store) (groups : List Group) (v : Vendor) (rest : List Vendor) :
    s.withoutRules groups (v :: rest) = (s.withoutRules groups [v]).withoutRules groups rest := by
  simp only [withoutRules, List.filter_filter, List.any_cons, List.any_nil, Bool.or_false,
    Bool.not_or, Bool.and_comm]

/-- To delete the rules of the groups of a cloud is to delete them from its table. -/
theorem afterDelete_eq_withoutRules {v : Vendor} {t : TableName} (h : v.ruleTable? = some t) :
    s.afterDelete t (oneOfTexts "security_group_id"
      ((groups.filter (·.vendor = some v)).map Group.id)) = s.withoutRules groups [v] := by
  have hrows : (s.afterDelete t (oneOfTexts "security_group_id"
      ((groups.filter (·.vendor = some v)).map Group.id))).rows =
        (s.withoutRules groups [v]).rows := by
    funext t'
    simp only [afterDelete, withRows, withoutRules, isRuleOf, List.any_cons, List.any_nil,
      Bool.or_false, h, Option.some.injEq]
    by_cases ht : t' = t
    · subst ht
      simp
    · simp [ht, Ne.symm ht]
  exact congrArg (fun rows => { s with rows }) hrows

/-- Nothing is deleted in a cloud that keeps no rules or that none of the groups belongs to. -/
theorem withoutRules_eq_self {v : Vendor}
    (h : v.ruleTable? = none ∨ groups.filter (·.vendor = some v) = []) :
    s.withoutRules groups [v] = s := by
  have hnone : ∀ t row, isRuleOf groups t row v = false := by
    intro t row
    rcases h with h | h
    · simp [isRuleOf, h]
    · simp [isRuleOf, h, passes_oneOfTexts]
  simp [withoutRules, hnone]

end Store

namespace Service

theorem run_deleteRulesOf (config : Store.Config) (s : Store) (groups : List Group) (v : Vendor) :
    ∃ n, (deleteRulesOf ((groups.filter (·.vendor = some v)).map Group.id) v).run config s =
      (.ok n, s.withoutRules groups [v]) := by
  have hcloud : ∀ c : RuleCloud, ∃ n, (deleteRulesOf
      ((groups.filter (·.vendor = some c.vendor)).map Group.id) c.vendor).run config s =
        (.ok n, s.withoutRules groups [c.vendor]) := by
    intro c
    have hcontains : (Entity.schema (RuleEntry c.Rule)).contains "security_group_id" = true :=
      LawfulEntity.contains_iff.2 (RuleEntry.names_of_mem_ownNames (by decide))
    rw [← Store.afterDelete_eq_withoutRules (RuleCloud.ruleTable?_eq_some.2 rfl), deleteRulesOf_eq,
      Action.delete, Action.run_call, Store.perform_deleteOf config _ hcontains]
    exact ⟨_, rfl⟩
  cases v with
  | tcloud => exact hcloud .tcloud
  | aws => exact hcloud .aws
  | huawei => exact hcloud .huawei
  | azure => exact hcloud .azure
  | gcp => exact ⟨0, by rw [Store.withoutRules_eq_self (.inl rfl)]; rfl⟩

/-- **The rules of some groups are deleted** in the clouds of the groups, and nothing else is. -/
theorem run_deleteRules (groups : List Group) (vendors : List Vendor) :
    (deleteRules groups vendors).run config s = (.ok (), s.withoutRules groups vendors) := by
  induction vendors generalizing s with
  | nil =>
    rw [Store.withoutRules_nil]
    rfl
  | cons v rest ih =>
    obtain ⟨n, hrun⟩ := run_deleteRulesOf config s groups v
    rw [Store.withoutRules_cons, deleteRules_cons]
    split
    · simp only [Action.run_bind, hrun, ih]
    · -- a cloud is not visited if none of the groups belongs to it
      rename_i hempty
      rw [Store.withoutRules_eq_self (.inr (by simpa using hempty))]
      exact ih

/-- The order in which the clouds are visited does not matter, nor does a second visit. -/
theorem run_deleteRules_of_same_clouds {vendors vendors' : List Vendor}
    (h : ∀ v, v ∈ vendors ↔ v ∈ vendors') :
    (deleteRules groups vendors).run config s = (deleteRules groups vendors').run config s := by
  rw [run_deleteRules, run_deleteRules]
  simp only [Store.withoutRules, any_eq_of_mem_iff h]

end Service

/-! ### Deleting groups -/

namespace Store

/-- **The rules of the groups are all in the clouds of the groups**, so the store without the rules of
the groups in every cloud has no rule of theirs. -/
theorem rows_withoutRules_of_attributed (hattributed : s.Attributed) (hreadable : s.Readable)
    {ids : List String} (hasked : ∀ g ∈ groups, g.id ∈ ids)
    (hfound : ∀ id ∈ ids, ∃ g ∈ groups, g.id = id ∧ Entity.toRow g ∈ s.rows .groups)
    (c : RuleCloud) : (s.withoutRules groups Vendor.all).rows c.table =
      (s.rows c.table).filter fun row => !row.isOneOf "security_group_id" ids := by
  refine List.filter_congr ?_
  intro row hrow
  obtain ⟨e, rfl, -⟩ := hreadable.entries c row hrow
  have hall : c.vendor ∈ Vendor.all := by cases c <;> decide
  have hpasses : ∀ v, isRuleOf groups c.table (Entity.toRow e) v = true ↔
      v = c.vendor ∧ ∃ g ∈ groups, g.vendor = some v ∧ g.id = e.groupId := by
    intro v
    rw [isRuleOf, passes_oneOfTexts_of_text e.get?_groupId_toRow]
    simp only [Bool.and_eq_true, decide_eq_true_eq, RuleCloud.ruleTable?_eq_some, List.mem_map,
      List.mem_filter, and_assoc]
  rw [Row.isOneOf_of_text e.get?_groupId_toRow, Bool.not_inj_iff, Bool.eq_iff_iff, List.any_eq_true,
    decide_eq_true_iff]
  constructor
  · rintro ⟨v, -, hv⟩
    obtain ⟨-, g, hg, -, hid⟩ := (hpasses v).1 hv
    exact hid ▸ hasked g hg
  · intro hid
    obtain ⟨g, hg, hgid, hstored⟩ := hfound _ hid
    -- the group of the rule is there, so it belongs to the cloud of the table
    have hvendor := hattributed c _ hrow g hstored (hgid ▸ e.get?_groupId_toRow)
    exact ⟨c.vendor, hall, (hpasses _).2 ⟨rfl, g, hg, hvendor, hgid⟩⟩

theorem rows_withoutRules_of_ne {vendors : List Vendor} {t : TableName}
    (h : ∀ v : Vendor, v.ruleTable? ≠ some t) :
    (s.withoutRules groups vendors).rows t = s.rows t := by
  have hnone : ∀ row v, isRuleOf groups t row v = false := by
    intro row v
    simp [isRuleOf, h v]
  simp [withoutRules, hnone]

/-- **To delete the rules of the groups and then the groups** leaves the store without both. -/
theorem afterDelete_withoutRules (hattributed : s.Attributed) (hreadable : s.Readable)
    {ids : List String} (hasked : ∀ g ∈ groups, g.id ∈ ids)
    (hfound : ∀ id ∈ ids, ∃ g ∈ groups, g.id = id ∧ Entity.toRow g ∈ s.rows .groups) :
    (s.withoutRules groups Vendor.all).afterDelete .groups (oneOfTexts "id" ids) =
      s.without ids := by
  have hrules := rows_withoutRules_of_attributed hattributed hreadable hasked hfound
  have hgroups : (s.withoutRules groups Vendor.all).rows .groups = s.rows .groups :=
    rows_withoutRules_of_ne Vendor.ruleTable?_ne_groups
  have hregions : (s.withoutRules groups Vendor.all).rows .regions = s.rows .regions :=
    rows_withoutRules_of_ne fun v => by cases v <;> decide
  have hrows : ((s.withoutRules groups Vendor.all).afterDelete .groups (oneOfTexts "id" ids)).rows =
      (s.without ids).rows := by
    funext t
    have hother : t ≠ .groups → ((s.withoutRules groups Vendor.all).afterDelete .groups
        (oneOfTexts "id" ids)).rows t = (s.withoutRules groups Vendor.all).rows t := fun ht =>
      rows_withRows_of_ne ht _ _
    cases t with
    | regions =>
      rw [hother (by decide), hregions]
      exact (List.filter_eq_self.2 fun _ _ => rfl).symm
    | groups =>
      rw [afterDelete, rows_withRows_self, hgroups]
      refine List.filter_congr fun row hrow => ?_
      obtain ⟨g, rfl, -⟩ := hreadable.groups row hrow
      show (!(oneOfTexts "id" ids).passes _) = !Row.isOneOf (Entity.toRow g) "id" ids
      rw [passes_oneOfTexts_of_text g.get?_id_toRow, Row.isOneOf_of_text g.get?_id_toRow]
    | tcloudRules => exact (hother (by decide)).trans (hrules .tcloud)
    | awsRules => exact (hother (by decide)).trans (hrules .aws)
    | huaweiRules => exact (hother (by decide)).trans (hrules .huawei)
    | azureRules => exact (hother (by decide)).trans (hrules .azure)
  exact congrArg (fun rows => { s with rows }) hrows

end Store

namespace Service

/-- **A deletion that has loaded its groups** leaves the store without them and their rules, on every
tour of the clouds. -/
theorem run_deleteAll {gs : List Group} (hgs : s.Holds gs) (hids : (gs.map Group.id).Nodup)
    (hattributed : s.Attributed) (hreadable : s.Readable) {d : Deletion}
    (hall : ∀ id ∈ d.ids, ∃ g ∈ gs, g.id = id) (hperm : groups.Perm (gs.filter (·.id ∈ d.ids)))
    (tour : Vendor.Tour) :
    (deleteAll d tour groups).run config s = (.ok d.ids.toFinset.card, s.without d.ids) := by
  have hmem : ∀ g, g ∈ groups ↔ g ∈ gs ∧ g.id ∈ d.ids := by
    intro g
    rw [hperm.mem_iff, List.mem_filter, decide_eq_true_iff]
  have hfound : ∀ id ∈ d.ids, ∃ g ∈ groups, g.id = id ∧ Entity.toRow g ∈ s.rows .groups := by
    intro id hid
    obtain ⟨g, hg, rfl⟩ := hall id hid
    exact ⟨g, (hmem g).2 ⟨hg, hid⟩, rfl, hgs.toRow_mem hg⟩
  -- the groups are still there when their rules are gone
  have hcount : ((s.withoutRules groups Vendor.all).rows .groups).countP
      (oneOfTexts "id" d.ids).passes = d.ids.toFinset.card := by
    rw [Store.rows_withoutRules_of_ne Vendor.ruleTable?_ne_groups]
    exact hgs.countP_eq_card hids hall fun g _ => passes_oneOfTexts_of_text g.get?_id_toRow
  have hcontains : (Entity.schema Group).contains "id" = true := by decide
  have hdelete : (s.withoutRules groups Vendor.all).perform config (.delete .groups
      (Entity.schema Group) (oneOfTexts "id" d.ids)) = _ :=
    Store.perform_deleteOf config d.ids hcontains
  rw [hcount, Store.afterDelete_withoutRules hattributed hreadable (fun g hg => ((hmem g).1 hg).2)
    hfound] at hdelete
  rw [deleteAll, Action.run_bind, run_deleteRules_of_same_clouds fun _ => tour.perm.mem_iff,
    run_deleteRules]
  refine (Action.run_call config _ _).trans ?_
  rw [show Entity.table Group = .groups from rfl, hdelete]
  rfl

/-- What becomes of a deletion on a reachable store, whatever the limit of pages and the tour are. -/
theorem run_deleteGroups_eq (hs : Function.Injective config.supply.id)
    (hreach : s.Reachable config) {max : UInt32} (hmax : 0 < max) (d : Deletion)
    (tour : Vendor.Tour) :
    (deleteGroups max d tour).run ⟨config.supply, max⟩ s =
      match d.check, d.ids.find? fun id => (s.group? id).isNone with
      | .error v, _ => (.error (.violation v), s)
      | .ok (), some id => (.error (.notFound .group id), s)
      | .ok (), none => (.ok d.ids.toFinset.card, s.without d.ids) := by
  obtain ⟨gs, hgs, -⟩ := hreach.readable.exists_groups
  have hids := hgs.nodup_ids (hreach.distinct hs) Group.get?_id_toRow
  obtain ⟨groups, hperm, hrequire⟩ :=
    run_require ⟨config.supply, max⟩ hgs hids hmax d.ids
  rw [deleteGroups_eq, deletable]
  cases d.check with
  | error v => simp only [Action.run_bind, Action.run_demand_error]
  | ok _ =>
    show Action.run _ (require max d.ids >>= deleteAll d tour) s = _
    rw [Action.run_bind, hrequire]
    cases hmissing : d.ids.find? fun id => (s.group? id).isNone with
    | some id => rfl
    | none =>
      exact run_deleteAll hgs hids (hreach.attributed hs) hreach.readable
        (hgs.find?_missing_eq_none.1 hmissing) hperm tour

end Service

/-- **A deletion takes out the groups and all of their rules, and nothing else.**  In every reachable
store, for every limit of pages that allows a row and on every tour of the clouds, it is accepted
exactly when it passes its check and each of its ids is that of a group, and it answers the number of
distinct ids.  The rows with one of the ids are then gone from the groups, those that belong to one of
them are gone from the rules of every cloud, and all others are left in their order.  If it passes its
check and an id is missing, the first one that is missing is named and the store stays as it is. -/
theorem deleteGroups_removes_groups_and_rules (hs : Function.Injective config.supply.id)
    (hreach : s.Reachable config) (max : UInt32) (hmax : 0 < max) (d : Deletion)
    (tour : Vendor.Tour) :
    let outcome := (deleteGroups max d tour).run ⟨config.supply, max⟩ s
    (∀ n, outcome.1 = .ok n ↔
      d.check = .ok () ∧ (∀ id ∈ d.ids, (s.group? id).isSome) ∧ n = d.ids.toFinset.card) ∧
    (∀ n, outcome.1 = .ok n →
      outcome.2.rows .groups = (s.rows .groups).filter (fun row => !row.isOneOf "id" d.ids) ∧
      (∀ c : RuleCloud, outcome.2.rows c.table =
        (s.rows c.table).filter fun row => !row.isOneOf "security_group_id" d.ids) ∧
      outcome.2.rows .regions = s.rows .regions) ∧
    (d.check = .ok () → ∀ id, (d.ids.find? fun id => (s.group? id).isNone) = some id →
      outcome = (.error (.notFound .group id), s)) := by
  intro outcome
  have hrun : outcome = _ := run_deleteGroups_eq hs hreach hmax d tour
  have hall : (d.ids.find? fun id => (s.group? id).isNone) = none ↔
      ∀ id ∈ d.ids, (s.group? id).isSome := by
    simp [List.find?_eq_none, Option.isSome_iff_ne_none]
  cases hcheck : d.check with
  | error v =>
    rw [hcheck] at hrun
    simp [hrun]
  | ok _ =>
    rw [hcheck] at hrun
    cases hmissing : d.ids.find? fun id => (s.group? id).isNone with
    | some id =>
      rw [hmissing] at hrun hall
      have hnot : ¬ ∀ id ∈ d.ids, (s.group? id).isSome := fun h => by cases hall.2 h
      simp [hrun, hnot]
    | none =>
      rw [hmissing] at hrun
      rw [hrun]
      refine ⟨fun n => ?_, fun n _ => ⟨rfl, fun c => ?_, ?_⟩, fun _ _ h => by cases h⟩
      · rw [Except.ok.injEq, eq_comm]
        exact ⟨fun hn => ⟨rfl, hall.1 hmissing, hn⟩, fun h => h.2.2⟩
      · show List.filter _ _ = _
        rw [c.groupColumn?_table]
        rfl
      · exact List.filter_eq_self.2 fun _ _ => rfl

/-- The group that was created is deleted together with its rule, even if it is named twice and only one
row fits into a page; with another id that is missing nothing is. -/
theorem deleteGroups_removes_web :
    let config : Store.Config := ⟨Supply.strokes, 500⟩
    let s := play config [.creation, .ruleCreation] .empty
    let tour : Vendor.Tour := ⟨Vendor.all.reverse, List.reverse_perm _⟩
    let outcome := (deleteGroups 1 ⟨["|", "|"]⟩ tour).run ⟨Supply.strokes, 1⟩ s
    outcome.1 = .ok 1 ∧ outcome.2.rows .awsRules =
        (s.rows .awsRules).filter (fun row => !row.isOneOf "security_group_id" ["|", "|"]) ∧
      (deleteGroups 1 ⟨["|", "||"]⟩ tour).run ⟨Supply.strokes, 1⟩ s =
        (.error (.notFound .group "||"), s) := by
  intro config s tour outcome
  have hdelete := @deleteGroups_removes_groups_and_rules config s Supply.injective_strokes
    (reachable_play config [.creation, .ruleCreation]) 1 (by decide)
  obtain ⟨haccepted, hremoved, -⟩ := hdelete ⟨["|", "|"]⟩ tour
  have hgroups : (s.group? "|").isSome = true ∧ (s.group? "||").isNone = true := by decide +kernel
  have hok : outcome.1 = .ok 1 := by
    refine (haccepted 1).2 ⟨rfl, ?_, by decide⟩
    simpa using hgroups.1
  refine ⟨hok, (hremoved 1 hok).2.1 .aws, (hdelete ⟨["|", "||"]⟩ tour).2.2 rfl "||" ?_⟩
  rw [List.find?_cons, List.find?_cons, hgroups.2]
  simp [Option.isNone_eq_false_iff.2 hgroups.1]

end

end SecurityGroups
