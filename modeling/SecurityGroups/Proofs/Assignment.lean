/-
SecurityGroups/Proofs/Assignment.lean

A group is assigned once.

The update of an assignment writes only groups that are unassigned when the
store carries it out (`passes_stillUnassigned`), and no other call of the
service writes a business.  So a business changes once, from none to a positive one
(`Store.Evolves.keepsBusiness`).

An assignment that succeeds has compared the number of groups that it wrote
with the number of those that it had loaded.  The loaded groups are as many as
the ids that were asked for, and no row is written twice, so it wrote every
one of them (`carried_of_written`).  The update is the last call of an
assignment, and `written_or_closing` finds it in the schedule.
-/
import Mathlib.Data.List.Perm.Subperm
import Mathlib.Data.Set.List
import SecurityGroups.Proofs.Ownership

namespace SecurityGroups

open Service

/-! ### Rows that are written -/

/-- The row is that of a group with an id and a business. -/
def Row.Carries (row : Row) (id : String) (business : Int64) : Prop :=
  row.get? "id" = some (.string id) ∧ row.get? "bk_biz_id" = some (.numeric business)

theorem Row.carries_iff {row : Row} {id : String} {business : Int64} :
    row.Carries id business ↔
      row.cell "id" = .string id ∧ row.cell "bk_biz_id" = .numeric business := by
  rw [Row.Carries, Row.get?_eq_some_iff (by simp), Row.get?_eq_some_iff (by simp)]

theorem holds_stillUnassigned (ids : List String) (row : Row) :
    (stillUnassigned ids).holds row = .ok ((ids.any fun t => (row.cell "id").sameAs (.str t)) &&
      (row.cell "bk_biz_id").sameAs (.ofInt64 Group.unassigned)) := by
  simp only [stillUnassigned, oneOfTexts, Filter.oneOf, Filter.allOf, Filter.adding, Filter.holds,
    Filter.toClause, List.map_cons, List.map_nil, List.cons_append, List.nil_append, Clause.holds,
    Clause.allHold, Test.holds, Test.accepts, List.any_map]
  have hany : (ids.any ((row.cell "id").sameAs ∘ Json.str)) =
      ids.any fun t => (row.cell "id").sameAs (.str t) := rfl
  rw [hany]
  cases (ids.any fun t => (row.cell "id").sameAs (.str t)) with
  | false => rfl
  | true =>
    cases (row.cell "bk_biz_id").sameAs (.ofInt64 Group.unassigned) with
    | false => rfl
    | true => rfl

/-- A row that fits its table is written by an assignment exactly when it has one of the ids and is
unassigned. -/
theorem passes_stillUnassigned {ids : List String} {row : Row}
    (hf : row.Fits (Entity.schema Group)) :
    (stillUnassigned ids).passes row = true ↔ ∃ id ∈ ids, row.Carries id Group.unassigned := by
  have hid : (Entity.schema Group).type? "id" = some .string := by decide
  have hbusiness : (Entity.schema Group).type? "bk_biz_id" = some .numeric := by decide
  rw [Filter.passes_of_holds (holds_stillUnassigned ids row), Bool.and_eq_true, List.any_eq_true,
    Cell.sameAs_number (hf.accepts hbusiness)]
  constructor
  · rintro ⟨⟨id, hmem, hsame⟩, hun⟩
    exact ⟨id, hmem, Row.carries_iff.2 ⟨(Cell.sameAs_text (hf.accepts hid) id).1 hsame, hun⟩⟩
  · rintro ⟨id, hmem, hc⟩
    obtain ⟨hcell, hun⟩ := Row.carries_iff.1 hc
    exact ⟨⟨id, hmem, (Cell.sameAs_text (hf.accepts hid) id).2 hcell⟩, hun⟩

/-! ### A business changes once -/

/-- The business of a row stays as it is, or changes from none to a positive one. -/
def Row.KeepsBusiness (a b : Row) : Prop :=
  b.get? "bk_biz_id" = a.get? "bk_biz_id" ∨
    a.get? "bk_biz_id" = some (.numeric Group.unassigned) ∧
      ∃ business : Int64, 0 < business ∧ b.get? "bk_biz_id" = some (.numeric business)

theorem Group.unassigned_not_pos : ¬ (0 : Int64) < Group.unassigned := by decide

theorem Row.KeepsBusiness.trans {a b c : Row} (h₁ : a.KeepsBusiness b) (h₂ : b.KeepsBusiness c) :
    a.KeepsBusiness c := by
  rcases h₁ with hab | ⟨ha, n, hn, hb⟩
  · rcases h₂ with hbc | ⟨hb, hc⟩
    · exact .inl (hbc.trans hab)
    · exact .inr ⟨hab.symm.trans hb, hc⟩
  · rcases h₂ with hbc | ⟨hb', -⟩
    · exact .inr ⟨ha, n, hn, hbc.trans hb⟩
    · -- what was written first is positive, so it is not written over
      rw [hb] at hb'
      cases hb'
      exact absurd hn Group.unassigned_not_pos

/-- A positive business stays. -/
theorem Row.KeepsBusiness.of_pos {a b : Row} (h : a.KeepsBusiness b) {n : Int64} (hn : 0 < n)
    (ha : a.get? "bk_biz_id" = some (.numeric n)) : b.get? "bk_biz_id" = some (.numeric n) := by
  rcases h with hab | ⟨ha', -⟩
  · exact hab.trans ha
  · rw [ha] at ha'
    cases ha'
    exact absurd hn Group.unassigned_not_pos

namespace Store

variable {config : Config} {s s' : Store}

/-- **One call of the service** writes a business only into rows that have none. -/
theorem Step.keepsBusiness (h : Step config s s') (hf : s.Fitting)
    (hd : s.Distinct config.supply) {row row' : Row} (hrow : row ∈ s.rows .groups)
    (hrow' : row' ∈ s'.rows .groups) (hid : row.get? "id" = row'.get? "id") :
    row.KeepsBusiness row' := by
  obtain ⟨c, hmade, rfl⟩ := h
  cases perform_origin hrow' with
  | same hold =>
    rw [hd.eq_of_id hrow hold hid]
    exact .inl rfl
  | @stored schema rows given n hc hgiven hfit hn hn' =>
    -- a row that is stored now has an id of its own
    rw [get?_id_stored] at hid
    exact absurd hid (hd.unused _ row hrow n hn)
  | @revised schema filter values old hc hfit hnone hold hp =>
    rw [get?_revised_of_ne hnone (by decide)] at hid
    obtain rfl : row = old := hd.eq_of_id hrow hold hid
    subst hc
    have hbusiness : (revised schema (config.supply.clock s.ticks) values row).get? "bk_biz_id" =
        (values.get? "bk_biz_id").or (row.get? "bk_biz_id") := get?_revised (by decide)
    rcases hmade.lawful.2.2 rfl with hno | ⟨ids, rfl, n, hn, hvalue⟩
    · rw [hno] at hbusiness
      exact .inl hbusiness
    · rw [hvalue] at hbusiness
      obtain ⟨id, -, -, hun⟩ := (passes_stillUnassigned (hf .groups row hrow)).1 hp
      exact .inr ⟨hun, n, hn, hbusiness⟩

/-- Calls of any jobs write a business only where there is none. -/
theorem Evolves.keepsBusiness (h : Evolves config s s') (hs : Function.Injective config.supply.id)
    (hf : s.Fitting) (hd : s.Distinct config.supply) {row row' : Row} (hrow : row ∈ s.rows .groups)
    (hrow' : row' ∈ s'.rows .groups) (hid : row.get? "id" = row'.get? "id") :
    row.KeepsBusiness row' := by
  induction h generalizing row' with
  | refl =>
    rw [hd.eq_of_id hrow hrow' hid]
    exact .inl rfl
  | @tail mid last hsteps hstep ih =>
    have hev : Evolves config s mid := hsteps
    rcases (hstep.lineage .groups).2.origin hrow' with ⟨r, hr, hsame⟩ | ⟨n, hn, -, hnew⟩
    · have hlast := hstep.keepsBusiness (hev.fitting hf) (hev.distinct hs hd) hr hrow' hsame.id.symm
      exact (ih hr (hid.trans hsame.id)).trans hlast
    · -- an id that was given out since then is not that of a row that was there
      have hle := (hev.lineage .groups).1
      exact absurd (hid.trans hnew) (hd.unused _ row hrow n (Nat.le_trans hle hn))

end Store

/-! ### The update of an assignment -/

/-- The call by which an assignment writes. -/
abbrev Service.assignCall (user : String) (a : Assignment) : Call :=
  .update (Entity.table Group) (Entity.schema Group) (stillUnassigned a.groupIds)
    (Entity.updateRow (assigned user a.business))

/-- The update writes the business. -/
theorem get?_business_assigned {business : Int64} (h : 0 < business) (user : String) :
    (Entity.updateRow (assigned user business)).get? "bk_biz_id" = some (.numeric business) := by
  have hne : business ≠ 0 := by
    rintro rfl
    exact absurd h (by decide)
  rw [Group.get?_business_updateRow]
  exact if_neg hne

/-- The ids whose groups are there and unassigned are as many as the rows that the update writes. -/
theorem Store.exists_left {supply : Supply} {s : Store} (hf : s.Fitting) (hd : s.Distinct supply)
    (ids : List String) : ∃ left : List String, left.Nodup ∧
      (∀ id, id ∈ left ↔ id ∈ ids ∧ ∃ row ∈ s.rows .groups, row.Carries id Group.unassigned) ∧
        left.length = (s.rows .groups).countP (stillUnassigned ids).passes := by
  have hwritten : ∀ row, row ∈ (s.rows .groups).filter (stillUnassigned ids).passes ↔
      row ∈ s.rows .groups ∧ ∃ id ∈ ids, row.Carries id Group.unassigned := by
    intro row
    rw [List.mem_filter]
    exact and_congr_right fun hrow => passes_stillUnassigned (hf .groups row hrow)
  have htexts : ((s.rows .groups).filter (stillUnassigned ids).passes).map (·.get? "id") ∈
      Set.range (List.map fun id => some (Cell.string id)) := by
    rw [Set.range_list_map]
    intro x hx
    obtain ⟨row, hrow, rfl⟩ := List.mem_map.1 hx
    obtain ⟨-, id, -, hc⟩ := (hwritten row).1 hrow
    exact ⟨id, hc.1.symm⟩
  obtain ⟨left, hleft⟩ := htexts
  refine ⟨left, ?_, ?_, ?_⟩
  · refine List.Nodup.of_map (fun id => some (Cell.string id)) ?_
    rw [hleft]
    exact (List.filter_sublist.map _).nodup (hd.nodup .groups)
  · intro id
    have hinj : Function.Injective fun id => some (Cell.string id) := by
      rintro _ _ ⟨⟩
      rfl
    rw [← List.mem_map_of_injective hinj, hleft, List.mem_map]
    constructor
    · rintro ⟨row, hrow, hid⟩
      obtain ⟨hmem, id', hid', hc⟩ := (hwritten row).1 hrow
      cases hc.1.symm.trans hid
      exact ⟨hid', row, hmem, hc⟩
    · rintro ⟨hid, row, hmem, hc⟩
      exact ⟨row, (hwritten row).2 ⟨hmem, id, hid, hc⟩, hc.1⟩
  · have hlength := congrArg List.length hleft
    rw [List.length_map, List.length_map] at hlength
    rw [hlength, List.countP_eq_length_filter]

/-- **An update that wrote as many rows as ids were asked for wrote a row of each of them.** -/
theorem Store.carried_of_written {config : Store.Config} {s : Store} {user : String}
    {a : Assignment} (hf : s.Fitting) (hd : s.Distinct config.supply) (hpos : 0 < a.business)
    (h : (s.perform config (assignCall user a)).1 = .ok a.groupIds.eraseDups.length)
    {id : String} (hid : id ∈ a.groupIds) :
    (∃ row ∈ s.rows .groups, row.Carries id Group.unassigned) ∧
      ∃ row ∈ (s.perform config (assignCall user a)).2.rows .groups, row.Carries id a.business := by
  have hupdate := Store.keep_eq_ok.1 h
  obtain ⟨-, -, hnone, -, hcount, hafter⟩ := Store.update_eq_ok.1 hupdate
  -- the groups that were left are asked for, and as many as the ids, so they are all of them
  obtain ⟨left, hnodup, hmem, hlength⟩ := Store.exists_left hf hd a.groupIds
  have hperm : left.Perm a.groupIds.eraseDups :=
    (List.subperm_of_subset hnodup fun id hid =>
      List.mem_eraseDups.2 ((hmem id).1 hid).1).perm_of_length_le
        (Nat.le_of_eq (hcount.trans hlength.symm))
  obtain ⟨-, row, hrow, hcarries⟩ := (hmem id).1 (hperm.mem_iff.2 (List.mem_eraseDups.2 hid))
  have hp := (passes_stillUnassigned (hf .groups row hrow)).2 ⟨id, hid, hcarries⟩
  refine ⟨⟨row, hrow, hcarries⟩, ?_⟩
  refine ⟨Store.revised (Entity.schema Group) (config.supply.clock s.ticks)
    (Entity.updateRow (assigned user a.business)) row, ?_, ?_, ?_⟩
  · have hrows : (s.perform config (assignCall user a)).2 = _ := hafter
    rw [hrows]
    exact Store.mem_rows_afterUpdate.2 ⟨row, hrow, (if_pos ⟨rfl, hp⟩).symm⟩
  · rw [Store.get?_revised_of_ne hnone (by decide)]
    exact hcarries.1
  · rw [Store.get?_revised (by decide), get?_business_assigned hpos]
    rfl

/-! ### The last call of an assignment -/

/-- Required groups are as many as the ids that were asked for. -/
theorem Service.Required.length_eq {G : Store → Prop} {ids : List String} {groups : List Group}
    (h : Required G ids groups) (hG : ∀ s, G s → ((s.rows .groups).map (·.get? "id")).Nodup) :
    groups.length = ids.eraseDups.length := by
  have hperm : (groups.map Group.id).Perm ids.eraseDups := by
    refine (List.perm_ext_iff_of_nodup (h.nodup hG) (nodup_eraseDups ids)).2 ?_
    intro id
    rw [List.mem_eraseDups, List.mem_map]
    constructor
    · rintro ⟨g, hg, rfl⟩
      exact h.asked g hg
    · exact h.complete id
  rw [← hperm.length_eq, List.length_map]

/-- **The last call of an assignment** is its update, made for a positive business, and the number
that it answers decides. -/
theorem Service.obeys_assign {γ : Type} {d : Discipline γ} {config : Store.Config} {G : Store → Prop}
    {g : γ} {E : γ → ServiceError → Prop} {Q : γ → Nat → Prop} {limit : UInt32} {user : String}
    {a : Assignment} (hr : d.Reads config G g)
    (hG : ∀ s, G s → ((s.rows .groups).map (·.get? "id")).Nodup) (hE : ∀ e, E g e)
    (hcall : 0 < a.business → d.Allows g (assignCall user a) (Action.Answered E fun g' n =>
      if n = a.groupIds.eraseDups.length then Q g' n
      else E g' (.violation (lostRace n a.groupIds.eraseDups.length a.business)))) :
    (assign limit user a).Obeys d g E Q := by
  rw [assign_eq]
  refine Action.Obeys.bind (obeys_assignable hr hE) ?_
  rintro g' groups ⟨rfl, hcheck, hgroups, -⟩
  refine obeys_assignAll ?_
  rw [hgroups.length_eq hG]
  exact hcall (pos_of_check hcheck)

theorem Job.script_assign {job : Job} {a : Assignment} (h : job.operation = .assign a) :
    job.script = ExceptT.run (Outcome.count <$> assign job.limit job.user a) := by
  rw [Job.script, h]
  rfl

/-- The discipline of an assignment on a store with distinct ids.  It remembers whether the update
was carried out for as many groups as were asked for, and then expects no other call. -/
def Discipline.assigning (config : Store.Config) (user : String) (a : Assignment) :
    Discipline Bool where
  may := fun written c => written = false ∧
    (c = assignCall user a ∧ 0 < a.business ∨ ∃ t schema filter page, c = .list t schema filter page)
  gives := fun _ c answer =>
    ∃ s : Store, s.Distinct config.supply ∧ answer = (s.perform config c).1
  next := fun written c answer =>
    match c, answer with
    | .update .., .ok n => n == a.groupIds.eraseDups.length
    | _, _ => written

/-- A script that ends in success only after the update of the assignment was carried out. -/
def Script.Closing (config : Store.Config) (user : String) (a : Assignment)
    (p : Script (Except ServiceError Outcome)) : Prop :=
  p.Obeys (.assigning config user a) false fun written result =>
    ∀ outcome, result = .ok outcome → written = true

section

variable {config : Store.Config} {user : String} {a : Assignment}

theorem Discipline.reads_assigning :
    (assigning config user a).Reads config (fun s => s.Distinct config.supply) false where
  may := fun t schema filter page => ⟨rfl, .inr ⟨t, schema, filter, page, rfl⟩⟩
  next := fun _ _ _ _ _ _ => rfl
  gives := fun _ _ _ _ _ ⟨s, hs, hans⟩ => ⟨s, hs, hans⟩

/-- An assignment that has not started yet is closing. -/
theorem Job.closing_script {job : Job} (h : job.operation = .assign a) :
    job.script.Closing config job.user a := by
  have hassign : (assign job.limit job.user a).Obeys (.assigning config job.user a) false
      (fun _ _ => True) fun written _ => written = true := by
    refine obeys_assign Discipline.reads_assigning (fun s hs => hs.nodup .groups)
      (fun _ => trivial) fun hpos => ⟨⟨rfl, .inl ⟨rfl, hpos⟩⟩, ?_⟩
    intro answer _
    cases answer with
    | error e => trivial
    | ok n =>
      show if n = a.groupIds.eraseDups.length then
        (n == a.groupIds.eraseDups.length) = true else True
      split
      · rename_i hn
        exact beq_iff_eq.2 hn
      · trivial
  rw [Job.script_assign h]
  refine Script.Obeys.mono (Action.obeys_map (R := fun written _ => written = true) hassign) ?_
  intro written result hresult outcome hok
  rw [hok] at hresult
  exact hresult

/-- A script that is closing has not succeeded yet. -/
theorem Script.not_closing_ok {outcome : Outcome} :
    ¬ (Script.done (.ok outcome)).Closing config user a := by
  intro h
  have hwritten : false = true := h outcome rfl
  cases hwritten

end

/-! ### In a schedule -/

/-- The session is that of an assignment, and has succeeded. -/
def Session.HasAssigned (session : Session) (a : Assignment) : Prop :=
  session.job.operation = .assign a ∧ ∃ outcome, session.rest = .done (.ok outcome)

/-- The assignment of a session that has succeeded. -/
def Session.assigned? (session : Session) : Option Assignment :=
  match session.job.operation, session.rest with
  | .assign a, .done (.ok _) => some a
  | _, _ => none

theorem Session.hasAssigned_of_assigned? {session : Session} {a : Assignment}
    (h : session.assigned? = some a) : session.HasAssigned a := by
  rw [Session.assigned?] at h
  split at h
  · rename_i hop hrest
    cases h
    exact ⟨hop, _, hrest⟩
  · cases h

namespace System

variable {config : Store.Config} {store : Store} {user : String} {a : Assignment}

/-- At some point of the schedule a session carried out the update of an assignment, for as many
groups as were asked for. -/
def Wrote (config : Store.Config) (store : Store) (moves : List Move) (i : Nat) (user : String)
    (a : Assignment) : Prop :=
  0 < a.business ∧ ∃ before later, moves = before ++ .resume i :: later ∧
    let s := (after config store before).store
    (s.perform config (assignCall user a)).1 = .ok a.groupIds.eraseDups.length ∧
      (after config store (before ++ [.resume i])).store =
        (s.perform config (assignCall user a)).2

theorem Wrote.concat {moves : List Move} {i : Nat} (h : Wrote config store moves i user a)
    (m : Move) : Wrote config store (moves ++ [m]) i user a := by
  obtain ⟨hpos, before, later, rfl, hwrote⟩ := h
  exact ⟨hpos, before, later ++ [m], by rw [List.append_assoc, List.cons_append], hwrote⟩

/-- The call that lets an assignment remember that it has written is its update. -/
theorem wrote_of_call (hs : Function.Injective config.supply.id) (hd : store.Distinct config.supply)
    {moves : List Move} {i : Nat} {written : Bool} {c : Call}
    (hmay : (Discipline.assigning config user a).may written c)
    (hstore : (after config store (moves ++ [.resume i])).store =
      ((after config store moves).store.perform config c).2) :
    let answer := ((after config store moves).store.perform config c).1
    (Discipline.assigning config user a).gives written c answer ∧
      ((Discipline.assigning config user a).next written c answer = true →
        Wrote config store (moves ++ [.resume i]) i user a) := by
  have hdistinct := (evolves_start config store moves).distinct hs hd
  refine ⟨⟨_, hdistinct, rfl⟩, ?_⟩
  obtain ⟨rfl, ⟨rfl, hpos⟩ | ⟨t, schema, filter, page, rfl⟩⟩ := hmay
  · cases hans : ((after config store moves).store.perform config (assignCall user a)).1 with
    | error e => rintro ⟨⟩
    | ok n =>
      intro hn
      obtain rfl : n = a.groupIds.eraseDups.length := beq_iff_eq.1 hn
      exact ⟨hpos, moves, [], rfl, hans, hstore⟩
  · rintro ⟨⟩

/-- **Every assignment is closing or has written**, and after it has written it makes no call. -/
theorem written_or_closing (hs : Function.Injective config.supply.id)
    (hd : store.Distinct config.supply) (moves : List Move) {i : Nat} {session : Session}
    (hi : (after config store moves).sessions[i]? = some session)
    (ha : session.job.operation = .assign a) :
    session.rest.Closing config session.job.user a ∨
      (∃ result, session.rest = .done result) ∧
        Wrote config store moves i session.job.user a := by
  obtain ⟨written, hwrote, hobeys⟩ := (remembers_after
    (P := fun moves written => written = true → Wrote config store moves i session.job.user a)
    (Job.closing_script ha) (by rintro ⟨⟩) (fun _ m _ hwrote _ hwritten => (hwrote hwritten).concat m)
    (fun _ _ _ _ hmay hstore => wrote_of_call hs hd hmay hstore) moves).2 session hi rfl
  cases written with
  | false => exact .inl hobeys
  | true =>
    refine .inr ⟨?_, hwrote rfl⟩
    cases hrest : session.rest with
    | done result => exact ⟨result, rfl⟩
    | call c next =>
      rw [hrest] at hobeys
      cases hobeys.1.1

theorem Wrote.of_hasAssigned (hs : Function.Injective config.supply.id)
    (hd : store.Distinct config.supply) {moves : List Move} {i : Nat} {session : Session}
    (hi : (after config store moves).sessions[i]? = some session) (ha : session.HasAssigned a) :
    Wrote config store moves i session.job.user a := by
  obtain ⟨hop, outcome, hrest⟩ := ha
  rcases written_or_closing hs hd moves hi hop with hclosing | ⟨-, hwrote⟩
  · rw [hrest] at hclosing
    exact absurd hclosing Script.not_closing_ok
  · exact hwrote

/-- What an assignment has done where it wrote, and what holds ever after. -/
def Takes (config : Store.Config) (store : Store) (before : List Move) (i : Nat)
    (a : Assignment) : Prop :=
  ∀ id ∈ a.groupIds,
    (∃ row ∈ (after config store before).store.rows .groups, row.Carries id Group.unassigned) ∧
    (∃ row ∈ (after config store (before ++ [.resume i])).store.rows .groups,
      row.Carries id a.business) ∧
    ∀ later, ∀ row ∈ (after config store (before ++ .resume i :: later)).store.rows .groups,
      row.get? "id" = some (.string id) → row.Carries id a.business

theorem Wrote.takes (hs : Function.Injective config.supply.id)
    (hd : store.Distinct config.supply) (hf : store.Fitting) {moves : List Move} {i : Nat}
    (h : Wrote config store moves i user a) :
    ∃ before later, moves = before ++ .resume i :: later ∧ Takes config store before i a := by
  obtain ⟨hpos, before, later, rfl, hans, hstore⟩ := h
  refine ⟨before, later, rfl, ?_⟩
  intro id hid
  have hev := evolves_start config store before
  have hev' := evolves_start config store (before ++ [.resume i])
  have hwritten := Store.carried_of_written (hev.fitting hf) (hev.distinct hs hd) hpos hans hid
  rw [← hstore] at hwritten
  obtain ⟨hfree, row, hrow, hcarries⟩ := hwritten
  refine ⟨hfree, ⟨row, hrow, hcarries⟩, ?_⟩
  intro later row' hrow' hid'
  have hlater := evolves_after config store (before ++ [.resume i]) later
  rw [List.append_assoc] at hlater
  have hkeeps := hlater.keepsBusiness hs (hev'.fitting hf) (hev'.distinct hs hd) hrow hrow'
    (hcarries.1.trans hid'.symm)
  exact ⟨hid', hkeeps.of_pos hpos hcarries.2⟩

/-- What one assignment took before another wrote, the other can not take. -/
theorem Takes.disjoint {a' : Assignment} {before mid : List Move} {i j : Nat}
    (hpos : 0 < a.business) (h : Takes config store before i a)
    (h' : Takes config store (before ++ .resume i :: mid) j a') :
    ∀ id ∈ a.groupIds, id ∉ a'.groupIds := by
  intro id hid hid'
  obtain ⟨row, hrow, hfree⟩ := (h' id hid').1
  have hcarries := (h id hid).2.2 mid row hrow hfree.1
  have hbusiness : a.business = Group.unassigned :=
    Cell.numeric.inj (Option.some.inj (hcarries.2.symm.trans hfree.2))
  rw [hbusiness] at hpos
  exact Group.unassigned_not_pos hpos

/-- The schedule tells which of two sessions wrote first. -/
theorem Wrote.disjoint (hs : Function.Injective config.supply.id)
    (hd : store.Distinct config.supply) (hf : store.Fitting) {moves : List Move} {i j : Nat}
    {user' : String} {a' : Assignment} (hij : i ≠ j) (h : Wrote config store moves i user a)
    (h' : Wrote config store moves j user' a') : ∀ id ∈ a.groupIds, id ∉ a'.groupIds := by
  obtain ⟨before, later, hmoves, htakes⟩ := h.takes hs hd hf
  obtain ⟨before', later', hmoves', htakes'⟩ := h'.takes hs hd hf
  rcases List.append_eq_append_iff.1 (hmoves.symm.trans hmoves') with
    ⟨mid, rfl, heq⟩ | ⟨mid, rfl, heq⟩
  · cases mid with
    | nil =>
      cases heq
      exact absurd rfl hij
    | cons m mid =>
      cases heq
      exact htakes.disjoint h.1 htakes'
  · cases mid with
    | nil =>
      cases heq
      exact absurd rfl hij
    | cons m mid =>
      cases heq
      intro id hid hid'
      exact htakes'.disjoint h'.1 htakes id hid' hid

end System

/-- **A group is assigned once.**  In every schedule of jobs on a store with distinct ids, whose
rows fit their tables as the rows of every store do that was filled by its own calls, the business
of a group only ever changes from none to a positive one; an assignment that has succeeded took
every group that it was asked for while the group was unassigned, and the group carries the
business in all later states in which it exists; and two assignments that have both succeeded have
no group in common. -/
theorem groups_are_assigned_once (config : Store.Config) (store : Store)
    (hs : Function.Injective config.supply.id) (hd : store.Distinct config.supply)
    (hf : store.Fitting) :
    (∀ before later : List Move,
      ∀ row ∈ (System.after config store before).store.rows .groups,
        ∀ row' ∈ (System.after config store (before ++ later)).store.rows .groups,
          row.get? "id" = row'.get? "id" → row.KeepsBusiness row') ∧
    (∀ before mid later : List Move,
      ∀ row ∈ (System.after config store before).store.rows .groups,
        ∀ row' ∈ (System.after config store (before ++ mid)).store.rows .groups,
          ∀ row'' ∈ (System.after config store (before ++ mid ++ later)).store.rows .groups,
            row.get? "id" = row'.get? "id" → row'.get? "id" = row''.get? "id" →
              row'.get? "bk_biz_id" = row.get? "bk_biz_id" ∨
                row''.get? "bk_biz_id" = row'.get? "bk_biz_id") ∧
    (∀ (moves : List Move) (i : Nat) (session : Session) (a : Assignment),
      (System.after config store moves).sessions[i]? = some session → session.HasAssigned a →
        ∃ before later, moves = before ++ .resume i :: later ∧
          System.Takes config store before i a) ∧
    (∀ (moves : List Move) (i j : Nat) (session session' : Session) (a a' : Assignment), i ≠ j →
      (System.after config store moves).sessions[i]? = some session → session.HasAssigned a →
      (System.after config store moves).sessions[j]? = some session' → session'.HasAssigned a' →
        ∀ id ∈ a.groupIds, id ∉ a'.groupIds) := by
  have hkeeps : ∀ before later : List Move,
      ∀ row ∈ (System.after config store before).store.rows .groups,
        ∀ row' ∈ (System.after config store (before ++ later)).store.rows .groups,
          row.get? "id" = row'.get? "id" → row.KeepsBusiness row' := by
    intro before later row hrow row' hrow' hid
    have hstart := System.evolves_start config store before
    have hlater := System.evolves_after config store before later
    exact hlater.keepsBusiness hs (hstart.fitting hf) (hstart.distinct hs hd) hrow hrow' hid
  refine ⟨hkeeps, ?_, ?_, ?_⟩
  · intro before mid later row hrow row' hrow' row'' hrow'' hid hid'
    rcases hkeeps before mid row hrow row' hrow' hid with hsame | ⟨-, n, hn, hpos⟩
    · exact .inl hsame
    · -- a business that was written is positive, and stays
      have hlast := (hkeeps (before ++ mid) later row' hrow' row'' hrow'' hid').of_pos hn hpos
      exact .inr (hlast.trans hpos.symm)
  · intro moves i session a hi ha
    exact (System.Wrote.of_hasAssigned hs hd hi ha).takes hs hd hf
  · intro moves i j session session' a a' hij hi ha hj ha'
    have hwrote := System.Wrote.of_hasAssigned hs hd hi ha
    have hwrote' := System.Wrote.of_hasAssigned hs hd hj ha'
    exact hwrote.disjoint hs hd hf hij hwrote'

/-- Two users assign one group at once; both have loaded it before either writes. -/
def Move.race : List Move :=
  [.start .creation, .resume 0, .start ⟨500, "ann", .assign ⟨5, ["|"]⟩⟩,
    .start ⟨500, "bob", .assign ⟨7, ["|"]⟩⟩, .resume 1, .resume 2, .resume 1, .resume 2]

/-- The first of two users to write has the group, and the other never succeeds. -/
theorem race_is_won_once :
    let config : Store.Config := ⟨Supply.strokes, 500⟩
    (∃ before later, Move.race = before ++ .resume 1 :: later ∧
      System.Takes config .empty before 1 ⟨5, ["|"]⟩) ∧
    ∀ session, (System.after config .empty Move.race).sessions[2]? = some session →
      ¬ session.HasAssigned ⟨7, ["|"]⟩ := by
  intro config
  have hwon : ((System.after config .empty Move.race).sessions[1]?).bind Session.assigned? =
      some ⟨5, ["|"]⟩ := by decide +kernel
  obtain ⟨session, hi, hassigned⟩ := Option.bind_eq_some_iff.1 hwon
  have ha := Session.hasAssigned_of_assigned? hassigned
  obtain ⟨-, -, htakes, hdisjoint⟩ := groups_are_assigned_once config .empty
    Supply.injective_strokes (Store.distinct_empty _) Store.fitting_empty
  refine ⟨htakes Move.race 1 session _ hi ha, ?_⟩
  intro session' hj ha'
  exact hdisjoint Move.race 1 2 session session' _ _ (by decide) hi ha hj ha' "|"
    List.mem_cons_self List.mem_cons_self

end SecurityGroups
