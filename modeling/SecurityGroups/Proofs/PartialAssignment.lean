/-
SecurityGroups/Proofs/PartialAssignment.lean

What a refused assignment leaves behind.

The update of an assignment writes the groups that are still unassigned, and only
afterwards their number is compared with that of the groups that were loaded.  So
an assignment that is refused because another came first for some of its groups
keeps the others (`refused_assignments_take_what_is_left`), and no other refusal
writes anything.

The discipline of the assignment remembers how many groups its update has written,
if it was carried out, and `System.recalled` says what the schedule was like then.
-/
import SecurityGroups.Proofs.Assignment
import SecurityGroups.Proofs.Entities
import SecurityGroups.Proofs.Selection

namespace SecurityGroups

open Service

/-! ### What the update writes -/

/-- An assignment writes the business and the reviser. -/
theorem get?_assigned {business : Int64} (h : 0 < business) (user name : String) :
    (Entity.updateRow (assigned user business)).get? name =
      if name = "bk_biz_id" then some (.numeric business)
      else if name = "reviser" then some (.string user) else none := by
  by_cases hbusiness : name = "bk_biz_id"
  · subst hbusiness
    exact get?_business_assigned h user
  rw [if_neg hbusiness]
  by_cases hreviser : name = "reviser"
  · subst hreviser
    exact Group.get?_reviser_updateRow _
  rw [if_neg hreviser]
  by_cases hother : name = "name" ∨ name = "memo"
  · -- the name and the memo are blank, which stands for no change
    rcases hother with rfl | rfl
    · exact Group.get?_updateRow_of_mem (assigned user business) (.tail _ (.head _))
    · exact Group.get?_updateRow_of_mem (assigned user business) (.tail _ (.tail _ (.head _)))
  · obtain ⟨hname, hmemo⟩ := not_or.1 hother
    exact Group.get?_updateRow_of_not_mem (by simp [hreviser, hbusiness, hname, hmemo])

/-- The second row is the first after a user has assigned its group. -/
def Row.TakenBy (user : String) (business : Int64) (now : Instant) (row row' : Row) : Prop :=
  ∀ name, row'.get? name =
    if name = "bk_biz_id" then some (.numeric business)
    else if name = "reviser" then some (.string user)
    else if name = "updated_at" then some (.time now) else row.get? name

theorem Row.takenBy_revised {business : Int64} (h : 0 < business) (user : String) (now : Instant)
    (row : Row) : row.TakenBy user business now
      (Store.revised (Entity.schema Group) now (Entity.updateRow (assigned user business)) row) := by
  intro name
  have hupdated : (Entity.schema Group).contains "updated_at" = true := by decide
  rw [Store.overlaid_revised, get?_assigned h]
  by_cases hname : name = "updated_at"
  · subst hname
    simp [hupdated]
  · rw [if_neg fun h => hname h.1, if_neg hname]
    split
    · rfl
    · split <;> rfl

/-! ### What is remembered of an assignment -/

/-- The discipline of an assignment on a store with distinct ids.  It remembers how many groups the
update has written, if it was carried out, and then expects no other call. -/
def Discipline.counting (config : Store.Config) (user : String) (a : Assignment) :
    Discipline (Option Nat) where
  may := fun count c => count = none ∧
    (c = assignCall user a ∧ 0 < a.business ∨ ∃ t schema filter page, c = .list t schema filter page)
  gives := fun _ c answer =>
    ∃ s : Store, s.Distinct config.supply ∧ answer = (s.perform config c).1
  next := fun count c answer =>
    match c, answer with
    | .update .., .ok n => some n
    | _, _ => count

/-- A refusal of a request after the update tells how many groups it has written, and they are not
all that were asked for. -/
def Assignment.Tells (a : Assignment) (count : Option Nat) (e : ServiceError) : Prop :=
  ∀ v, e = .violation v → ∀ n, count = some n → n ≠ a.groupIds.eraseDups.length ∧
    v = lostRace n a.groupIds.eraseDups.length a.business

section

variable {config : Store.Config} {user : String} {a : Assignment}

theorem Discipline.reads_counting :
    (counting config user a).Reads config (fun s => s.Distinct config.supply) none where
  may := fun t schema filter page => ⟨rfl, .inr ⟨t, schema, filter, page, rfl⟩⟩
  next := fun _ _ _ _ _ _ => rfl
  gives := fun _ _ _ _ _ ⟨s, hs, hans⟩ => ⟨s, hs, hans⟩

/-- Whatever an assignment is refused for, it tells what its update has written. -/
theorem Job.counting_script {job : Job} (h : job.operation = .assign a) :
    job.script.Obeys (.counting config job.user a) none fun count result =>
      ∀ e, result = .error e → a.Tells count e := by
  have hassign : (assign job.limit job.user a).Obeys (.counting config job.user a) none a.Tells
      fun _ _ => True := by
    refine obeys_assign Discipline.reads_counting (fun s hs => hs.nodup .groups) ?_ ?_
    · rintro e v - n ⟨⟩
    · refine fun hpos => ⟨⟨rfl, .inl ⟨rfl, hpos⟩⟩, ?_⟩
      intro answer _
      cases answer with
      | error e => rintro v ⟨⟩
      | ok n =>
        show if n = a.groupIds.eraseDups.length then True else a.Tells (some n) _
        split
        · trivial
        · rintro v ⟨⟩ _ ⟨⟩
          exact ⟨‹_›, rfl⟩
  rw [Job.script_assign h]
  refine Script.Obeys.mono (Action.obeys_map (R := fun _ _ => True) hassign) ?_
  rintro count result hresult e rfl
  exact hresult

end

/-! ### In a schedule -/

namespace System

variable {config : Store.Config} {store : Store} {moves before : List Move} {i : Nat}
  {user : String} {a : Assignment}

/-- The next move of a session leaves the store as it is. -/
def Quiet (config : Store.Config) (store : Store) (before : List Move) (i : Nat) : Prop :=
  (after config store (before ++ [.resume i])).store = (after config store before).store

/-- The next move of a session is the update of an assignment, and writes a number of groups. -/
structure Counted (config : Store.Config) (store : Store) (before : List Move) (i : Nat)
    (user : String) (a : Assignment) (n : Nat) : Prop where
  pos : 0 < a.business
  answer : ((after config store before).store.perform config (assignCall user a)).1 = .ok n
  store : (after config store (before ++ [.resume i])).store =
    ((after config store before).store.perform config (assignCall user a)).2

/-- What a session has written in a schedule: nothing, or some groups by one of its moves. -/
def Recalls (config : Store.Config) (store : Store) (i : Nat) (user : String) (a : Assignment)
    (moves : List Move) : Option Nat → Prop
  | none => ∀ before, before ++ [.resume i] <+: moves → Quiet config store before i
  | some n => ∃ before, before ++ [.resume i] <+: moves ∧ Counted config store before i user a n ∧
      ∀ other, other ++ [.resume i] <+: moves → other ≠ before → Quiet config store other i

/-- A move of a session is one of those so far, or the one that comes now. -/
theorem prefix_concat_move {m : Move} (h : before ++ [.resume i] <+: moves ++ [m]) :
    before ++ [.resume i] <+: moves ∨ before = moves ∧ m = .resume i := by
  rcases List.prefix_concat_iff.1 h with heq | hprefix
  · obtain ⟨hbefore, hm⟩ := List.append_inj' heq rfl
    exact .inr ⟨hbefore, (List.singleton_inj.1 hm).symm⟩
  · exact .inl hprefix

theorem Recalls.quiet {m : Move} {count : Option Nat}
    (h : Recalls config store i user a moves count)
    (hquiet : m = .resume i → Quiet config store moves i) :
    Recalls config store i user a (moves ++ [m]) count := by
  cases count with
  | none =>
    intro before hbefore
    rcases prefix_concat_move hbefore with hold | ⟨rfl, hm⟩
    · exact h before hold
    · exact hquiet hm
  | some n =>
    obtain ⟨writing, hwriting, hcounted, hothers⟩ := h
    refine ⟨writing, hwriting.trans (List.prefix_append _ _), hcounted, ?_⟩
    intro other hother hne
    rcases prefix_concat_move hother with hold | ⟨rfl, hm⟩
    · exact hothers other hold hne
    · exact hquiet hm

/-- After a call a session recalls what the discipline remembers. -/
theorem Recalls.call (hs : Function.Injective config.supply.id) (hd : store.Distinct config.supply)
    {count : Option Nat} {c : Call} (h : Recalls config store i user a moves count)
    (hmay : (Discipline.counting config user a).may count c)
    (hstore : (after config store (moves ++ [.resume i])).store =
      ((after config store moves).store.perform config c).2) :
    let answer := ((after config store moves).store.perform config c).1
    (Discipline.counting config user a).gives count c answer ∧
      Recalls config store i user a (moves ++ [.resume i])
        ((Discipline.counting config user a).next count c answer) := by
  have hdistinct := (evolves_start config store moves).distinct hs hd
  refine ⟨⟨_, hdistinct, rfl⟩, ?_⟩
  obtain ⟨rfl, ⟨rfl, hpos⟩ | ⟨t, schema, filter, page, rfl⟩⟩ := hmay
  · cases hans : ((after config store moves).store.perform config (assignCall user a)).1 with
    | error e => exact h.quiet fun _ => hstore.trans (Store.perform_error hans)
    | ok n =>
      refine ⟨moves, List.prefix_rfl, ⟨hpos, hans, hstore⟩, ?_⟩
      intro other hother hne
      rcases prefix_concat_move hother with hold | ⟨rfl, -⟩
      · exact h other hold
      · exact absurd rfl hne
  · exact h.quiet fun _ => hstore

/-- **A refused assignment** has written nothing, or tells what one of its moves has written. -/
theorem recalled (hs : Function.Injective config.supply.id) (hd : store.Distinct config.supply)
    {session : Session} {e : ServiceError}
    (hi : (after config store moves).sessions[i]? = some session)
    (ha : session.job.operation = .assign a) (hrest : session.rest = .done (.error e)) :
    ∃ count, Recalls config store i session.job.user a moves count ∧ a.Tells count e := by
  obtain ⟨count, hrecalls, hobeys⟩ := (remembers_after
    (P := Recalls config store i session.job.user a) (Job.counting_script ha)
    (fun before h => absurd (List.prefix_nil.1 h) (by simp))
    (fun _ _ _ h hquiet => h.quiet fun hm => by
      subst hm
      exact hquiet rfl)
    (fun _ _ _ h hmay hstore => h.call hs hd hmay hstore) moves).2 session hi rfl
  rw [hrest] at hobeys
  exact ⟨count, hrecalls, hobeys e rfl⟩

/-- What an assignment does that is refused after its update: it has taken the groups that were
left, and tells how many. -/
structure TakesLeft (config : Store.Config) (store : Store) (before : List Move) (i : Nat)
    (user : String) (a : Assignment) (v : Violation) : Prop where
  told : ∃ left : List String, left.Nodup ∧
    (∀ id, id ∈ left ↔ id ∈ a.groupIds ∧
      ∃ row ∈ (after config store before).store.rows .groups, row.Carries id Group.unassigned) ∧
    left.length < a.groupIds.eraseDups.length ∧
    v = lostRace left.length a.groupIds.eraseDups.length a.business
  rows : List.Forall₂ (fun row row' =>
      (∃ id ∈ a.groupIds, row.Carries id Group.unassigned) ∧ row.TakenBy user a.business
          (config.supply.clock (after config store before).store.ticks) row' ∨
        (¬ ∃ id ∈ a.groupIds, row.Carries id Group.unassigned) ∧ row' = row)
    ((after config store before).store.rows .groups)
    ((after config store (before ++ [.resume i])).store.rows .groups)
  others : ∀ t, t ≠ .groups → (after config store (before ++ [.resume i])).store.rows t =
    (after config store before).store.rows t

theorem Counted.takesLeft (hs : Function.Injective config.supply.id)
    (hd : store.Distinct config.supply) (hf : store.Fitting) {n : Nat}
    (h : Counted config store before i user a n) (hne : n ≠ a.groupIds.eraseDups.length) :
    TakesLeft config store before i user a (lostRace n a.groupIds.eraseDups.length a.business) := by
  have hevolves := evolves_start config store before
  have hfit := hevolves.fitting hf
  have hdistinct := hevolves.distinct hs hd
  obtain ⟨-, -, -, -, hn, hafter⟩ := Store.update_eq_ok.1 (Store.keep_eq_ok.1 h.answer)
  have hstore := h.store.trans hafter
  constructor
  · obtain ⟨left, hnodup, hmem, hlength⟩ := Store.exists_left hfit hdistinct a.groupIds
    have hle := (List.subperm_of_subset hnodup fun id hid =>
      List.mem_eraseDups.2 ((hmem id).1 hid).1).length_le
    obtain rfl : n = left.length := hn.trans hlength.symm
    exact ⟨left, hnodup, hmem, Nat.lt_of_le_of_ne hle hne, rfl⟩
  · rw [hstore]
    refine Store.forall₂_rows_afterUpdate (fun row hrow hp => ?_) (fun row hrow hp => ?_)
    · exact .inl ⟨(passes_stillUnassigned (hfit .groups row hrow)).1 hp,
        Row.takenBy_revised h.pos user _ row⟩
    · refine .inr ⟨fun hleft => ?_, rfl⟩
      rw [(passes_stillUnassigned (hfit .groups row hrow)).2 hleft] at hp
      cases hp
  · intro t ht
    rw [hstore]
    exact Store.rows_withRows_of_ne ht _ _

end System

/-- **A refused assignment keeps the groups that were left.**  In every schedule of jobs, on a store
with distinct ids whose rows fit their tables, an assignment that is refused for its request either
has not changed the store by any of its moves; or one of them was its update, carried out when not
all of the groups that it was asked for were still there and unassigned.  It then has assigned those
that were, each of them and nothing else, the refusal tells how many they were, and no other of its
moves has changed the store. -/
theorem refused_assignments_take_what_is_left (config : Store.Config) (store : Store)
    (hs : Function.Injective config.supply.id) (hd : store.Distinct config.supply)
    (hf : store.Fitting) {moves : List Move} {i : Nat} {session : Session} {a : Assignment}
    {v : Violation} (hi : (System.after config store moves).sessions[i]? = some session)
    (ha : session.job.operation = .assign a)
    (hrefused : session.rest = .done (.error (.violation v))) :
    (∀ before, before ++ [.resume i] <+: moves → System.Quiet config store before i) ∨
    ∃ before, before ++ [.resume i] <+: moves ∧
      System.TakesLeft config store before i session.job.user a v ∧
      ∀ other, other ++ [.resume i] <+: moves → other ≠ before →
        System.Quiet config store other i := by
  obtain ⟨count, hrecalls, htells⟩ := System.recalled hs hd hi ha hrefused
  cases count with
  | none => exact .inl hrecalls
  | some n =>
    obtain ⟨before, hbefore, hcounted, hothers⟩ := hrecalls
    obtain ⟨hne, rfl⟩ := htells v rfl n rfl
    exact .inr ⟨before, hbefore, hcounted.takesLeft hs hd hf hne, hothers⟩

/-- Of two groups that a user assigns, another user assigns one; both have loaded what they assign
before either writes. -/
def Move.overlap : List Move :=
  [.start .creation, .resume 0, .start .creation, .resume 1,
    .start ⟨500, "ann", .assign ⟨5, ["|", "||"]⟩⟩, .start ⟨500, "bob", .assign ⟨7, ["|"]⟩⟩,
    .resume 2, .resume 3, .resume 3, .resume 2]

/-- The user, the assignment and the reason of a session that was refused for its request. -/
def Session.refused? (session : Session) : Option (String × Assignment × Violation) :=
  match session.job.operation, session.rest with
  | .assign a, .done (.error (.violation v)) => some (session.job.user, a, v)
  | _, _ => none

theorem Session.eq_of_refused? {session : Session} {user : String} {a : Assignment} {v : Violation}
    (h : session.refused? = some (user, a, v)) : session.job.user = user ∧
      session.job.operation = .assign a ∧ session.rest = .done (.error (.violation v)) := by
  rw [Session.refused?] at h
  split at h
  · rename_i hop hrest
    cases h
    exact ⟨rfl, hop, hrest⟩
  · cases h

/-- The first user is refused, and yet has one of the two groups. -/
theorem overlap_leaves_one :
    let config : Store.Config := ⟨Supply.strokes, 500⟩
    (∃ before, before ++ [.resume 2] <+: Move.overlap ∧
      System.TakesLeft config .empty before 2 "ann" ⟨5, ["|", "||"]⟩ (lostRace 1 2 5)) ∧
    ((System.after config .empty Move.overlap).store.rows .groups).map
      (fun row => ((row.cell "id").string?, (row.cell "bk_biz_id").numeric?)) =
        [(some "|", some 7), (some "||", some 5)] := by
  intro config
  have hrefused : ((System.after config .empty Move.overlap).sessions[2]?).bind Session.refused? =
      some ("ann", ⟨5, ["|", "||"]⟩, lostRace 1 2 5) := by decide +kernel
  obtain ⟨session, hi, hsession⟩ := Option.bind_eq_some_iff.1 hrefused
  obtain ⟨huser, ha, hrest⟩ := Session.eq_of_refused? hsession
  refine ⟨?_, by decide +kernel⟩
  rcases refused_assignments_take_what_is_left config .empty Supply.injective_strokes
      (Store.distinct_empty _) Store.fitting_empty hi ha hrest with
    hquiet | ⟨before, hbefore, htakes, -⟩
  · -- the last move is one of the first user, and not a quiet one
    have hlast : System.Quiet config .empty (Move.overlap.take 9) 2 := hquiet _ List.prefix_rfl
    have hticks : (System.after config .empty (Move.overlap.take 9 ++ [.resume 2])).store.ticks ≠
        (System.after config .empty (Move.overlap.take 9)).store.ticks := by decide +kernel
    exact absurd (congrArg Store.ticks hlast) hticks
  · exact ⟨before, hbefore, huser ▸ htakes⟩

end SecurityGroups
