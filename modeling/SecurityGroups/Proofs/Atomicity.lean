/-
SecurityGroups/Proofs/Atomicity.lean

A job that refuses has changed nothing.

This is so for every job that has the store to itself, once the store was
filled by jobs alone.  For most operations it is plain, because the one call
that writes is their last.  Two operations go on after they have written, and
for them more is shown: an assignment and a deletion answer what they read,
so nothing that they do after their first write can refuse
(`Action.run_bind_eq_map`).
-/
import SecurityGroups.Proofs.Inventory

namespace SecurityGroups

open Service

/-! ### Actions in two parts -/

section

variable {α β : Type} {config : Store.Config} {s : Store}

theorem Action.run_map (f : α → β) (action : Action α) :
    (f <$> action).run config s = ((action.run config s).1.map f, (action.run config s).2) := by
  rw [map_eq_pure_bind, run_bind]
  rcases action.run config s with ⟨e | x, after⟩
  · rfl
  · rfl

/-- If the second part never refuses, and answers what can be told from the first, then the whole
answers as the first part does. -/
theorem Action.run_bind_eq_map {action : Action α} {next : α → Action β} {f : α → β}
    {E : Store → ServiceError → Prop} {Q : Store → α → Prop}
    (h : action.Obeys (.sequential config) s E Q)
    (hnext : ∀ s' x, Q s' x →
      (next x).Obeys (.sequential config) s' (fun _ _ => False) fun _ y => y = f x) :
    ((action >>= next).run config s).1 = (action.run config s).1.map f := by
  have hrun := h.run
  rw [run_bind]
  generalize action.run config s = outcome at hrun
  obtain ⟨e | x, after⟩ := outcome
  · -- the second part is not reached
    rfl
  · have hlast := (hnext after x hrun).run
    show ((next x).run config after).1 = .ok (f x)
    generalize (next x).run config after = outcome at hlast
    obtain ⟨e | y, last⟩ := outcome
    · exact hlast.elim
    · exact congrArg Except.ok hlast

/-- An action that leaves the store as it is, whatever it ends in. -/
theorem Action.Obeys.run_eq_self {action : Action α} {Q : Store → α → Prop}
    (h : action.Obeys (.sequential config) s (fun s' _ => s' = s) Q)
    (hQ : ∀ s' x, Q s' x → s' = s) : (action.run config s).2 = s := by
  have hrun := h.run
  generalize action.run config s = outcome at hrun
  obtain ⟨e | x, after⟩ := outcome
  · exact hrun
  · exact hQ after x hrun

/-! ### Assignments and deletions -/

theorem Service.run_assignable (limit : UInt32) (user : String) (a : Assignment) :
    ((assignable limit user a).run config s).2 = s :=
  (obeys_assignable Discipline.reads_sequential (E := fun s' _ => s' = s) fun _ => rfl).run_eq_self
    fun _ _ h => h.1

theorem Service.run_deletable (limit : UInt32) (deletion : Deletion) :
    ((deletable limit deletion).run config s).2 = s :=
  (obeys_deletable Discipline.reads_sequential (E := fun s' _ => s' = s) fun _ => rfl).run_eq_self
    fun _ _ h => h.1

/-- An assignment answers the number of groups that it has loaded, if all of them may be assigned. -/
theorem Service.run_assign (hsound : s.Sound) (hd : s.Distinct config.supply) (limit : UInt32)
    (user : String) (a : Assignment) : ((assign limit user a).run config s).1 =
      ((assignable limit user a).run config s).1.map List.length := by
  rw [assign_eq]
  refine Action.run_bind_eq_map
    (obeys_assignable Discipline.reads_sequential (E := fun _ _ => True) fun _ => trivial) ?_
  rintro s' groups ⟨rfl, -, hgroups, hassignable⟩
  exact (obeys_assignAll_alone hsound hd hgroups hassignable).mono (fun _ _ h => h) fun _ _ h => h.1

/-- A deletion answers the number of groups that it has loaded, if all of them are there. -/
theorem Service.run_deleteGroups (hsound : s.Sound) (hd : s.Distinct config.supply)
    (limit : UInt32) (deletion : Deletion) (tour : Vendor.Tour) :
    ((deleteGroups limit deletion tour).run config s).1 =
      ((deletable limit deletion).run config s).1.map List.length := by
  rw [deleteGroups_eq]
  refine Action.run_bind_eq_map
    (obeys_deletable Discipline.reads_sequential (E := fun _ _ => True) fun _ => trivial) ?_
  rintro s' groups ⟨rfl, hgroups⟩
  exact (obeys_deleteAll_alone hsound hd tour hgroups).mono (fun _ _ h => h) fun _ _ h => h.1

end

/-! ### Every job -/

/-- **A job that refuses has changed nothing**, neither a row nor the ids and times that the store
will give out.  What an assignment answers, and what a deletion answers, is settled before either of
them writes. -/
theorem refusal_changes_nothing (config : Store.Config)
    (hs : Function.Injective config.supply.id) (history : List Job) (job : Job) :
    let s := play config history .empty
    (∀ e, (job.run config s).1 = .error e → (job.run config s).2 = s) ∧
    (∀ a, job.operation = .assign a →
      ((assignable job.limit job.user a).run config s).2 = s ∧ (job.run config s).1 =
        ((assignable job.limit job.user a).run config s).1.map (.count ·.length)) ∧
    (∀ deletion tour, job.operation = .deleteGroups deletion tour →
      ((deletable job.limit deletion).run config s).2 = s ∧ (job.run config s).1 =
        ((deletable job.limit deletion).run config s).1.map (.count ·.length)) := by
  intro s
  obtain ⟨hsound, hd⟩ : s.Sound ∧ s.Distinct config.supply := Store.sound_play hs history
  refine ⟨(job.run_effect hsound hd).2, ?_, ?_⟩
  · intro a ha
    refine ⟨run_assignable _ _ a, ?_⟩
    rw [Job.run, ha]
    show ((Outcome.count <$> assign job.limit job.user a).run config s).1 = _
    rw [Action.run_map, run_assign hsound hd]
    cases ((assignable job.limit job.user a).run config s).1 <;> rfl
  · intro deletion tour hdeletion
    refine ⟨run_deletable _ deletion, ?_⟩
    rw [Job.run, hdeletion]
    show ((Outcome.count <$> deleteGroups job.limit deletion tour).run config s).1 = _
    rw [Action.run_map, run_deleteGroups hsound hd]
    cases ((deletable job.limit deletion).run config s).1 <;> rfl

/-- A job that assigns a group that is there together with one that is not. -/
def Job.halfAssignment : Job := ⟨500, "bob", .assign ⟨5, ["|", "||"]⟩⟩

/-- Where one group of two is missing, the other is not assigned either. -/
theorem halfAssignment_changes_nothing :
    let config : Store.Config := ⟨Supply.strokes, 500⟩
    let s := play config [.creation] .empty
    (Job.halfAssignment.run config s).1 = .error (.notFound .group "||") ∧
      (Job.halfAssignment.run config s).2 = s := by
  intro config s
  have hmissing : (match (Job.halfAssignment.run config s).1 with
      | .error e => some e
      | .ok _ => none) = some (.notFound .group "||") := by decide +kernel
  have hrefused : (Job.halfAssignment.run config s).1 = .error (.notFound .group "||") := by
    cases h : (Job.halfAssignment.run config s).1 with
    | error e =>
      rw [h] at hmissing
      exact congrArg Except.error (Option.some.inj hmissing)
    | ok x =>
      rw [h] at hmissing
      cases hmissing
  exact ⟨hrefused, (refusal_changes_nothing config Supply.injective_strokes [.creation]
    Job.halfAssignment).1 _ hrefused⟩

end SecurityGroups
