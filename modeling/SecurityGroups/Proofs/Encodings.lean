/-
SecurityGroups/Proofs/Encodings.lean

Records written as JSON members and read back.

What is written of some data is read as those data, if the data can be told
(`Kind.ofJson?_toJson`): all can, but for times whose year has no four digits.
The members of a record are those of its attributes, without those that are left
out because there is nothing to say (`Attribute.find?_dumpAll`).  Reading them
copies the attributes of the record into another one (`Attribute.loadAll_eq_some`).
A member that is left out copies nothing, which is right where the other record has
nothing in that place either (`Attribute.Vacant`).
-/
import Mathlib.Data.List.Nodup
import SecurityGroups.Proofs.Rows
import SecurityGroups.Proofs.Timestamps

namespace SecurityGroups

/-! ### Data -/

namespace Kind

/-- The data can be told from what is written of them: a time has a year that can be written. -/
def Tellable : (k : Kind) → k.Carrier → Prop
  | .optTime, some t => t.HasPlainYear
  | _, _ => True

theorem tellable_of_ne {k : Kind} (h : k ≠ .optTime) (x : k.Carrier) : k.Tellable x := by
  cases k with
  | optTime => exact absurd rfl h
  | _ => trivial

/-- **What is written of some data is read as those data.** -/
theorem ofJson?_toJson {k : Kind} {x : k.Carrier} (h : k.Tellable x) :
    k.ofJson? (k.toJson x) = some x := by
  have htexts : ∀ texts, (Json.ofTexts texts).list? Json.text? = some texts := mapM_text?
  cases k
  case text => rfl
  case optText => cases x <;> rfl
  case number => exact Json.int64?_ofInt64 x
  case optNumber =>
    cases x with
    | none => rfl
    | some n => exact congrArg (Option.map some) (Json.int64?_ofInt64 n)
  case texts => exact htexts x
  case optTexts =>
    cases x with
    | none => rfl
    | some texts => exact congrArg (Option.map some) (htexts texts)
  case optTime =>
    cases x with
    | none => rfl
    | some t =>
      simp only [ofJson?, toJson, Json.ofOption, Json.optional?, Json.text?, Option.bind_some]
      rw [Instant.read?_text .lenient h, Option.map_some]
  case optVendor =>
    cases x with
    | none => rfl
    | some v => exact congrArg (Option.map some) (Vendor.find?_name v)
  case optDirection =>
    cases x with
    | none => rfl
    | some d => exact congrArg (Option.map some) (Direction.find?_name d)

/-- No data are written as an object. -/
theorem bareName_toJson (k : Kind) (x : k.Carrier) : (k.toJson x).bareName = k.toJson x := by
  cases k
  case text => rfl
  case number => rfl
  case texts => rfl
  all_goals cases x <;> rfl

end Kind

/-! ### Members -/

namespace Members

variable {key : String} {value : Json} {ms : Members}

theorem find?_eq_none_of_not_mem (h : key ∉ ms.names) : ms.find? key = none := by
  induction ms with
  | nil => rfl
  | cons m rest ih =>
    obtain ⟨hne, hrest⟩ := List.ne_and_not_mem_of_not_mem_cons h
    rw [find?_cons, if_neg (Ne.symm hne), ih hrest]

/-- In members without a repeated name, each value is found under its name. -/
theorem find?_of_mem (hn : ms.names.Nodup) (h : (key, value) ∈ ms) :
    ms.find? key = some value := by
  induction ms with
  | nil => cases h
  | cons m rest ih =>
    obtain ⟨hnot, hrest⟩ := List.nodup_cons.1 hn
    rcases List.mem_cons.1 h with rfl | hmem
    · exact (find?_cons ..).trans (if_pos rfl)
    · -- the first member has another name, since no name is repeated
      have hne : m.1 ≠ key := by
        rintro rfl
        exact hnot (List.mem_map.2 ⟨_, hmem, rfl⟩)
      rw [find?_cons, if_neg hne, ih hrest hmem]

end Members

/-! ### Records -/

namespace Attribute

variable {α β : Type} {as bs : List (Attribute α)} {a : Attribute α} {x y : α}

/-- The member of the attribute is left out, because there is nothing to say. -/
def Omitted (a : Attribute α) (x : α) : Prop := a.quiet = true ∧ a.get x = a.kind.blank

instance (a : Attribute α) (x : α) : Decidable (a.Omitted x) :=
  inferInstanceAs (Decidable (_ ∧ _))

theorem dump_eq (a : Attribute α) (x : α) :
    a.dump x = if a.Omitted x then [] else [(a.name, a.kind.toJson (a.get x))] := by
  simp only [dump, Omitted, Bool.and_eq_true, decide_eq_true_eq]
  rfl

theorem mem_dumpAll {key : String} {value : Json} : (key, value) ∈ dumpAll as x ↔
    ∃ a ∈ as, ¬ a.Omitted x ∧ key = a.name ∧ value = a.kind.toJson (a.get x) := by
  rw [dumpAll, List.mem_flatMap]
  refine exists_congr fun a => and_congr_right fun _ => ?_
  rw [dump_eq]
  by_cases h : a.Omitted x
  · simp [h]
  · simp [h]

theorem names_dumpAll_cons (a : Attribute α) (as : List (Attribute α)) (x : α) :
    Members.names (dumpAll (a :: as) x) =
      Members.names (a.dump x) ++ Members.names (dumpAll as x) := List.map_append

/-- The members of a record have the names of its attributes, in their order. -/
theorem names_dumpAll (as : List (Attribute α)) (x : α) :
    (Members.names (dumpAll as x)).Sublist (names as) := by
  induction as with
  | nil => exact List.Sublist.slnil
  | cons a as ih =>
    rw [names_dumpAll_cons, dump_eq]
    split
    · exact ih.cons a.name
    · exact ih.cons_cons a.name

/-- Where no attribute is ever left out, there is a member for each. -/
theorem names_dumpAll_of_loud (h : ∀ a ∈ as, a.quiet = false) (x : α) :
    Members.names (dumpAll as x) = names as := by
  induction as with
  | nil => rfl
  | cons a as ih =>
    obtain ⟨ha, has⟩ := List.forall_mem_cons.1 h
    have hin : ¬ a.Omitted x := fun hout => by
      rw [Omitted, ha] at hout
      cases hout.1
    rw [names_dumpAll_cons, dump_eq, if_neg hin, ih has]
    rfl

theorem nodup_names_dumpAll (hn : (names as).Nodup) (x : α) :
    (Members.names (dumpAll as x)).Nodup := (names_dumpAll as x).nodup hn

/-- **The member of an attribute** is what is written of it, unless it is left out. -/
theorem find?_dumpAll (hn : (names as).Nodup) (h : a ∈ as) :
    (dumpAll as x).find? a.name =
      if a.Omitted x then none else some (a.kind.toJson (a.get x)) := by
  split
  · -- no other attribute has the name
    rename_i hout
    refine Members.find?_eq_none_of_not_mem fun hmem => ?_
    obtain ⟨⟨key, value⟩, hm, rfl⟩ := List.mem_map.1 hmem
    obtain ⟨b, hb, hin, hname, -⟩ := mem_dumpAll.1 hm
    obtain rfl := List.inj_on_of_nodup_map hn h hb hname
    exact hin hout
  · rename_i hin
    exact Members.find?_of_mem (nodup_names_dumpAll hn x) (mem_dumpAll.2 ⟨a, h, hin, rfl, rfl⟩)

/-- Values under bare names are written nowhere in a record. -/
theorem map_bareName_dumpAll (as : List (Attribute α)) (x : α) :
    ((dumpAll as x).map fun m => (m.1, m.2.bareName)) = dumpAll as x := by
  refine (List.map_congr_left ?_).trans (List.map_id _)
  rintro ⟨key, value⟩ hmem
  obtain ⟨a, -, -, rfl, rfl⟩ := mem_dumpAll.1 hmem
  exact congrArg (Prod.mk a.name) (Kind.bareName_toJson _ _)

/-! #### Reading -/

/-- When the attributes of one record are copied into another in turn, each finds nothing in its
place. -/
def Vacant : List (Attribute α) → α → α → Prop
  | [], _, _ => True
  | a :: rest, x, y => a.set a.kind.blank y = y ∧ Vacant rest x (a.set (a.get x) y)

theorem vacant_append : Vacant (as ++ bs) x y ↔ Vacant as x y ∧ Vacant bs x (copyAll as x y) := by
  induction as generalizing y with
  | nil => exact (iff_of_eq (true_and _)).symm
  | cons a as ih =>
    rw [List.cons_append, Vacant, ih, Vacant, copyAll, and_assoc]

/-- A place within a part of a record is vacant in the record when it is in the part. -/
theorem vacant_map_lift (as : List (Attribute α)) (get : β → α) (set : α → β → β)
    (hget : ∀ v z, get (set v z) = v) (hself : ∀ z, set (get z) z = z) {w z : β}
    (h : Vacant as (get w) (get z)) : Vacant (as.map (·.lift get set)) w z := by
  induction as generalizing z with
  | nil => trivial
  | cons a as ih =>
    obtain ⟨hblank, hrest⟩ := h
    refine ⟨?_, ih ?_⟩
    · show set (a.set a.kind.blank (get z)) z = z
      rw [hblank, hself]
    · show Vacant as (get w) (get (set (a.set (a.get (get w)) (get z)) z))
      rw [hget]
      exact hrest

/-- **Members that are written of a record** are read into another one as what they were written
of. -/
theorem loadAll_eq_some {ms : Members}
    (hms : ∀ a ∈ as, ms.find? a.name =
      if a.Omitted x then none else some (a.kind.toJson (a.get x)))
    (htell : ∀ a ∈ as, a.kind.Tellable (a.get x)) (hvacant : Vacant as x y) :
    loadAll as ms y = some (copyAll as x y) := by
  induction as generalizing y with
  | nil => rfl
  | cons a as ih =>
    obtain ⟨hblank, hrest⟩ := hvacant
    obtain ⟨hfind, hfinds⟩ := List.forall_mem_cons.1 hms
    obtain ⟨htell, htells⟩ := List.forall_mem_cons.1 htell
    have hload : a.load ms y = some (a.set (a.get x) y) := by
      rw [load, Members.readOr, hfind]
      by_cases hout : a.Omitted x
      · -- nothing is read, and nothing was there to be written
        rw [if_pos hout, hout.2, hblank]
      · rw [if_neg hout]
        show (a.kind.ofJson? _).map _ = _
        rw [Kind.ofJson?_toJson htell, Option.map_some]
    rw [loadAll, hload, Option.bind_some]
    exact ih hfinds htells hrest

end Attribute

end SecurityGroups
