/-
SecurityGroups/Proofs/ColumnMerges.lean

Columns put together.

Of several columns of one name the first is kept.  `Column.firsts` says this of a list without
walking it: a column stays when no column before it has its name.  The walk remembers the names
that it has met, and what it makes of two lists is what it makes of the first, followed by what it
makes of the second with the names of the first in memory (`Column.distinct_append`):

    distinct seen (cs ++ ds) = distinct seen cs ++ distinct (names cs ++ seen) ds

All laws of merging come from this.  The columns of a schema stay in front of what is merged into
it (`Schema.columns_merge`), columns may be merged one list after the other or all at once
(`Schema.merge_ofColumns`), and columns whose names are taken change nothing
(`Schema.merge_eq_self`).
-/
import Mathlib.Data.List.Induction
import SecurityGroups.Entity.RuleEntry

namespace SecurityGroups

/-! ### The first column of each name -/

namespace Column

variable {seen seen' : List String} {cs : List Column} {name : String}

/-- The columns of a list that have a name which no column before them has. -/
def firsts (cs : List Column) : List Column :=
  (cs.zipIdx.filter fun (c, i) => c.name ∉ (cs.take i).map Column.name).map Prod.fst

/-- A column at the end is one of the first when its name is new. -/
theorem firsts_concat (cs : List Column) (c : Column) :
    firsts (cs ++ [c]) = firsts cs ++ if c.name ∈ cs.map Column.name then [] else [c] := by
  -- what stands before a column of the list is not changed by what comes after the list
  have hinner : (cs.zipIdx.filter fun (d, i) => d.name ∉ ((cs ++ [c]).take i).map Column.name) =
      cs.zipIdx.filter fun (d, i) => d.name ∉ (cs.take i).map Column.name := by
    refine List.filter_congr fun (d, i) hmem => ?_
    have hi : i < cs.length := by simpa using List.snd_lt_of_mem_zipIdx hmem
    have htake : (cs ++ [c]).take i = cs.take i := List.take_append_of_le_length (Nat.le_of_lt hi)
    simp only [htake]
  rw [firsts, List.zipIdx_append, List.filter_append, List.map_append, hinner]
  simp only [List.zipIdx_singleton, Nat.zero_add, List.take_left, List.filter_cons, List.filter_nil]
  by_cases hc : c.name ∈ cs.map Column.name
  · simp [firsts, hc]
  · simp [firsts, hc]

/-- Which names have been met matters, and nothing else about them. -/
theorem distinct_congr (h : ∀ name, name ∈ seen ↔ name ∈ seen') :
    distinct seen cs = distinct seen' cs := by
  induction cs generalizing seen seen' with
  | nil => rfl
  | cons c cs ih =>
    have hcons : ∀ name, name ∈ c.name :: seen ↔ name ∈ c.name :: seen' := by
      intro name
      rw [List.mem_cons, List.mem_cons, h name]
    simp only [distinct, h c.name, ih h, ih hcons]

/-- **After some columns**, their names count as met. -/
theorem distinct_append (seen : List String) (cs ds : List Column) :
    distinct seen (cs ++ ds) = distinct seen cs ++ distinct (cs.map Column.name ++ seen) ds := by
  induction cs generalizing seen with
  | nil => rfl
  | cons c cs ih =>
    rw [List.cons_append, distinct, distinct]
    split
    · rename_i hc
      rw [ih]
      refine congrArg _ (distinct_congr fun name => ?_)
      -- the name of the first column has been met before
      simp only [List.map_cons, List.cons_append, List.mem_cons, List.mem_append]
      constructor
      · exact .inr
      · rintro (rfl | h)
        · exact .inr hc
        · exact h
    · rw [ih, List.cons_append]
      refine congrArg _ (congrArg _ (distinct_congr fun name => ?_))
      simp only [List.map_cons, List.cons_append, List.mem_cons, List.mem_append]
      exact or_left_comm

/-- The walk keeps the first column of each name. -/
theorem distinct_eq_firsts (cs : List Column) : distinct [] cs = firsts cs := by
  induction cs using List.reverseRecOn with
  | nil => rfl
  | append_singleton cs c ih =>
    rw [distinct_append, firsts_concat, ih, List.append_nil]
    simp only [distinct]

theorem mem_names_distinct : name ∈ (distinct seen cs).map Column.name ↔
    name ∈ cs.map Column.name ∧ name ∉ seen := by
  induction cs generalizing seen with
  | nil => simp [distinct]
  | cons c cs ih =>
    rw [distinct]
    split
    · rename_i hc
      rw [ih, List.map_cons, List.mem_cons]
      constructor
      · rintro ⟨hname, hseen⟩
        exact ⟨.inr hname, hseen⟩
      · rintro ⟨rfl | hname, hseen⟩
        · exact absurd hc hseen
        · exact ⟨hname, hseen⟩
    · rename_i hc
      rw [List.map_cons, List.mem_cons, ih, List.map_cons, List.mem_cons, List.mem_cons]
      constructor
      · rintro (rfl | ⟨hname, hseen⟩)
        · exact ⟨.inl rfl, hc⟩
        · exact ⟨.inr hname, fun h => hseen (.inr h)⟩
      · rintro ⟨hname, hseen⟩
        by_cases heq : name = c.name
        · exact .inl heq
        · exact .inr ⟨hname.resolve_left heq, fun h => hseen (h.resolve_left heq)⟩

theorem distinct_sublist (seen : List String) (cs : List Column) :
    (distinct seen cs).Sublist cs := by
  induction cs generalizing seen with
  | nil => exact .slnil
  | cons c cs ih =>
    rw [distinct]
    split
    · exact (ih _).cons c
    · exact (ih _).cons_cons c

/-- Under a name that has not been met, the first column of that name is found. -/
theorem find?_distinct (h : name ∉ seen) :
    (distinct seen cs).find? (·.name == name) = cs.find? (·.name == name) := by
  induction cs generalizing seen with
  | nil => rfl
  | cons c cs ih =>
    rw [distinct]
    by_cases hname : c.name = name
    · subst hname
      rw [if_neg h, List.find?_cons_of_pos (by simp), List.find?_cons_of_pos (by simp)]
    · rw [List.find?_cons_of_neg (by simpa using hname)]
      split
      · exact ih h
      · rw [List.find?_cons_of_neg (by simpa using hname)]
        refine ih fun hmem => ?_
        rcases List.mem_cons.1 hmem with rfl | hmem
        · exact hname rfl
        · exact h hmem

/-- Columns with new names of their own are all kept. -/
theorem distinct_eq_self (hn : (cs.map Column.name).Nodup) (h : ∀ c ∈ cs, c.name ∉ seen) :
    distinct seen cs = cs := by
  induction cs generalizing seen with
  | nil => rfl
  | cons c cs ih =>
    obtain ⟨hc, hcs⟩ := List.forall_mem_cons.1 h
    obtain ⟨hnew, hn⟩ := List.nodup_cons.1 hn
    rw [distinct, if_neg hc, ih hn]
    intro d hd hmem
    rcases List.mem_cons.1 hmem with heq | hmem
    · exact hnew (List.mem_map.2 ⟨d, hd, heq⟩)
    · exact hcs d hd hmem

/-- Columns whose names have all been met are all dropped. -/
theorem distinct_eq_nil (h : ∀ c ∈ cs, c.name ∈ seen) : distinct seen cs = [] := by
  induction cs with
  | nil => rfl
  | cons c cs ih =>
    obtain ⟨hc, hcs⟩ := List.forall_mem_cons.1 h
    rw [distinct, if_pos hc, ih hcs]

end Column

/-! ### Merging -/

namespace Schema

variable {s : Schema} {as bs : List Column}

theorem ofColumns_columns (s : Schema) : ofColumns s.columns = s :=
  Schema.ext (Column.distinct_eq_self s.nodup nofun)

/-- What is merged comes after what is there, as far as its names are new. -/
theorem columns_merge (s : Schema) (bs : List Column) :
    (s.merge bs).columns = s.columns ++ Column.distinct s.names bs := by
  show Column.distinct [] (s.columns ++ bs) = _
  rw [Column.distinct_append, List.append_nil]
  exact congrArg (· ++ _) (congrArg columns s.ofColumns_columns)

theorem mem_names_ofColumns {name : String} :
    name ∈ (ofColumns as).names ↔ name ∈ as.map Column.name := by
  show name ∈ (Column.distinct [] as).map Column.name ↔ _
  rw [Column.mem_names_distinct]
  exact and_iff_left List.not_mem_nil

/-- **Columns are merged all at once or one list after the other.** -/
theorem merge_ofColumns (as bs : List Column) : (ofColumns as).merge bs = ofColumns (as ++ bs) := by
  refine Schema.ext ?_
  rw [columns_merge]
  show _ = Column.distinct [] (as ++ bs)
  rw [Column.distinct_append, List.append_nil]
  exact congrArg _ (Column.distinct_congr fun name => mem_names_ofColumns)

/-- Columns whose names are taken change nothing. -/
theorem merge_eq_self (h : ∀ c ∈ bs, c.name ∈ s.names) : s.merge bs = s := by
  refine Schema.ext ?_
  rw [columns_merge, Column.distinct_eq_nil h, List.append_nil]

theorem columns_prefix_merge (s : Schema) (bs : List Column) :
    s.columns <+: (s.merge bs).columns := by
  rw [columns_merge]
  exact List.prefix_append _ _

end Schema

/-- The columns that all entries have stand first, as they are, whatever the rules add. -/
theorem RuleEntry.baseColumns_prefix_schemaWith (extension : List Column) :
    baseColumns <+: (schemaWith extension).columns := by
  have hbase : (Schema.ofColumns baseColumns).columns = baseColumns := rfl
  have hext := (Schema.ofColumns baseColumns).columns_prefix_merge extension
  rw [hbase] at hext
  exact hext.trans (Schema.columns_prefix_merge _ _)

/-- **Columns are merged by name.**  Two lists of columns make the schema of those columns that are
the first of their name in the one list followed by the other: no name is repeated, the names are
those of both lists, under each name the first column of that name is found, the columns stand in
the order of the lists, and those that the first list makes by itself stand in front.  Merging more
columns into the schema is the same as merging them with the second list; merging nothing, the
second list or the schema itself again changes nothing.  So the columns that all entries have come
first in the table of the rules of any cloud, as they are. -/
theorem columns_are_merged_by_name (as bs cs : List Column) :
    let s := Schema.ofColumns (as ++ bs)
    s.columns = Column.firsts (as ++ bs) ∧
    s.names.Nodup ∧
    (∀ name, name ∈ s.names ↔ name ∈ as.map Column.name ∨ name ∈ bs.map Column.name) ∧
    (∀ name, s.find? name = (as ++ bs).find? (·.name == name)) ∧
    s.columns.Sublist (as ++ bs) ∧
    (Schema.ofColumns as).columns <+: s.columns ∧
    s = (Schema.ofColumns as).merge bs ∧
    s.merge cs = Schema.ofColumns (as ++ (bs ++ cs)) ∧
    (s.merge [] = s ∧ s.merge bs = s ∧ s.merge s.columns = s) ∧
    ∀ extension, RuleEntry.baseColumns <+: (RuleEntry.schemaWith extension).columns := by
  intro s
  have hs : s = (Schema.ofColumns as).merge bs := (Schema.merge_ofColumns as bs).symm
  have hnames : ∀ name, name ∈ s.names ↔
      name ∈ as.map Column.name ∨ name ∈ bs.map Column.name := by
    intro name
    rw [Schema.mem_names_ofColumns, List.map_append, List.mem_append]
  refine ⟨Column.distinct_eq_firsts _, Column.nodup_distinct [] _, hnames, fun name => ?_,
    Column.distinct_sublist [] _, ?_, hs, ?_, ⟨?_, ?_, ?_⟩, ?_⟩
  · exact Column.find?_distinct List.not_mem_nil
  · rw [hs]
    exact Schema.columns_prefix_merge _ bs
  · rw [Schema.merge_ofColumns, List.append_assoc]
  · exact Schema.merge_eq_self nofun
  · exact Schema.merge_eq_self fun c hc => (hnames _).2 (.inr (List.mem_map_of_mem hc))
  · exact Schema.merge_eq_self fun c hc => List.mem_map_of_mem hc
  · exact RuleEntry.baseColumns_prefix_schemaWith

/-- Of two columns of one name in the first list, and one in the second, the very first is kept. -/
example : (Schema.ofColumns
    ([⟨"id", "id", .string⟩, ⟨"name", "label", .string⟩, ⟨"name", "name", .json⟩] ++
      [⟨"name", "title", .enum⟩, ⟨"memo", "memo", .string⟩])).columns =
    [⟨"id", "id", .string⟩, ⟨"name", "label", .string⟩, ⟨"memo", "memo", .string⟩] := by decide

end SecurityGroups
