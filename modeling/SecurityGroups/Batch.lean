/-
SecurityGroups/Batch.lean

Lists cut into batches of a bounded size.

`flatten_split` says that the batches of a list make up the list, and
`length_le_of_mem_split` that none is larger than asked for.  A size of zero
counts as one.
-/

namespace SecurityGroups.Batch

variable {α : Type}

/-- Cuts a list into batches of a size; only the last may be smaller. -/
def split (size : Nat) : List α → List (List α)
  | [] => []
  | x :: xs => (x :: xs.take (size - 1)) :: split size (xs.drop (size - 1))
termination_by xs => xs.length

/-- The batches of a list make up the list. -/
theorem flatten_split (size : Nat) (xs : List α) : (split size xs).flatten = xs := by
  fun_induction split size xs with
  | case1 => rfl
  | case2 x xs ih => rw [List.flatten_cons, ih, List.cons_append, List.take_append_drop]

/-- No batch is larger than asked for. -/
theorem length_le_of_mem_split {size : Nat} {xs batch : List α} (h : batch ∈ split size xs) :
    batch.length ≤ max size 1 := by
  fun_induction split size xs with
  | case1 => cases h
  | case2 x xs ih =>
    rcases List.mem_cons.1 h with rfl | h
    · rw [List.length_cons, List.length_take]
      omega
    · exact ih h

/-- No batch is empty. -/
theorem ne_nil_of_mem_split {size : Nat} {xs batch : List α} (h : batch ∈ split size xs) :
    batch ≠ [] := by
  fun_induction split size xs with
  | case1 => cases h
  | case2 x xs ih =>
    rcases List.mem_cons.1 h with rfl | h
    · exact List.cons_ne_nil _ _
    · exact ih h

end SecurityGroups.Batch
