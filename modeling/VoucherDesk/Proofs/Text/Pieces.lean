import Mathlib.Data.List.Basic

/-!
# Pieces of a text

What stands between the separators of a list is without them, and pieces without separators that
each have one after them are what stands between the separators.
-/

namespace VoucherDesk.Text

variable {α : Type} [DecidableEq α] {a : α} {l piece : List α} {pieces : List (List α)}

/-- No piece of a list has a separator. -/
theorem notMem_of_mem_splitOn (h : piece ∈ l.splitOn a) : a ∉ piece := by
  induction l generalizing piece with
  | nil =>
    rw [List.splitOn_nil, List.mem_singleton] at h
    rw [h]
    exact List.not_mem_nil
  | cons c rest ih =>
    rw [List.splitOn_cons_eq_if_modifyHead] at h
    split at h
    · rcases List.mem_cons.mp h with rfl | h
      · exact List.not_mem_nil
      · exact ih h
    · next hc =>
      -- the character goes to the first piece of the rest, and it is no separator
      obtain ⟨first, others, hsplit⟩ := List.exists_cons_of_ne_nil (List.splitOn_ne_nil a rest)
      rw [hsplit] at h ih
      rcases List.mem_cons.mp h with rfl | h
      · refine List.not_mem_cons_of_ne_of_not_mem ?_ (ih (List.mem_cons_self ..))
        rintro rfl
        exact hc (beq_self_eq_true _)
      · exact ih (List.mem_cons_of_mem _ h)

/-- Pieces that each have a separator after them are read back, with nothing after the last. -/
theorem splitOn_flatMap_concat (h : ∀ p ∈ pieces, a ∉ p) :
    (pieces.flatMap (· ++ [a])).splitOn a = pieces ++ [[]] := by
  induction pieces with
  | nil => rfl
  | cons first rest ih =>
    obtain ⟨hfirst, hrest⟩ := List.forall_mem_cons.mp h
    rw [List.flatMap_cons, List.append_assoc, List.singleton_append,
      List.splitOn_append_cons_self_of_not_mem hfirst, ih hrest, List.cons_append]

end VoucherDesk.Text
