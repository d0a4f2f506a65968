/-
This file is a small theory of lists that are sorted by a key. Items with keys of their own have
one order only, whatever the order they were listed in, and a new item above all others comes last.
Where the keys are sequences, a common beginning changes nothing of that order.
-/

import Mathlib.Data.List.Lex
import Mathlib.Data.List.Sort

namespace Sorting

variable {α κ : Type} [LinearOrder κ]

/-- Items with keys of their own sort to one list. -/
theorem insertionSort_eq_of_perm (key : α → κ) {first second : List α} (perm : first.Perm second)
    (distinct : (second.map key).Nodup) :
    (first.insertionSort fun one other => key one ≤ key other) =
      second.insertionSort fun one other => key one ≤ key other := by
  have permFirst := List.perm_insertionSort (fun one other => key one ≤ key other) first
  have permSecond := List.perm_insertionSort (fun one other => key one ≤ key other) second
  refine List.Perm.eq_of_pairwise (fun one other inFirst inSecond below above => ?_)
    (List.pairwise_insertionSort _ first) (List.pairwise_insertionSort _ second)
    (permFirst.trans (perm.trans permSecond.symm))
  exact List.inj_on_of_nodup_map distinct (perm.subset (permFirst.subset inFirst))
    (permSecond.subset inSecond) (le_antisymm below above)

theorem orderedInsert_append_singleton {r : α → α → Prop} [DecidableRel r] {first last : α}
    (above : r first last) (items : List α) :
    (items ++ [last]).orderedInsert r first = items.orderedInsert r first ++ [last] := by
  induction items with
  | nil => exact List.orderedInsert_cons_of_le r _ above
  | cons item rest inductionHypothesis =>
    by_cases before : r first item
    · rw [List.cons_append, List.orderedInsert_cons_of_le r _ before,
        List.orderedInsert_cons_of_le r _ before]
      rfl
    · rw [List.cons_append, List.orderedInsert_of_not_le r _ before,
        List.orderedInsert_of_not_le r _ before, inductionHypothesis]
      rfl

theorem orderedInsert_of_above {r : α → α → Prop} [DecidableRel r] {last : α} {items : List α}
    (above : ∀ item ∈ items, ¬ r last item) : items.orderedInsert r last = items ++ [last] := by
  induction items with
  | nil => rfl
  | cons item rest inductionHypothesis =>
    rw [List.forall_mem_cons] at above
    rw [List.orderedInsert_of_not_le r _ above.1, inductionHypothesis above.2]
    rfl

/-- An item above all others comes last, wherever it was listed. -/
theorem insertionSort_insert_last (key : α → κ) {before after : List α} {last : α}
    (above : ∀ item ∈ before ++ after, key item < key last) :
    ((before ++ last :: after).insertionSort fun one other => key one ≤ key other) =
      ((before ++ after).insertionSort fun one other => key one ≤ key other) ++ [last] := by
  induction before with
  | nil =>
    refine orderedInsert_of_above fun item member => not_le.mpr (above item ?_)
    exact (List.perm_insertionSort _ after).subset member
  | cons first rest inductionHypothesis =>
    rw [List.cons_append, List.forall_mem_cons] at above
    rw [List.cons_append, List.insertionSort_cons, inductionHypothesis above.2]
    exact orderedInsert_append_singleton (r := fun one other => key one ≤ key other) above.1.le _

/-- A common beginning does not count. -/
theorem append_le_append_iff (shared : List κ) {first second : List κ} :
    shared ++ first ≤ shared ++ second ↔ first ≤ second := by
  induction shared with
  | nil => exact Iff.rfl
  | cons item rest inductionHypothesis =>
    rw [← inductionHypothesis, List.cons_append, List.cons_append, ← not_lt, ← not_lt,
      List.cons_lt_cons_self]

end Sorting
