/-
This file is a small theory of a store that ignores what it has seen. Records come in batches,
each under a key. A batch whose key was seen is ignored, and of another batch every record
whose identity was seen.

Submitting a batch again does nothing, so a batch that is submitted several times in a row counts
once. And a batch whose records have identities of their own is stored whole.
-/

import Mathlib.Data.List.Nodup

namespace Dedup

/-- The keys and the records a store has seen. -/
structure Store (κ α : Type) where
  keys : List κ := []
  records : List α := []

variable {κ α ι : Type} [DecidableEq κ] [DecidableEq ι] (identity : α → ι)

/-- Store a record unless its identity is known. -/
def accept (records : List α) (record : α) : List α :=
  if identity record ∈ records.map identity then records else records ++ [record]

/-- Store a batch unless its key is known. -/
def Store.submit (store : Store κ α) (key : κ) (batch : List α) : Store κ α :=
  if key ∈ store.keys then store
  else ⟨store.keys ++ [key], batch.foldl (accept identity) store.records⟩

variable {identity}

/-- Records with identities of their own are all stored. -/
theorem foldl_accept {records batch : List α}
    (fresh : ∀ record ∈ batch, identity record ∉ records.map identity)
    (distinct : (batch.map identity).Nodup) :
    batch.foldl (accept identity) records = records ++ batch := by
  induction batch generalizing records with
  | nil => exact (List.append_nil _).symm
  | cons record rest inductionHypothesis =>
    rw [List.map_cons, List.nodup_cons] at distinct
    obtain ⟨first, others⟩ := List.forall_mem_cons.mp fresh
    rw [List.foldl_cons, accept, if_neg first, inductionHypothesis ?_ distinct.2,
      List.append_assoc, List.singleton_append]
    intro other member known
    rw [List.map_append, List.mem_append] at known
    rcases known with old | new
    · exact others other member old
    · rw [List.map_singleton, List.mem_singleton] at new
      exact distinct.1 (new ▸ List.mem_map_of_mem member)

theorem submit_known {store : Store κ α} {key : κ} (known : key ∈ store.keys) (batch : List α) :
    store.submit identity key batch = store := if_pos known

/-- A new batch whose records have identities of their own is stored whole. -/
theorem submit_new {store : Store κ α} {key : κ} (new : key ∉ store.keys) {batch : List α}
    (fresh : ∀ record ∈ batch, identity record ∉ store.records.map identity)
    (distinct : (batch.map identity).Nodup) :
    store.submit identity key batch = ⟨store.keys ++ [key], store.records ++ batch⟩ := by
  rw [Store.submit, if_neg new, foldl_accept fresh distinct]

theorem mem_keys_submit (store : Store κ α) (key : κ) (batch : List α) :
    key ∈ (store.submit identity key batch).keys := by
  unfold Store.submit
  split
  · assumption
  · exact List.mem_append_right _ (List.mem_singleton_self _)

theorem mem_keys_of_submit {store : Store κ α} {key other : κ} {batch : List α}
    (member : other ∈ (store.submit identity key batch).keys) :
    other ∈ store.keys ∨ other = key := by
  unfold Store.submit at member
  split at member
  · exact .inl member
  · simpa using member

/-- Of several attempts to submit one batch, the first that reaches the store counts. -/
theorem foldl_submit (key : κ) (batch : List α) (reaches : ℕ → Bool) (attempts : List ℕ)
    (store : Store κ α) :
    attempts.foldl (fun store attempt =>
        if reaches attempt then store.submit identity key batch else store) store =
      if attempts.any reaches then store.submit identity key batch else store := by
  have again (attempts : List ℕ) {store : Store κ α} (known : key ∈ store.keys) :
      attempts.foldl (fun store attempt =>
        if reaches attempt then store.submit identity key batch else store) store = store := by
    induction attempts with
    | nil => rfl
    | cons attempt rest inductionHypothesis =>
      rw [List.foldl_cons, submit_known known, ite_self]
      exact inductionHypothesis
  induction attempts with
  | nil => rfl
  | cons attempt rest inductionHypothesis =>
    rw [List.foldl_cons, List.any_cons]
    cases reaches attempt with
    | true => exact again rest (mem_keys_submit store key batch)
    | false => exact inductionHypothesis

end Dedup
