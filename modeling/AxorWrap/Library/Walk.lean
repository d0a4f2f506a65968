/-
This file is a small theory of walks over trees. A tree is any type with children, where by some
measure an item is larger than its children together. The walk takes an item off the front of a
queue and puts its children at the end, so it goes through the tree level by level.

It comes to whatever can be reached from the queue, and to nothing else. A pass over what it comes
to gathers what the items give.
-/

import Mathlib.Data.List.Basic
import Mathlib.Logic.Relation

namespace Walks

variable {α : Type}

/-- The sizes of some items together. -/
def total (size : α → Nat) : List α → Nat
  | [] => 0
  | item :: rest => size item + total size rest

@[simp] theorem total_nil (size : α → Nat) : total size [] = 0 := rfl

@[simp] theorem total_cons (size : α → Nat) (item : α) (rest : List α) :
    total size (item :: rest) = size item + total size rest := rfl

@[simp] theorem total_append (size : α → Nat) (first second : List α) :
    total size (first ++ second) = total size first + total size second := by
  induction first with
  | nil => rw [List.nil_append, total_nil, Nat.zero_add]
  | cons item rest inductionHypothesis =>
    rw [List.cons_append, total_cons, inductionHypothesis, total_cons, Nat.add_assoc]

/-- Items with children, which by some measure are smaller together than the item. -/
structure Grove (α : Type) where
  children : α → List α
  smaller : ∃ size : α → Nat, ∀ item, total size (children item) < size item

variable (grove : Grove α)

/-- The items in a queue and all below them, level by level. -/
def Grove.walk : List α → List α
  | [] => []
  | item :: rest => item :: Grove.walk (rest ++ grove.children item)
termination_by queue => total grove.smaller.choose queue
decreasing_by
  have smaller := grove.smaller.choose_spec item
  rw [total_append, total_cons]
  omega

/-- An item is reached from another through children. -/
def Grove.Reaches : α → α → Prop :=
  Relation.ReflTransGen fun parent child => child ∈ grove.children parent

variable {grove}

/-- What is reached is the item itself, or is reached from one of its children. -/
theorem reaches_iff {first item : α} :
    grove.Reaches first item ↔
      item = first ∨ ∃ child ∈ grove.children first, grove.Reaches child item := by
  unfold Grove.Reaches
  rw [Relation.ReflTransGen.cases_head_iff, eq_comm]

/-- The walk comes to what can be reached, and to nothing else. -/
theorem mem_walk {queue : List α} {item : α} :
    item ∈ grove.walk queue ↔ ∃ root ∈ queue, grove.Reaches root item := by
  fun_induction Grove.walk grove queue with
  | case1 => simp
  | case2 first rest inductionHypothesis =>
    rw [List.mem_cons, inductionHypothesis, List.exists_mem_cons_iff, reaches_iff, or_assoc]
    refine or_congr_right ?_
    simp only [List.mem_append, or_and_right, exists_or]
    exact or_comm

/-- What is reached from an item of a walk is in the walk. -/
theorem mem_walk_of_child {queue : List α} {parent child : α}
    (member : parent ∈ grove.walk queue) (isChild : child ∈ grove.children parent) :
    child ∈ grove.walk queue := by
  obtain ⟨root, inQueue, reaches⟩ := mem_walk.mp member
  exact mem_walk.mpr ⟨root, inQueue, reaches.tail isChild⟩

/-! ### What a pass gathers -/

variable {σ β : Type} {pass : σ → α → σ} {items : List α} {start : σ}

/-- What no item changes, a pass keeps. -/
theorem kept_eq (kept : σ → β) (each : ∀ state item, kept (pass state item) = kept state) :
    kept (items.foldl pass start) = kept start := by
  induction items generalizing start with
  | nil => rfl
  | cons item rest inductionHypothesis => rw [List.foldl_cons, inductionHypothesis, each]

/-- What a pass has is what it started with, or what an item gives. -/
theorem gathered_iff (has : σ → Prop) {gives : α → Prop}
    (each : ∀ state item, has (pass state item) ↔ has state ∨ gives item) :
    has (items.foldl pass start) ↔ has start ∨ ∃ item ∈ items, gives item := by
  induction items generalizing start with
  | nil => simp
  | cons item rest inductionHypothesis =>
    rw [List.foldl_cons, inductionHypothesis, each, List.exists_mem_cons_iff, or_assoc]

/-- What a pass finds and keeps is the first that an item gives. -/
theorem found_eq (found : σ → Option β) {gives : α → Option β}
    (each : ∀ state item, found (pass state item) = (found state).or (gives item)) :
    found (items.foldl pass start) = (found start).or (items.findSome? gives) := by
  induction items generalizing start with
  | nil => exact (Option.or_none).symm
  | cons item rest inductionHypothesis =>
    rw [List.foldl_cons, inductionHypothesis, each, Option.or_assoc, List.findSome?_cons]
    cases gives item with
    | none => rw [Option.none_or]
    | some value => rw [Option.some_or]

end Walks
