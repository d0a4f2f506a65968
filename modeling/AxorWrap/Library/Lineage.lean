/-
This file is a small theory of records of descent: lists of nodes with distinct
names, where a node names the ones it descends from. When every node names only
nodes that stand before it in the list, no chain of descent comes back to where
it began.
-/

import Mathlib.Data.List.Nodup
import Mathlib.Logic.Relation

namespace Lineages

variable {Node Name : Type} (name : Node → Name) (parents : Node → List Name)

/-- The node of the first name descends directly from that of the second. -/
def Descends (nodes : List Node) (child parent : Name) : Prop :=
  ∃ node ∈ nodes, name node = child ∧ parent ∈ parents node

/-- Every node names nodes before it only. -/
def Ordered (nodes : List Node) : Prop :=
  ∀ earlier node later, nodes = earlier ++ node :: later →
    ∀ parent ∈ parents node, parent ∈ earlier.map name

variable {name parents}

/-- In a list without repetition, what stands in a first part that lacks an item stands before that
item. -/
theorem mem_before_of_mem_first {names first second before after : List Name} {one other : Name}
    (distinct : names.Nodup) (parts : names = first ++ second)
    (split : names = before ++ one :: after) (later : one ∈ second) (inFirst : other ∈ first) :
    other ∈ before := by
  have same := parts.symm.trans split
  rw [parts] at distinct
  rcases List.append_eq_append_iff.mp same with ⟨middle, rfl, _⟩ | ⟨middle, rfl, rest⟩
  · exact List.mem_append_left _ inFirst
  · cases middle with
    | nil => simpa using inFirst
    | cons head tail =>
      cases rest
      have twice := List.disjoint_of_nodup_append distinct
      exact absurd later (twice (List.mem_append_right _ List.mem_cons_self))

section Acyclic

variable [DecidableEq Name] {nodes : List Node}

/-- A parent stands before its child. -/
theorem idxOf_lt_of_descends (distinct : (nodes.map name).Nodup)
    (ordered : Ordered name parents nodes) {child parent : Name}
    (descends : Descends name parents nodes child parent) :
    (nodes.map name).idxOf parent < (nodes.map name).idxOf child := by
  obtain ⟨node, member, rfl, named⟩ := descends
  obtain ⟨earlier, later, rfl⟩ := List.append_of_mem member
  have before := ordered earlier node later rfl parent named
  rw [List.map_append, List.map_cons] at distinct ⊢
  have fresh : name node ∉ earlier.map name := fun inEarlier =>
    List.disjoint_of_nodup_append distinct inEarlier List.mem_cons_self
  rw [List.idxOf_append_of_mem before, List.idxOf_append_of_notMem fresh]
  exact Nat.lt_of_lt_of_le (List.idxOf_lt_length_iff.mpr before) (Nat.le_add_right _ _)

theorem not_transGen_descends (distinct : (nodes.map name).Nodup)
    (ordered : Ordered name parents nodes) (one : Name) :
    ¬ Relation.TransGen (Descends name parents nodes) one one := by
  have climbs : ∀ child parent, Relation.TransGen (Descends name parents nodes) child parent →
      (nodes.map name).idxOf parent < (nodes.map name).idxOf child := by
    intro child parent chain
    induction chain with
    | single descends => exact idxOf_lt_of_descends distinct ordered descends
    | tail _ descends inductionHypothesis =>
      exact Nat.lt_trans (idxOf_lt_of_descends distinct ordered descends) inductionHypothesis
  exact fun chain => Nat.lt_irrefl _ (climbs one one chain)

end Acyclic

end Lineages
