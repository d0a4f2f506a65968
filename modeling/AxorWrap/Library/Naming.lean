/-
This file is a small theory of fresh names. A thing comes with a sequence of candidates for its
name, and takes the first of them that is not used yet; from then on that name is used. If the
candidates of a thing are distinct there is always a free one, so that no two things are given the
same name. A thing with a name of its own is found by it.
-/

import Mathlib.Data.List.Nodup
import Mathlib.Data.List.Perm.Subperm

namespace Naming

variable {Name Thing : Type} [DecidableEq Name]

/-- The first candidate that is not used. It is one of the first `used.length + 1`. -/
def fresh (candidate : Nat → Name) (used : List Name) : Name :=
  (((List.range (used.length + 1)).map candidate).find? (· ∉ used)).getD (candidate 0)

/-- The names of things that are named one after another. -/
def allocate (candidates : Thing → Nat → Name) : List Thing → List Name → List Name
  | [], _ => []
  | thing :: rest, used =>
    fresh (candidates thing) used ::
      allocate candidates rest (used ++ [fresh (candidates thing) used])

variable {candidate : Nat → Name} {candidates : Thing → Nat → Name} {used : List Name}

theorem exists_free (distinct : Function.Injective candidate) (used : List Name) :
    ∃ name ∈ (List.range (used.length + 1)).map candidate, name ∉ used := by
  by_contra none
  have among : (List.range (used.length + 1)).map candidate ⊆ used := by
    intro name member
    by_contra free
    exact none ⟨name, member, free⟩
  have length := (List.subperm_of_subset (List.nodup_range.map distinct) among).length_le
  rw [List.length_map, List.length_range] at length
  omega

/-- A free candidate is found. -/
theorem fresh_notMem (distinct : Function.Injective candidate) : fresh candidate used ∉ used := by
  unfold fresh
  cases found : ((List.range (used.length + 1)).map candidate).find? (· ∉ used) with
  | none =>
    obtain ⟨name, member, free⟩ := exists_free distinct used
    exact absurd (decide_eq_true free) (List.find?_eq_none.mp found name member)
  | some name =>
    have free := List.find?_some found
    exact of_decide_eq_true free

/-- What is taken is a candidate. -/
theorem exists_fresh (candidate : Nat → Name) (used : List Name) :
    ∃ place, fresh candidate used = candidate place := by
  unfold fresh
  cases found : ((List.range (used.length + 1)).map candidate).find? (· ∉ used) with
  | none => exact ⟨0, rfl⟩
  | some name =>
    obtain ⟨place, _, same⟩ := List.mem_map.mp (List.mem_of_find?_eq_some found)
    exact ⟨place, same.symm⟩

/-- Every name that is given is a candidate of the thing it is given to. -/
theorem mem_allocate {things : List Thing} {name : Name}
    (member : name ∈ allocate candidates things used) :
    ∃ thing ∈ things, ∃ place, name = candidates thing place := by
  induction things generalizing used with
  | nil => exact absurd member List.not_mem_nil
  | cons thing rest inductionHypothesis =>
    rcases List.mem_cons.mp member with rfl | later
    · obtain ⟨place, same⟩ := exists_fresh (candidates thing) used
      exact ⟨thing, List.mem_cons_self, place, same⟩
    · obtain ⟨other, inRest, named⟩ := inductionHypothesis later
      exact ⟨other, List.mem_cons_of_mem _ inRest, named⟩

/-- The first candidate is taken if it is free. -/
theorem fresh_of_free (free : candidate 0 ∉ used) : fresh candidate used = candidate 0 := by
  unfold fresh
  rw [List.range_succ_eq_map, List.map_cons, List.find?_cons, decide_eq_true free]
  rfl

/-- No two things are given the same name, and none a name that was used. -/
theorem nodup_allocate (distinct : ∀ thing, Function.Injective (candidates thing))
    (things : List Thing) (used : List Name) :
    (allocate candidates things used).Nodup ∧
      ∀ name ∈ allocate candidates things used, name ∉ used := by
  induction things generalizing used with
  | nil => exact ⟨.nil, List.forall_mem_nil _⟩
  | cons thing rest inductionHypothesis =>
    obtain ⟨nodup, free⟩ := inductionHypothesis (used ++ [fresh (candidates thing) used])
    rw [allocate]
    refine ⟨List.nodup_cons.mpr ⟨fun again => ?_, nodup⟩, List.forall_mem_cons.mpr ⟨?_, ?_⟩⟩
    · exact free _ again (List.mem_append_right _ (List.mem_singleton_self _))
    · exact fresh_notMem (distinct thing)
    · exact fun name member inUsed => free name member (List.mem_append_left _ inUsed)

/-- A name of its own is found wherever it stands. -/
theorem lookup_eq_some_iff_mem {Key : Type} [BEq Key] [LawfulBEq Key]
    {entries : List (Key × Thing)} (named : (entries.map Prod.fst).Nodup) {name : Key}
    {thing : Thing} : entries.lookup name = some thing ↔ (name, thing) ∈ entries := by
  induction entries with
  | nil =>
    refine iff_of_false (Option.some_ne_none _ ∘ Eq.symm) ?_
    exact List.not_mem_nil
  | cons entry rest inductionHypothesis =>
    obtain ⟨other, first⟩ := entry
    obtain ⟨fresh, named⟩ := List.nodup_cons.mp named
    rw [List.lookup_cons, List.mem_cons, Prod.mk.injEq]
    by_cases same : name = other
    · subst same
      rw [beq_self_eq_true, Option.some.injEq]
      refine ⟨fun same => .inl ⟨rfl, same.symm⟩, ?_⟩
      rintro (⟨_, same⟩ | later)
      · exact same.symm
      · exact absurd (List.mem_map_of_mem later) fresh
    · rw [beq_eq_false_iff_ne.mpr same]
      refine (inductionHypothesis named).trans ⟨.inr, ?_⟩
      rintro (⟨here, _⟩ | later)
      · exact absurd here same
      · exact later

end Naming
