/-
This file is a small theory of paths into trees whose nodes have entries by key and may be lists.
A step of a path goes to the entry of a key and, if it says so, on to every element of the list
there. So a path reaches many places, and a place is told by the indices chosen on the way.

The places a path reaches are listed once each, in the order of the indices. A reader that keeps
only the first of what it finds below a plain key lists a part of them, and all of them exactly
when nothing below a plain key is reached twice.
-/

import Mathlib.Data.List.Sort
import Mathlib.Data.List.Flatten

namespace Paths

/-- A kind of tree: the entry of a node under a key, the elements of a node that is a list, and
which nodes are leaves. -/
structure Tree (Node Key : Type) where
  entry : Node → Key → Option Node
  items : Node → Option (List Node)
  isLeaf : Node → Bool

/-- A step of a path: to the entry of a key, and from there to every element if it says so. -/
structure Step (Key : Type) where
  key : Key
  every : Bool
deriving DecidableEq

variable {Node Key : Type} (tree : Tree Node Key)

/-- The path goes from the node to the one found, by these indices. -/
inductive Reaches : List (Step Key) → List Nat → Node → Node → Prop
  | here (node : Node) : Reaches [] [] node node
  | entry {key : Key} {rest : List (Step Key)} {indices : List Nat} {node value found : Node}
      (entered : tree.entry node key = some value) (later : Reaches rest indices value found) :
      Reaches (⟨key, false⟩ :: rest) indices node found
  | element {key : Key} {rest : List (Step Key)} {index : Nat} {indices : List Nat}
      {node value item found : Node} {elements : List Node}
      (entered : tree.entry node key = some value) (listed : tree.items value = some elements)
      (chosen : elements[index]? = some item) (later : Reaches rest indices item found) :
      Reaches (⟨key, true⟩ :: rest) (index :: indices) node found

/-- The nodes a step goes to, each with the index it chooses, if any. -/
def children (step : Step Key) (node : Node) : List (List Nat × Node) :=
  match tree.entry node step.key with
  | none => []
  | some value =>
    if step.every then
      ((tree.items value).getD []).zipIdx.map fun (item, index) => ([index], item)
    else [([], value)]

/-- The leaves below a node, with the indices that lead to them. -/
def places : List (Step Key) → Node → List (List Nat × Node)
  | [], node => if tree.isLeaf node then [([], node)] else []
  | step :: rest, node =>
    (children tree step node).flatMap fun (index, child) =>
      (places rest child).map fun (indices, found) => (index ++ indices, found)

/-- What a reader lists that keeps only the first of what it finds below a plain key. -/
def firstPlaces : List (Step Key) → Node → List (List Nat × Node)
  | [], node => if tree.isLeaf node then [([], node)] else []
  | step :: rest, node =>
    let found := (children tree step node).flatMap fun (index, child) =>
      (firstPlaces rest child).map fun (indices, found) => (index ++ indices, found)
    if step.every then found else found.take 1

/-! ### The places listed are those reached -/

theorem mem_children_plain {key : Key} {node : Node} {child : List Nat × Node} :
    child ∈ children tree ⟨key, false⟩ node ↔
      child.1 = [] ∧ tree.entry node key = some child.2 := by
  obtain ⟨index, child⟩ := child
  unfold children
  cases tree.entry node key <;> simp [eq_comm]

theorem mem_children_every {key : Key} {node : Node} {child : List Nat × Node} :
    child ∈ children tree ⟨key, true⟩ node ↔
      ∃ value elements index, tree.entry node key = some value ∧
        tree.items value = some elements ∧ elements[index]? = some child.2 ∧
        child.1 = [index] := by
  obtain ⟨chosen, child⟩ := child
  unfold children
  cases tree.entry node key with
  | none => simp
  | some value =>
    cases listed : tree.items value with
    | none => simp [listed]
    | some elements =>
      simp only [if_true, listed, Option.getD_some, List.mem_map, Prod.exists,
        List.mem_zipIdx_iff_getElem?]
      constructor
      · rintro ⟨item, index, found, same⟩
        cases same
        exact ⟨value, elements, index, rfl, listed, found, rfl⟩
      · rintro ⟨_, _, index, same, again, found, rfl⟩
        cases same
        cases listed.symm.trans again
        exact ⟨child, index, found, rfl⟩

theorem mem_places_iff {steps : List (Step Key)} {node : Node} {place : List Nat × Node} :
    place ∈ places tree steps node ↔
      Reaches tree steps place.1 node place.2 ∧ tree.isLeaf place.2 = true := by
  induction steps generalizing node place with
  | nil =>
    obtain ⟨indices, found⟩ := place
    rw [places]
    constructor
    · intro member
      split at member
      · next leaf =>
        cases List.mem_singleton.mp member
        exact ⟨.here node, leaf⟩
      · exact absurd member List.not_mem_nil
    · rintro ⟨reached, leaf⟩
      cases reached
      rw [if_pos leaf]
      exact List.mem_singleton_self _
  | cons step rest inductionHypothesis =>
    obtain ⟨indices, found⟩ := place
    obtain ⟨key, every⟩ := step
    simp only [places, List.mem_flatMap, List.mem_map, Prod.mk.injEq]
    cases every with
    | false =>
      simp only [mem_children_plain, inductionHypothesis]
      constructor
      · rintro ⟨⟨_, child⟩, ⟨rfl, entered⟩, ⟨_, _⟩, ⟨reached, leaf⟩, rfl, rfl⟩
        exact ⟨.entry entered reached, leaf⟩
      · rintro ⟨reached, leaf⟩
        cases reached with
        | entry entered later => exact ⟨([], _), ⟨rfl, entered⟩, (_, _), ⟨later, leaf⟩, rfl, rfl⟩
    | true =>
      simp only [mem_children_every, inductionHypothesis]
      constructor
      · rintro ⟨⟨_, child⟩, ⟨value, elements, index, entered, listed, chosen, rfl⟩, ⟨_, _⟩,
          ⟨reached, leaf⟩, rfl, rfl⟩
        exact ⟨.element entered listed chosen reached, leaf⟩
      · rintro ⟨reached, leaf⟩
        cases reached with
        | element entered listed chosen later =>
          exact ⟨([_], _), ⟨_, _, _, entered, listed, chosen, rfl⟩, (_, _), ⟨later, leaf⟩, rfl, rfl⟩

/-- A step that goes to several nodes goes to them in the order of their indices. -/
theorem pairwise_children (step : Step Key) (node : Node) :
    (children tree step node).Pairwise fun first second =>
      ∃ index other, first.1 = [index] ∧ second.1 = [other] ∧ index < other := by
  unfold children
  split
  · exact List.Pairwise.nil
  split
  · next value _ _ =>
    have increasing : ((tree.items value).getD []).zipIdx.Pairwise fun first second =>
        first.2 < second.2 := by
      rw [← List.pairwise_map (f := Prod.snd) (R := fun first second => first < second),
        List.zipIdx_map_snd]
      exact List.pairwise_lt_range'
    rw [List.pairwise_map]
    exact increasing.imp fun before => ⟨_, _, rfl, rfl, before⟩
  · exact List.pairwise_singleton _ _

/-- Places are listed in the order of their indices, and once each. -/
theorem pairwise_places (steps : List (Step Key)) (node : Node) :
    (places tree steps node).Pairwise fun first second => first.1 < second.1 := by
  induction steps generalizing node with
  | nil =>
    rw [places]
    split <;> simp
  | cons step rest inductionHypothesis =>
    rw [places, List.pairwise_flatMap]
    refine ⟨fun child _ => ?_, (pairwise_children tree step node).imp ?_⟩
    · rw [List.pairwise_map]
      refine (inductionHypothesis child.2).imp fun before => ?_
      exact List.append_left_lt before
    · rintro ⟨_, _⟩ ⟨_, _⟩ ⟨index, other, rfl, rfl, before⟩ first inFirst second inSecond
      obtain ⟨_, _, rfl⟩ := List.mem_map.mp inFirst
      obtain ⟨_, _, rfl⟩ := List.mem_map.mp inSecond
      exact List.cons_lt_cons_iff.mpr (.inl before)

/-- A list in order of the places reached is the list of them. -/
theorem eq_places {steps : List (Step Key)} {node : Node} {listing : List (List Nat × Node)}
    (ordered : listing.Pairwise fun first second => first.1 < second.1)
    (listed : ∀ place, place ∈ listing ↔
      Reaches tree steps place.1 node place.2 ∧ tree.isLeaf place.2 = true) :
    listing = places tree steps node := by
  have : Std.Irrefl fun first second : List Nat × Node => first.1 < second.1 :=
    ⟨fun place => List.lt_irrefl place.1⟩
  have : Std.Antisymm fun first second : List Nat × Node => first.1 < second.1 :=
    ⟨fun first second before after => absurd after (List.lt_asymm before)⟩
  exact ordered.eq_of_mem_iff (pairwise_places tree steps node)
    fun place => (listed place).trans (mem_places_iff tree).symm

/-! ### Keeping the first -/

section Parts

variable {α β : Type} {first second : α → List β} {items : List α}

/-- Parts make up the whole only if each of them is all of it. -/
theorem flatMap_eq_iff (part : ∀ item ∈ items, (first item).Sublist (second item)) :
    items.flatMap first = items.flatMap second ↔ ∀ item ∈ items, first item = second item := by
  refine ⟨fun same => ?_, fun each => List.flatMap_congr each⟩
  induction items with
  | nil => exact List.forall_mem_nil _
  | cons item rest inductionHypothesis =>
    obtain ⟨here, later⟩ := List.forall_mem_cons.mp part
    rw [List.flatMap_cons, List.flatMap_cons] at same
    have lengths := congrArg List.length same
    rw [List.length_append, List.length_append] at lengths
    have shorter := here.length_le
    have shorterLater := (List.Sublist.flatMap_right rest later).length_le
    have whole : first item = second item := here.eq_of_length (by omega)
    rw [whole] at same
    exact List.forall_mem_cons.mpr
      ⟨whole, inductionHypothesis later (List.append_cancel_left same)⟩

end Parts

/-- The places a step leads to, with the index it chose before those chosen after it. -/
theorem prefixed_injective (index : List Nat) :
    Function.Injective fun place : List Nat × Node => (index ++ place.1, place.2) := by
  rintro ⟨indices, found⟩ ⟨others, other⟩ same
  obtain ⟨joined, rfl⟩ := Prod.mk.inj same
  exact congrArg (·, found) (List.append_cancel_left joined)

theorem firstPlaces_sublist (steps : List (Step Key)) (node : Node) :
    (firstPlaces tree steps node).Sublist (places tree steps node) := by
  induction steps generalizing node with
  | nil => exact List.Sublist.refl _
  | cons step rest inductionHypothesis =>
    have found := List.Sublist.flatMap_right (children tree step node) fun child _ =>
      (inductionHypothesis child.2).map fun place : List Nat × Node => (child.1 ++ place.1, place.2)
    rw [firstPlaces, places]
    split
    · exact found
    · exact (List.take_sublist 1 _).trans found

/-- Below a plain key that is reached there is at most one leaf. -/
def Narrow (steps : List (Step Key)) (node : Node) : Prop :=
  ∀ before key rest, steps = before ++ ⟨key, false⟩ :: rest → ∀ indices reached value,
    Reaches tree before indices node reached → tree.entry reached key = some value →
      (places tree rest value).length ≤ 1

theorem narrow_nil (node : Node) : Narrow tree ([] : List (Step Key)) node :=
  fun before _ _ same => absurd same.symm (by simp)

theorem narrow_plain {key : Key} {rest : List (Step Key)} {node : Node} :
    Narrow tree (⟨key, false⟩ :: rest) node ↔ ∀ value, tree.entry node key = some value →
      (places tree rest value).length ≤ 1 ∧ Narrow tree rest value := by
  constructor
  · refine fun narrow value entered => ⟨narrow [] key rest rfl [] node value (.here node) entered,
      fun before other later same indices reached below path => ?_⟩
    exact narrow (⟨key, false⟩ :: before) other later (congrArg _ same) indices reached below
      (.entry entered path)
  · intro each before other later same indices reached below path
    cases before with
    | nil =>
      cases same
      cases path
      exact fun entered => (each below entered).1
    | cons step before =>
      cases same
      cases path with
      | entry entered path => exact (each _ entered).2 before other later rfl _ reached below path

theorem narrow_every {key : Key} {rest : List (Step Key)} {node : Node} :
    Narrow tree (⟨key, true⟩ :: rest) node ↔
      ∀ child ∈ children tree ⟨key, true⟩ node, Narrow tree rest child.2 := by
  simp only [mem_children_every]
  constructor
  · rintro narrow ⟨_, child⟩ ⟨value, elements, index, entered, listed, chosen, rfl⟩ before other
      later same indices reached below path
    exact narrow (⟨key, true⟩ :: before) other later (congrArg _ same) (index :: indices) reached
      below (.element entered listed chosen path)
  · intro each before other later same indices reached below path
    cases before with
    | nil => cases same
    | cons step before =>
      cases same
      cases path with
      | @element _ _ index _ _ value item _ elements entered listed chosen path =>
        exact each ([index], item) ⟨value, elements, index, entered, listed, chosen, rfl⟩ before
          other later rfl _ reached below path

/-- Keeping the first loses nothing exactly when there is never a second. -/
theorem firstPlaces_eq_iff (steps : List (Step Key)) (node : Node) :
    firstPlaces tree steps node = places tree steps node ↔ Narrow tree steps node := by
  induction steps generalizing node with
  | nil => exact iff_of_true rfl (narrow_nil tree node)
  | cons step rest inductionHypothesis =>
    obtain ⟨key, every⟩ := step
    rw [firstPlaces, places]
    have part : ∀ child ∈ children tree ⟨key, every⟩ node,
        ((firstPlaces tree rest child.2).map fun place : List Nat × Node =>
          (child.1 ++ place.1, place.2)).Sublist
        ((places tree rest child.2).map fun place => (child.1 ++ place.1, place.2)) :=
      fun child _ => (firstPlaces_sublist tree rest child.2).map _
    cases every with
    | true =>
      rw [if_pos rfl, narrow_every]
      refine (flatMap_eq_iff part).trans (forall₂_congr fun child _ => ?_)
      rw [(prefixed_injective child.1).list_map.eq_iff, inductionHypothesis]
    | false =>
      rw [if_neg Bool.false_ne_true, narrow_plain]
      cases entered : tree.entry node key with
      | none =>
        have none : children tree ⟨key, false⟩ node = [] := by simp [children, entered]
        rw [none]
        exact iff_of_true rfl fun _ same => nomatch same
      | some value =>
        have single : children tree ⟨key, false⟩ node = [([], value)] := by
          simp [children, entered]
        simp only [single, List.flatMap_singleton, List.nil_append, Prod.mk.eta, List.map_id',
          Option.some.injEq, forall_eq']
        have part := firstPlaces_sublist tree rest value
        rw [← inductionHypothesis]
        constructor
        · intro same
          have short : (places tree rest value).length ≤ 1 := by
            rw [← same]
            exact List.length_take_le _ _
          have whole := part.length_le
          refine ⟨short, ?_⟩
          rw [← same, List.take_of_length_le (by omega)]
        · rintro ⟨short, same⟩
          rw [same, List.take_of_length_le short]

/-- The first is kept, so something is listed when there is something. -/
theorem firstPlaces_eq_nil_iff (steps : List (Step Key)) (node : Node) :
    firstPlaces tree steps node = [] ↔ places tree steps node = [] := by
  induction steps generalizing node with
  | nil => exact Iff.rfl
  | cons step rest inductionHypothesis =>
    have each : ((children tree step node).flatMap fun child =>
          (firstPlaces tree rest child.2).map fun place => (child.1 ++ place.1, place.2)) = [] ↔
        ((children tree step node).flatMap fun child =>
          (places tree rest child.2).map fun place => (child.1 ++ place.1, place.2)) = [] := by
      simp only [List.flatMap_eq_nil_iff, List.map_eq_nil_iff, inductionHypothesis]
    rw [firstPlaces, places]
    split
    · exact each
    · rw [List.take_eq_nil_iff, or_iff_right Nat.one_ne_zero]
      exact each

end Paths
