/-
This file says when the expansion of an untrusted field is exact. A field path is a text of keys
with dots between them, where `[]` after a key stands for every element of the list there; it
leads to a scalar by the indices chosen at each `[]`.

Below a list every element is expanded, but below a plain key only the first of what its value
expands to is kept. So a path loses scalars as soon as a plain key comes before a list with two of
them. And a path that ends in a dot is read without its last key, the empty one.
-/

import AxorWrap.Trace.Lineage
import AxorWrap.Library.Path

namespace AxorWrap.Trace

open Python Methods Checks Lineages Paths

/-! ### The text of a path -/

/-- A key that a path can name: there is no dot and no bracket in it. -/
def PlainKey (key : PyStr) : Prop := 46 ∉ key ∧ 91 ∉ key

/-- A step as a pattern writes it. -/
def stepText (step : Step PyStr) : PyStr :=
  if step.every then step.key ++ PyStr.ofString "[]" else step.key

/-- A path as a pattern writes it. -/
def patternText (steps : List (Step PyStr)) : PyStr := PyStr.join "." (steps.map stepText)

/-- A step with the index chosen at it, if there is one. -/
def placedSteps : List (Step PyStr) → List Nat → List PyStr
  | [], _ => []
  | ⟨key, false⟩ :: rest, indices => key :: placedSteps rest indices
  | ⟨_, true⟩ :: _, [] => []
  | ⟨key, true⟩ :: rest, index :: indices =>
    (key ++ 91 :: natText index ++ [93]) :: placedSteps rest indices

/-- The concrete path of a place. -/
def concretePath (steps : List (Step PyStr)) (indices : List Nat) : PyStr :=
  PyStr.join "." (placedSteps steps indices)

theorem join_singleton (part : PyStr) : PyStr.join "." [part] = part := by
  simp [PyStr.join, List.intercalate]

theorem join_cons_cons (part next : PyStr) (rest : List PyStr) :
    PyStr.join "." (part :: next :: rest) = part ++ 46 :: PyStr.join "." (next :: rest) := by
  simp only [PyStr.join, List.intercalate, List.intersperse_cons_cons, List.flatten_cons]
  rfl

/-! ### Reading a path -/

theorem val_ne_dot {point : CodePoint} {rest : PyStr} (dotless : 46 ∉ point :: rest) :
    ¬ point.val = 46 :=
  fun same => dotless (List.mem_cons.mpr (.inl (Fin.ext same.symm)))

theorem headsOf_plain {head : PyStr} (dotless : 46 ∉ head) (nonempty : head ≠ []) :
    headsOf head = [head] := by
  induction head with
  | nil => exact absurd rfl nonempty
  | cons point rest inductionHypothesis =>
    rw [headsOf, if_neg (val_ne_dot dotless)]
    cases rest with
    | nil => rfl
    | cons next rest =>
      rw [inductionHypothesis (fun member => dotless (List.mem_cons_of_mem _ member))
        (List.cons_ne_nil _ _)]

/-- The first head of a path that goes on. -/
theorem headsOf_append {head : PyStr} (dotless : 46 ∉ head) (rest : PyStr) :
    headsOf (head ++ 46 :: rest) = head :: headsOf rest := by
  induction head with
  | nil => rfl
  | cons point head inductionHypothesis =>
    rw [List.cons_append, headsOf, if_neg (val_ne_dot dotless),
      inductionHypothesis fun member => dotless (List.mem_cons_of_mem _ member)]

/-- The heads of a joined path are its parts, save an empty one at its end. -/
theorem headsOf_join {parts : List PyStr} (dotless : ∀ part ∈ parts, 46 ∉ part) :
    headsOf (PyStr.join "." parts) =
      if parts.getLast? = some [] then parts.dropLast else parts := by
  induction parts with
  | nil => rfl
  | cons part rest inductionHypothesis =>
    obtain ⟨here, later⟩ := List.forall_mem_cons.mp dotless
    cases rest with
    | nil =>
      rw [join_singleton, List.getLast?_singleton, List.dropLast_singleton]
      by_cases empty : part = []
      · subst empty
        rfl
      · rw [headsOf_plain here empty, if_neg (by simpa using empty)]
    | cons next rest =>
      rw [join_cons_cons, headsOf_append here, inductionHypothesis later,
        List.getLast?_cons_cons, List.dropLast_cons_cons]
      split <;> rfl

theorem dotless_stepText {step : Step PyStr} (plain : PlainKey step.key) :
    46 ∉ stepText step := by
  unfold stepText
  split
  · rw [List.mem_append, not_or]
    exact ⟨plain.1, by decide⟩
  · exact plain.1

theorem stepText_eq_nil_iff {step : Step PyStr} : stepText step = [] ↔ step = ⟨[], false⟩ := by
  obtain ⟨key, every⟩ := step
  unfold stepText
  cases every with
  | true =>
    refine iff_of_false (fun same => ?_) (fun same => nomatch same)
    exact absurd (List.append_eq_nil_iff.mp same).2 (by decide)
  | false => simp

/-- A pattern is read as its steps, save an empty key at its end. -/
theorem headsOf_patternText {steps : List (Step PyStr)}
    (plain : ∀ step ∈ steps, PlainKey step.key) :
    headsOf (patternText steps) =
      (if steps.getLast? = some ⟨[], false⟩ then steps.dropLast else steps).map stepText := by
  have dotless : ∀ part ∈ steps.map stepText, 46 ∉ part := by
    intro part member
    obtain ⟨step, inSteps, rfl⟩ := List.mem_map.mp member
    exact dotless_stepText (plain step inSteps)
  have ends : (steps.map stepText).getLast? = some [] ↔ steps.getLast? = some ⟨[], false⟩ := by
    rw [List.getLast?_map, Option.map_eq_some_iff]
    simp only [stepText_eq_nil_iff]
    exact ⟨fun ⟨_, last, same⟩ => same ▸ last, fun last => ⟨_, last, rfl⟩⟩
  rw [patternText, headsOf_join dotless]
  simp only [ends]
  split
  · rw [List.map_dropLast]
  · rfl

/-! ### What a path expands to -/

variable {V : Type} (objects : Objects V)

/-- The objects, as a tree. -/
def Objects.tree : Tree V PyStr where
  entry := objects.entry
  items := objects.items
  isLeaf := objects.isScalar

/-- The path that the expansion tells a place by. -/
def expandedPath : List (Step PyStr) → List Nat → PyStr
  | [], _ => []
  | ⟨key, false⟩ :: rest, indices => below key (expandedPath rest indices)
  | ⟨_, true⟩ :: _, [] => []
  | ⟨key, true⟩ :: rest, index :: indices =>
    below (key ++ 91 :: natText index ++ [93]) (expandedPath rest indices)

/-- The expansion lists the first places of a path. -/
theorem expand_eq_firstPlaces {steps : List (Step PyStr)}
    (plain : ∀ step ∈ steps, PlainKey step.key) (node : V) :
    expand objects (steps.map stepText) node =
      (firstPlaces objects.tree steps node).map fun place =>
        (expandedPath steps place.1, place.2) := by
  induction steps generalizing node with
  | nil =>
    rw [List.map_nil, expand, firstPlaces]
    show (if objects.isScalar node then _ else _) =
      List.map _ (if objects.isScalar node then _ else _)
    split <;> rfl
  | cons step rest inductionHypothesis =>
    obtain ⟨here, later⟩ := List.forall_mem_cons.mp plain
    have below := inductionHypothesis later
    obtain ⟨key, every⟩ := step
    cases every with
    | false =>
      have unmarked : ¬ PyStr.ofString "[]" <:+ stepText ⟨key, false⟩ := fun marked =>
        here.2 (marked.subset (by decide))
      rw [List.map_cons, expand, firstPlaces]
      have keyText : stepText ⟨key, false⟩ = key := rfl
      rw [if_neg unmarked, keyText]
      cases entered : objects.entry node key with
      | none =>
        have none : children objects.tree ⟨key, false⟩ node = [] := by
          simp [children, Objects.tree, entered]
        simp [none]
      | some value =>
        have single : children objects.tree ⟨key, false⟩ node = [([], value)] := by
          simp [children, Objects.tree, entered]
        simp only [single, below value]
        simp [← List.map_take, expandedPath]
    | true =>
      have marked : PyStr.ofString "[]" <:+ stepText ⟨key, true⟩ := List.suffix_append _ _
      have cut : (stepText ⟨key, true⟩).take ((stepText ⟨key, true⟩).length -
          (PyStr.ofString "[]").length) = key := by
        simp [stepText]
      rw [List.map_cons, expand, firstPlaces]
      have elements : children objects.tree ⟨key, true⟩ node =
          (((objects.entry node key).bind objects.items).getD []).zipIdx.map
            fun found => ([found.2], found.1) := by
        cases entered : objects.entry node key <;> simp [children, Objects.tree, entered]
      simp only [if_pos marked, cut, below, elements, if_true, List.flatMap_map, List.map_flatMap,
        List.map_map]
      rfl

theorem join_cons (part : PyStr) (parts : List PyStr) :
    PyStr.join "." (part :: parts) =
      if parts = [] then part else part ++ 46 :: PyStr.join "." parts := by
  cases parts with
  | nil => rw [if_pos rfl, join_singleton]
  | cons next rest => rw [if_neg (List.cons_ne_nil _ _), join_cons_cons]

/-- The text of a path from its first step on. -/
theorem join_placedSteps {rest : List (Step PyStr)} {indices : List Nat} {node found : V}
    (reached : Reaches objects.tree rest indices node found) (part : PyStr) :
    PyStr.join "." (part :: placedSteps rest indices) =
      if rest = [] then part else part ++ 46 :: concretePath rest indices := by
  have goesOn : placedSteps rest indices = [] ↔ rest = [] := by
    cases reached <;> simp [placedSteps]
  rw [join_cons]
  simp only [goesOn]
  rfl

/-- A path that goes on does not end where it began. -/
theorem ends_of_cons {step : Step PyStr} {rest : List (Step PyStr)}
    (ends : (step :: rest).getLast? ≠ some ⟨[], false⟩) : rest.getLast? ≠ some ⟨[], false⟩ := by
  cases rest with
  | nil => simp
  | cons next rest => exact List.getLast?_cons_cons ▸ ends

theorem concretePath_ne_nil {steps : List (Step PyStr)} {indices : List Nat} {node found : V}
    (reached : Reaches objects.tree steps indices node found) (nonempty : steps ≠ [])
    (ends : steps.getLast? ≠ some ⟨[], false⟩) : concretePath steps indices ≠ [] := by
  cases reached with
  | here => exact absurd rfl nonempty
  | @entry key rest _ _ _ _ _ later =>
    rw [concretePath, placedSteps, join_placedSteps objects later]
    split
    · next last =>
      subst last
      simpa using ends
    · simp
  | element _ _ _ later =>
    rw [concretePath, placedSteps, join_placedSteps objects later]
    split <;> simp

/-- What comes below a head has its path below the text of that head. -/
theorem below_concretePath {rest : List (Step PyStr)} {indices : List Nat} {node found : V}
    (reached : Reaches objects.tree rest indices node found)
    (ends : rest.getLast? ≠ some ⟨[], false⟩) (part : PyStr) :
    below part (concretePath rest indices) = PyStr.join "." (part :: placedSteps rest indices) := by
  rw [below, join_placedSteps objects reached]
  by_cases last : rest = []
  · subst last
    rfl
  · have goesOn := concretePath_ne_nil objects reached last ends
    rw [if_neg (by simpa using goesOn), if_neg last]

/-- Unless a path ends in an empty key, the expansion tells its places by their paths. -/
theorem expandedPath_eq {steps : List (Step PyStr)} {indices : List Nat} {node found : V}
    (reached : Reaches objects.tree steps indices node found)
    (ends : steps.getLast? ≠ some ⟨[], false⟩) :
    expandedPath steps indices = concretePath steps indices := by
  induction reached with
  | here => rfl
  | entry _ later inductionHypothesis =>
    have goesOn := ends_of_cons ends
    rw [expandedPath, inductionHypothesis goesOn, below_concretePath objects later goesOn]
    rfl
  | element _ _ _ later inductionHypothesis =>
    have goesOn := ends_of_cons ends
    rw [expandedPath, inductionHypothesis goesOn, below_concretePath objects later goesOn]
    rfl

/-- The expansion never tells a path by a text that ends in a dot. -/
theorem getLast?_expandedPath {steps : List (Step PyStr)}
    (plain : ∀ step ∈ steps, PlainKey step.key)
    (indices : List Nat) : (expandedPath steps indices).getLast? ≠ some 46 := by
  have ends : ∀ {head sub : PyStr}, head.getLast? ≠ some 46 → sub.getLast? ≠ some 46 →
      (below head sub).getLast? ≠ some 46 := by
    intro head sub headEnds subEnds
    unfold below
    split
    · exact headEnds
    · next goesOn =>
      cases sub with
      | nil => exact absurd rfl goesOn
      | cons point rest =>
        rw [List.getLast?_append_of_ne_nil _ (List.cons_ne_nil _ _), List.getLast?_cons_cons]
        exact subEnds
  induction steps generalizing indices with
  | nil => simp [expandedPath]
  | cons step rest inductionHypothesis =>
    obtain ⟨here, later⟩ := List.forall_mem_cons.mp plain
    obtain ⟨key, every⟩ := step
    cases every with
    | false =>
      exact ends (fun last => here.1 (List.mem_of_getLast? last)) (inductionHypothesis later _)
    | true =>
      cases indices with
      | nil => simp [expandedPath]
      | cons index indices =>
        refine ends ?_ (inductionHypothesis later _)
        rw [List.getLast?_concat]
        decide

/-- A path that ends in an empty key has places told by texts that end in a dot, unless that key is
all of it. -/
theorem getLast?_concretePath {steps : List (Step PyStr)} {indices : List Nat} {node found : V}
    (reached : Reaches objects.tree (steps ++ [⟨[], false⟩]) indices node found)
    (nonempty : steps ≠ []) :
    (concretePath (steps ++ [⟨[], false⟩]) indices).getLast? = some 46 := by
  induction steps generalizing indices node with
  | nil => exact absurd rfl nonempty
  | cons step rest inductionHypothesis =>
    have ends : ∀ {part : PyStr} {indices : List Nat} {node : V},
        Reaches objects.tree (rest ++ [⟨[], false⟩]) indices node found →
        (PyStr.join "." (part :: placedSteps (rest ++ [⟨[], false⟩]) indices)).getLast? =
          some 46 := by
      intro part indices node later
      rw [join_placedSteps objects later, if_neg (by simp)]
      cases rest with
      | nil => rw [List.nil_append, concretePath, placedSteps, placedSteps, join_singleton,
          List.getLast?_concat]
      | cons next rest =>
        have last := inductionHypothesis later (List.cons_ne_nil _ _)
        rw [List.getLast?_append, List.getLast?_cons, last]
        rfl
    cases reached with
    | entry _ later => exact ends later
    | element _ _ _ later => exact ends later

/-! ### What is minted of a result -/

variable {objects} {kernel : Kernel}

/-- The ledger with more values. -/
def Ledger.pushAll (ledger : Ledger V) (entries : List (ValueEntry V)) : Ledger V :=
  entries.foldl Ledger.push ledger

theorem values_pushAll (ledger : Ledger V) (entries : List (ValueEntry V)) :
    (ledger.pushAll entries).values = ledger.values ++ entries := by
  induction entries generalizing ledger with
  | nil => exact (List.append_nil _).symm
  | cons entry rest inductionHypothesis =>
    refine (inductionHypothesis (ledger.push entry)).trans ?_
    exact List.append_assoc ledger.values [entry] rest

/-- A loop that mints at each pass mints the groups of its passes in order. -/
theorem returns_mapM_pushAll {α β : Type} {body : α → Method (Ledger V) PyError β}
    {made : α → List (ValueEntry V) → Prop}
    (each : ∀ item ledger value left, Returns (body item) ledger value left →
      ∃ group, left = ledger.pushAll group ∧ made item group)
    {items : List α} {ledger left : Ledger V} {values : List β}
    (returned : Returns (items.mapM body) ledger values left) :
    ∃ groups, left = ledger.pushAll groups.flatten ∧ List.Forall₂ made items groups := by
  induction items generalizing ledger values with
  | nil =>
    rw [List.mapM_nil, returns_pure] at returned
    exact ⟨[], returned.2.symm, .nil⟩
  | cons item rest inductionHypothesis =>
    rw [List.mapM_cons, returns_bind] at returned
    obtain ⟨value, between, first, later⟩ := returned
    obtain ⟨others, _, tail, joined⟩ := returns_bind.mp later
    obtain ⟨rfl, rfl⟩ := returns_pure.mp joined
    obtain ⟨group, rfl, here⟩ := each item ledger value between first
    obtain ⟨groups, rfl, there⟩ := inductionHypothesis tail
    refine ⟨group :: groups, ?_, .cons here there⟩
    exact List.foldl_append.symm

/-- A loop that mints one value at each pass. -/
theorem returns_mapM_push {α β : Type} {body : α → Method (Ledger V) PyError β}
    {made : α → ValueEntry V → Prop}
    (each : ∀ item ledger value left, Returns (body item) ledger value left →
      ∃ entry, left = ledger.push entry ∧ made item entry)
    {items : List α} {ledger left : Ledger V} {values : List β}
    (returned : Returns (items.mapM body) ledger values left) :
    ∃ entries, left = ledger.pushAll entries ∧ List.Forall₂ made items entries := by
  let single (item : α) (group : List (ValueEntry V)) : Prop :=
    ∃ entry, group = [entry] ∧ made item entry
  have grouped : ∀ item ledger value left, Returns (body item) ledger value left →
      ∃ group, left = ledger.pushAll group ∧ single item group := by
    intro item ledger value left minted
    obtain ⟨entry, rfl, here⟩ := each item ledger value left minted
    exact ⟨[entry], rfl, entry, rfl, here⟩
  obtain ⟨groups, rfl, made⟩ := returns_mapM_pushAll grouped returned
  refine ⟨groups.flatten, rfl, ?_⟩
  clear returned
  induction made with
  | nil => exact .nil
  | cons here _ inductionHypothesis =>
    obtain ⟨entry, rfl, made⟩ := here
    exact .cons made inductionHypothesis

/-- The entry was minted of this concrete path and value of a result of the tool. -/
structure ReadFrom (kernel : Kernel) (objects : Objects V) (tool : PyStr) (sensitive : Bool)
    (read : PyStr × V) (entry : ValueEntry V) : Prop where
  sources : entry.sources =
    [⟨.externalRead, PyStr.ofString "tool_result:" ++ tool ++ PyStr.ofString ":" ++ read.1⟩]
  hash : ∃ canonical, objects.canonicalize read.2 = .ok canonical ∧
    entry.canonicalValueHash = contentHash kernel canonical
  labels : entry.labels = [.untrustedDerived] ++ if sensitive then [.sensitive] else []
  preview : shownPreview objects read.2 sensitive = .ok entry.preview
  decision : entry.decisionValue = if sensitive then none else some read.2

theorem returns_mintRead_eq {tool path id : PyStr} {value : V} {sensitive : Bool}
    {ledger left : Ledger V}
    (minted : Returns (mintRead kernel objects tool path value sensitive) ledger id left) :
    ∃ entry, left = ledger.push entry ∧
      ReadFrom kernel objects tool sensitive (path, value) entry := by
  obtain ⟨canonical, shown, hashes, shows, _, rfl⟩ := returns_mint_eq minted
  exact ⟨_, rfl, rfl, ⟨canonical, hashes, rfl⟩, rfl, shows, rfl⟩

/-- At one pattern a value is minted of each pair that the result expands to, in order. -/
theorem returns_mintFields_eq {tool pattern : PyStr} {result : V}
    {sensitivePatterns produced : List PyStr} {ledger left : Ledger V}
    (returned : Returns (mintFields kernel objects tool (some result) sensitivePatterns pattern)
      ledger produced left) :
    ∃ entries, left = ledger.pushAll entries ∧
      List.Forall₂ (ReadFrom kernel objects tool
        (decide (normalize kernel.interpreter pattern ∈ sensitivePatterns)))
        (expand objects (headsOf (stripResult pattern)) result) entries := by
  exact returns_mapM_push (fun _ _ _ _ minted => returns_mintRead_eq minted) returned

/-! ### Exactness -/

/-- The pairs are those of the scalars that the path reaches, once each and in document order. -/
def Exact (objects : Objects V) (steps : List (Step PyStr)) (result : V)
    (pairs : List (PyStr × V)) : Prop :=
  ∃ listing : List (List Nat × V),
    (listing.Pairwise fun first second => first.1 < second.1) ∧
    (∀ place, place ∈ listing ↔ Reaches objects.tree steps place.1 result place.2 ∧
      objects.isScalar place.2 = true) ∧
    pairs = listing.map fun place => (concretePath steps place.1, place.2)

theorem exact_iff {steps : List (Step PyStr)} {result : V} {pairs : List (PyStr × V)} :
    Exact objects steps result pairs ↔
      pairs = (places objects.tree steps result).map fun place =>
        (concretePath steps place.1, place.2) := by
  constructor
  · rintro ⟨listing, ordered, listed, rfl⟩
    rw [eq_places objects.tree ordered listed]
  · rintro rfl
    exact ⟨_, pairwise_places objects.tree steps result, fun _ => mem_places_iff objects.tree, rfl⟩

/-- A path that does not end in an empty key expands exactly when it is narrow. -/
theorem exact_iff_narrow {steps : List (Step PyStr)} (plain : ∀ step ∈ steps, PlainKey step.key)
    (ends : steps.getLast? ≠ some ⟨[], false⟩) (result : V) :
    Exact objects steps result (expand objects (steps.map stepText) result) ↔
      Narrow objects.tree steps result := by
  have part := firstPlaces_sublist objects.tree steps result
  have told : (firstPlaces objects.tree steps result).map (fun place =>
      (expandedPath steps place.1, place.2)) =
      (firstPlaces objects.tree steps result).map fun place =>
        (concretePath steps place.1, place.2) := by
    refine List.map_congr_left fun place member => ?_
    rw [expandedPath_eq objects ((mem_places_iff objects.tree).mp (part.subset member)).1 ends]
  rw [exact_iff, expand_eq_firstPlaces objects plain, told, ← firstPlaces_eq_iff]
  refine ⟨fun same => part.eq_of_length ?_, congrArg _⟩
  simpa using congrArg List.length same

/-- A path that ends in an empty key expands exactly when neither it nor the path before that key
comes to a scalar. -/
theorem exact_iff_nothing {steps : List (Step PyStr)} (plain : ∀ step ∈ steps, PlainKey step.key)
    (entryless : ∀ node key, objects.isScalar node = true → objects.entry node key = none)
    (result : V) :
    Exact objects (steps ++ [⟨[], false⟩]) result (expand objects (steps.map stepText) result) ↔
      places objects.tree steps result = [] ∧
        places objects.tree (steps ++ [⟨[], false⟩]) result = [] := by
  rw [exact_iff, expand_eq_firstPlaces objects plain, ← firstPlaces_eq_nil_iff]
  constructor
  · intro same
    cases found : places objects.tree (steps ++ [⟨[], false⟩]) result with
    | nil =>
      rw [found] at same
      exact ⟨List.map_eq_nil_iff.mp same, rfl⟩
    | cons place rest =>
      rw [found, List.map_cons] at same
      have member : place ∈ places objects.tree (steps ++ [⟨[], false⟩]) result := by
        rw [found]
        exact List.mem_cons_self
      obtain ⟨reached, scalar⟩ := (mem_places_iff objects.tree).mp member
      cases first : firstPlaces objects.tree steps result with
      | nil => simp [first] at same
      | cons other others =>
        rw [first, List.map_cons] at same
        have paths : expandedPath steps other.1 =
            concretePath (steps ++ [⟨[], false⟩]) place.1 :=
          congrArg Prod.fst (List.cons.inj same).1
        by_cases whole : steps = []
        · subst whole
          have leaf : objects.isScalar result = true := by
            by_contra branch
            rw [firstPlaces] at first
            exact absurd ((if_neg branch).symm.trans first) (by simp)
          cases reached with
          | entry entered => cases (entryless result [] leaf).symm.trans entered
        · have dot := getLast?_concretePath objects reached whole
          rw [← paths] at dot
          exact absurd dot (getLast?_expandedPath plain other.1)
  · rintro ⟨none, nothing⟩
    rw [none, nothing, List.map_nil, List.map_nil]

/-- A scalar that is a JSON value has no entries. -/
theorem entry_of_isScalar {node : Value} {key : PyStr}
    (scalar : (Objects.json kernel).isScalar node = true) :
    (Objects.json kernel).entry node key = none := by
  cases node with
  | dict => cases scalar
  | _ => rfl

/-- A pattern that stands for these steps is expanded exactly, and a value is minted of each scalar
that it reaches, once and in document order. -/
structure ExpandedExactly (kernel : Kernel) (tool pattern : PyStr) (steps : List (Step PyStr))
    (result : Value) : Prop where
  expanded : Exact (Objects.json kernel) steps result
    (expand (Objects.json kernel) (headsOf (stripResult pattern)) result)
  minted : ∀ sensitivePatterns ledger produced left,
    Returns (mintFields kernel (Objects.json kernel) tool (some result) sensitivePatterns pattern)
      ledger produced left →
    ∃ pairs entries, Exact (Objects.json kernel) steps result pairs ∧
      left.values = ledger.values ++ entries ∧
      List.Forall₂ (ReadFrom kernel (Objects.json kernel) tool
        (decide (normalize kernel.interpreter pattern ∈ sensitivePatterns))) pairs entries

/-- **Untrusted fields are expanded exactly** when no plain key of the path has two scalars of the
path below it; and if the path ends in an empty key, when there is no scalar at it or before it. -/
theorem expandedExactly_iff (kernel : Kernel) (tool : PyStr) {pattern : PyStr}
    {steps : List (Step PyStr)} (plain : ∀ step ∈ steps, PlainKey step.key)
    (denoted : stripResult pattern = patternText steps) (result : Value) :
    ExpandedExactly kernel tool pattern steps result ↔
      if steps.getLast? = some ⟨[], false⟩ then
        places (Objects.json kernel).tree steps.dropLast result = [] ∧
          places (Objects.json kernel).tree steps result = []
      else Narrow (Objects.json kernel).tree steps result := by
  have whole : ExpandedExactly kernel tool pattern steps result ↔
      Exact (Objects.json kernel) steps result
        (expand (Objects.json kernel) (headsOf (stripResult pattern)) result) := by
    refine ⟨ExpandedExactly.expanded, fun exact => ⟨exact, fun _ _ _ _ returned => ?_⟩⟩
    obtain ⟨entries, rfl, made⟩ := returns_mintFields_eq returned
    exact ⟨_, entries, exact, values_pushAll _ _, made⟩
  rw [whole, denoted, headsOf_patternText plain]
  split
  · next last =>
    have split : steps = steps.dropLast ++ [⟨[], false⟩] :=
      (List.dropLast_append_getLast? _ last).symm
    have nothing : Exact (Objects.json kernel) (steps.dropLast ++ [⟨[], false⟩]) result
          (expand (Objects.json kernel) (steps.dropLast.map stepText) result) ↔
        places (Objects.json kernel).tree steps.dropLast result = [] ∧
          places (Objects.json kernel).tree (steps.dropLast ++ [⟨[], false⟩]) result = [] :=
      exact_iff_nothing (fun step member => plain step (List.dropLast_subset steps member))
        (fun node key scalar => entry_of_isScalar scalar) result
    rw [← split] at nothing
    exact nothing
  · next ends => exact exact_iff_narrow plain ends result

/-! ### A list at the top, and one below a key -/

/-- Two items with a text each. -/
def twoItems : Value := .list [.dict [(.str "x", .str "a")], .dict [(.str "x", .str "b")]]

/-- The path `items[].x`. -/
def itemsPath : List (Step PyStr) := [⟨"items", true⟩, ⟨"x", false⟩]

/-- The path `data.items[].x`. -/
def dataItemsPath : List (Step PyStr) := ⟨"data", false⟩ :: itemsPath

theorem plain_dataItemsPath : ∀ step ∈ dataItemsPath, PlainKey step.key := by
  simp only [dataItemsPath, itemsPath, List.forall_mem_cons, PlainKey]
  exact ⟨by decide, by decide, by decide, List.forall_mem_nil _⟩

theorem expandedExactly_items : ExpandedExactly Kernel.trial "read" "result.items[].x" itemsPath
    (.dict [(.str "items", twoItems)]) := by
  have plain : ∀ step ∈ itemsPath, PlainKey step.key := fun step member =>
    plain_dataItemsPath step (List.mem_cons_of_mem _ member)
  refine (expandedExactly_iff Kernel.trial "read" plain rfl _).mpr ?_
  rw [if_neg (by decide)]
  exact (firstPlaces_eq_iff _ itemsPath _).mp rfl

/-- Of two items below a key the expansion drops the second. -/
theorem data_items_dropped :
    (∀ step ∈ dataItemsPath, PlainKey step.key) ∧
      stripResult "result.data.items[].x" = patternText dataItemsPath ∧
      ¬ ExpandedExactly Kernel.trial "read" "result.data.items[].x" dataItemsPath
        (.dict [(.str "data", .dict [(.str "items", twoItems)])]) := by
  refine ⟨plain_dataItemsPath, rfl, fun exactly => ?_⟩
  have lengths := congrArg List.length (exact_iff.mp exactly.expanded)
  exact absurd lengths (by decide)

end AxorWrap.Trace
