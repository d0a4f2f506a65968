/-
This file is a small theory of checks: computations with three ends. A check
accepts with a value, refuses with a reason, or raises. A sequence of checks
accepts exactly when every one of them does.
-/

import Mathlib.Data.List.Forall2

namespace Checks

/-- A computation that accepts an `α`, refuses with an `ε`, or raises a `χ`. -/
abbrev Check (ε χ α : Type) := ExceptT ε (Except χ) α

variable {ε χ α β : Type}

/-- A computation that may raise returns when its first part does and the rest does after it. -/
theorem bind_eq_ok {computed : Except χ α} {next : α → Except χ β} {value : β} :
    (computed >>= next) = .ok value ↔
      ∃ middle, computed = .ok middle ∧ next middle = .ok value := by
  cases computed with
  | error error => simp [bind, Except.bind]
  | ok middle => simp [bind, Except.bind]

/-- A computation raises when its first part does, or returns and the rest raises after it. -/
theorem bind_eq_error {computed : Except χ α} {next : α → Except χ β} {error : χ} :
    (computed >>= next) = .error error ↔
      computed = .error error ∨ ∃ middle, computed = .ok middle ∧ next middle = .error error := by
  cases computed with
  | error error => simp [bind, Except.bind]
  | ok middle => simp [bind, Except.bind]

/-- A loop without a state returns the values its passes return. -/
theorem mapM_eq_ok {body : α → Except χ β} {items : List α} {values : List β} :
    items.mapM body = .ok values ↔
      List.Forall₂ (fun item value => body item = .ok value) items values := by
  induction items generalizing values with
  | nil =>
    rw [List.mapM_nil, List.forall₂_nil_left_iff]
    exact ⟨fun same => (Except.ok.inj same).symm, fun same => congrArg Except.ok same.symm⟩
  | cons item rest inductionHypothesis =>
    rw [List.mapM_cons, List.forall₂_cons_left_iff]
    cases first : body item with
    | error error => exact ⟨fun same => (nomatch same), fun ⟨_, _, same, _⟩ => (nomatch same)⟩
    | ok value =>
      cases later : rest.mapM body with
      | error error =>
        refine ⟨fun same => (nomatch same), fun ⟨_, others, _, tail, _⟩ => ?_⟩
        cases later.symm.trans (inductionHypothesis.mpr tail)
      | ok others =>
        constructor
        · intro same
          cases same
          exact ⟨value, others, rfl, inductionHypothesis.mp later, rfl⟩
        · rintro ⟨_, _, same, tail, rfl⟩
          cases same
          cases later.symm.trans (inductionHypothesis.mpr tail)
          rfl

/-- A loop returns when each of its passes does, whatever the state it is at. -/
theorem foldlM_returns_iff {body : β → α → Except χ β} {passes : α → Prop}
    (each : ∀ state item, (∃ later, body state item = .ok later) ↔ passes item)
    {items : List α} {start : β} :
    (∃ state, items.foldlM body start = .ok state) ↔ ∀ item ∈ items, passes item := by
  induction items generalizing start with
  | nil =>
    refine iff_of_true ⟨start, rfl⟩ fun _ member => ?_
    cases member
  | cons item rest inductionHypothesis =>
    rw [List.forall_mem_cons, ← each start item]
    simp only [List.foldlM_cons, bind_eq_ok]
    constructor
    · rintro ⟨state, later, first, folded⟩
      exact ⟨⟨later, first⟩, inductionHypothesis.mp ⟨state, folded⟩⟩
    · rintro ⟨⟨later, first⟩, others⟩
      obtain ⟨state, folded⟩ := inductionHypothesis.mpr others
      exact ⟨state, later, first, folded⟩

/-- A loop whose passes append puts out what each of them makes. -/
theorem output_foldlM {body : β → α → Except χ β} {γ : Type} {output : β → List γ}
    {made : α → List γ}
    (each : ∀ state item later, body state item = .ok later →
      output later = output state ++ made item)
    {items : List α} {start state : β} (folded : items.foldlM body start = .ok state) :
    output state = output start ++ items.flatMap made := by
  induction items generalizing start with
  | nil =>
    cases folded
    exact (List.append_nil _).symm
  | cons item rest inductionHypothesis =>
    rw [List.foldlM_cons] at folded
    obtain ⟨later, first, folded⟩ := bind_eq_ok.mp folded
    rw [inductionHypothesis folded, each start item later first, List.flatMap_cons,
      List.append_assoc]

/-- A loop that keeps the first thing it comes upon has the first that an item gives. -/
theorem found_foldlM {body : β → α → Except χ β} {γ : Type} {found : β → Option γ}
    {gives : α → Option γ}
    (each : ∀ state item later, body state item = .ok later →
      found later = (found state).or (gives item))
    {items : List α} {start state : β} (folded : items.foldlM body start = .ok state) :
    found state = (found start).or (items.findSome? gives) := by
  induction items generalizing start with
  | nil =>
    cases folded
    exact Option.or_none.symm
  | cons item rest inductionHypothesis =>
    rw [List.foldlM_cons] at folded
    obtain ⟨later, first, folded⟩ := bind_eq_ok.mp folded
    rw [inductionHypothesis folded, each start item later first, Option.or_assoc,
      List.findSome?_cons]
    cases gives item with
    | none => rw [Option.none_or]
    | some value => rw [Option.some_or]

/-- What a loop raises, one of its passes raises. -/
theorem raised_foldlM {body : β → α → Except χ β} {raises : χ → Prop}
    (each : ∀ state item error, body state item = .error error → raises error)
    {items : List α} {start : β} {error : χ} (failed : items.foldlM body start = .error error) :
    raises error := by
  induction items generalizing start with
  | nil => cases failed
  | cons item rest inductionHypothesis =>
    rw [List.foldlM_cons] at failed
    rcases bind_eq_error.mp failed with first | ⟨later, _, failed⟩
    · exact each start item error first
    · exact inductionHypothesis failed

/-- A loop without a state returns when each of its passes does. -/
theorem mapM_returns_iff {body : α → Except χ β} {items : List α} :
    (∃ values, items.mapM body = .ok values) ↔ ∀ item ∈ items, ∃ value, body item = .ok value := by
  simp only [mapM_eq_ok]
  induction items with
  | nil => exact iff_of_true ⟨[], .nil⟩ (List.forall_mem_nil _)
  | cons item rest inductionHypothesis =>
    rw [List.forall_mem_cons, ← inductionHypothesis]
    constructor
    · rintro ⟨_, each⟩
      cases each with
      | cons first later => exact ⟨⟨_, first⟩, _, later⟩
    · rintro ⟨⟨value, first⟩, values, later⟩
      exact ⟨value :: values, .cons first later⟩

/-- What a loop without a state raises, one of its passes raises. -/
theorem raised_mapM {body : α → Except χ β} {raises : χ → Prop}
    (each : ∀ item error, body item = .error error → raises error) {items : List α} {error : χ}
    (failed : items.mapM body = .error error) : raises error := by
  induction items with
  | nil => cases failed
  | cons item rest inductionHypothesis =>
    rw [List.mapM_cons] at failed
    rcases bind_eq_error.mp failed with first | ⟨_, _, failed⟩
    · exact each item error first
    · rcases bind_eq_error.mp failed with later | ⟨_, _, wrong⟩
      · exact inductionHypothesis later
      · cases wrong

theorem exists_of_isOk {computed : Except χ α} (returns : computed.isOk = true) :
    ∃ value, computed = .ok value := by
  cases computed with
  | error error => cases returns
  | ok value => exact ⟨value, rfl⟩

/-- What nothing is asked of when a value is missing asks something of a value that is there. -/
theorem iff_forall_some (computed : Option α → Prop) {asked : α → Prop} (missing : computed none)
    (present : ∀ value, computed (some value) ↔ asked value) (optional : Option α) :
    computed optional ↔ ∀ value, optional = some value → asked value := by
  cases optional with
  | none =>
    refine iff_of_true missing ?_
    rintro _ ⟨⟩
  | some value =>
    rw [present]
    constructor
    · rintro holds _ ⟨⟩
      exact holds
    · exact fun each => each value rfl

/-- The check accepts this value. -/
def Accepts (check : Check ε χ α) (value : α) : Prop := check.run = .ok (.ok value)

theorem accepts_pure {value other : α} :
    Accepts (pure value : Check ε χ α) other ↔ value = other := by
  unfold Accepts
  rw [ExceptT.run_pure]
  simp [pure, Except.pure]

theorem not_accepts_throw {reason : ε} {value : α} :
    ¬ Accepts (throw reason : Check ε χ α) value := by
  unfold Accepts
  rw [ExceptT.run_throw]
  simp [pure, Except.pure]

theorem accepts_lift {computed : Except χ α} {value : α} :
    Accepts (ExceptT.lift computed : Check ε χ α) value ↔ computed = .ok value := by
  unfold Accepts
  rw [ExceptT.run_lift]
  cases computed <;> simp [Functor.map, Except.map]

/-- A sequence accepts when its first part does and the rest does on what it accepted. -/
theorem accepts_bind {check : Check ε χ α} {next : α → Check ε χ β} {value : β} :
    Accepts (check >>= next) value ↔
      ∃ middle, Accepts check middle ∧ Accepts (next middle) value := by
  unfold Accepts
  rw [ExceptT.run_bind]
  constructor
  · intro accepted
    match ran : check.run with
    | .error error => simp [ran, bind, Except.bind] at accepted
    | .ok (.error reason) => simp [ran, bind, Except.bind, pure, Except.pure] at accepted
    | .ok (.ok middle) =>
      rw [ran] at accepted
      exact ⟨middle, rfl, accepted⟩
  · rintro ⟨middle, ran, accepted⟩
    rw [ran]
    exact accepted

theorem accepts_map {f : α → β} {check : Check ε χ α} {value : β} :
    Accepts (f <$> check) value ↔ ∃ middle, Accepts check middle ∧ f middle = value := by
  rw [← bind_pure_comp, accepts_bind]
  simp only [accepts_pure]

/-- A loop accepts when every pass accepts its item. -/
theorem accepts_mapM {body : α → Check ε χ β} {items : List α} {values : List β} :
    Accepts (items.mapM body) values ↔
      List.Forall₂ (fun item value => Accepts (body item) value) items values := by
  induction items generalizing values with
  | nil => rw [List.mapM_nil, accepts_pure, List.forall₂_nil_left_iff, eq_comm]
  | cons item rest inductionHypothesis =>
    rw [List.mapM_cons, accepts_bind]
    constructor
    · rintro ⟨value, first, accepted⟩
      obtain ⟨later, tail, joined⟩ := accepts_bind.mp accepted
      rw [← accepts_pure.mp joined]
      exact List.Forall₂.cons first (inductionHypothesis.mp tail)
    · intro each
      cases each with
      | cons first tail =>
        exact ⟨_, first, accepts_bind.mpr ⟨_, inductionHypothesis.mpr tail, accepts_pure.mpr rfl⟩⟩

/-- Every value of a loop came from one of its items. -/
theorem exists_of_mem_right {R : α → β → Prop} {items : List α} {values : List β}
    (each : List.Forall₂ R items values) {value : β} (member : value ∈ values) :
    ∃ item ∈ items, R item value := by
  induction each with
  | nil => exact absurd member List.not_mem_nil
  | cons first _ inductionHypothesis =>
    rcases List.mem_cons.mp member with rfl | later
    · exact ⟨_, List.mem_cons_self, first⟩
    · obtain ⟨item, inItems, related⟩ := inductionHypothesis later
      exact ⟨item, List.mem_cons_of_mem _ inItems, related⟩

/-- Every item of a loop came to one of its values. -/
theorem exists_of_mem_left {R : α → β → Prop} {items : List α} {values : List β}
    (each : List.Forall₂ R items values) {item : α} (member : item ∈ items) :
    ∃ value ∈ values, R item value := by
  obtain ⟨value, inValues, related⟩ := exists_of_mem_right each.flip member
  exact ⟨value, inValues, related⟩

/-- Two relations along the same lists hold together. -/
theorem forall₂_both {R S : α → β → Prop} {items : List α} {values : List β}
    (one : List.Forall₂ R items values) (two : List.Forall₂ S items values) :
    List.Forall₂ (fun item value => R item value ∧ S item value) items values := by
  induction one with
  | nil => exact .nil
  | cons first _ inductionHypothesis =>
    cases two with
    | cons second rest => exact .cons ⟨first, second⟩ (inductionHypothesis rest)

/-- What is related to a list with one item at its end has one at its end too. -/
theorem forall₂_concat_left {R : α → β → Prop} {items : List α} {item : α} {values : List β} :
    List.Forall₂ R (items ++ [item]) values ↔
      ∃ earlier last, values = earlier ++ [last] ∧ List.Forall₂ R items earlier ∧ R item last := by
  constructor
  · intro each
    induction items generalizing values with
    | nil =>
      obtain ⟨last, _, related, none, rfl⟩ := List.forall₂_cons_left_iff.mp each
      cases none
      exact ⟨[], last, rfl, .nil, related⟩
    | cons first rest inductionHypothesis =>
      obtain ⟨value, others, related, later, rfl⟩ := List.forall₂_cons_left_iff.mp each
      obtain ⟨earlier, last, rfl, before, ends⟩ := inductionHypothesis later
      exact ⟨value :: earlier, last, rfl, .cons related before, ends⟩
  · rintro ⟨earlier, last, rfl, before, related⟩
    exact List.rel_append before (.cons related .nil)

/-! ### Refusals -/

/-- The check refuses for this reason. -/
def Refuses (check : Check ε χ α) (reason : ε) : Prop := check.run = .ok (.error reason)

theorem refuses_throw {reason other : ε} :
    Refuses (throw reason : Check ε χ α) other ↔ reason = other := by
  unfold Refuses
  rw [ExceptT.run_throw]
  simp [pure, Except.pure]

theorem not_refuses_pure {value : α} {reason : ε} :
    ¬ Refuses (pure value : Check ε χ α) reason := by
  unfold Refuses
  rw [ExceptT.run_pure]
  simp [pure, Except.pure]

theorem not_refuses_lift {computed : Except χ α} {reason : ε} :
    ¬ Refuses (ExceptT.lift computed : Check ε χ α) reason := by
  unfold Refuses
  rw [ExceptT.run_lift]
  cases computed <;> simp [Functor.map, Except.map]

/-- A sequence refuses when its first part does, or accepts and the rest refuses. -/
theorem refuses_bind {check : Check ε χ α} {next : α → Check ε χ β} {reason : ε}
    (refused : Refuses (check >>= next) reason) :
    Refuses check reason ∨ ∃ middle, Accepts check middle ∧ Refuses (next middle) reason := by
  unfold Refuses Accepts at *
  rw [ExceptT.run_bind] at refused
  match ran : check.run with
  | .error error => simp [ran, bind, Except.bind] at refused
  | .ok (.error other) =>
    rw [ran] at refused
    cases refused
    exact .inl rfl
  | .ok (.ok middle) =>
    rw [ran] at refused
    exact .inr ⟨middle, rfl, refused⟩

/-- A loop refuses for a reason one of its passes refuses for. -/
theorem refuses_mapM {body : α → Check ε χ β} {items : List α} {reason : ε}
    (refused : Refuses (items.mapM body) reason) : ∃ item ∈ items, Refuses (body item) reason := by
  induction items with
  | nil =>
    rw [List.mapM_nil] at refused
    exact absurd refused not_refuses_pure
  | cons item rest inductionHypothesis =>
    rw [List.mapM_cons] at refused
    rcases refuses_bind refused with first | ⟨value, _, later⟩
    · exact ⟨item, List.mem_cons_self, first⟩
    rcases refuses_bind later with tail | ⟨_, _, joined⟩
    · obtain ⟨other, member, refusal⟩ := inductionHypothesis tail
      exact ⟨other, List.mem_cons_of_mem _ member, refusal⟩
    · exact absurd joined not_refuses_pure

/-! ### The first that is not accepted -/

/-- A list of which not everything has a property has a first item without it. -/
theorem exists_first {holds : α → Prop} {items : List α}
    (fails : ∃ item ∈ items, ¬ holds item) :
    ∃ before item after, items = before ++ item :: after ∧ (∀ earlier ∈ before, holds earlier) ∧
      ¬ holds item := by
  induction items with
  | nil =>
    obtain ⟨_, member, _⟩ := fails
    exact absurd member List.not_mem_nil
  | cons first rest inductionHypothesis =>
    by_cases here : holds first
    · have later : ∃ item ∈ rest, ¬ holds item := by
        obtain ⟨item, member, fails⟩ := fails
        rcases List.mem_cons.mp member with rfl | inRest
        · exact absurd here fails
        · exact ⟨item, inRest, fails⟩
      obtain ⟨before, item, after, rfl, each, fails⟩ := inductionHypothesis later
      exact ⟨first :: before, item, after, rfl, List.forall_mem_cons.mpr ⟨here, each⟩, fails⟩
    · exact ⟨[], first, rest, rfl, List.forall_mem_nil _, here⟩

/-- A loop comes past the items that are accepted. -/
theorem run_mapM_append {body : α → Check ε χ β} {before : List α}
    (accepted : ∀ earlier ∈ before, ∃ value, Accepts (body earlier) value) (rest : List α) :
    ∃ values, ((before ++ rest).mapM body).run = ((values ++ ·) <$> rest.mapM body).run := by
  induction before with
  | nil => exact ⟨[], by simp⟩
  | cons first before inductionHypothesis =>
    obtain ⟨⟨value, isAccepted⟩, others⟩ := List.forall_mem_cons.mp accepted
    obtain ⟨values, later⟩ := inductionHypothesis others
    refine ⟨value :: values, ?_⟩
    rw [List.cons_append, List.mapM_cons, ExceptT.run_bind, isAccepted]
    show (ExceptT.run ((before ++ rest).mapM body >>= fun tail => pure (value :: tail))) = _
    rw [ExceptT.run_bind, later, ExceptT.run_map, ExceptT.run_map]
    match (rest.mapM body).run with
    | .error error => rfl
    | .ok (.error reason) => rfl
    | .ok (.ok tail) => rfl

variable {body : α → Check ε χ β} {before after : List α} {item : α}

/-- A loop ends at the first item that is refused. -/
theorem refuses_mapM_of_first {reason : ε}
    (accepted : ∀ earlier ∈ before, ∃ value, Accepts (body earlier) value)
    (refused : Refuses (body item) reason) :
    Refuses ((before ++ item :: after).mapM body) reason := by
  obtain ⟨values, same⟩ := run_mapM_append accepted (item :: after)
  unfold Refuses at refused ⊢
  rw [same, ExceptT.run_map, List.mapM_cons, ExceptT.run_bind, refused]
  rfl

/-- A loop ends at the first item on which a pass raises. -/
theorem raises_mapM_of_first {error : χ}
    (accepted : ∀ earlier ∈ before, ∃ value, Accepts (body earlier) value)
    (raised : (body item).run = .error error) :
    ((before ++ item :: after).mapM body).run = .error error := by
  obtain ⟨values, same⟩ := run_mapM_append accepted (item :: after)
  rw [same, ExceptT.run_map, List.mapM_cons, ExceptT.run_bind, raised]
  rfl

end Checks
