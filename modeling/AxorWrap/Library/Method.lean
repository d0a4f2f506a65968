/-
This file is a small theory of methods: computations that read and write the
state of an object and may raise. Raising does not roll the state back, so a
method has two results, its outcome and the state it leaves behind, and both
are there whether it returns or raises.

A property of every state a method can leave is a relation between the state it
found and the state it left. Such a relation is proved along the text of the
method: it is kept by `pure` and `throw` when it is reflexive, by sequencing
when it is transitive, and by each write on its own.
-/

import Mathlib.Order.Defs.Unbundled
import Mathlib.Data.List.Forall2

namespace Methods

/-- A computation over the state `σ` that returns an `α` or raises an `ε`. -/
abbrev Method (σ ε α : Type) := ExceptT ε (StateM σ) α

variable {σ ε α β : Type}

/-- What the method returns or raises. -/
def outcome (method : Method σ ε α) (state : σ) : Except ε α := (method.run.run state).1

/-- The state the method leaves behind, whether it returns or raises. -/
def final (method : Method σ ε α) (state : σ) : σ := (method.run.run state).2

/-! ### Outcome and final state of the primitives -/

@[simp] theorem outcome_pure (value : α) (state : σ) :
    outcome (pure value : Method σ ε α) state = .ok value := rfl

@[simp] theorem final_pure (value : α) (state : σ) :
    final (pure value : Method σ ε α) state = state := rfl

@[simp] theorem outcome_modify (update : σ → σ) (state : σ) :
    outcome (modify update : Method σ ε PUnit) state = .ok ⟨⟩ := rfl

@[simp] theorem final_modify (update : σ → σ) (state : σ) :
    final (modify update : Method σ ε PUnit) state = update state := rfl

@[simp] theorem outcome_get (state : σ) :
    outcome (get : Method σ ε σ) state = .ok state := rfl

@[simp] theorem final_get (state : σ) : final (get : Method σ ε σ) state = state := rfl

/-- A pure computation that may raise leaves the state alone. -/
@[simp] theorem outcome_lift (computed : Except ε α) (state : σ) :
    outcome (liftM computed : Method σ ε α) state = computed := rfl

@[simp] theorem final_lift (computed : Except ε α) (state : σ) :
    final (liftM computed : Method σ ε α) state = state := rfl

/-! ### Sequencing -/

theorem outcome_bind (method : Method σ ε α) (next : α → Method σ ε β) (state : σ) :
    outcome (method >>= next) state =
      match outcome method state with
      | .ok value => outcome (next value) (final method state)
      | .error error => .error error := by
  unfold outcome final
  rw [ExceptT.run_bind, StateT.run_bind]
  cases ran : method.run.run state with
  | mk result left => cases result <;> rfl

theorem final_bind (method : Method σ ε α) (next : α → Method σ ε β) (state : σ) :
    final (method >>= next) state =
      match outcome method state with
      | .ok value => final (next value) (final method state)
      | .error _ => final method state := by
  unfold outcome final
  rw [ExceptT.run_bind, StateT.run_bind]
  cases ran : method.run.run state with
  | mk result left => cases result <;> rfl

theorem outcome_bind_ok {method : Method σ ε α} {next : α → Method σ ε β} {state : σ} {value : α}
    (returned : outcome method state = .ok value) :
    outcome (method >>= next) state = outcome (next value) (final method state) := by
  rw [outcome_bind, returned]

theorem final_bind_ok {method : Method σ ε α} {next : α → Method σ ε β} {state : σ} {value : α}
    (returned : outcome method state = .ok value) :
    final (method >>= next) state = final (next value) (final method state) := by
  rw [final_bind, returned]

/-- A sequence returns exactly when its first part does and the rest does after it. -/
theorem outcome_bind_eq_ok {method : Method σ ε α} {next : α → Method σ ε β} {state : σ}
    {value : β} :
    outcome (method >>= next) state = .ok value ↔
      ∃ middle, outcome method state = .ok middle ∧
        outcome (next middle) (final method state) = .ok value := by
  rw [outcome_bind]
  constructor
  · intro returned
    cases first : outcome method state with
    | ok middle =>
      rw [first] at returned
      exact ⟨middle, rfl, returned⟩
    | error error =>
      rw [first] at returned
      cases returned
  · rintro ⟨middle, first, returned⟩
    rw [first]
    exact returned

@[simp] theorem outcome_map (f : α → β) (method : Method σ ε α) (state : σ) :
    outcome (f <$> method) state = (outcome method state).map f := by
  rw [← bind_pure_comp, outcome_bind]
  cases outcome method state <;> rfl

@[simp] theorem final_map (f : α → β) (method : Method σ ε α) (state : σ) :
    final (f <$> method) state = final method state := by
  rw [← bind_pure_comp, final_bind]
  cases outcome method state <;> rfl

/-! ### Runs that return -/

/-- From this state the method returns this value and leaves that state. -/
def Returns (method : Method σ ε α) (state : σ) (value : α) (left : σ) : Prop :=
  outcome method state = .ok value ∧ final method state = left

theorem returns_pure {value other : α} {state left : σ} :
    Returns (pure value : Method σ ε α) state other left ↔ value = other ∧ state = left := by
  simp [Returns]

theorem returns_lift {computed : Except ε α} {state left : σ} {value : α} :
    Returns (liftM computed : Method σ ε α) state value left ↔
      computed = .ok value ∧ state = left := by
  simp [Returns]

theorem returns_get {state left value : σ} :
    Returns (get : Method σ ε σ) state value left ↔ state = value ∧ state = left := by
  simp [Returns]

theorem returns_modify {update : σ → σ} {state left : σ} {value : PUnit} :
    Returns (modify update : Method σ ε PUnit) state value left ↔ update state = left := by
  simp [Returns]

/-- A sequence returns when its first part does and the rest does from the state that left. -/
theorem returns_bind {method : Method σ ε α} {next : α → Method σ ε β} {state left : σ}
    {value : β} :
    Returns (method >>= next) state value left ↔
      ∃ middle between, Returns method state middle between ∧
        Returns (next middle) between value left := by
  unfold Returns
  rw [outcome_bind_eq_ok]
  constructor
  · rintro ⟨⟨middle, first, rest⟩, leaves⟩
    rw [final_bind_ok first] at leaves
    exact ⟨middle, _, ⟨first, rfl⟩, rest, leaves⟩
  · rintro ⟨middle, _, ⟨first, rfl⟩, rest, leaves⟩
    exact ⟨⟨middle, first, rest⟩, by rw [final_bind_ok first, leaves]⟩

/-- When each pass of a loop gains entries by the value it returns, the loop gains those of its
values in order. And what a pass establishes, and later gains keep, holds of every item and its
value in the end. -/
theorem returns_mapM {Entry : Type} {body : α → Method σ ε β} {good : σ → Prop}
    {Gains : List Entry → σ → σ → Prop} {entries : β → List Entry} {holds : α → β → σ → Prop}
    (nothing : ∀ state, Gains [] state state)
    (joined : ∀ first second before between after, Gains first before between →
      Gains second between after → Gains (first ++ second) before after)
    (each : ∀ item state value left, good state → Returns (body item) state value left →
      good left ∧ Gains (entries value) state left ∧ holds item value left)
    (stays : ∀ item value gained state left, Gains gained state left → holds item value state →
      holds item value left)
    {items : List α} {state left : σ} {values : List β} (initially : good state)
    (returned : Returns (items.mapM body) state values left) :
    good left ∧ Gains (values.flatMap entries) state left ∧
      List.Forall₂ (fun item value => holds item value left) items values := by
  induction items generalizing state values with
  | nil =>
    rw [List.mapM_nil, returns_pure] at returned
    obtain ⟨rfl, rfl⟩ := returned
    exact ⟨initially, nothing state, List.Forall₂.nil⟩
  | cons item rest inductionHypothesis =>
    rw [List.mapM_cons, returns_bind] at returned
    obtain ⟨value, between, first, later⟩ := returned
    obtain ⟨others, _, tail, made⟩ := returns_bind.mp later
    obtain ⟨rfl, rfl⟩ := returns_pure.mp made
    obtain ⟨goodBetween, gained, established⟩ := each item state value between initially first
    obtain ⟨goodLeft, gainedLater, establishedLater⟩ := inductionHypothesis goodBetween tail
    rw [List.flatMap_cons]
    exact ⟨goodLeft, joined _ _ _ _ _ gained gainedLater,
      List.Forall₂.cons (stays item value _ between _ gainedLater established) establishedLater⟩

/-- The value a guarded computation asks to be written: none when it declines or raises. -/
def wanted (computed : Except ε (Option α)) : Option α := computed.toOption.join

/-- One guarded assignment: evaluate what to write, if anything, then write it. -/
def assign (computed : Except ε (Option α)) (write : α → σ → σ) : Method σ ε Unit := do
  match ← liftM computed with
  | some value => modify (write value)
  | none => pure ()

theorem outcome_assign (computed : Except ε (Option α)) (write : α → σ → σ) (state : σ) :
    outcome (assign computed write) state = computed.map fun _ => () := by
  unfold assign
  rw [outcome_bind, outcome_lift]
  match computed with
  | .error _ => rfl
  | .ok none => rfl
  | .ok (some _) => rfl

theorem final_assign (computed : Except ε (Option α)) (write : α → σ → σ) (state : σ) :
    final (assign computed write) state =
      (wanted computed).elim state fun value => write value state := by
  unfold assign
  rw [final_bind, outcome_lift]
  match computed with
  | .error _ => rfl
  | .ok none => rfl
  | .ok (some _) => rfl

/-! ### Methods that return -/

/-- From this state the method returns. -/
def Succeeds (method : Method σ ε α) (state : σ) : Prop :=
  ∃ value, outcome method state = .ok value

theorem succeeds_pure (value : α) (state : σ) : Succeeds (pure value : Method σ ε α) state :=
  ⟨value, rfl⟩

theorem succeeds_bind {method : Method σ ε α} {next : α → Method σ ε β} {state : σ} :
    Succeeds (method >>= next) state ↔
      ∃ middle, outcome method state = .ok middle ∧
        Succeeds (next middle) (final method state) := by
  unfold Succeeds
  simp only [outcome_bind_eq_ok]
  constructor
  · rintro ⟨value, middle, first, rest⟩
    exact ⟨middle, first, value, rest⟩
  · rintro ⟨middle, first, value, rest⟩
    exact ⟨value, middle, first, rest⟩

theorem succeeds_get {next : σ → Method σ ε α} {state : σ} :
    Succeeds (get >>= next) state ↔ Succeeds (next state) state := by
  rw [succeeds_bind, outcome_get, final_get]
  simp only [Except.ok.injEq, exists_eq_left']

theorem succeeds_lift {computed : Except ε α} {state : σ} :
    Succeeds (liftM computed : Method σ ε α) state ↔ ∃ value, computed = .ok value := by
  unfold Succeeds
  rw [outcome_lift]

/-- A sequence whose rest returns or not whatever the first part does. -/
theorem succeeds_bind_iff {method : Method σ ε α} {next : α → Method σ ε β} {state : σ}
    {passes : Prop} (rest : ∀ middle left, Succeeds (next middle) left ↔ passes) :
    Succeeds (method >>= next) state ↔ Succeeds method state ∧ passes := by
  rw [succeeds_bind]
  simp only [rest]
  exact exists_and_right

/-- A sequence whose rest always returns. -/
theorem succeeds_bind_always {method : Method σ ε α} {next : α → Method σ ε β} {state : σ}
    (rest : ∀ middle left, Succeeds (next middle) left) :
    Succeeds (method >>= next) state ↔ Succeeds method state := by
  rw [succeeds_bind_iff fun middle left => iff_true_intro (rest middle left), and_true]

/-- A sequence that does not look at what its first part returns. -/
theorem succeeds_seq {method : Method σ ε α} {next : Method σ ε β} {state : σ} :
    Succeeds (method >>= fun _ => next) state ↔
      Succeeds method state ∧ Succeeds next (final method state) := by
  rw [succeeds_bind]
  exact exists_and_right

theorem succeeds_assign {computed : Except ε (Option α)} {write : α → σ → σ} {state : σ} :
    Succeeds (assign computed write) state ↔ ∃ value, computed = .ok value := by
  unfold Succeeds
  rw [outcome_assign]
  cases computed <;> simp [Except.map]

/-- A loop returns when each of its passes does, if no pass depends on the state for that. -/
theorem succeeds_mapM {body : α → Method σ ε β} {returns : α → Prop}
    (each : ∀ item state, Succeeds (body item) state ↔ returns item) (items : List α) (state : σ) :
    Succeeds (items.mapM body) state ↔ ∀ item ∈ items, returns item := by
  induction items generalizing state with
  | nil => exact iff_of_true (succeeds_pure _ _) (List.forall_mem_nil _)
  | cons item rest inductionHypothesis =>
    rw [List.mapM_cons, succeeds_bind, List.forall_mem_cons, ← each item state]
    constructor
    · rintro ⟨value, first, later⟩
      obtain ⟨others, tail, _⟩ := succeeds_bind.mp later
      exact ⟨⟨value, first⟩, (inductionHypothesis _).mp ⟨others, tail⟩⟩
    · rintro ⟨⟨value, first⟩, later⟩
      obtain ⟨others, tail⟩ := (inductionHypothesis _).mpr later
      exact ⟨value, first, succeeds_bind.mpr ⟨others, tail, succeeds_pure _ _⟩⟩

/-! ### Errors of another type -/

@[simp] theorem outcome_adapt {δ : Type} (f : ε → δ) (method : Method σ ε α) (state : σ) :
    outcome (ExceptT.adapt f method : Method σ δ α) state = (outcome method state).mapError f :=
  rfl

@[simp] theorem final_adapt {δ : Type} (f : ε → δ) (method : Method σ ε α) (state : σ) :
    final (ExceptT.adapt f method : Method σ δ α) state = final method state := rfl

/-! ### Fields that are kept or written -/

/-- A field is what it was, or a value it is allowed to be written. -/
def KeptOr (allowed : α → Prop) (before after : α) : Prop := after = before ∨ allowed after

theorem KeptOr.refl {allowed : α → Prop} (value : α) : KeptOr allowed value value := .inl rfl

/-- Of several writes the last one counts. -/
theorem KeptOr.trans {allowed : α → Prop} {first second third : α}
    (one : KeptOr allowed first second) (two : KeptOr allowed second third) :
    KeptOr allowed first third := by
  rcases two with kept | written
  · rw [kept]
    exact one
  · exact .inr written

theorem KeptOr.mono {allowed permitted : α → Prop} {before after : α}
    (weaker : allowed after → permitted after) (one : KeptOr allowed before after) :
    KeptOr permitted before after :=
  one.imp_right weaker

/-! ### Relations between the state found and the state left -/

section Relations

variable {R : σ → σ → Prop}

/-- A sequence keeps a transitive relation when its parts do. The second part runs only after
the first returned, from the state the first left. -/
theorem related_bind [IsTrans σ R] {method : Method σ ε α} {next : α → Method σ ε β} {state : σ}
    (first : R state (final method state))
    (second : ∀ value, outcome method state = .ok value →
      R (final method state) (final (next value) (final method state))) :
    R state (final (method >>= next) state) := by
  rw [final_bind]
  cases returned : outcome method state with
  | ok value => exact IsTrans.trans _ _ _ first (second value returned)
  | error error => exact first

/-- A guarded assignment keeps a reflexive relation when its write does. -/
theorem related_assign [Std.Refl R] {computed : Except ε (Option α)} {write : α → σ → σ}
    {state : σ} (written : ∀ value, computed = .ok (some value) → R state (write value state)) :
    R state (final (assign computed write) state) := by
  rw [final_assign]
  match computed with
  | .error _ => exact Std.Refl.refl state
  | .ok none => exact Std.Refl.refl state
  | .ok (some value) => exact written value rfl

/-- A loop keeps what each of its passes keeps. -/
theorem related_mapM [Std.Refl R] [IsTrans σ R] {body : α → Method σ ε β}
    (each : ∀ item state, R state (final (body item) state)) (items : List α) (state : σ) :
    R state (final (items.mapM body) state) := by
  induction items generalizing state with
  | nil => exact Std.Refl.refl state
  | cons item rest inductionHypothesis =>
    rw [List.mapM_cons]
    exact related_bind (each item state) fun value _ =>
      related_bind (inductionHypothesis _) fun _ _ => Std.Refl.refl _

theorem related_forM [Std.Refl R] [IsTrans σ R] {body : α → Method σ ε PUnit}
    (each : ∀ item state, R state (final (body item) state)) (items : List α) (state : σ) :
    R state (final (items.forM body) state) := by
  induction items generalizing state with
  | nil => exact Std.Refl.refl state
  | cons item rest inductionHypothesis =>
    show R state (final (body item >>= fun _ => rest.forM body) state)
    exact related_bind (each item state) fun _ _ => inductionHypothesis _

end Relations

/-! ### Loops -/

/-- What every pass returns, a loop returns, if it is true of the value it starts with. -/
theorem outcome_foldlM_forall {body : β → α → Method σ ε β} (holds : β → Prop)
    (each : ∀ carried item state value, holds carried →
      outcome (body carried item) state = .ok value → holds value)
    (items : List α) {start : β} (initially : holds start) (state : σ) {value : β}
    (returned : outcome (items.foldlM body start) state = .ok value) : holds value := by
  induction items generalizing start state with
  | nil =>
    cases returned
    exact initially
  | cons item rest inductionHypothesis =>
    rw [List.foldlM_cons, outcome_bind_eq_ok] at returned
    obtain ⟨carried, first, later⟩ := returned
    exact inductionHypothesis (each start item state carried initially first) _ later

/-- When every pass returns and appends its entries to a log, a loop appends those of all items. -/
theorem logged_forM {Entry : Type} {body : α → Method σ ε PUnit} (log : σ → List Entry)
    (entries : α → List Entry) {items : List α}
    (each : ∀ item ∈ items, ∀ state, Succeeds (body item) state ∧
      log (final (body item) state) = log state ++ entries item) (state : σ) :
    log (final (items.forM body) state) = log state ++ items.flatMap entries := by
  induction items generalizing state with
  | nil => exact (List.append_nil _).symm
  | cons item rest inductionHypothesis =>
    obtain ⟨⟨⟨⟩, returned⟩, appended⟩ := each item List.mem_cons_self state
    show log (final (body item >>= fun _ => rest.forM body) state) = _
    rw [final_bind_ok returned, List.flatMap_cons, ← List.append_assoc, ← appended]
    exact inductionHypothesis (fun other member => each other (List.mem_cons_of_mem _ member)) _

/-- When a pass leaves a state that does not depend on the value carried, a loop leaves the
state its passes leave one after another: all of them, unless one raises. -/
theorem final_foldlM {body : β → α → Method σ ε β} (effect : σ → α → σ)
    (independent : ∀ carried item state, final (body carried item) state = effect state item)
    (items : List α) (start : β) (state : σ) :
    ∃ ran, ran <+: items ∧ final (items.foldlM body start) state = ran.foldl effect state ∧
      ∀ value, outcome (items.foldlM body start) state = .ok value → ran = items := by
  induction items generalizing start state with
  | nil => exact ⟨[], List.prefix_rfl, rfl, fun _ _ => rfl⟩
  | cons item rest inductionHypothesis =>
    rw [List.foldlM_cons, final_bind, outcome_bind]
    cases first : outcome (body start item) state with
    | error error =>
      exact ⟨[item], List.prefix_append [item] rest, independent start item state,
        fun _ returned => by cases returned⟩
    | ok carried =>
      obtain ⟨ran, isPrefix, left, all⟩ :=
        inductionHypothesis carried (final (body start item) state)
      refine ⟨item :: ran, List.cons_prefix_cons.mpr ⟨rfl, isPrefix⟩, ?_, ?_⟩
      · rw [List.foldl_cons, ← independent start item state]
        exact left
      · exact fun value returned => congrArg (item :: ·) (all value returned)

/-- When a loop returns, each of its passes returned, from the state the passes before it left. -/
theorem returned_foldlM {body : β → α → Method σ ε β} (effect : σ → α → σ)
    (returns : σ → α → Prop)
    (independent : ∀ carried item state, final (body carried item) state = effect state item)
    (each : ∀ carried item state value, outcome (body carried item) state = .ok value →
      returns state item)
    {items : List α} {start : β} {state : σ} {value : β}
    (returned : outcome (items.foldlM body start) state = .ok value)
    {earlier later : List α} {item : α} (split : items = earlier ++ item :: later) :
    returns (earlier.foldl effect state) item := by
  induction items generalizing start state earlier with
  | nil => cases earlier <;> cases split
  | cons head rest inductionHypothesis =>
    rw [List.foldlM_cons, outcome_bind_eq_ok] at returned
    obtain ⟨carried, first, tail⟩ := returned
    cases earlier with
    | nil =>
      cases split
      exact each start item state carried first
    | cons other before =>
      cases split
      rw [independent] at tail
      exact inductionHypothesis tail rfl

end Methods
