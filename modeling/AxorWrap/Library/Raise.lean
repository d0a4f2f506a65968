/-
This file is a small theory of what a method may raise. That a method raises only what is allowed,
whatever state it finds, is proved along its text: what returns raises nothing, a sequence raises
what its parts raise, and where the outcome of a method is observed its error is a value, which the
rest may raise again or drop. What may be raised can also depend on the state that is left.
-/

import AxorWrap.Library.Script

namespace Methods

open Scripts

variable {σ ε α β : Type}

/-- From any state, what the method raises is allowed. -/
def RaisesOnly (allowed : ε → Prop) (method : Method σ ε α) : Prop :=
  ∀ state error, outcome method state = .error error → allowed error

variable {allowed permitted : ε → Prop}

theorem RaisesOnly.mono {method : Method σ ε α} (weaker : ∀ error, allowed error → permitted error)
    (only : RaisesOnly allowed method) : RaisesOnly permitted method :=
  fun state error raised => weaker error (only state error raised)

theorem raisesOnly_pure (value : α) : RaisesOnly allowed (pure value : Method σ ε α) :=
  fun _ _ raised => nomatch raised

theorem raisesOnly_modify (update : σ → σ) :
    RaisesOnly allowed (modify update : Method σ ε PUnit) :=
  fun _ _ raised => nomatch raised

theorem raisesOnly_throw {error : ε} (isAllowed : allowed error) :
    RaisesOnly allowed (throw error : Method σ ε α) := by
  intro state other raised
  cases raised
  exact isAllowed

theorem raisesOnly_lift {computed : Except ε α}
    (only : ∀ error, computed = .error error → allowed error) :
    RaisesOnly allowed (liftM computed : Method σ ε α) :=
  fun _ error raised => only error raised

/-- A sequence raises what its parts raise. -/
theorem raisesOnly_bind {method : Method σ ε α} {next : α → Method σ ε β}
    (first : RaisesOnly allowed method) (rest : ∀ value, RaisesOnly allowed (next value)) :
    RaisesOnly allowed (method >>= next) := by
  intro state error raised
  rw [outcome_bind] at raised
  cases came : outcome method state with
  | ok value =>
    rw [came] at raised
    exact rest value _ error raised
  | error other =>
    rw [came] at raised
    cases raised
    exact first state error came

theorem raisesOnly_get {next : σ → Method σ ε α} (rest : ∀ state, RaisesOnly allowed (next state)) :
    RaisesOnly allowed (get >>= next) :=
  raisesOnly_bind (fun _ _ raised => nomatch raised) rest

/-- What is observed was returned, or is an error that the method may raise. -/
theorem raisesOnly_observe {method : Method σ ε α} {next : Except ε α → Method σ ε β}
    (first : RaisesOnly allowed method)
    (returned : ∀ value, RaisesOnly permitted (next (.ok value)))
    (caught : ∀ error, allowed error → RaisesOnly permitted (next (.error error))) :
    RaisesOnly permitted (observe method >>= next) := by
  intro state error raised
  rw [outcome_bind_ok (outcome_observe method state)] at raised
  cases came : outcome method state with
  | ok value =>
    rw [came] at raised
    exact returned value _ error raised
  | error other =>
    rw [came] at raised
    exact caught other (first state other came) _ error raised

theorem raisesOnly_mapM {body : α → Method σ ε β}
    (each : ∀ item, RaisesOnly allowed (body item)) (items : List α) :
    RaisesOnly allowed (items.mapM body) := by
  induction items with
  | nil => exact raisesOnly_pure []
  | cons item rest inductionHypothesis =>
    rw [List.mapM_cons]
    exact raisesOnly_bind (each item) fun _ =>
      raisesOnly_bind inductionHypothesis fun _ => raisesOnly_pure _

theorem raisesOnly_forM {body : α → Method σ ε PUnit} {items : List α}
    (each : ∀ item ∈ items, RaisesOnly allowed (body item)) :
    RaisesOnly allowed (items.forM body) := by
  induction items with
  | nil => exact raisesOnly_pure PUnit.unit
  | cons item rest inductionHypothesis =>
    rw [List.forall_mem_cons] at each
    show RaisesOnly allowed (body item >>= fun _ => rest.forM body)
    exact raisesOnly_bind each.1 fun _ => inductionHypothesis each.2

/-! ### Where it is raised -/

/-- From this state, what the method raises is allowed in the state it leaves. -/
def RaisesFrom (allowed : σ → ε → Prop) (state : σ) (method : Method σ ε α) : Prop :=
  ∀ error, outcome method state = .error error → allowed (final method state) error

variable {leaves : σ → ε → Prop} {state : σ}

theorem RaisesOnly.raisesFrom {method : Method σ ε α}
    (only : RaisesOnly (fun error => ∀ left, leaves left error) method) :
    RaisesFrom leaves state method :=
  fun error raised => only state error raised _

theorem raisesFrom_bind {method : Method σ ε α} {next : α → Method σ ε β}
    (first : RaisesFrom leaves state method)
    (rest : ∀ value, outcome method state = .ok value →
      RaisesFrom leaves (final method state) (next value)) :
    RaisesFrom leaves state (method >>= next) := by
  intro error raised
  cases came : outcome method state with
  | ok value =>
    rw [outcome_bind_ok came] at raised
    rw [final_bind_ok came]
    exact rest value came error raised
  | error other =>
    rw [outcome_bind, came] at raised
    rw [final_bind, came]
    cases raised
    exact first error came

end Methods
