/-
This file is a small theory of two methods that are run side by side from equal
states. They agree, and nothing of note happens, until a moment at which they
part; from then on each goes its own way, and all that is asked of it is that it
only adds to what was there.

That both come to the moment is said by a reach, a relation between the state a
method starts from and the moments its run passes through. A reach is built along
the text of the method, so that it says what it is supposed to say.
-/

import AxorWrap.Library.Script

namespace Twins

open Methods Scripts

/-- The moments a run from this state passes through. -/
abbrev Reach (σ μ : Type) := σ → μ → Prop

/-- What two runs share. In a quiet stretch nothing of note happens, a run only grows, and it parts
from the other at a moment that has a state of its own. -/
structure Parting (σ μ : Type) where
  quiet : σ → σ → Prop
  grows : σ → σ → Prop
  parts : Reach σ μ
  place : μ → σ
  quiet_refl : ∀ state, quiet state state
  quiet_trans : ∀ first second third, quiet first second → quiet second third → quiet first third
  grows_trans : ∀ first second third, grows first second → grows second third → grows first third
  grows_of_quiet : ∀ before after, quiet before after → grows before after
  parts_of_quiet : ∀ before after moment, quiet before after → parts after moment →
    parts before moment

variable {σ ω ρ ε ι α β μ : Type}

/-! ### Reaches -/

/-- Nothing on the way. -/
def Reach.never : Reach σ μ := fun _ _ => False

/-- The moments of a sequence are those of its first part, and those of the rest when the first part
returns. -/
def Reach.andThen (first : Reach σ μ) (method : Method σ ε α) (next : α → Reach σ μ) : Reach σ μ :=
  fun state moment =>
    first state moment ∨
      ∃ value left, Returns method state value left ∧ next value left moment

@[simp] theorem andThen_never (first : Reach σ μ) (method : Method σ ε α) :
    first.andThen method (fun _ => Reach.never) = first := by
  funext state moment
  simp [Reach.andThen, Reach.never]

@[simp] theorem never_andThen_get (next : σ → Reach σ μ) :
    Reach.never.andThen (get : Method σ ε σ) next = fun state => next state state := by
  funext state moment
  simp [Reach.andThen, Reach.never, Returns]

@[simp] theorem never_andThen_modify (update : σ → σ) (next : PUnit → Reach σ μ) :
    Reach.never.andThen (modify update : Method σ ε PUnit) next =
      fun state => next ⟨⟩ (update state) := by
  funext state moment
  refine propext ⟨?_, fun later => .inr ⟨⟨⟩, _, ⟨rfl, rfl⟩, later⟩⟩
  rintro (here | ⟨_, _, ⟨_, rfl⟩, later⟩)
  · exact absurd here id
  · exact later

@[simp] theorem andThen_observe (first : Reach σ μ) (method : Method σ ε α)
    (next : Except ε α → Reach σ μ) :
    first.andThen (observe method) next = fun state moment =>
      first state moment ∨ next (outcome method state) (final method state) moment := by
  funext state moment
  refine propext (or_congr_right ⟨?_, fun later => ⟨_, _, ⟨rfl, rfl⟩, later⟩⟩)
  rintro ⟨_, _, ⟨same, rfl⟩, later⟩
  cases same
  exact later

/-- The moments of a script are those of its requests. -/
def reachOf (host : Host σ ω ρ ε ι) (reach : ρ → Reach σ μ) : Script ω ρ ε ι α → Reach σ μ
  | .done _ => Reach.never
  | .raise _ => Reach.never
  | .read next => fun state => reachOf host reach (next (host.world state)) state
  | .write world next => fun state => reachOf host reach next (host.setWorld world state)
  | .ask request next => fun state moment =>
    reach request state moment ∨
      reachOf host reach (next (outcome (host.serve request) state))
        (final (host.serve request) state) moment
  | .pause next => reachOf host reach next

/-! ### Twins -/

variable (parting : Parting σ μ)

/-- The methods do the same from this state, and nothing of note. -/
def Agree (one other : Method σ ε α) (state : σ) : Prop :=
  final one state = final other state ∧ outcome one state = outcome other state ∧
    parting.quiet state (final one state)

/-- The methods come to one moment from this state and part there. -/
def Part (one other : Method σ ε α) (oneReach otherReach : Reach σ μ) (state : σ) : Prop :=
  ∃ moment, parting.parts state moment ∧ oneReach state moment ∧ otherReach state moment ∧
    parting.grows (parting.place moment) (final one state) ∧
    parting.grows (parting.place moment) (final other state)

/-- From every state the methods agree or part. -/
structure Twin (one other : Method σ ε α) (oneReach otherReach : Reach σ μ) : Prop where
  one_grows : ∀ state, parting.grows state (final one state)
  other_grows : ∀ state, parting.grows state (final other state)
  together : ∀ state,
    Agree parting one other state ∨ Part parting one other oneReach otherReach state

variable {parting}

/-- A method that is always quiet is its own twin. -/
theorem twin_quiet {method : Method σ ε α}
    (quiet : ∀ state, parting.quiet state (final method state)) :
    Twin parting method method Reach.never Reach.never where
  one_grows state := parting.grows_of_quiet _ _ (quiet state)
  other_grows state := parting.grows_of_quiet _ _ (quiet state)
  together state := .inl ⟨rfl, rfl, quiet state⟩

theorem Twin.mono {one other : Method σ ε α} {oneReach otherReach oneMore otherMore : Reach σ μ}
    (twin : Twin parting one other oneReach otherReach)
    (oneWeaker : ∀ state moment, oneReach state moment → oneMore state moment)
    (otherWeaker : ∀ state moment, otherReach state moment → otherMore state moment) :
    Twin parting one other oneMore otherMore where
  one_grows := twin.one_grows
  other_grows := twin.other_grows
  together state := (twin.together state).imp_right
    fun ⟨moment, parts, oneHere, otherHere, grown⟩ =>
      ⟨moment, parts, oneWeaker _ _ oneHere, otherWeaker _ _ otherHere, grown⟩

/-- What is run after a method only adds to it. -/
theorem grows_bind {method : Method σ ε α} {next : α → Method σ ε β} {state before : σ}
    (first : parting.grows before (final method state))
    (rest : ∀ value state, parting.grows state (final (next value) state)) :
    parting.grows before (final (method >>= next) state) := by
  rw [final_bind]
  cases outcome method state with
  | ok value => exact parting.grows_trans _ _ _ first (rest value _)
  | error error => exact first

/-- Sequences of twins are twins. -/
theorem twin_bind {one other : Method σ ε α} {oneNext otherNext : α → Method σ ε β}
    {oneReach otherReach : Reach σ μ} {oneRest otherRest : α → Reach σ μ}
    (first : Twin parting one other oneReach otherReach)
    (rest : ∀ value, Twin parting (oneNext value) (otherNext value) (oneRest value)
      (otherRest value)) :
    Twin parting (one >>= oneNext) (other >>= otherNext) (oneReach.andThen one oneRest)
      (otherReach.andThen other otherRest) where
  one_grows state := grows_bind (first.one_grows state) fun value => (rest value).one_grows
  other_grows state := grows_bind (first.other_grows state) fun value => (rest value).other_grows
  together state := by
    rcases first.together state with ⟨sameState, sameOutcome, quiet⟩ | parted
    · cases came : outcome one state with
      | error error =>
        left
        have otherCame := sameOutcome ▸ came
        refine ⟨?_, ?_, ?_⟩
        · rw [final_bind, final_bind, came, otherCame]
          exact sameState
        · rw [outcome_bind, outcome_bind, came, otherCame]
        · rw [final_bind, came]
          exact quiet
      | ok value =>
        have otherCame := sameOutcome ▸ came
        have oneBind : final (one >>= oneNext) state = final (oneNext value) (final one state) :=
          final_bind_ok came
        have otherBind : final (other >>= otherNext) state =
            final (otherNext value) (final one state) := by
          rw [final_bind_ok otherCame, sameState]
        rcases (rest value).together (final one state) with
          ⟨laterState, laterOutcome, laterQuiet⟩ | ⟨moment, parts, oneHere, otherHere, grown⟩
        · left
          refine ⟨?_, ?_, ?_⟩
          · rw [oneBind, otherBind, laterState]
          · rw [outcome_bind_ok came, outcome_bind_ok otherCame, ← sameState, laterOutcome]
          · rw [oneBind]
            exact parting.quiet_trans _ _ _ quiet laterQuiet
        · right
          refine ⟨moment, parting.parts_of_quiet _ _ _ quiet parts, ?_, ?_, ?_⟩
          · exact .inr ⟨value, _, ⟨came, rfl⟩, oneHere⟩
          · exact .inr ⟨value, _, ⟨otherCame, sameState.symm⟩, otherHere⟩
          · rw [oneBind, otherBind]
            exact grown
    · obtain ⟨moment, parts, oneHere, otherHere, oneGrown, otherGrown⟩ := parted
      right
      refine ⟨moment, parts, .inl oneHere, .inl otherHere, ?_, ?_⟩
      · exact grows_bind oneGrown fun value => (rest value).one_grows
      · exact grows_bind otherGrown fun value => (rest value).other_grows

/-- Twins remain twins when the same is done after them, quietly. -/
theorem twin_bind_quiet {one other : Method σ ε α} {next : α → Method σ ε β}
    {oneReach otherReach : Reach σ μ} (first : Twin parting one other oneReach otherReach)
    (quiet : ∀ value state, parting.quiet state (final (next value) state)) :
    Twin parting (one >>= next) (other >>= next) oneReach otherReach := by
  have twin := twin_bind first fun value => twin_quiet (quiet value)
  rwa [andThen_never, andThen_never] at twin

theorem twin_get {oneNext otherNext : σ → Method σ ε α} {oneRest otherRest : σ → Reach σ μ}
    (rest : ∀ state, Twin parting (oneNext state) (otherNext state) (oneRest state)
      (otherRest state)) :
    Twin parting (get >>= oneNext) (get >>= otherNext) (fun state => oneRest state state)
      fun state => otherRest state state := by
  have reads : Twin parting (get : Method σ ε σ) get Reach.never Reach.never :=
    twin_quiet parting.quiet_refl
  have twin := twin_bind reads rest
  rwa [never_andThen_get, never_andThen_get] at twin

theorem twin_modify {update : σ → σ} {oneNext otherNext : Method σ ε α}
    {oneRest otherRest : Reach σ μ} (quiet : ∀ state, parting.quiet state (update state))
    (rest : Twin parting oneNext otherNext oneRest otherRest) :
    Twin parting (modify update >>= fun _ => oneNext) (modify update >>= fun _ => otherNext)
      (fun state => oneRest (update state)) fun state => otherRest (update state) := by
  have writes : Twin parting (modify update : Method σ ε PUnit) (modify update) Reach.never
      Reach.never := twin_quiet quiet
  have twin := twin_bind writes fun _ => rest
  rwa [never_andThen_modify, never_andThen_modify] at twin

theorem twin_map {one other : Method σ ε α} {oneReach otherReach : Reach σ μ} (f : α → β)
    (twin : Twin parting one other oneReach otherReach) :
    Twin parting (f <$> one) (f <$> other) oneReach otherReach := by
  rw [← bind_pure_comp, ← bind_pure_comp]
  exact twin_bind_quiet twin fun _ => parting.quiet_refl

/-- To catch what is raised changes nothing of this. -/
theorem twin_observe {one other : Method σ ε α} {oneReach otherReach : Reach σ μ}
    (twin : Twin parting one other oneReach otherReach) :
    Twin parting (observe one) (observe other) oneReach otherReach where
  one_grows := twin.one_grows
  other_grows := twin.other_grows
  together state := (twin.together state).imp_left fun ⟨sameState, sameOutcome, quiet⟩ =>
    ⟨sameState, congrArg Except.ok sameOutcome, quiet⟩

/-- A script run by two hosts is a pair of twins when the hosts keep the world in the same place and
their services are. The induction is on the script. -/
theorem twin_exec {one other : Host σ ω ρ ε ι} (sameWorld : one.world = other.world)
    (sameWrites : one.setWorld = other.setWorld) {oneReach otherReach : ρ → Reach σ μ}
    (writes : ∀ world state, parting.quiet state (one.setWorld world state))
    (serves : ∀ request, Twin parting (one.serve request) (other.serve request)
      (oneReach request) (otherReach request)) (script : Script ω ρ ε ι α) :
    Twin parting (one.exec script) (other.exec script) (reachOf one oneReach script)
      (reachOf other otherReach script) := by
  obtain ⟨world, setWorld, oneServe⟩ := one
  obtain ⟨_, _, otherServe⟩ := other
  cases sameWorld
  cases sameWrites
  induction script with
  | done value => exact twin_quiet parting.quiet_refl
  | raise error => exact twin_quiet parting.quiet_refl
  | read next inductionHypothesis =>
    have twin := twin_get fun seen => inductionHypothesis (world seen)
    exact twin
  | write written next inductionHypothesis => exact twin_modify (writes written) inductionHypothesis
  | ask request next inductionHypothesis =>
    have twin := twin_bind (twin_observe (serves request)) inductionHypothesis
    rw [andThen_observe, andThen_observe] at twin
    exact twin
  | pause next inductionHypothesis => exact inductionHypothesis

end Twins
