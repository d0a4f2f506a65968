/-
This file is a small theory of deterministic machines that answer operations. A
run is the list of operations it is fed; its history lists the transitions in
order, each with the state found, the operation, the answer and the state left.

The rules come in three kinds. What every transition preserves, every run does.
What every transition appends to a log, the log of a run lists in order. And an
identifier that a transition may hand out only while it is unspent, and spends
by handing it out, is handed out at most once over any run.
-/

import Mathlib.Order.Defs.Unbundled
import Mathlib.Data.List.Nodup

namespace Machines

/-- A machine: the answer it gives and the state it moves to. -/
structure Machine (State Op Answer : Type) where
  answer : State → Op → Answer
  next : State → Op → State

/-- One step of a run. -/
structure Transition (State Op Answer : Type) where
  before : State
  operation : Op
  answer : Answer
  after : State

namespace Machine

variable {State Op Answer : Type} (machine : Machine State Op Answer)

/-- The transition an operation makes from a state. -/
def transition (state : State) (operation : Op) : Transition State Op Answer :=
  ⟨state, operation, machine.answer state operation, machine.next state operation⟩

/-- The state a run ends in. -/
def run (state : State) (operations : List Op) : State := operations.foldl machine.next state

/-- The transitions of a run, in order. -/
def history : State → List Op → List (Transition State Op Answer)
  | _, [] => []
  | state, operation :: rest =>
    machine.transition state operation :: history (machine.next state operation) rest

theorem run_nil (state : State) : machine.run state [] = state := rfl

theorem run_cons (state : State) (operation : Op) (rest : List Op) :
    machine.run state (operation :: rest) = machine.run (machine.next state operation) rest := rfl

theorem run_append (state : State) (first second : List Op) :
    machine.run state (first ++ second) = machine.run (machine.run state first) second :=
  List.foldl_append

theorem history_append (state : State) (first second : List Op) :
    machine.history state (first ++ second) =
      machine.history state first ++ machine.history (machine.run state first) second := by
  induction first generalizing state with
  | nil => rfl
  | cons operation rest inductionHypothesis =>
    exact congrArg (machine.transition state operation :: ·) (inductionHypothesis _)

/-- A transition of a run is made from the state an earlier part of the run ended in. -/
theorem mem_history {state : State} {operations : List Op}
    {step : Transition State Op Answer} (member : step ∈ machine.history state operations) :
    ∃ earlier later, operations = earlier ++ step.operation :: later ∧
      step = machine.transition (machine.run state earlier) step.operation := by
  induction operations generalizing state with
  | nil => exact absurd member List.not_mem_nil
  | cons operation rest inductionHypothesis =>
    rcases List.mem_cons.mp member with head | tail
    · subst head
      exact ⟨[], rest, rfl, rfl⟩
    · obtain ⟨earlier, later, split, made⟩ := inductionHypothesis tail
      exact ⟨operation :: earlier, later, congrArg (operation :: ·) split, made⟩

/-! ### Invariants -/

/-- What holds at the start and is preserved by every transition of a run holds at each of its
states. -/
theorem history_invariant {holds : State → Prop} {state : State} {operations : List Op}
    (initially : holds state)
    (preserved : ∀ step ∈ machine.history state operations, holds step.before → holds step.after)
    {earlier : List Op} (isPrefix : earlier <+: operations) :
    holds (machine.run state earlier) := by
  obtain ⟨later, rfl⟩ := isPrefix
  induction earlier generalizing state with
  | nil => exact initially
  | cons operation rest inductionHypothesis =>
    exact inductionHypothesis (preserved _ List.mem_cons_self initially)
      fun step member => preserved step (List.mem_cons_of_mem _ member)

/-- A preorder that every operation climbs is climbed by every run. -/
theorem run_related {R : State → State → Prop} [Std.Refl R] [IsTrans State R]
    (each : ∀ state operation, R state (machine.next state operation))
    (state : State) (operations : List Op) : R state (machine.run state operations) := by
  induction operations generalizing state with
  | nil => exact Std.Refl.refl state
  | cons operation rest inductionHypothesis =>
    exact IsTrans.trans _ _ _ (each state operation) (inductionHypothesis _)

/-- A fact about every transition holds of every transition of a run. -/
theorem history_forall {holds : Transition State Op Answer → Prop}
    (each : ∀ state operation, holds (machine.transition state operation))
    {state : State} {operations : List Op} :
    ∀ step ∈ machine.history state operations, holds step := by
  intro step member
  obtain ⟨earlier, _, _, made⟩ := machine.mem_history member
  rw [made]
  exact each _ _

/-- When what is spent after a transition was spent before it or is spent by it, what is spent
after a run was spent at its start or is spent by one of its transitions. -/
theorem spent_run_iff {Id : Type} {spent : State → Id → Prop}
    {spends : Transition State Op Answer → Id → Prop}
    (each : ∀ state operation id, spent (machine.next state operation) id ↔
      spent state id ∨ spends (machine.transition state operation) id)
    (state : State) (operations : List Op) (id : Id) :
    spent (machine.run state operations) id ↔
      spent state id ∨ ∃ step ∈ machine.history state operations, spends step id := by
  induction operations generalizing state with
  | nil => simp [run_nil, history]
  | cons operation rest inductionHypothesis =>
    rw [run_cons, inductionHypothesis, each, history, List.exists_mem_cons_iff, or_assoc]

/-! ### Logs -/

/-- When every operation appends its entries to a log, a run appends the entries of its
transitions in order. -/
theorem log_run {Entry : Type} (log : State → List Entry)
    {entries : Transition State Op Answer → List Entry}
    (appends : ∀ state operation,
      log (machine.next state operation) =
        log state ++ entries (machine.transition state operation))
    (state : State) (operations : List Op) :
    log (machine.run state operations) =
      log state ++ (machine.history state operations).flatMap entries := by
  induction operations generalizing state with
  | nil => simp [run_nil, history]
  | cons operation rest inductionHypothesis =>
    rw [run_cons, inductionHypothesis, appends, history, List.flatMap_cons, List.append_assoc]

/-! ### At most once -/

section AtMostOnce

variable {Id : Type} {spent : State → Id → Prop}
  {handedOut : Transition State Op Answer → List Id}

/-- An identifier that is spent stays unavailable for the rest of the run. -/
theorem not_mem_handedOut_of_spent
    (fresh : ∀ state operation, ∀ id ∈ handedOut (machine.transition state operation),
      ¬ spent state id)
    (keeps : ∀ state operation id, spent state id → spent (machine.next state operation) id)
    {state : State} {id : Id} (isSpent : spent state id) (operations : List Op) :
    id ∉ (machine.history state operations).flatMap handedOut := by
  induction operations generalizing state with
  | nil => simp [history]
  | cons operation rest inductionHypothesis =>
    rw [history, List.flatMap_cons, List.mem_append, not_or]
    exact ⟨fun given => fresh state operation id given isSpent,
      inductionHypothesis (keeps state operation id isSpent)⟩

variable (spent) in
/-- Over any run an identifier is handed out at most once, when a transition hands out only
unspent identifiers, without repetition, and spends those it hands out. -/
theorem nodup_handedOut
    (fresh : ∀ state operation, ∀ id ∈ handedOut (machine.transition state operation),
      ¬ spent state id)
    (spends : ∀ state operation, ∀ id ∈ handedOut (machine.transition state operation),
      spent (machine.next state operation) id)
    (keeps : ∀ state operation id, spent state id → spent (machine.next state operation) id)
    (single : ∀ state operation, (handedOut (machine.transition state operation)).Nodup)
    (state : State) (operations : List Op) :
    ((machine.history state operations).flatMap handedOut).Nodup := by
  induction operations generalizing state with
  | nil => simp [history]
  | cons operation rest inductionHypothesis =>
    rw [history, List.flatMap_cons, List.nodup_append]
    refine ⟨single state operation, inductionHypothesis _, fun id given other later same => ?_⟩
    subst same
    exact machine.not_mem_handedOut_of_spent fresh keeps (spends state operation id given) rest
      later

end AtMostOnce

end Machine

end Machines
