/-
This file is a small theory of scripts: programs of unknown code run by a host.
A script returns, raises, reads and writes a world of its own, asks its host for
services, or pauses. What it does between two of these is a function of what it
has seen, so every deterministic program that works through these operations is
a script.

The host answers a request with a method, and the script sees the outcome, a
raise included. Whatever the script does, the host's state moves only by writes
to the world and by requests, so a preorder that those keep is kept by every
script.
-/

import AxorWrap.Library.Method

namespace Scripts

open Methods

/-- A program over a world `ω` with requests `ρ`, answered by an `ι` or a raised `ε`. -/
inductive Script (ω ρ ε ι α : Type)
  | done (value : α)
  | raise (error : ε)
  | read (next : ω → Script ω ρ ε ι α)
  | write (world : ω) (next : Script ω ρ ε ι α)
  | ask (request : ρ) (next : Except ε ι → Script ω ρ ε ι α)
  | pause (next : Script ω ρ ε ι α)

/-- What runs a script: where the world is kept, and how requests are served. -/
structure Host (σ ω ρ ε ι : Type) where
  world : σ → ω
  setWorld : ω → σ → σ
  serve : ρ → Method σ ε ι

variable {σ ω ρ ε ι α β : Type}

/-- The outcome of a method as a value: its raise is caught. -/
def observe (method : Method σ ε α) : Method σ ε (Except ε α) :=
  ExceptT.mk do return .ok (← method.run)

@[simp] theorem outcome_observe (method : Method σ ε α) (state : σ) :
    outcome (observe method) state = .ok (outcome method state) := rfl

@[simp] theorem final_observe (method : Method σ ε α) (state : σ) :
    final (observe method) state = final method state := rfl

/-- What a script does up to its next pause, where it returns what is left. -/
def Script.untilPause : Script ω ρ ε ι α → Script ω ρ ε ι (α ⊕ Script ω ρ ε ι α)
  | .done value => .done (.inl value)
  | .raise error => .raise error
  | .read next => .read fun world => (next world).untilPause
  | .write world next => .write world next.untilPause
  | .ask request next => .ask request fun answer => (next answer).untilPause
  | .pause next => .done (.inr next)

namespace Host

variable (host : Host σ ω ρ ε ι)

/-- Run a script to its end. One that is called cannot be left at a pause. -/
def exec : Script ω ρ ε ι α → Method σ ε α
  | .done value => pure value
  | .raise error => throw error
  | .read next => do exec (next (host.world (← get)))
  | .write world next => do
    modify (host.setWorld world)
    exec next
  | .ask request next => do exec (next (← observe (host.serve request)))
  | .pause next => exec next

/-- Run a script to its end or its next pause. -/
def resume : Script ω ρ ε ι α → Method σ ε (α ⊕ Script ω ρ ε ι α)
  | .done value => pure (.inl value)
  | .raise error => throw error
  | .read next => do resume (next (host.world (← get)))
  | .write world next => do
    modify (host.setWorld world)
    resume next
  | .ask request next => do resume (next (← observe (host.serve request)))
  | .pause next => pure (.inr next)

/-- To resume a script is to run what comes before its next pause. -/
theorem resume_eq_exec (script : Script ω ρ ε ι α) :
    host.resume script = host.exec script.untilPause := by
  induction script with
  | done value => rfl
  | raise error => rfl
  | read next inductionHypothesis =>
    simp only [resume, Script.untilPause, exec, inductionHypothesis]
  | write world next inductionHypothesis =>
    simp only [resume, Script.untilPause, exec, inductionHypothesis]
  | ask request next inductionHypothesis =>
    simp only [resume, Script.untilPause, exec, inductionHypothesis]
  | pause next => rfl

section Related

variable {host} {R : σ → σ → Prop} [Std.Refl R] [IsTrans σ R]

/-- A preorder kept by writes to the world and by the services is kept by every script. The
induction is on the script; a request continues it whether it was answered or raised. -/
theorem related_exec (writes : ∀ world state, R state (host.setWorld world state))
    (serves : ∀ request state, R state (final (host.serve request) state))
    (script : Script ω ρ ε ι α) (state : σ) : R state (final (host.exec script) state) := by
  induction script generalizing state with
  | done value => exact Std.Refl.refl state
  | raise error => exact Std.Refl.refl state
  | read next inductionHypothesis => exact inductionHypothesis _ state
  | write world next inductionHypothesis =>
    exact IsTrans.trans _ _ _ (writes world state) (inductionHypothesis _)
  | ask request next inductionHypothesis =>
    exact IsTrans.trans _ _ _ (serves request state) (inductionHypothesis _ _)
  | pause next inductionHypothesis => exact inductionHypothesis state

theorem related_resume (writes : ∀ world state, R state (host.setWorld world state))
    (serves : ∀ request state, R state (final (host.serve request) state))
    (script : Script ω ρ ε ι α) (state : σ) : R state (final (host.resume script) state) := by
  rw [resume_eq_exec]
  exact related_exec writes serves script.untilPause state

end Related

/-! ### Worlds that are read back -/

/-- What is written to the world is read back, and nothing else is touched. -/
structure Lawful : Prop where
  world_setWorld : ∀ world state, host.world (host.setWorld world state) = world
  setWorld_setWorld : ∀ first second state,
    host.setWorld first (host.setWorld second state) = host.setWorld first state
  setWorld_world : ∀ state, host.setWorld (host.world state) state = state

end Host

/-! ### Scripts that ask nothing -/

/-- What a script comes to in a world and the world it leaves, as long as it asks for nothing. -/
def Script.alone : Script ω ρ ε ι α → ω → Option (Except ε α × ω)
  | .done value, world => some (.ok value, world)
  | .raise error, world => some (.error error, world)
  | .read next, world => alone (next world) world
  | .write written next, _ => alone next written
  | .ask _ _, _ => none
  | .pause next, world => alone next world

/-- Whatever the services, a script that asks for nothing is a function of the world. -/
theorem Host.exec_alone {host : Host σ ω ρ ε ι} (lawful : host.Lawful)
    {script : Script ω ρ ε ι α} {state : σ} {result : Except ε α} {left : ω}
    (alone : script.alone (host.world state) = some (result, left)) :
    outcome (host.exec script) state = result ∧
      final (host.exec script) state = host.setWorld left state := by
  induction script generalizing state with
  | done value =>
    cases alone
    exact ⟨rfl, (lawful.setWorld_world state).symm⟩
  | raise error =>
    cases alone
    exact ⟨rfl, (lawful.setWorld_world state).symm⟩
  | read next inductionHypothesis => exact inductionHypothesis _ alone
  | write world next inductionHypothesis =>
    have later := @inductionHypothesis (host.setWorld world state)
      (by rw [lawful.world_setWorld]; exact alone)
    rw [lawful.setWorld_setWorld] at later
    exact later
  | ask request next => cases alone
  | pause next inductionHypothesis => exact inductionHypothesis alone

/-! ### Scripts that keep a part of the world -/

/-- The script writes only worlds that show what the world it writes over shows. Others may run
while it waits for an answer or pauses, so it has to read again what it is to keep. -/
def Script.Keeps {β : Type} (view : ω → β) : Script ω ρ ε ι α → β → Prop
  | .done _, _ => True
  | .raise _, _ => True
  | .read next, seen => ∀ world, view world = seen → Keeps view (next world) seen
  | .write world next, seen => view world = seen ∧ Keeps view next seen
  | .ask _ next, _ => ∀ answer seen, Keeps view (next answer) seen
  | .pause next, _ => ∀ seen, Keeps view next seen

/-- Every request the script ever makes is an allowed one. -/
def Script.Asks (allowed : ρ → Prop) : Script ω ρ ε ι α → Prop
  | .done _ => True
  | .raise _ => True
  | .read next => ∀ world, Asks allowed (next world)
  | .write _ next => Asks allowed next
  | .ask request next => allowed request ∧ ∀ answer, Asks allowed (next answer)
  | .pause next => Asks allowed next

theorem Script.asks_anything (script : Script ω ρ ε ι α) : script.Asks fun _ => True := by
  induction script with
  | done value => trivial
  | raise error => trivial
  | read next inductionHypothesis => exact inductionHypothesis
  | write world next inductionHypothesis => exact inductionHypothesis
  | ask request next inductionHypothesis => exact ⟨trivial, inductionHypothesis⟩
  | pause next inductionHypothesis => exact inductionHypothesis

section Keeping

variable {β : Type} {view : ω → β} {allowed : ρ → Prop} {host : Host σ ω ρ ε ι}
  {R : σ → σ → Prop} [Std.Refl R] [IsTrans σ R]

/-- A preorder kept by the services a script may ask for, and by writes that show nothing new, is
kept by every script that writes no others and asks for no others. -/
theorem Host.related_exec_allowed (lawful : host.Lawful)
    (writes : ∀ world state, view world = view (host.world state) →
      R state (host.setWorld world state))
    (serves : ∀ request, allowed request → ∀ state, R state (final (host.serve request) state))
    {script : Script ω ρ ε ι α} {state : σ} (keeps : script.Keeps view (view (host.world state)))
    (asks : script.Asks allowed) : R state (final (host.exec script) state) := by
  induction script generalizing state with
  | done value => exact Std.Refl.refl state
  | raise error => exact Std.Refl.refl state
  | read next inductionHypothesis => exact inductionHypothesis _ (keeps _ rfl) (asks _)
  | write world next inductionHypothesis =>
    refine IsTrans.trans _ _ _ (writes world state keeps.1) (inductionHypothesis ?_ asks)
    rw [lawful.world_setWorld, keeps.1]
    exact keeps.2
  | ask request next inductionHypothesis =>
    exact IsTrans.trans _ _ _ (serves request asks.1 state)
      (inductionHypothesis _ (keeps _ _) (asks.2 _))
  | pause next inductionHypothesis => exact inductionHypothesis (keeps _) asks

/-- And by its steps, each of which leaves such a script to run. -/
theorem Host.related_resume_allowed (lawful : host.Lawful)
    (writes : ∀ world state, view world = view (host.world state) →
      R state (host.setWorld world state))
    (serves : ∀ request, allowed request → ∀ state, R state (final (host.serve request) state))
    {script : Script ω ρ ε ι α} {state : σ} (keeps : script.Keeps view (view (host.world state)))
    (asks : script.Asks allowed) :
    R state (final (host.resume script) state) ∧
      ∀ rest, outcome (host.resume script) state = .ok (.inr rest) →
        (∀ seen, rest.Keeps view seen) ∧ rest.Asks allowed := by
  induction script generalizing state with
  | done value => exact ⟨Std.Refl.refl state, fun _ ended => by cases ended⟩
  | raise error => exact ⟨Std.Refl.refl state, fun _ ended => by cases ended⟩
  | read next inductionHypothesis => exact inductionHypothesis _ (keeps _ rfl) (asks _)
  | write world next inductionHypothesis =>
    have kept : next.Keeps view (view (host.world (host.setWorld world state))) := by
      rw [lawful.world_setWorld, keeps.1]
      exact keeps.2
    obtain ⟨later, pauses⟩ := inductionHypothesis kept asks
    exact ⟨IsTrans.trans _ _ _ (writes world state keeps.1) later, pauses⟩
  | ask request next inductionHypothesis =>
    obtain ⟨later, pauses⟩ := inductionHypothesis _ (keeps _ _) (asks.2 _)
    exact ⟨IsTrans.trans _ _ _ (serves request asks.1 state) later, pauses⟩
  | pause next =>
    refine ⟨Std.Refl.refl state, fun rest paused => ?_⟩
    cases paused
    exact ⟨keeps, asks⟩

/-- When all services keep the preorder, it does not matter which the script asks for. -/
theorem Host.related_exec_keeping (lawful : host.Lawful)
    (writes : ∀ world state, view world = view (host.world state) →
      R state (host.setWorld world state))
    (serves : ∀ request state, R state (final (host.serve request) state))
    {script : Script ω ρ ε ι α} {state : σ} (keeps : script.Keeps view (view (host.world state))) :
    R state (final (host.exec script) state) :=
  Host.related_exec_allowed lawful writes (fun request _ => serves request) keeps
    script.asks_anything

theorem Host.related_resume_keeping (lawful : host.Lawful)
    (writes : ∀ world state, view world = view (host.world state) →
      R state (host.setWorld world state))
    (serves : ∀ request state, R state (final (host.serve request) state))
    {script : Script ω ρ ε ι α} {state : σ} (keeps : script.Keeps view (view (host.world state))) :
    R state (final (host.resume script) state) ∧
      ∀ rest, outcome (host.resume script) state = .ok (.inr rest) →
        ∀ seen, rest.Keeps view seen := by
  obtain ⟨related, pauses⟩ := Host.related_resume_allowed lawful writes
    (fun request _ => serves request) keeps script.asks_anything
  exact ⟨related, fun rest paused => (pauses rest paused).1⟩

end Keeping

end Scripts
