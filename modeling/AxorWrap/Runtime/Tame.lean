/-
This file is about sessions whose foreign code is tame: it leaves a view of the world as it is, and
asks for allowed requests only. A coroutine that waits to be awaited is code like any other, so the
tameness of those that are still to run goes along with every step.

What tame code may do is bounded by the writes that leave the view alone and by the services it may
ask for. So a preorder that these keep is kept by a tool, by calling a coroutine function and by a
step of awaiting one.
-/

import AxorWrap.Runtime.Tracing

namespace AxorWrap.Runtime

open Python Methods Scripts Journals Machines

variable {S : Setting} {β : Type}

section

variable (view : S.World → β) (allowed : Request S → Prop) (holds : State S → Prop)

/-- The code leaves the view alone, and asks for what is allowed. -/
structure Tame {α : Type} (code : Code S α) : Prop where
  keeps : ∀ seen, code.Keeps view seen
  asks : code.Asks allowed

/-- The code of a tool is tame, whichever kind of callable it is. -/
def Tool.Tame : Tool S → Prop
  | .function body => ∀ args, Runtime.Tame view allowed (body args)
  | .coroutineFunction bind =>
    ∀ args code, bind args = .ok code → Runtime.Tame view allowed code

/-- The coroutines that are still to run are tame, and besides something holds of the state. -/
structure Tamed (state : State S) : Prop where
  pending : ∀ code, some code ∈ state.coroutines → Tame view allowed code
  holds : holds state

/-- A tamed state stays so, and is related to what becomes of it. -/
def Within (R : State S → State S → Prop) (before after : State S) : Prop :=
  Tamed view allowed holds before → Tamed view allowed holds after ∧ R before after

/-- What leaves the view alone, and the admission, the records and the journal, keeps what holds and
is related. -/
def QuietWithin (R : State S → State S → Prop) : Prop :=
  ∀ before after : State S, view after.world = view before.world →
    after.admission = before.admission → after.calls = before.calls → after.log = before.log →
    holds before → holds after ∧ R before after

/-- The allowed requests are served within a relation. -/
def ServesWithin (R : State S → State S → Prop) (serve : Service S) : Prop :=
  ∀ request, allowed request → ∀ state,
    Within view allowed holds R state (final (serve request) state)

end

section Rules

variable {view : S.World → β} {allowed : Request S → Prop} {holds : State S → Prop}
  {R : State S → State S → Prop}

instance [Std.Refl R] : Std.Refl (Within view allowed holds R) where
  refl state tamed := ⟨tamed, Std.Refl.refl state⟩

instance [IsTrans (State S) R] : IsTrans (State S) (Within view allowed holds R) where
  trans _ _ _ first second tamed :=
    have one := first tamed
    have two := second one.1
    ⟨two.1, IsTrans.trans _ _ _ one.2 two.2⟩

/-- What leaves the coroutines alone as well only has to keep what holds. -/
theorem within_of_related {before after : State S}
    (sameCoroutines : after.coroutines = before.coroutines)
    (keeps : holds before → holds after ∧ R before after) :
    Within view allowed holds R before after := by
  intro tamed
  obtain ⟨held, related⟩ := keeps tamed.holds
  exact ⟨⟨fun code member => tamed.pending code (sameCoroutines ▸ member), held⟩, related⟩

theorem within_call [IsTrans (State S) R] {α : Type} {entered : Happening S}
    {left : Except (Raised S) α → Happening S} {body : Nat → ToolMethod S α}
    (enters : ∀ state, holds state → holds (journal.entering entered state) ∧
      R state (journal.entering entered state))
    (leaves : ∀ frame result state, holds state →
      holds (journal.update (Log.add frame (left result)) state) ∧
        R state (journal.update (Log.add frame (left result)) state))
    (keeps : ∀ frame state, Within view allowed holds R state (final (body frame) state))
    (state : State S) :
    Within view allowed holds R state (final (journal.call entered left body) state) :=
  Journal.related_call (R := Within view allowed holds R)
    (fun state => within_of_related rfl (enters state)) keeps
    (fun frame result state => within_of_related rfl (leaves frame result state)) state

section Foreign

variable [Std.Refl R] [IsTrans (State S) R] (quiet : QuietWithin view holds R) {serve : Service S}

include quiet

omit [Std.Refl R] [IsTrans (State S) R] in
theorem within_quietly {before after : State S} (sameView : view after.world = view before.world)
    (sameAdmission : after.admission = before.admission) (sameCalls : after.calls = before.calls)
    (sameLog : after.log = before.log) (sameCoroutines : after.coroutines = before.coroutines) :
    Within view allowed holds R before after :=
  within_of_related sameCoroutines (quiet _ _ sameView sameAdmission sameCalls sameLog)

omit [Std.Refl R] [IsTrans (State S) R] in
theorem within_createCoroutine {code : Code S (Object S)} (tame : Tame view allowed code)
    (state : State S) : Within view allowed holds R state (final (createCoroutine code) state) := by
  intro tamed
  obtain ⟨held, related⟩ :=
    quiet state (final (createCoroutine code) state) rfl rfl rfl rfl tamed.holds
  refine ⟨⟨fun other member => ?_, held⟩, related⟩
  rcases List.mem_append.mp member with old | new
  · exact tamed.pending other old
  · cases List.mem_singleton.mp new
    exact tame

omit [Std.Refl R] [IsTrans (State S) R] in
/-- What is left of a coroutine may take the place of another. -/
theorem within_set {held : Option (Code S (Object S))} (handle : Nat)
    (tame : ∀ code, held = some code → Tame view allowed code) (state : State S) :
    Within view allowed holds R state
      { state with coroutines := state.coroutines.set handle held } := by
  intro tamed
  let after : State S := { state with coroutines := state.coroutines.set handle held }
  obtain ⟨held, related⟩ := quiet state after rfl rfl rfl rfl tamed.holds
  refine ⟨⟨fun code member => ?_, held⟩, related⟩
  rcases List.mem_or_eq_of_mem_set member with old | new
  · exact tamed.pending code old
  · exact tame code new.symm

variable (serves : ServesWithin view allowed holds R serve)

include serves

theorem within_exec {α : Type} {code : Code S α} (tame : Tame view allowed code)
    (state : State S) : Within view allowed holds R state (final ((host serve).exec code) state) :=
  Host.related_exec_allowed (R := Within view allowed holds R) (lawful_host serve)
    (fun _ _ same => within_quietly quiet same rfl rfl rfl rfl) serves (tame.keeps _) tame.asks

theorem within_toolRun {tool : Tool S} (tame : tool.Tame view allowed) (args : Args S)
    (state : State S) :
    Within view allowed holds R state (final (tool.run serve args) state) := by
  cases tool with
  | function body => exact within_exec quiet serves (tame args) state
  | coroutineFunction bind =>
    unfold Tool.run
    refine related_bind (R := Within view allowed holds R) (Std.Refl.refl state)
      fun code bound => ?_
    exact within_createCoroutine quiet (tame args code bound) _

theorem within_awaitStep (handle : Nat) (state : State S) :
    Within view allowed holds R state (final (awaitStep serve handle) state) := by
  intro tamed
  unfold awaitStep
  rw [final_bind_ok (outcome_get state), final_get]
  match found : state.coroutines[handle]? with
  | none => exact ⟨tamed, Std.Refl.refl state⟩
  | some none => exact ⟨tamed, Std.Refl.refl state⟩
  | some (some code) =>
    have tame := tamed.pending code (List.mem_of_getElem? found)
    have resumes : ∀ taken,
        Within view allowed holds R taken (final ((host serve).resume code) taken) ∧
        ∀ rest, outcome ((host serve).resume code) taken = .ok (.inr rest) →
          (∀ seen, rest.Keeps view seen) ∧ rest.Asks allowed := fun _ =>
      Host.related_resume_allowed (R := Within view allowed holds R) (lawful_host serve)
        (fun _ _ same => within_quietly quiet same rfl rfl rfl rfl) serves (tame.keeps _) tame.asks
    refine related_bind (R := Within view allowed holds R)
      (within_set quiet handle (fun _ none => by cases none) state) (fun _ _ => ?_) tamed
    refine related_bind (R := Within view allowed holds R) (resumes _).1 fun left came => ?_
    cases left with
    | inl object => exact Std.Refl.refl _
    | inr rest =>
      refine within_set quiet handle (fun code same => ?_) _
      cases same
      obtain ⟨keeps, asks⟩ := (resumes _).2 rest came
      exact ⟨keeps, asks⟩

end Foreign

/-- What the wrapped tools stay within, and a step of awaiting does, every allowed request does, the
requests made meanwhile included. The induction is on how many frames may still be entered. -/
theorem within_serve [Std.Refl R] [IsTrans (State S) R] (quiet : QuietWithin view holds R)
    {surface : Surface S}
    (calls : ∀ serve, ServesWithin view allowed holds R serve →
      ∀ name args, allowed (.call name args) → ∀ state,
        Within view allowed holds R state (final (surface.call serve name args) state))
    (callables : ∀ serve, ServesWithin view allowed holds R serve →
      ∀ name kwargs wrapped, allowed (.callable name kwargs) →
        (surface.callables serve).lookup name = some wrapped → ∀ state,
          Within view allowed holds R state (final (wrapped kwargs) state))
    (binds : ∀ predicate, allowed (.setAdmission predicate) → ∀ state,
      Within view allowed holds R state (final (setAdmission predicate) state))
    (programs : ∀ program, Tame view allowed (surface.programs program))
    (awaits : ∀ target body, (∀ state, Within view allowed holds R state (final body state)) →
      ∀ state, Within view allowed holds R state
        (final (journal.call (.awaiting target) .awoke fun _ => body) state))
    (limit : Nat) : ServesWithin view allowed holds R (surface.serve limit) := by
  induction limit with
  | zero => exact fun _ _ _ => Std.Refl.refl _
  | succ limit inductionHypothesis =>
    intro request isAllowed state
    cases request with
    | call name args =>
      show Within view allowed holds R state (final (some <$> _) state)
      rw [final_map]
      exact calls _ inductionHypothesis name args isAllowed state
    | callable name kwargs =>
      simp only [Surface.serve, Surface.answer]
      cases found : (surface.callables (surface.serve limit)).lookup name with
      | none => exact Std.Refl.refl _
      | some wrapped =>
        show Within view allowed holds R state (final (some <$> _) state)
        rw [final_map]
        exact callables _ inductionHypothesis name kwargs wrapped isAllowed found state
    | setAdmission predicate => exact binds predicate isAllowed state
    | create program => exact within_createCoroutine quiet (programs program) state
    | await target =>
      refine awaits target _ (fun state => ?_) state
      cases target with
      | iterator handle => exact within_awaitStep quiet inductionHypothesis handle state
      | object program => exact within_createCoroutine quiet (programs program) state

end Rules

end AxorWrap.Runtime
