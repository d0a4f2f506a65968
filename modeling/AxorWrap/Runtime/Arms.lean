/-
This file compares the two arms of an experiment: one toolset with enforcement on
and with enforcement off, run side by side on the same operations. The arms differ
in what a call does with a denial and in nothing else, so they are one machine up
to the first denied call, wherever that is made: by the agent, or by a tool, a
governor or a predicate while it runs.

That both come to the same denial in the same state is said by a reach. It lists
the decisions a run comes to, each with the whole state it is made in, and it
follows the text of `call` line by line.
-/

import AxorWrap.Runtime.Toolset
import AxorWrap.Library.Twin

namespace AxorWrap.Runtime

open Python Methods Scripts Journals Machines Twins

variable {S : Setting}

/-- The toolset as an arm has it. -/
def Toolset.arm (toolset : Toolset S) (enforcement : Enforcement) : Toolset S :=
  { toolset with enforcement := enforcement }

@[simp] theorem Toolset.arm_tools (toolset : Toolset S) (enforcement : Enforcement) :
    (toolset.arm enforcement).tools = toolset.tools := rfl

theorem forall_arm {holds : Enforcement → Prop} (on : holds .on) (off : holds .off) :
    ∀ arm, holds arm := by
  intro arm
  cases arm with
  | on => exact on
  | off => exact off

/-! ### Moments -/

variable (S) in
/-- A decision, with the call it is made for and the state once it is made. -/
structure Moment where
  state : State S
  frame : Nat
  decision : Decision S

/-- No call is denied. -/
def Clean (events : List (Nat × Happening S)) : Prop :=
  ∀ frame decision, (frame, .decided decision) ∈ events → decision.allowed = true

/-- The journal grew, and no call was denied. -/
def Undenied (before after : State S) : Prop :=
  ∃ segment, after.log.events = before.log.events ++ segment ∧ Clean segment

/-- What was noted stays noted. -/
def Notes (before after : State S) : Prop := before.log.events <+: after.log.events

/-- The decision is the first denial since this state. -/
def FirstDenial (state : State S) (moment : Moment S) : Prop :=
  (∃ segment, moment.state.log.events =
      state.log.events ++ segment ++ [(moment.frame, .decided moment.decision)] ∧ Clean segment) ∧
    moment.decision.allowed = false

instance : Std.Refl (Notes (S := S)) where
  refl _ := List.prefix_rfl

instance : IsTrans (State S) Notes where
  trans _ _ _ := List.IsPrefix.trans

theorem clean_append {first second : List (Nat × Happening S)} (one : Clean first)
    (two : Clean second) : Clean (first ++ second) := fun frame decision member =>
  (List.mem_append.mp member).elim (one frame decision) (two frame decision)

theorem undenied_of_log {before after : State S} (same : after.log.events = before.log.events) :
    Undenied before after :=
  ⟨[], by rw [same, List.append_nil], fun _ _ member => absurd member List.not_mem_nil⟩

theorem Undenied.trans {first second third : State S} (one : Undenied first second)
    (two : Undenied second third) : Undenied first third := by
  obtain ⟨early, earlyEq, earlyClean⟩ := one
  obtain ⟨late, lateEq, lateClean⟩ := two
  exact ⟨early ++ late, by rw [lateEq, earlyEq, List.append_assoc],
    clean_append earlyClean lateClean⟩

instance : Std.Refl (Undenied (S := S)) where
  refl _ := undenied_of_log rfl

instance : IsTrans (State S) Undenied where
  trans _ _ _ := Undenied.trans

theorem undenied_quietly : KeptQuietly (Undenied (S := S)) :=
  fun _ _ sameLog _ => undenied_of_log (congrArg Log.events sameLog)

/-- The arms agree while no call is denied, and part at the first denial. -/
def armsParting : Parting (State S) (Moment S) where
  quiet := Undenied
  grows := Notes
  parts := FirstDenial
  place := Moment.state
  quiet_refl _ := undenied_of_log rfl
  quiet_trans _ _ _ := Undenied.trans
  grows_trans _ _ _ := List.IsPrefix.trans
  grows_of_quiet _ _ := fun ⟨segment, same, _⟩ => ⟨segment, same.symm⟩
  parts_of_quiet := by
    rintro before after moment ⟨early, earlyEq, earlyClean⟩ ⟨⟨segment, split, clean⟩, denied⟩
    refine ⟨⟨early ++ segment, ?_, clean_append earlyClean clean⟩, denied⟩
    rw [split, earlyEq, List.append_assoc before.log.events]

theorem undenied_note {kind : Happening S} (frame : Nat)
    (allowed : ∀ decision, kind = .decided decision → decision.allowed = true) (state : State S) :
    Undenied state (journal.update (Log.add frame kind) state) := by
  refine ⟨[(frame, kind)], rfl, fun _ decision member => ?_⟩
  cases List.mem_singleton.mp member
  exact allowed decision rfl

theorem undenied_recordEvaluated (toolset : Toolset S) (frame : Nat) (name : PyStr)
    (args : Args S) (state : State S) :
    Undenied state (final (recordEvaluated toolset frame name args) state) := by
  unfold recordEvaluated
  split
  · rw [final_map]
    exact ⟨[(frame, .recorded state.calls.length name args)], rfl, fun _ _ member => by
      cases List.mem_singleton.mp member⟩
  · exact Std.Refl.refl state

theorem undenied_recordExecuted (frame : Nat) (recorded : Option Nat) (output : Object S)
    (state : State S) : Undenied state (final (recordExecuted frame recorded output) state) := by
  cases recorded with
  | none => exact Std.Refl.refl state
  | some index =>
    exact ⟨[(frame, .kept index output)], rfl, fun _ _ member => by
      cases List.mem_singleton.mp member⟩

/-! ### The decisions a run comes to -/

abbrev DecisionReach (S : Setting) := Reach (State S) (Moment S)

section Reaches

variable (toolset : Toolset S) (serve : Service S) (reach : Request S → DecisionReach S)

def codeReach {α : Type} (code : Code S α) : DecisionReach S := reachOf (host serve) reach code

/-- In polling the predicate that is bound. -/
def boundReach : Option S.Predicate → DecisionReach S
  | none => Reach.never
  | some predicate => codeReach serve reach (toolset.poll predicate)

def pollReach : DecisionReach S := fun state =>
  boundReach toolset serve reach state.admission state

def toolReach (tool : Tool S) (args : Args S) : DecisionReach S :=
  match tool with
  | .function body => codeReach serve reach (body args)
  | .coroutineFunction _ => Reach.never

/-- The decision itself. -/
def decisionReach (frame : Nat) (decision : Decision S) : DecisionReach S := fun state moment =>
  moment = ⟨journal.update (Log.add frame (.decided decision)) state, frame, decision⟩

/-- In `runTool`. -/
def runReach (frame : Nat) (name : PyStr) (args : Args S) (tool : Tool S) (decision : Decision S) :
    DecisionReach S :=
  Reach.never.andThen (journal.note frame (.invoked name args) : ToolMethod S Unit) fun _ =>
  (toolReach serve reach tool args).andThen (tool.run serve args) fun output =>
  Reach.never.andThen (journal.note frame (.produced output) : ToolMethod S Unit) fun _ =>
  Reach.never.andThen
    (journal.note frame (.registered decision output) : ToolMethod S Unit) fun _ =>
  codeReach serve reach (toolset.governor.registerOutput decision output)

/-- In `execute`. -/
def executeReach (frame : Nat) (name : PyStr) (args : Args S) (tool : Tool S)
    (decision : Decision S) : DecisionReach S :=
  Reach.never.andThen (recordEvaluated toolset frame name args) fun _ =>
  if !decision.allowed && toolset.enforcement = .on then Reach.never
  else runReach toolset serve reach frame name args tool decision

/-- In the body of `WrappedToolset.call`. -/
def bodyReach (name : PyStr) (args : Args S) (frame : Nat) : DecisionReach S :=
  match toolset.tools.lookup name with
  | none => Reach.never
  | some tool =>
    (pollReach toolset serve reach).andThen (checkAdmission toolset serve frame) fun _ =>
    Reach.never.andThen (journal.note frame (.consulted name args) : ToolMethod S Unit) fun _ =>
    (codeReach serve reach (toolset.governor.evaluate name args)).andThen
      ((host serve).exec (toolset.governor.evaluate name args)) fun decision =>
    (decisionReach frame decision).andThen
      (journal.note frame (.decided decision) : ToolMethod S Unit) fun _ =>
    executeReach toolset serve reach frame name args tool decision

def callReach (name : PyStr) (args : Args S) : DecisionReach S := fun state =>
  bodyReach toolset serve reach name args state.log.frames
    (journal.entering (.entered name args) state)

/-- In resuming the coroutine that is held. -/
def heldReach (handle : Nat) : Option (Option (Code S (Object S))) → DecisionReach S
  | some (some code) => fun state => codeReach serve reach code.untilPause
      { state with coroutines := state.coroutines.set handle none }
  | _ => Reach.never

def awaitReach (handle : Nat) : DecisionReach S := fun state =>
  heldReach serve reach handle state.coroutines[handle]? state

def advanceReach : Awaited S → DecisionReach S
  | .iterator handle => awaitReach serve reach handle
  | .object _ => Reach.never

def answerReach : Request S → DecisionReach S
  | .call name args => callReach toolset serve reach name args
  | .callable name kwargs => callReach toolset serve reach name kwargs
  | .setAdmission _ => Reach.never
  | .create _ => Reach.never
  | .await target => fun state =>
    advanceReach serve reach target (journal.entering (.awaiting target) state)

/-- The decisions that serving a request comes to. -/
def serveReach (programs : S.Program → Code S (Object S)) : Nat → Request S → DecisionReach S
  | 0 => fun _ => Reach.never
  | limit + 1 => answerReach toolset ((toolset.surface programs).serve limit)
      (serveReach programs limit)

end Reaches

/-! ### The arms are twins -/

section Twins

variable {toolset : Toolset S} {on off : Service S} {onReach offReach : Request S → DecisionReach S}
  (serves : ∀ request,
    Twin armsParting (on request) (off request) (onReach request) (offReach request))

theorem twin_note {kind : Happening S} (frame : Nat)
    (allowed : ∀ decision, kind = .decided decision → decision.allowed = true) :
    Twin armsParting (journal.note frame kind : ToolMethod S Unit) (journal.note frame kind)
      Reach.never Reach.never :=
  twin_quiet (undenied_note frame allowed)

include serves

theorem twin_code {α : Type} (code : Code S α) :
    Twin armsParting ((host on).exec code) ((host off).exec code) (codeReach on onReach code)
      (codeReach off offReach code) := by
  have sameWorld : (host on).world = (host off).world := rfl
  have sameWrites : (host on).setWorld = (host off).setWorld := rfl
  exact twin_exec sameWorld sameWrites (fun _ _ => undenied_of_log rfl) serves code

theorem twin_checkAdmission (frame : Nat) :
    Twin armsParting (checkAdmission toolset on frame) (checkAdmission toolset off frame)
      (pollReach toolset on onReach) (pollReach toolset off offReach) := by
  rw [checkAdmission_eq, checkAdmission_eq]
  show Twin armsParting _ _
    (fun state => boundReach toolset on onReach state.admission state)
    (fun state => boundReach toolset off offReach state.admission state)
  refine twin_get fun state => ?_
  cases state.admission with
  | none => exact twin_note frame (fun _ same => by cases same)
  | some predicate =>
    refine twin_bind_quiet (twin_code serves (toolset.poll predicate)) fun admitted state => ?_
    refine related_bind (R := Undenied) (undenied_note frame (fun _ same => by cases same) state)
      fun _ _ => ?_
    cases admitted <;> exact Std.Refl.refl _

theorem twin_toolRun (tool : Tool S) (args : Args S) :
    Twin armsParting (tool.run on args) (tool.run off args) (toolReach on onReach tool args)
      (toolReach off offReach tool args) := by
  cases tool with
  | function body => exact twin_code serves (body args)
  | coroutineFunction bind =>
    refine twin_quiet fun state => ?_
    unfold Tool.run
    refine related_bind (R := Undenied) (Std.Refl.refl state) fun code _ => ?_
    exact related_createCoroutine undenied_quietly code _

theorem twin_runTool (frame : Nat) (name : PyStr) (args : Args S) (tool : Tool S)
    (decision : Decision S) (recorded : Option Nat) :
    Twin armsParting (runTool toolset on frame name args tool decision recorded)
      (runTool toolset off frame name args tool decision recorded)
      (runReach toolset on onReach frame name args tool decision)
      (runReach toolset off offReach frame name args tool decision) := by
  rw [runTool_eq, runTool_eq]
  unfold runReach
  refine twin_bind (twin_note frame fun _ same => by cases same) fun _ => ?_
  refine twin_bind (twin_toolRun serves tool args) fun output => ?_
  refine twin_bind (twin_note frame fun _ same => by cases same) fun _ => ?_
  refine twin_bind (twin_note frame fun _ same => by cases same) fun _ => ?_
  refine twin_bind_quiet (twin_code serves _) fun _ state => ?_
  refine related_bind (R := Undenied) ?_ fun _ _ => Std.Refl.refl _
  exact undenied_recordExecuted frame recorded output state

omit serves in
theorem execute_allowed {decision : Decision S} (allowed : decision.allowed = true)
    (enforcement : Enforcement) (serve : Service S) (frame : Nat) (name : PyStr) (args : Args S)
    (tool : Tool S) :
    execute (toolset.arm enforcement) serve frame name args tool decision =
      recordEvaluated toolset frame name args >>= fun recorded =>
        runTool toolset serve frame name args tool decision recorded := by
  simp only [execute, allowed]
  rfl

omit serves in
theorem executeReach_allowed {decision : Decision S} (allowed : decision.allowed = true)
    (enforcement : Enforcement) (serve : Service S) (reach : Request S → DecisionReach S)
    (frame : Nat) (name : PyStr) (args : Args S) (tool : Tool S) :
    executeReach (toolset.arm enforcement) serve reach frame name args tool decision =
      Reach.never.andThen (recordEvaluated toolset frame name args) fun _ =>
        runReach toolset serve reach frame name args tool decision := by
  simp only [executeReach, allowed]
  rfl

/-- The one difference: a denial ends the call in one arm and not in the other. The state it is
made in is the same. -/
theorem twin_decide (frame : Nat) (name : PyStr) (args : Args S) (tool : Tool S)
    (decision : Decision S) :
    Twin armsParting
      (journal.note frame (.decided decision) >>= fun _ =>
        execute (toolset.arm .on) on frame name args tool decision)
      (journal.note frame (.decided decision) >>= fun _ =>
        execute (toolset.arm .off) off frame name args tool decision)
      ((decisionReach frame decision).andThen
        (journal.note frame (.decided decision) : ToolMethod S Unit) fun _ =>
          executeReach (toolset.arm .on) on onReach frame name args tool decision)
      ((decisionReach frame decision).andThen
        (journal.note frame (.decided decision) : ToolMethod S Unit) fun _ =>
          executeReach (toolset.arm .off) off offReach frame name args tool decision) := by
  cases allowed : decision.allowed with
  | true =>
    simp only [execute_allowed allowed, executeReach_allowed allowed]
    refine (twin_bind (twin_note frame fun _ same => ?_) fun _ =>
      twin_bind (twin_quiet (undenied_recordEvaluated toolset frame name args)) fun recorded =>
        twin_runTool serves frame name args tool decision recorded).mono ?_ ?_
    · cases same
      exact allowed
    all_goals exact fun state moment here => here.imp_left (absurd · id)
  | false =>
    have notes : ∀ state : State S,
        Notes state (journal.update (Log.add frame (.decided decision)) state) :=
      fun state => ⟨[(frame, .decided decision)], rfl⟩
    have recorded : ∀ arm state,
        Notes state (final (recordEvaluated (toolset.arm arm) frame name args) state) :=
      fun arm state => armsParting.grows_of_quiet _ _
        (undenied_recordEvaluated (toolset.arm arm) frame name args state)
    have raises : ∀ state,
        Notes state (final (execute (toolset.arm .on) on frame name args tool decision) state) := by
      intro state
      show armsParting.grows _ _
      refine grows_bind (recorded .on state) fun _ left => ?_
      rw [if_pos (by simp [allowed, Toolset.arm])]
      exact List.prefix_rfl
    have runs : ∀ state, Notes state
        (final (execute (toolset.arm .off) off frame name args tool decision) state) := by
      intro state
      show armsParting.grows _ _
      refine grows_bind (recorded .off state) fun place => ?_
      rw [if_neg (by simp [Toolset.arm])]
      exact (twin_runTool serves frame name args tool decision place).other_grows
    refine ⟨fun state => (notes state).trans (raises _), fun state => (notes state).trans (runs _),
      fun state => .inr ?_⟩
    refine ⟨⟨journal.update (Log.add frame (.decided decision)) state, frame, decision⟩, ?_,
      .inl rfl, .inl rfl, raises _, runs _⟩
    refine ⟨⟨[], ?_, fun _ _ member => absurd member List.not_mem_nil⟩, allowed⟩
    rw [List.append_nil]
    rfl

theorem twin_callBody (name : PyStr) (args : Args S) (frame : Nat) :
    Twin armsParting (callBody (toolset.arm .on) on name args frame)
      (callBody (toolset.arm .off) off name args frame)
      (bodyReach (toolset.arm .on) on onReach name args frame)
      (bodyReach (toolset.arm .off) off offReach name args frame) := by
  rw [callBody_eq, callBody_eq]
  unfold bodyReach
  simp only [Toolset.arm_tools]
  cases toolset.tools.lookup name with
  | none => exact twin_quiet armsParting.quiet_refl
  | some tool =>
    refine twin_bind (twin_checkAdmission serves frame) fun _ => ?_
    refine twin_bind (twin_note frame fun _ same => by cases same) fun _ => ?_
    refine twin_bind (twin_code serves _) fun decision => ?_
    exact twin_decide serves frame name args tool decision

omit serves in
/-- Calls are twins when their bodies are. -/
theorem twin_journal {α : Type} {entered : Happening S} {left : Except (Raised S) α → Happening S}
    {one other : Nat → ToolMethod S α} {oneReach otherReach : Nat → DecisionReach S}
    (enters : ∀ decision, entered ≠ .decided decision)
    (leaves : ∀ result decision, left result ≠ .decided decision)
    (bodies : ∀ frame, Twin armsParting (one frame) (other frame) (oneReach frame)
      (otherReach frame)) :
    Twin armsParting (journal.call entered left one) (journal.call entered left other)
      (fun state => oneReach state.log.frames (journal.entering entered state))
      (fun state => otherReach state.log.frames (journal.entering entered state)) := by
  have bodies : ∀ frame, Twin armsParting
      (journal.note frame entered >>= fun _ => observe (one frame) >>= fun result =>
        journal.note frame (left result) >>= fun _ => liftM result)
      (journal.note frame entered >>= fun _ => observe (other frame) >>= fun result =>
        journal.note frame (left result) >>= fun _ => liftM result)
      (fun state => oneReach frame (journal.update (Log.add frame entered) state))
      (fun state => otherReach frame (journal.update (Log.add frame entered) state)) := by
    intro frame
    refine twin_modify (undenied_note frame fun decision same => absurd same (enters decision)) ?_
    refine twin_bind_quiet (twin_observe (bodies frame)) fun result state => ?_
    refine related_bind (R := Undenied) ?_ fun _ _ => Std.Refl.refl _
    exact undenied_note frame (fun decision same => absurd same (leaves result decision)) state
  have enters : ∀ state : State S, Undenied state (journal.update Log.enter state) :=
    fun _ => undenied_of_log rfl
  have twin := twin_get fun state : State S => twin_modify enters (bodies state.log.frames)
  exact twin

theorem twin_toolsetCall (name : PyStr) (args : Args S) :
    Twin armsParting (call (toolset.arm .on) on name args) (call (toolset.arm .off) off name args)
      (callReach (toolset.arm .on) on onReach name args)
      (callReach (toolset.arm .off) off offReach name args) :=
  twin_journal (fun _ same => by cases same) (fun _ _ same => by cases same)
    (twin_callBody serves name args)

theorem twin_awaitStep (handle : Nat) :
    Twin armsParting (awaitStep on handle) (awaitStep off handle) (awaitReach on onReach handle)
      (awaitReach off offReach handle) := by
  show Twin armsParting _ _
    (fun state => heldReach on onReach handle state.coroutines[handle]? state)
    (fun state => heldReach off offReach handle state.coroutines[handle]? state)
  refine twin_get fun state => ?_
  match state.coroutines[handle]? with
  | none => exact twin_quiet armsParting.quiet_refl
  | some none => exact twin_quiet armsParting.quiet_refl
  | some (some code) =>
    have resumes := twin_code serves code.untilPause
    rw [← Host.resume_eq_exec, ← Host.resume_eq_exec] at resumes
    refine twin_modify (fun _ => undenied_of_log rfl) (twin_bind_quiet resumes fun left state => ?_)
    cases left with
    | inl object => exact undenied_of_log rfl
    | inr rest => exact undenied_of_log rfl

theorem twin_advance (toolset : Toolset S) (programs : S.Program → Code S (Object S))
    (target : Awaited S) :
    Twin armsParting (((toolset.arm .on).surface programs).advance on target)
      (((toolset.arm .off).surface programs).advance off target)
      (advanceReach on onReach target) (advanceReach off offReach target) := by
  cases target with
  | iterator handle => exact twin_awaitStep serves handle
  | object program =>
    show Twin armsParting (some <$> createCoroutine (programs program))
      (some <$> createCoroutine (programs program)) Reach.never Reach.never
    exact twin_quiet fun _ => undenied_of_log rfl

theorem twin_await (toolset : Toolset S) (programs : S.Program → Code S (Object S))
    (target : Awaited S) :
    Twin armsParting
      (journal.call (.awaiting target) .awoke fun _ =>
        ((toolset.arm .on).surface programs).advance on target)
      (journal.call (.awaiting target) .awoke fun _ =>
        ((toolset.arm .off).surface programs).advance off target)
      (fun state => advanceReach on onReach target (journal.entering (.awaiting target) state))
      (fun state => advanceReach off offReach target (journal.entering (.awaiting target) state)) :=
  twin_journal (fun _ same => by cases same) (fun _ _ same => by cases same)
    fun _ => twin_advance serves toolset programs target

end Twins

/-- Whatever is asked of a session, the arms agree in serving it until a call is denied. The
induction is on how many frames may still be entered. -/
theorem twin_serve (toolset : Toolset S) (programs : S.Program → Code S (Object S)) (limit : Nat)
    (request : Request S) :
    Twin armsParting (((toolset.arm .on).surface programs).serve limit request)
      (((toolset.arm .off).surface programs).serve limit request)
      (serveReach (toolset.arm .on) programs limit request)
      (serveReach (toolset.arm .off) programs limit request) := by
  induction limit generalizing request with
  | zero =>
    show Twin armsParting (throw .recursionError : ToolMethod S (Option (Object S)))
      (throw .recursionError) Reach.never Reach.never
    exact twin_quiet armsParting.quiet_refl
  | succ limit inductionHypothesis =>
    have calls : ∀ name args, Twin armsParting
        (some <$> call (toolset.arm .on) (((toolset.arm .on).surface programs).serve limit) name
          args)
        (some <$> call (toolset.arm .off) (((toolset.arm .off).surface programs).serve limit) name
          args)
        (callReach (toolset.arm .on) _ (serveReach (toolset.arm .on) programs limit) name args)
        (callReach (toolset.arm .off) _ (serveReach (toolset.arm .off) programs limit) name args) :=
      fun name args => twin_map some (twin_toolsetCall inductionHypothesis name args)
    cases request with
    | call name args => exact calls name args
    | callable name kwargs =>
      have known : ∀ arm serve, (callables (toolset.arm arm) serve).lookup name =
          (toolset.tools.lookup name).map fun _ kwargs =>
            call (toolset.arm arm) serve name kwargs :=
        fun arm serve => lookup_callables (toolset.arm arm) serve name
      simp only [Surface.serve, Surface.answer, Toolset.surface, known]
      cases toolset.tools.lookup name with
      | none =>
        exact (twin_quiet armsParting.quiet_refl).mono (fun _ _ => False.elim)
          fun _ _ => False.elim
      | some tool => exact calls name kwargs
    | setAdmission predicate =>
      show Twin armsParting (setAdmission predicate >>= fun _ => pure none)
        (setAdmission predicate >>= fun _ => pure none) Reach.never Reach.never
      exact twin_quiet fun _ => undenied_of_log rfl
    | create program =>
      show Twin armsParting (some <$> createCoroutine (programs program))
        (some <$> createCoroutine (programs program)) Reach.never Reach.never
      exact twin_quiet fun _ => undenied_of_log rfl
    | await target => exact twin_await inductionHypothesis toolset programs target

/-! ### Runs of the arms -/

section Runs

variable (toolset : Toolset S) (programs : S.Program → Code S (Object S)) (limit : Nat)

/-- The machine of an agent in an arm. -/
def armMachine (arm : Enforcement) :
    Machine (State S) (Operation S) (Except (Raised S) (Option (Object S))) :=
  ((toolset.arm arm).surface programs).machine limit

/-- The decisions that an operation comes to in an arm. -/
def operationReach (arm : Enforcement) : Operation S → DecisionReach S
  | .act request => serveReach (toolset.arm arm) programs limit request
  | .environment _ => Reach.never

theorem twin_operation (operation : Operation S) :
    Twin armsParting (operation.method ((toolset.arm .on).surface programs) limit)
      (operation.method ((toolset.arm .off).surface programs) limit)
      (operationReach toolset programs limit .on operation)
      (operationReach toolset programs limit .off operation) := by
  cases operation with
  | act request => exact twin_serve toolset programs limit request
  | environment change =>
    let moves : ToolMethod S (Option (Object S)) :=
      modify (fun state => { state with world := change state.world }) >>= fun _ => pure none
    show Twin armsParting moves moves Reach.never Reach.never
    exact twin_quiet fun _ => undenied_of_log rfl

theorem notes_run (arm : Enforcement) (state : State S) (operations : List (Operation S)) :
    Notes state ((armMachine toolset programs limit arm).run state operations) := by
  refine (armMachine toolset programs limit arm).run_related (R := Notes) ?_ state operations
  intro state operation
  have twin := twin_operation toolset programs limit operation
  have notes : ∀ arm, Notes state ((armMachine toolset programs limit arm).next state operation) :=
    forall_arm (twin.one_grows state) (twin.other_grows state)
  exact notes arm

/-- The runs part at this moment of `operation`. Up to there all their states and answers are the
same, so is the state in which the call is denied, and no call was denied before. What was noted by
then, the denial included, stays in the journals of both. -/
structure PartsAt (state : State S) (earlier : List (Operation S)) (operation : Operation S)
    (later : List (Operation S)) (moment : Moment S) : Prop where
  histories : (armMachine toolset programs limit .on).history state earlier =
    (armMachine toolset programs limit .off).history state earlier
  undenied : ∀ arm, Undenied state ((armMachine toolset programs limit arm).run state earlier)
  first : ∀ arm, FirstDenial ((armMachine toolset programs limit arm).run state earlier) moment
  reached : ∀ arm, operationReach toolset programs limit arm operation
    ((armMachine toolset programs limit arm).run state earlier) moment
  noted : ∀ arm, Notes moment.state
    ((armMachine toolset programs limit arm).run state (earlier ++ operation :: later))

/-- The operation takes the arms from one state to another with the same answer, and no call of it
is denied. -/
structure StepsAlike (state next : State S) (operation : Operation S) : Prop where
  moves : ∀ arm, (armMachine toolset programs limit arm).next state operation = next
  transitions : (armMachine toolset programs limit .on).transition state operation =
    (armMachine toolset programs limit .off).transition state operation
  undenied : Undenied state next

/-- An operation is alike in the arms, or parts them whatever comes later. -/
theorem alike_or_part (state : State S) (operation : Operation S) :
    (∃ next, StepsAlike toolset programs limit state next operation) ∨
      ∃ moment, ∀ later, PartsAt toolset programs limit state [] operation later moment := by
  have twin := twin_operation toolset programs limit operation
  rcases twin.together state with ⟨sameState, sameOutcome, quiet⟩ | parted
  · let next := (armMachine toolset programs limit .on).next state operation
    have moves : ∀ arm, (armMachine toolset programs limit arm).next state operation = next :=
      forall_arm rfl sameState.symm
    have answers : (armMachine toolset programs limit .on).answer state operation =
      (armMachine toolset programs limit .off).answer state operation := sameOutcome
    refine .inl ⟨next, moves, ?_, quiet⟩
    simp only [Machine.transition, answers, moves]
  · obtain ⟨moment, first, onReached, offReached, onNoted, offNoted⟩ := parted
    refine .inr ⟨moment, fun later => ?_⟩
    have reached : ∀ arm, operationReach toolset programs limit arm operation state moment :=
      forall_arm onReached offReached
    have noted : ∀ arm,
        Notes moment.state ((armMachine toolset programs limit arm).next state operation) :=
      forall_arm onNoted offNoted
    constructor
    · rw [Machine.history, Machine.history]
    · intro arm
      rw [Machine.run_nil]
      exact Std.Refl.refl state
    · intro arm
      rw [Machine.run_nil]
      exact first
    · intro arm
      rw [Machine.run_nil]
      exact reached arm
    · intro arm
      rw [List.nil_append, Machine.run_cons]
      exact (noted arm).trans (notes_run toolset programs limit arm _ later)

variable {toolset programs limit} in
/-- What parts later runs parts those that begin with one operation more. -/
theorem PartsAt.cons {state next : State S} {operation other : Operation S}
    {earlier later : List (Operation S)} {moment : Moment S}
    (alike : StepsAlike toolset programs limit state next operation)
    (parts : PartsAt toolset programs limit next earlier other later moment) :
    PartsAt toolset programs limit state (operation :: earlier) other later moment := by
  constructor
  · rw [Machine.history, Machine.history, alike.transitions, alike.moves, alike.moves,
      parts.histories]
  · intro arm
    rw [Machine.run_cons, alike.moves]
    exact alike.undenied.trans (parts.undenied arm)
  · intro arm
    rw [Machine.run_cons, alike.moves]
    exact parts.first arm
  · intro arm
    rw [Machine.run_cons, alike.moves]
    exact parts.reached arm
  · intro arm
    rw [List.cons_append, Machine.run_cons, alike.moves]
    exact parts.noted arm

theorem agree_or_part (state : State S) (operations : List (Operation S)) :
    (Undenied state ((armMachine toolset programs limit .on).run state operations) ∧
      (armMachine toolset programs limit .on).history state operations =
        (armMachine toolset programs limit .off).history state operations ∧
      (armMachine toolset programs limit .on).run state operations =
        (armMachine toolset programs limit .off).run state operations) ∨
    ∃ earlier operation later moment, operations = earlier ++ operation :: later ∧
      PartsAt toolset programs limit state earlier operation later moment := by
  induction operations generalizing state with
  | nil =>
    refine .inl ⟨Std.Refl.refl state, ?_, ?_⟩
    · rw [Machine.history, Machine.history]
    · rw [Machine.run_nil, Machine.run_nil]
  | cons operation rest inductionHypothesis =>
    rcases alike_or_part toolset programs limit state operation with
      ⟨next, alike⟩ | ⟨moment, parts⟩
    · rcases inductionHypothesis next with
        ⟨laterQuiet, histories, ends⟩ | ⟨earlier, other, later, moment, rfl, parts⟩
      · refine .inl ⟨?_, ?_, ?_⟩
        · rw [Machine.run_cons, alike.moves]
          exact alike.undenied.trans laterQuiet
        · rw [Machine.history, Machine.history, alike.transitions, alike.moves, alike.moves,
            histories]
        · rw [Machine.run_cons, Machine.run_cons, alike.moves, alike.moves, ends]
      · exact .inr ⟨operation :: earlier, other, later, moment, rfl, parts.cons alike⟩
    · exact .inr ⟨[], operation, rest, moment, rfl, parts rest⟩

variable {toolset programs limit}

/-- What a run parts at was denied in it. -/
theorem PartsAt.denied {state : State S} {earlier later : List (Operation S)}
    {operation : Operation S} {moment : Moment S}
    (parts : PartsAt toolset programs limit state earlier operation later moment)
    (arm : Enforcement) :
    ¬ Undenied state
      ((armMachine toolset programs limit arm).run state (earlier ++ operation :: later)) := by
  rintro ⟨segment, same, clean⟩
  obtain ⟨quiet, before, _⟩ := parts.undenied arm
  obtain ⟨⟨between, made, _⟩, denied⟩ := parts.first arm
  obtain ⟨after, noted⟩ := parts.noted arm
  have member : (moment.frame, .decided moment.decision) ∈ segment := by
    have parted : segment =
        quiet ++ between ++ [(moment.frame, .decided moment.decision)] ++ after := by
      refine (List.append_right_inj state.log.events).mp ?_
      rw [← same, ← noted, made, before]
      simp only [List.append_assoc]
    simp [parted]
  rw [clean _ _ member] at denied
  cases denied

/-- **The arms are one machine up to the first denial**: either no call is denied in any of them,
and the runs are identical, or some call is denied in both, and they part at the first that is. -/
theorem arms_part_at_denial (toolset : Toolset S) (programs : S.Program → Code S (Object S))
    (limit : Nat) (state : State S) (operations : List (Operation S)) :
    ((∀ arm, Undenied state ((armMachine toolset programs limit arm).run state operations)) ∧
      (armMachine toolset programs limit .on).history state operations =
        (armMachine toolset programs limit .off).history state operations ∧
      (armMachine toolset programs limit .on).run state operations =
        (armMachine toolset programs limit .off).run state operations) ∨
    ((∀ arm, ¬ Undenied state ((armMachine toolset programs limit arm).run state operations)) ∧
      ∃ earlier operation later moment, operations = earlier ++ operation :: later ∧
        PartsAt toolset programs limit state earlier operation later moment) := by
  rcases agree_or_part toolset programs limit state operations with
    ⟨quiet, histories, ends⟩ | ⟨earlier, operation, later, moment, rfl, parts⟩
  · refine .inl ⟨fun arm => ?_, histories, ends⟩
    cases arm with
    | on => exact quiet
    | off => exact ends ▸ quiet
  · exact .inr ⟨parts.denied, earlier, operation, later, moment, rfl, parts⟩

end Runs

end AxorWrap.Runtime
