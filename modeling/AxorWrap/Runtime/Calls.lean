/-
This file models what surrounds a wrapped call: the values that pass through it,
the code of other people it runs, and the state of the session it runs in.

Tools, governors and admission predicates are scripts. A script works on a world
they all share, it may raise, and it may do what the agent does, calls of tools
included, so calls nest. The interpreter bounds the nesting; beyond the bound a
request raises `RecursionError`, as any frame may.

A tool is a plain function or a coroutine function. Calling the latter runs none
of its body. It makes a coroutine object, which is awaited later, step by step,
in between whatever else happens. A plain function may return one too, or another
object that can be awaited.

The journal in the state is not in the source. It notes what each call does, in
order, for the theorems to speak about, and nothing reads it.
-/

import AxorWrap.Python.Text
import AxorWrap.Library.Journal
import AxorWrap.Library.Machine

namespace AxorWrap.Runtime

open Python Methods Scripts Journals Machines

/-! ### Values and scripts -/

/-- What the runtime leaves open: the world its scripts work on, the admission predicates there are,
the coroutine functions and `__await__` methods, the objects that cannot be awaited, what a decision
carries beyond the attributes read here, and the exceptions of foreign code. -/
structure Setting where
  World : Type
  Predicate : Type
  Program : Type
  Plain : Type
  Verdict : Type
  Foreign : Type

variable (S : Setting)

/-- A Python object, by reference. What is in a plain one is in the world, so a record holds the
object and not what was in it: that an argument or a result is changed after it was recorded, and
reads otherwise in the trace, is left out. A coroutine object, or the iterator of another object, is
known by its place among those created. Any other object with `__await__`, a task or a future say,
is known by what that runs. -/
inductive Object
  | plain (value : S.Plain)
  | coroutine (handle : Nat)
  | awaitable (program : S.Program)

/-- What is awaited: a coroutine or an iterator, up to its next pause, or another object, which
makes its iterator first. -/
inductive Awaited
  | iterator (handle : Nat)
  | object (program : S.Program)

/-- Keyword arguments. -/
abbrev Args := List (PyStr × Object S)

/-- The decision of a governor. -/
structure Decision where
  allowed : Bool
  reason : PyStr
  category : PyStr
  verdict : S.Verdict

/-- What a request can raise. -/
inductive Raised
  | unknownTool (name : PyStr) (known : List PyStr)
  | admissionHeld (posture : PyStr)
  | toolDenied (reason category : PyStr)
  | keyError (name : PyStr)
  | recursionError
  | runtimeError
  | foreign (error : S.Foreign)

/-- What an agent or a script may do with the session it has a reference to: call a tool by name
or take it from the callables, bind or clear the admission predicate, call a coroutine function,
and await something. -/
inductive Request
  | call (name : PyStr) (args : Args S)
  | callable (name : PyStr) (kwargs : Args S)
  | setAdmission (predicate : Option S.Predicate)
  | create (program : S.Program)
  | await (target : Awaited S)

/-- Foreign code that returns an `α`. A request is answered by an object, or by `None`. -/
abbrev Code (α : Type) := Script S.World (Request S) (Raised S) (Option (Object S)) α

/-- A tool callable. Binding the arguments of a coroutine function can raise when it is called. -/
inductive Tool
  | function (body : Args S → Code S (Object S))
  | coroutineFunction (bind : Args S → Except (Raised S) (Code S (Object S)))

/-! ### The state of a session -/

/-- `axor_wrap.trace.RecordedCall`. -/
structure RecordedCall where
  tool : PyStr
  args : Args S
  executed : Bool := false
  result : Option (Object S) := none

/-- What a call does, noted as it happens. An admission check notes what the predicate returned,
or that none was bound. -/
inductive Happening
  | entered (name : PyStr) (args : Args S)
  | admission (admitted : Option Bool)
  | consulted (name : PyStr) (args : Args S)
  | decided (decision : Decision S)
  | recorded (index : Nat) (name : PyStr) (args : Args S)
  | invoked (name : PyStr) (args : Args S)
  | produced (output : Object S)
  | registered (decision : Decision S) (output : Object S)
  | kept (index : Nat) (output : Object S)
  | left (result : Except (Raised S) (Object S))
  | awaiting (target : Awaited S)
  | awoke (result : Except (Raised S) (Option (Object S)))

/-- What changes in a session: the world, the bound predicate, the recorder, the coroutine objects
created so far with what is left of each to run, and the journal. -/
structure State where
  world : S.World
  admission : Option S.Predicate := none
  calls : List (RecordedCall S) := []
  coroutines : List (Option (Code S (Object S))) := []
  log : Log (Happening S) := {}

abbrev ToolMethod (α : Type) := Method (State S) (Raised S) α

/-- How requests are served. -/
abbrev Service := Request S → ToolMethod S (Option (Object S))

variable {S}

/-- The journal of a state. -/
def journal : Journal (State S) (Happening S) where
  log := State.log
  update change state := { state with log := change state.log }
  log_update _ _ := rfl

/-- The host of all scripts of a session. -/
def host (serve : Service S) :
    Host (State S) S.World (Request S) (Raised S) (Option (Object S)) where
  world := State.world
  setWorld world state := { state with world := world }
  serve := serve

/-! ### The recorder -/

/-- `SessionRecorder.evaluated`: the new record, by its place in the list. -/
def recorderEvaluated (frame : Nat) (name : PyStr) (args : Args S) : ToolMethod S Nat := do
  let state ← get
  modify fun state => { state with calls := state.calls ++ [{ tool := name, args := args }] }
  journal.note frame (.recorded state.calls.length name args)
  return state.calls.length

def RecordedCall.execute (output : Object S) (call : RecordedCall S) : RecordedCall S :=
  { call with executed := true, result := some output }

/-- `recorded.executed, recorded.result = True, output`. -/
def keepResult (frame index : Nat) (output : Object S) : ToolMethod S Unit := do
  modify fun state => { state with calls := state.calls.modify index (RecordedCall.execute output) }
  journal.note frame (.kept index output)

/-! ### Tools and coroutines -/

/-- Calling a coroutine function makes an object and runs nothing. -/
def createCoroutine (code : Code S (Object S)) : ToolMethod S (Object S) := do
  let state ← get
  modify fun state => { state with coroutines := state.coroutines ++ [some code] }
  return .coroutine state.coroutines.length

/-- What a call of the callable runs. -/
def Tool.run (tool : Tool S) (serve : Service S) (args : Args S) : ToolMethod S (Object S) :=
  match tool with
  | .function body => (host serve).exec (body args)
  | .coroutineFunction bind => do
    let code ← liftM (bind args)
    createCoroutine code

/-- `fn(**args)`. -/
def invoke (serve : Service S) (frame : Nat) (name : PyStr) (tool : Tool S) (args : Args S) :
    ToolMethod S (Object S) := do
  journal.note frame (.invoked name args)
  let output ← tool.run serve args
  journal.note frame (.produced output)
  return output

/-- One step of awaiting a coroutine: it runs to its end or to its next pause. One that runs
already, or has ended, cannot be awaited. -/
def awaitStep (serve : Service S) (handle : Nat) : ToolMethod S (Option (Object S)) := do
  let state ← get
  match state.coroutines[handle]? with
  | some (some code) =>
    modify fun state => { state with coroutines := state.coroutines.set handle none }
    match ← (host serve).resume code with
    | .inl object => return some object
    | .inr rest =>
      modify fun state => { state with coroutines := state.coroutines.set handle (some rest) }
      return none
  | _ => throw .runtimeError

/-! ### Sessions -/

/-- What a session offers: its tools under their names, wrapped, as a method and as a dictionary,
and what the coroutine functions and the `__await__` methods run that are at hand besides. -/
structure Surface (S : Setting) where
  call : Service S → PyStr → Args S → ToolMethod S (Object S)
  callables : Service S → List (PyStr × (Args S → ToolMethod S (Object S)))
  programs : S.Program → Code S (Object S)

def setAdmission (predicate : Option S.Predicate) : ToolMethod S Unit :=
  modify fun state => { state with admission := predicate }

namespace Surface

variable (surface : Surface S)

/-- What awaiting does, up to the next pause. -/
def advance (serve : Service S) : Awaited S → ToolMethod S (Option (Object S))
  | .iterator handle => awaitStep serve handle
  | .object program => some <$> createCoroutine (surface.programs program)

/-- What a request does. The scripts it runs are served in turn. -/
def answer (serve : Service S) : Service S
  | .call name args => some <$> surface.call serve name args
  | .callable name kwargs =>
    match (surface.callables serve).lookup name with
    | some wrapped => some <$> wrapped kwargs
    | none => throw (.keyError name)
  | .setAdmission predicate => do
    setAdmission predicate
    return none
  | .create program => some <$> createCoroutine (surface.programs program)
  | .await target => journal.call (.awaiting target) .awoke fun _ => surface.advance serve target

/-- Requests served when so many frames may still be entered. -/
def serve : Nat → Service S
  | 0 => fun _ => throw .recursionError
  | limit + 1 => surface.answer (serve limit)

end Surface

/-- What the agent does, and what happens around it. -/
inductive Operation (S : Setting)
  | act (request : Request S)
  | environment (change : S.World → S.World)

def Operation.method (surface : Surface S) (limit : Nat) :
    Operation S → ToolMethod S (Option (Object S))
  | .act request => surface.serve limit request
  | .environment change => do
    modify fun state => { state with world := change state.world }
    return none

/-- The machine of an agent in this session, under a bound on nested requests. -/
def Surface.machine (surface : Surface S) (limit : Nat) :
    Machine (State S) (Operation S) (Except (Raised S) (Option (Object S))) where
  answer state operation := outcome (operation.method surface limit) state
  next state operation := final (operation.method surface limit) state

/-- The state of a session after a run from its start. -/
def Surface.ran (surface : Surface S) (limit : Nat) (world : S.World)
    (admission : Option S.Predicate) (operations : List (Operation S)) : State S :=
  (surface.machine limit).run { world := world, admission := admission } operations

/-! ### What every request keeps -/

/-- A relation that writes to the world, the admission and the coroutines keep. -/
def KeptQuietly (R : State S → State S → Prop) : Prop :=
  ∀ before after : State S, after.log = before.log → after.calls = before.calls → R before after

theorem mem_of_lookup {α : Type} {entries : List (PyStr × α)} {name : PyStr} {value : α}
    (found : entries.lookup name = some value) : (name, value) ∈ entries := by
  obtain ⟨earlier, later, rfl, _⟩ := List.lookup_eq_some_iff.mp found
  exact List.mem_append_right _ List.mem_cons_self

section Kept

variable {R : State S → State S → Prop} [Std.Refl R] [IsTrans (State S) R]
  (quiet : KeptQuietly R)

include quiet

omit [Std.Refl R] [IsTrans (State S) R] in
theorem related_createCoroutine (code : Code S (Object S)) (state : State S) :
    R state (final (createCoroutine code) state) :=
  quiet _ _ rfl rfl

section Served

variable {serve : Service S} (serves : ∀ request state, R state (final (serve request) state))

include serves

theorem related_exec {α : Type} (code : Code S α) (state : State S) :
    R state (final ((host serve).exec code) state) :=
  Host.related_exec (R := R) (fun _ _ => quiet _ _ rfl rfl) serves code state

theorem related_toolRun (tool : Tool S) (args : Args S) (state : State S) :
    R state (final (tool.run serve args) state) := by
  cases tool with
  | function body => exact related_exec quiet serves (body args) state
  | coroutineFunction bind =>
    unfold Tool.run
    refine related_bind (Std.Refl.refl state) fun code _ => ?_
    exact related_createCoroutine quiet code _

theorem related_awaitStep (handle : Nat) (state : State S) :
    R state (final (awaitStep serve handle) state) := by
  unfold awaitStep
  rw [final_bind_ok (outcome_get state), final_get]
  match state.coroutines[handle]? with
  | none => exact Std.Refl.refl state
  | some none => exact Std.Refl.refl state
  | some (some code) =>
    refine related_bind (R := R) (quiet _ _ rfl rfl) fun _ _ => ?_
    refine related_bind (R := R) ?_ fun resumed _ => ?_
    · exact Host.related_resume (R := R) (fun _ _ => quiet _ _ rfl rfl) serves code _
    · cases resumed with
      | inl object => exact Std.Refl.refl _
      | inr rest => exact quiet _ _ rfl rfl

theorem related_advance {surface : Surface S} (target : Awaited S) (state : State S) :
    R state (final (surface.advance serve target) state) := by
  cases target with
  | iterator handle => exact related_awaitStep quiet serves handle state
  | object program => exact quiet _ _ rfl rfl

end Served

variable {surface : Surface S}

/-- What the wrapped tools keep, and a step of awaiting keeps, every request keeps, the requests
made meanwhile included. The induction is on how many frames may still be entered. -/
theorem related_serve
    (calls : ∀ serve : Service S, (∀ request state, R state (final (serve request) state)) →
      ∀ name args state, R state (final (surface.call serve name args) state))
    (callables : ∀ serve : Service S, (∀ request state, R state (final (serve request) state)) →
      ∀ entry ∈ surface.callables serve, ∀ kwargs state, R state (final (entry.2 kwargs) state))
    (awaits : ∀ target body, (∀ state, R state (final body state)) →
      ∀ state, R state (final (journal.call (.awaiting target) .awoke fun _ => body) state))
    (limit : Nat) (request : Request S) (state : State S) :
    R state (final (surface.serve limit request) state) := by
  induction limit generalizing request state with
  | zero => exact Std.Refl.refl state
  | succ limit inductionHypothesis =>
    cases request with
    | call name args =>
      show R state (final (some <$> _) state)
      rw [final_map]
      exact calls _ inductionHypothesis name args state
    | callable name kwargs =>
      simp only [Surface.serve, Surface.answer]
      cases found : (surface.callables (surface.serve limit)).lookup name with
      | none => exact Std.Refl.refl state
      | some wrapped =>
        show R state (final (some <$> _) state)
        rw [final_map]
        exact callables _ inductionHypothesis _ (mem_of_lookup found) kwargs state
    | setAdmission predicate => exact quiet _ _ rfl rfl
    | create program => exact quiet _ _ rfl rfl
    | await target => exact awaits target _ (related_advance quiet inductionHypothesis target) state

/-- And every run of the agent does. -/
theorem related_run {limit : Nat}
    (serves : ∀ request state, R state (final (surface.serve limit request) state))
    (state : State S) (operations : List (Operation S)) :
    R state ((surface.machine limit).run state operations) := by
  refine (surface.machine limit).run_related (fun state operation => ?_) state operations
  cases operation with
  | act request => exact serves request state
  | environment change => exact quiet _ _ rfl rfl

end Kept

/-! ### Calls that are entered and left -/

/-- The journal grew by calls that were entered and left again. -/
def Settled (finished : List (Happening S) → Prop) (before after : State S) : Prop :=
  Extends finished before.log after.log

section Settled

variable (finished : List (Happening S) → Prop)

instance : Std.Refl (Settled finished) where
  refl state := Std.Refl.refl state.log

instance : IsTrans (State S) (Settled finished) where
  trans _ _ _ first second := IsTrans.trans (r := Extends finished) _ _ _ first second

theorem settled_quietly : KeptQuietly (Settled finished) := by
  intro before after sameLog _
  unfold Settled
  rw [sameLog]
  exact Std.Refl.refl before.log

/-- When requests are settled, the calls of a run that starts afresh are finished. -/
theorem finished_run {finished : List (Happening S) → Prop} {surface : Surface S} {limit : Nat}
    (serves : ∀ request state,
      Settled finished state (final (surface.serve limit request) state))
    (world : S.World) (admission : Option S.Predicate) (operations : List (Operation S))
    (frame : Nat) :
    own (surface.ran limit world admission operations).log.events frame = [] ∨
      finished (own (surface.ran limit world admission operations).log.events frame) :=
  Extends.finished_own (related_run (settled_quietly finished) serves
    { world := world, admission := admission } operations) frame

/-- The requests made while foreign code runs are settled, so that code records nothing. -/
theorem records_exec {finished : List (Happening S) → Prop} {serve : Service S}
    (serves : ∀ request state, Settled finished state (final (serve request) state)) {α : Type}
    (code : Code S α) (frame : Nat) :
    journal.Records finished frame ((host serve).exec code) fun _ mine => mine = [] :=
  Journal.records_of_extends (related_exec (settled_quietly finished) serves code)

theorem records_toolRun {finished : List (Happening S) → Prop} {serve : Service S}
    (serves : ∀ request state, Settled finished state (final (serve request) state))
    (tool : Tool S) (args : Args S) (frame : Nat) :
    journal.Records finished frame (tool.run serve args) fun _ mine => mine = [] :=
  Journal.records_of_extends (related_toolRun (settled_quietly finished) serves tool args)

theorem records_recorderEvaluated {finished : List (Happening S) → Prop} (frame : Nat)
    (name : PyStr) (args : Args S) :
    journal.Records finished frame (recorderEvaluated frame name args)
      fun result mine => ∃ index, result = .ok index ∧ mine = [.recorded index name args] := by
  unfold recorderEvaluated
  refine Journal.records_get fun state => ?_
  refine Journal.records_modify_bind (fun _ => rfl) ?_
  refine Journal.records_note_bind ?_
  exact Journal.records_pure ⟨state.calls.length, rfl, rfl⟩

theorem records_keepResult {finished : List (Happening S) → Prop} (frame index : Nat)
    (output : Object S) :
    journal.Records finished frame (keepResult frame index output)
      fun result mine => result = .ok () ∧ mine = [.kept index output] := by
  unfold keepResult
  exact Journal.records_modify_bind (fun _ => rfl) (Journal.records_note _)

end Settled

end AxorWrap.Runtime
