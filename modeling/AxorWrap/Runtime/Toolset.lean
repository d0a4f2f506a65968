/-
This file models `WrappedToolset` (`axor_wrap/runtime.py`), the gate every tool
call of an agent goes through, and `record_tools` (`axor_wrap/trace.py`), which
wraps the tools of a session whose kernel has its gate elsewhere and only records
what they return.
-/

import AxorWrap.Runtime.Calls

namespace AxorWrap.Runtime

open Python Methods Scripts Journals Machines

variable (S : Setting)

/-- `axor_core.governor.ToolCallGovernor`, or one injected in its place. -/
structure Governor where
  evaluate : PyStr → Args S → Code S (Decision S)
  registerOutput : Decision S → Object S → Code S Unit

inductive Enforcement
  | on
  | off
deriving DecidableEq, Repr

/-- What the constructor of a toolset fixes, and what polling an admission predicate runs. -/
structure Toolset where
  tools : List (PyStr × Tool S)
  governor : Governor S
  poll : S.Predicate → Code S Bool
  enforcement : Enforcement := .on
  record : Bool := false

variable {S}

/-! ### The gate -/

section Call

variable (toolset : Toolset S) (serve : Service S)

def toolNames : List PyStr := toolset.tools.map Prod.fst

/-- `self._admission()`. -/
def admission (frame : Nat) (predicate : S.Predicate) : ToolMethod S Bool := do
  let admitted ← (host serve).exec (toolset.poll predicate)
  journal.note frame (.admission (some admitted))
  return admitted

/-- The intent boundary. -/
def checkAdmission (frame : Nat) : ToolMethod S Unit := do
  match (← get).admission with
  | none => journal.note frame (.admission none)
  | some predicate =>
    if !(← admission toolset serve frame predicate) then
      throw (.admissionHeld "paused-or-stopped")

/-- `self._governor.evaluate(name, args)`. -/
def evaluate (frame : Nat) (name : PyStr) (args : Args S) : ToolMethod S (Decision S) := do
  journal.note frame (.consulted name args)
  let decision ← (host serve).exec (toolset.governor.evaluate name args)
  journal.note frame (.decided decision)
  return decision

/-- `self._governor.register_output(decision, output)`. -/
def registerOutput (frame : Nat) (decision : Decision S) (output : Object S) :
    ToolMethod S Unit := do
  journal.note frame (.registered decision output)
  (host serve).exec (toolset.governor.registerOutput decision output)

/-- `self._recorder.evaluated(name, args) if self._recorder else None`. -/
def recordEvaluated (frame : Nat) (name : PyStr) (args : Args S) : ToolMethod S (Option Nat) :=
  if toolset.record then some <$> recorderEvaluated frame name args else pure none

/-- `if recorded is not None`. -/
def recordExecuted (frame : Nat) (recorded : Option Nat) (output : Object S) :
    ToolMethod S Unit :=
  match recorded with
  | some index => keepResult frame index output
  | none => pure ()

/-- The tool, the ledger, the record. -/
def runTool (frame : Nat) (name : PyStr) (args : Args S) (tool : Tool S) (decision : Decision S)
    (recorded : Option Nat) : ToolMethod S (Object S) := do
  let output ← invoke serve frame name tool args
  registerOutput toolset serve frame decision output
  recordExecuted frame recorded output
  return output

/-- From the decision on. -/
def execute (frame : Nat) (name : PyStr) (args : Args S) (tool : Tool S) (decision : Decision S) :
    ToolMethod S (Object S) := do
  let recorded ← recordEvaluated toolset frame name args
  if !decision.allowed && toolset.enforcement = .on then
    throw (.toolDenied decision.reason decision.category)
  else
    runTool toolset serve frame name args tool decision recorded

/-- The body of `WrappedToolset.call`. -/
def callBody (name : PyStr) (args : Args S) (frame : Nat) : ToolMethod S (Object S) := do
  match toolset.tools.lookup name with
  | none => throw (.unknownTool name (toolNames toolset))
  | some tool =>
    checkAdmission toolset serve frame
    let decision ← evaluate toolset serve frame name args
    execute toolset serve frame name args tool decision

/-- `WrappedToolset.call`. -/
def call (name : PyStr) (args : Args S) : ToolMethod S (Object S) :=
  journal.call (.entered name args) .left (callBody toolset serve name args)

/-- `WrappedToolset.callables`. -/
def callables : List (PyStr × (Args S → ToolMethod S (Object S))) :=
  toolset.tools.map fun entry => (entry.1, fun kwargs => call toolset serve entry.1 kwargs)

/-! What these do and note, step by step. -/

theorem checkAdmission_eq (frame : Nat) : checkAdmission toolset serve frame = (do
    match (← get).admission with
    | none => journal.note frame (.admission none)
    | some predicate =>
      let admitted ← (host serve).exec (toolset.poll predicate)
      journal.note frame (.admission (some admitted))
      if !admitted then
        throw (.admissionHeld "paused-or-stopped")) := by
  simp only [checkAdmission, admission, bind_assoc, pure_bind]

theorem runTool_eq (frame : Nat) (name : PyStr) (args : Args S) (tool : Tool S)
    (decision : Decision S) (recorded : Option Nat) :
    runTool toolset serve frame name args tool decision recorded = (do
      journal.note frame (.invoked name args)
      let output ← tool.run serve args
      journal.note frame (.produced output)
      journal.note frame (.registered decision output)
      (host serve).exec (toolset.governor.registerOutput decision output)
      recordExecuted frame recorded output
      return output) := by
  simp only [runTool, invoke, registerOutput, bind_assoc, pure_bind]

theorem callBody_eq (name : PyStr) (args : Args S) (frame : Nat) :
    callBody toolset serve name args frame = (do
      match toolset.tools.lookup name with
      | none => throw (.unknownTool name (toolNames toolset))
      | some tool =>
        checkAdmission toolset serve frame
        journal.note frame (.consulted name args)
        let decision ← (host serve).exec (toolset.governor.evaluate name args)
        journal.note frame (.decided decision)
        execute toolset serve frame name args tool decision) := by
  simp only [callBody, evaluate, bind_assoc, pure_bind]

/-- A tool is under its name in the dictionary. -/
theorem lookup_callables (name : PyStr) :
    (callables toolset serve).lookup name =
      (toolset.tools.lookup name).map fun _ kwargs => call toolset serve name kwargs := by
  unfold callables
  induction toolset.tools with
  | nil => rfl
  | cons entry rest inductionHypothesis =>
    rw [List.map_cons, List.lookup_cons, List.lookup_cons]
    cases same : name == entry.1 with
    | true =>
      rw [eq_of_beq same]
      rfl
    | false => exact inductionHypothesis

end Call

/-- A session that is governed by a toolset. -/
def Toolset.surface (toolset : Toolset S) (programs : S.Program → Code S (Object S)) :
    Surface S where
  call := call toolset
  callables := callables toolset
  programs := programs

/-! ### The recording path -/

section Streaming

variable (tools : List (PyStr × Tool S)) (serve : Service S)

/-- The body of `recorded` in `record_tools`. -/
def recordedBody (name : PyStr) (tool : Tool S) (kwargs : Args S) (frame : Nat) :
    ToolMethod S (Object S) := do
  let call ← recorderEvaluated frame name kwargs
  let result ← invoke serve frame name tool kwargs
  keepResult frame call result
  return result

/-- What it does and notes, step by step. -/
theorem recordedBody_eq (name : PyStr) (tool : Tool S) (kwargs : Args S) (frame : Nat) :
    recordedBody serve name tool kwargs frame = (do
      let call ← recorderEvaluated frame name kwargs
      journal.note frame (.invoked name kwargs)
      let result ← tool.run serve kwargs
      journal.note frame (.produced result)
      keepResult frame call result
      return result) := by
  simp only [recordedBody, invoke, bind_assoc, pure_bind]

/-- `record_tools`. -/
def recordTools : List (PyStr × (Args S → ToolMethod S (Object S))) :=
  tools.map fun entry => (entry.1, fun kwargs =>
    journal.call (.entered entry.1 kwargs) .left (recordedBody serve entry.1 entry.2 kwargs))

/-- A session whose tools are only recorded. A tool is called by taking it from the dictionary. -/
def streaming (programs : S.Program → Code S (Object S)) : Surface S where
  call serve name args :=
    match (recordTools tools serve).lookup name with
    | some recorded => recorded args
    | none => throw (.keyError name)
  callables := recordTools tools
  programs := programs

end Streaming

end AxorWrap.Runtime
