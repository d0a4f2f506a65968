/-
This file models the events a kernel records of a session
(`axor_core.contracts.trace`), as far as this package reads them, and the code
of other packages that is called on the way from there to a trace.

The class of an event decides which attributes it has beyond those all events
share. The classes this package tests for are named here; every other event is
of a plain class, and may be of any kind.
-/

import AxorWrap.Python.Value

namespace AxorWrap.Trace

open Python

/-! ### Events -/

/-- The members of `TraceEventKind` that are told apart. -/
inductive TraceEventKind
  | intentApproved
  | intentTransformed
  | intentDenied
  | childSpawned
  | childStale
  | childCompleted
  | other (name : PyStr)
deriving DecidableEq, Repr

/-- A degradation level: a member of the enumeration, known by its name, or another value. -/
inductive Level
  | member (name : PyStr)
  | value (value : Value)

/-- The class of an event, with the attributes that are read of it. -/
inductive EventClass
  | plain (kind : TraceEventKind) (reason : Option PyStr)
  | intentDenied (intentKind reason : PyStr)
  | degradationTransition (previousLevel newLevel : Level) (triggerSourceId reason : Value)
  | sourceQuarantined (sourceId reason : Value)
  | taintPropagated
  | suspiciousIntent (policyAction : PyStr) (tool score : Value) (reasons : List Value)
  | childSpawned (childNodeId childDepth : Value)
  | childStale (childNodeId : Value)
  | cancelled (reason detail : PyStr)

/-- `axor_core.contracts.trace.TraceEvent`. -/
structure TraceEvent where
  nodeId : PyStr
  sequence : Int
  payload : Entries
  class_ : EventClass

/-- `event.kind`. -/
def TraceEvent.kind (event : TraceEvent) : TraceEventKind :=
  match event.class_ with
  | .plain kind _ => kind
  | .intentDenied _ _ => .intentDenied
  | .degradationTransition _ _ _ _ => .other "degradation_transition"
  | .sourceQuarantined _ _ => .other "source_quarantined"
  | .taintPropagated => .other "taint_propagated"
  | .suspiciousIntent _ _ _ _ => .other "suspicious_intent"
  | .childSpawned _ _ => .childSpawned
  | .childStale _ => .childStale
  | .cancelled _ _ => .other "cancelled"

/-- `getattr(event, "reason", None)` of a verdict. -/
def TraceEvent.reason (event : TraceEvent) : Option PyStr :=
  match event.class_ with
  | .plain _ reason => reason
  | .intentDenied _ reason => some reason
  | _ => none

/-- The kind is `intent_denied`. -/
def TraceEvent.denied (event : TraceEvent) : Bool := event.kind = .intentDenied

/-! ### Verdicts -/

/-- `event.kind in kinds`. -/
def TraceEvent.isVerdict (event : TraceEvent) : Bool :=
  event.kind = .intentApproved ∨ event.kind = .intentTransformed ∨ event.kind = .intentDenied

/-- Only the tool-call verdicts, in order. -/
def verdictEvents (events : List TraceEvent) : List TraceEvent :=
  events.filter TraceEvent.isVerdict

/-- `verdicts_of`: the verdicts of the traces of a session, one a node, merged by their sequence
numbers. -/
def verdictsOf (traces : List (List TraceEvent)) : List TraceEvent :=
  (traces.flatMap verdictEvents).insertionSort fun first second =>
    first.sequence ≤ second.sequence

theorem verdictEvents_append (first second : List TraceEvent) :
    verdictEvents (first ++ second) = verdictEvents first ++ verdictEvents second :=
  List.filter_append ..

/-! ### Other packages -/

/-- What is called outside this package: the interpreter, the canonicalizer and the gate table of
`axor_core`, and SHA-256. All of it is arbitrary. -/
structure Kernel where
  interpreter : Interpreter
  lower : PyStr → PyStr
  canonicalize : Value → Except PyError Bytes
  gateOf : PyStr → Except PyError PyStr
  gateOfCategory : PyStr → Option PyStr
  sha256 : Bytes → PyStr

/-- Some categories of denials, and their gates. -/
def trialGates : List (PyStr × PyStr) :=
  [("taint_enforcement", "taint_floor"), ("value_policy", "value_policy"),
    ("consequence_gate", "consequence_gate"), ("carrier_gate", "carrier_gate"),
    ("budget", "budget")]

/-- A kernel for trials: it hashes nothing, and raises on a category it does not know. -/
def Kernel.trial : Kernel where
  interpreter :=
    { isPrintable := fun _ => false
      isSpace := fun _ => false
      decimal := fun _ => none
      floatText := fun _ => [] }
  lower := id
  canonicalize _ := .ok []
  gateOf category :=
    match trialGates.lookup category with
    | some gate => .ok gate
    | none => .error .valueError
  gateOfCategory category := trialGates.lookup category
  sha256 _ := []

end AxorWrap.Trace
