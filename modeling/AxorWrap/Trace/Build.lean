/-
This file models `build_trace` (`axor_wrap/trace.py`), which joins the values a
recorder kept of a session to the verdicts its kernel recorded.

The raw values are whatever the tools were given and returned. The builder asks
little of them: their hash, their text, and the fields and elements below them.
A ledger numbers the values as they are minted and remembers which of them came
from an untrusted source, because a later argument may derive from these.
-/

import AxorWrap.Trace.Events
import AxorWrap.Library.Method

namespace AxorWrap.Trace

open Python Methods

/-! ### What is joined -/

/-- What the builder asks of the objects it is given: `canonicalize`, `isinstance` of a `str` and
of the scalar types, `repr`, an entry of a `dict`, the items of a `list`. -/
structure Objects (V : Type) where
  canonicalize : V → Except PyError Bytes
  asText : V → Option PyStr
  repr : V → Except PyError PyStr
  isScalar : V → Bool
  entry : V → PyStr → Option V
  items : V → Option (List V)

/-- The objects that are JSON values. -/
def Objects.json (kernel : Kernel) : Objects Value where
  canonicalize := kernel.canonicalize
  asText
    | .str text => some text
    | _ => none
  repr value := .ok (value.repr kernel.interpreter)
  isScalar
    | .str _ | .int _ | .float _ | .bool _ => true
    | _ => false
  entry
    | .dict entries, key => Entries.lookup entries key
    | _, _ => none
  items
    | .list items => some items
    | _ => none

/-- Objects for trials: they hash to nothing, and nothing is in them. -/
def Objects.trial {V : Type} : Objects V where
  canonicalize _ := .ok []
  asText _ := none
  repr _ := .ok []
  isScalar _ := false
  entry _ _ := none
  items _ := none

/-- `axor_wrap.trace.RecordedCall`. The result is there once the call was executed. -/
structure RecordedCall (V : Type) where
  tool : PyStr
  args : List (PyStr × V)
  executed : Bool := false
  result : Option V := none

/-- Where in the call the recorder sits. -/
inductive Observes
  | everyIntent
  | executionsOnly
deriving DecidableEq, Repr

/-- The reasons of a `TraceBuildError`. -/
inductive Misalignment
  | countMismatch (calls verdicts : Nat)
  | moreApproved
  | unjudged (remaining : Nat)
deriving DecidableEq, Repr

def Misalignment.text : Misalignment → PyStr
  | .countMismatch calls verdicts =>
    natText calls ++ PyStr.ofString " recorded call(s) but " ++ natText verdicts ++
      PyStr.ofString (" kernel verdict(s) — " ++
        "refusing to emit a trace that would pair a verdict with the wrong call")
  | .moreApproved =>
    "the kernel approved more calls than the wrapper recorded — the " ++
      "recorder was not installed on every tool, so the trace would " ++
      "attribute one call's arguments to another"
  | .unjudged remaining =>
    natText remaining ++ PyStr.ofString (" recorded call(s) have no kernel verdict — a tool ran " ++
      "outside the kernel, so this trace cannot claim to describe a governed run")

/-- What `build_trace` can raise. -/
inductive BuildError
  | traceBuild (misalignment : Misalignment)
  | python (error : PyError)

/-! ### The values of a trace -/

inductive Label
  | untrustedDerived
  | promptGiven
  | sensitive
deriving DecidableEq, Repr

inductive SourceKind
  | constant
  | externalRead
deriving DecidableEq, Repr

structure Source where
  kind : SourceKind
  originRef : PyStr
deriving DecidableEq, Repr

/-- An entry of the value ledger. -/
structure ValueEntry (V : Type) where
  valueId : PyStr
  canonicalValueHash : PyStr
  labels : List Label
  sources : List Source
  preview : PyStr
  decisionValue : Option V
  transformations : List PyStr
  derivedFrom : List PyStr

/-- `_Ledger`. -/
structure Ledger (V : Type) where
  values : List (ValueEntry V) := []
  counter : Nat := 0
  untrustedIds : List PyStr := []

/-- How a value came to be minted. -/
inductive Hint
  | const
  | model
  | ext
deriving DecidableEq, Repr

def Hint.text : Hint → PyStr
  | .const => "const"
  | .model => "model"
  | .ext => "ext"

/-- `f"v_{hint}_{number}"`. -/
def valueIdOf (hint : Hint) (number : Nat) : PyStr :=
  PyStr.ofString "v_" ++ (hint.text ++ PyStr.ofString "_" ++ natText number)

section Minting

variable {V : Type} (kernel : Kernel) (objects : Objects V)

/-- `content_hash`, of what `canonicalize` returned. -/
def contentHash (canonical : Bytes) : PyStr := PyStr.ofString "sha256:" ++ kernel.sha256 canonical

def previewMax : Nat := 120

/-- `_preview`. -/
def preview (value : V) : Except PyError PyStr := do
  let text ← match objects.asText value with
    | some text => pure text
    | none => objects.repr value
  return text.take previewMax

/-- The preview of an entry. That of a sensitive value is redacted. -/
def shownPreview (value : V) (sensitive : Bool) : Except PyError PyStr :=
  if sensitive then .ok "[redacted]" else preview objects value

/-- An entry is appended, and its id remembered if it is labelled untrusted. -/
def Ledger.append (entry : ValueEntry V) (ledger : Ledger V) : Ledger V where
  values := ledger.values ++ [entry]
  counter := ledger.counter
  untrustedIds :=
    if .untrustedDerived ∈ entry.labels then ledger.untrustedIds ++ [entry.valueId]
    else ledger.untrustedIds

/-- `_Ledger._mint`. -/
def mint (value : V) (hint : Hint) (labels : List Label) (sources : List Source)
    (sensitive : Bool) (transformations derivedFrom : List PyStr) :
    Method (Ledger V) PyError PyStr := do
  modify fun ledger => { ledger with counter := ledger.counter + 1 }
  let ledger ← get
  let valueId := valueIdOf hint ledger.counter
  let canonical ← liftM (objects.canonicalize value)
  let shown ← liftM (shownPreview objects value sensitive)
  modify (Ledger.append {
    valueId := valueId
    canonicalValueHash := contentHash kernel canonical
    labels := labels
    sources := sources
    preview := shown
    decisionValue := if sensitive then none else some value
    transformations := transformations
    derivedFrom := derivedFrom })
  return valueId

/-- The taint sources the kernel derived for an argument. -/
def taintSources (ref : Value) : Except PyError (List PyStr) := do
  let sources ← ref.get "sources" (.list [])
  return (← sources.iterate).map (Value.toStr kernel.interpreter)

/-- `_Ledger.mint_argument`. -/
def mintArgument (tool name : PyStr) (value : V) (ref : Value) :
    Method (Ledger V) PyError PyStr := do
  let sources ← liftM (taintSources kernel ref)
  let sensitive := (← liftM (ref.get "sensitive" .null)).truthy
  if sources.isEmpty then
    mint kernel objects value .const [.promptGiven]
      [⟨.constant, PyStr.ofString "arg:" ++ tool ++ PyStr.ofString ":" ++ name⟩] sensitive [] []
  else
    let ledger ← get
    mint kernel objects value .model
      ([.untrustedDerived] ++ if sensitive then [.sensitive] else [])
      (sources.map fun source => ⟨.externalRead, PyStr.ofString "taint:" ++ source⟩)
      sensitive ["model_extraction"] ledger.untrustedIds

/-- `_Ledger.mint_read`. -/
def mintRead (tool path : PyStr) (value : V) (sensitive : Bool) : Method (Ledger V) PyError PyStr :=
  mint kernel objects value .ext ([.untrustedDerived] ++ if sensitive then [.sensitive] else [])
    [⟨.externalRead, PyStr.ofString "tool_result:" ++ tool ++ PyStr.ofString ":" ++ path⟩]
    sensitive [] []

end Minting

/-! ### Untrusted fields -/

/-- `_strip_result`. -/
def stripResult (path : PyStr) : PyStr :=
  let head : PyStr := "result."
  if head <+: path then path.drop head.length else path

/-- `re.sub(r"\[\d*\]", "[]", text)`. After a bracket that may still be closed, `pending` holds the
digits read since. -/
def dropIndexes (interpreter : Interpreter) : Option PyStr → PyStr → PyStr
  | none, [] => []
  | some pending, [] => 91 :: pending
  | none, point :: rest =>
    if point.val = 91 then dropIndexes interpreter (some []) rest
    else point :: dropIndexes interpreter none rest
  | some pending, point :: rest =>
    if point.val = 93 then 91 :: 93 :: dropIndexes interpreter none rest
    else if point.val = 91 then 91 :: pending ++ dropIndexes interpreter (some []) rest
    else match intDigit interpreter point with
      | some _ => dropIndexes interpreter (some (pending ++ [point])) rest
      | none => 91 :: pending ++ point :: dropIndexes interpreter none rest

/-- `_normalize`. -/
def normalize (interpreter : Interpreter) (path : PyStr) : PyStr :=
  dropIndexes interpreter none (stripResult path)

/-- The heads that `partition(".")` cuts off a path until nothing is left of it. -/
def headsOf : PyStr → List PyStr
  | [] => []
  | point :: rest =>
    if point.val = 46 then [] :: headsOf rest
    else match headsOf rest with
      | [] => [[point]]
      | head :: heads => (point :: head) :: heads

/-- A path below a head. -/
def below (head sub : PyStr) : PyStr := if sub.isEmpty then head else head ++ 46 :: sub

/-- `_expand`. Below a list every element is expanded, below a key only the first of what its value
expands to. -/
def expand {V : Type} (objects : Objects V) : List PyStr → V → List (PyStr × V)
  | [], node => if objects.isScalar node then [([], node)] else []
  | head :: rest, node =>
    let marker : PyStr := "[]"
    if marker <:+ head then
      let key := head.take (head.length - marker.length)
      let items := ((objects.entry node key).bind objects.items).getD []
      items.zipIdx.flatMap fun (item, index) =>
        (expand objects rest item).map fun (sub, value) =>
          (below (key ++ 91 :: natText index ++ [93]) sub, value)
    else
      match objects.entry node head with
      | none => []
      | some value =>
        ((expand objects rest value).take 1).map fun (sub, value) => (below head sub, value)

section Build

variable {V : Type} (kernel : Kernel) (objects : Objects V)

/-- The field paths a manifest lists under this key. -/
def listed (manifest : Entries) (key : PyStr) : Except PyError (List PyStr) := do
  let patterns ← ((Entries.lookup manifest key).getD (.list [])).iterate
  return patterns.map (Value.toStr kernel.interpreter)

/-- Mint what a result has at one untrusted path. -/
def mintFields (tool : PyStr) (result : Option V) (sensitivePatterns : List PyStr)
    (pattern : PyStr) : Method (Ledger V) PyError (List PyStr) :=
  let isSensitive := decide (normalize kernel.interpreter pattern ∈ sensitivePatterns)
  let found := (result.map (expand objects (headsOf (stripResult pattern)))).getD []
  found.mapM fun (path, value) => mintRead kernel objects tool path value isSensitive

/-- `_mint_untrusted_fields`. -/
def mintUntrustedFields (manifest : Entries) (tool : PyStr) (result : Option V) :
    Method (Ledger V) PyError (List PyStr) := do
  let sensitive ← liftM (listed kernel manifest "sensitive_fields")
  let untrusted ← liftM (listed kernel manifest "untrusted_fields")
  let sensitivePatterns := sensitive.map (normalize kernel.interpreter)
  let produced ← untrusted.mapM (mintFields kernel objects tool result sensitivePatterns)
  return produced.flatten

/-! ### Decisions -/

inductive Verdict
  | deny
  | allow
deriving DecidableEq, Repr

/-- Why a decision has no driving value. -/
inductive Unresolved
  | noDrivingArgs
  | unresolvedArgument (arg : PyStr)
deriving DecidableEq, Repr

/-- The decision of a `gate_decision` event. -/
structure Decision where
  verdict : Verdict
  gate : PyStr
  drivingValueId : Option PyStr
  enforced : Bool
  reason : Option PyStr
  projection : Option PyStr
  drivingUnresolved : Option Unresolved
deriving DecidableEq, Repr

/-- The bindings of a call's arguments: the id of the value of each. -/
abbrev Bindings := List (PyStr × PyStr)

/-- `GATE_ON_ALLOW`: the last gate a call clears. -/
def gateOnAllow : PyStr := "taint_floor"

/-- The gate of a decision. -/
def decisionGate (event : TraceEvent) : Except PyError PyStr :=
  if event.denied then
    match Entries.lookup event.payload "category" with
    | some category => kernel.gateOf (category.toStr kernel.interpreter)
    | none => .error .keyError
  else .ok gateOnAllow

/-- `_decision_of`. -/
def decisionOf (event : TraceEvent) (argBindings : Bindings) (enforced : Bool) :
    Except PyError Decision := do
  let drivingArgs ← ((Entries.lookup event.payload "driving_args").getD (.list [])).iterate
  let driving := drivingArgs.map (Value.toStr kernel.interpreter)
  let drivingValueId := driving.head?.bind fun name => argBindings.lookup name
  let gate ← decisionGate kernel event
  return {
    verdict := if event.denied then .deny else .allow
    gate := gate
    drivingValueId := drivingValueId
    enforced := enforced
    reason := event.reason.filter fun reason => !reason.isEmpty
    projection := if event.denied then some "untrusted-derived" else none
    drivingUnresolved := match drivingValueId, driving with
      | some _, _ => none
      | none, [] => some .noDrivingArgs
      | none, arg :: _ => some (.unresolvedArgument arg) }

/-! ### Pairing -/

/-- The loop of `_paired` where the recorder sees executions only: a denial takes no record. -/
def pairExecutions {C : Type} (remaining : List C) :
    List TraceEvent → Except Misalignment (List (Option C × TraceEvent))
  | [] => if remaining.isEmpty then .ok [] else .error (.unjudged remaining.length)
  | event :: events =>
    if event.denied then
      return (none, event) :: (← pairExecutions remaining events)
    else match remaining with
      | [] => .error .moreApproved
      | call :: remaining => return (some call, event) :: (← pairExecutions remaining events)

/-- `_paired`. -/
def paired {C : Type} (calls : List C) (events : List TraceEvent) :
    Observes → Except Misalignment (List (Option C × TraceEvent))
  | .everyIntent =>
    if calls.length = events.length then .ok ((calls.map some).zip events)
    else .error (.countMismatch calls.length events.length)
  | .executionsOnly => pairExecutions calls events

/-! ### The events of a trace -/

inductive EventBody
  | toolCallIntent (tool callId : PyStr) (argBindings : Bindings)
  | gateDecision (callId : PyStr) (decision : Decision)
  | toolResult (tool : PyStr) (producesValueIds : List PyStr)
deriving DecidableEq, Repr

/-- An event of a trace. -/
structure Event where
  seq : Nat
  node : PyStr
  body : EventBody
deriving DecidableEq, Repr

def nodeRoot : PyStr := "root"

/-- `f"call_{NODE_ROOT}_{index}"`. -/
def callIdOf (index : Nat) : PyStr :=
  PyStr.ofString "call_" ++ nodeRoot ++ PyStr.ofString "_" ++ natText index

/-- The events of a pair, numbered on from `seq`. -/
def numbered (seq : Nat) (bodies : List EventBody) : List Event :=
  (bodies.zipIdx seq).map fun (body, seq) => { seq := seq, node := nodeRoot, body := body }

/-- Mint the arguments of a call, each by what the kernel recorded of it. A call that was not seen
binds nothing. -/
def bindArguments (refs : Entries) : Option (RecordedCall V) → Method (Ledger V) PyError Bindings
  | none => pure []
  | some call => call.args.mapM fun (name, value) => do
    let ref := (Entries.lookup refs name).getD (.dict [])
    return (name, ← mintArgument kernel objects call.tool name value ref)

/-- The tool an intent names: that of the call, or of a verdict without one that in its payload. -/
def toolOf (call : Option (RecordedCall V)) (event : TraceEvent) : PyStr :=
  match call with
  | some call => call.tool
  | none => ((Entries.lookup event.payload "tool").getD (.str [])).toStr kernel.interpreter

/-- `{str(m.get("id")): m for m in manifests}.get(tool, {})`: the last manifest of an id counts. -/
def manifestOf (manifests : List Entries) (tool : PyStr) : Entries :=
  (manifests.reverse.find? fun manifest =>
    ((Entries.lookup manifest "id").getD .null).toStr kernel.interpreter = tool).getD []

/-- The `tool_result` of a call that was executed. -/
def resultEvents (manifests : List Entries) :
    Option (RecordedCall V) → Method (Ledger V) PyError (List EventBody)
  | none => pure []
  | some call =>
    if call.executed then do
      let produced ← mintUntrustedFields kernel objects (manifestOf kernel manifests call.tool)
        call.tool call.result
      return [.toolResult call.tool produced]
    else pure []

/-- The body of the loop of `build_trace`. -/
def buildPair (manifests : List Entries) (enforced : Bool) (index : Nat)
    (call : Option (RecordedCall V)) (event : TraceEvent) :
    Method (Ledger V) PyError (List EventBody) := do
  let refs ← liftM ((Entries.lookup event.payload "arg_provenance").getD (.dict [])).toDict
  let argBindings ← bindArguments kernel objects refs call
  let decision ← liftM (decisionOf kernel event argBindings enforced)
  let results ← resultEvents kernel objects manifests call
  return .toolCallIntent (toolOf kernel call event) (callIdOf index) argBindings ::
    .gateDecision (callIdOf index) decision :: results

/-- The loop of `build_trace`, from the pair of this index on. -/
def buildPairs (manifests : List Entries) (enforced : Bool) (index seq : Nat) :
    List (Option (RecordedCall V) × TraceEvent) → Method (Ledger V) PyError (List Event)
  | [] => pure []
  | (call, event) :: rest => do
    let bodies ← buildPair kernel objects manifests enforced index call event
    let later ← buildPairs manifests enforced (index + 1) (seq + bodies.length) rest
    return numbered seq bodies ++ later

/-! ### The document -/

/-- The keyword arguments of `build_trace`. -/
structure Material (V : Type) where
  calls : List (RecordedCall V)
  traceEvents : List TraceEvent
  manifests : List Entries
  enforcement : PyStr
  trial : Entries
  observes : Observes := .everyIntent
  traceId : Option PyStr := none
  kernelVersion : Option PyStr := none
  runtime : Option PyStr := none
  scenario : Option Entries := none
  inputsDigest : Option PyStr := none

/-- What is given of a session of which nothing is known. -/
def Material.empty {V : Type} : Material V where
  calls := []
  traceEvents := []
  manifests := []
  enforcement := "on"
  trial := []

structure Producer where
  mode : PyStr := "wrapped_code"
  provenanceFidelity : PyStr := "explicit_flow_tracked"
  kernelVersion : Option PyStr
  runtime : Option PyStr

/-- A `trace/v1` document. -/
structure Document (V : Type) where
  schemaVersion : PyStr := "trace/v1"
  traceId : PyStr
  trial : Entries
  producer : Producer
  events : List Event
  values : List (ValueEntry V)
  inputsDigest : Option PyStr

/-- A text that is there and not empty. -/
def given (text : Option PyStr) : Option PyStr := text.filter fun text => !text.isEmpty

/-- `_default_trace_id`. -/
def defaultTraceId (trial : Entries) : PyStr :=
  let shown (key : PyStr) : PyStr :=
    ((Entries.lookup trial key).getD .null).toStr kernel.interpreter
  PyStr.ofString "t_" ++ shown "run_id" ++ PyStr.ofString "_" ++ shown "scenario_id" ++
    PyStr.ofString "_" ++ shown "condition_id" ++ PyStr.ofString "_" ++ shown "seed" ++
    PyStr.ofString "_r" ++ shown "repeat_index"

/-- `world_digest`. -/
def worldDigest (inputs fixtures : Value) : Except PyError PyStr := do
  let orEmpty (value : Value) : Value := if value.truthy then value else .dict []
  let canonical ← kernel.canonicalize
    (.dict [(.str "inputs", orEmpty inputs), (.str "fixtures", orEmpty fixtures)])
  return contentHash kernel canonical

/-- The digest of the world a trace ran in: the one given, or that of the scenario. -/
def digestOf (material : Material V) : Except PyError (Option PyStr) :=
  match material.inputsDigest, material.scenario with
  | some digest, _ => return some digest
  | none, none => return none
  | none, some scenario => do
    let digest ← worldDigest kernel ((Entries.lookup scenario "inputs").getD .null)
      ((Entries.lookup scenario "fixtures").getD .null)
    return some digest

/-- The pairs `build_trace` goes through. -/
def Material.pairs (material : Material V) :
    Except Misalignment (List (Option (RecordedCall V) × TraceEvent)) :=
  paired material.calls (verdictEvents material.traceEvents) material.observes

/-- The trace of a session whose pairs are known. -/
def assemble (material : Material V) (pairs : List (Option (RecordedCall V) × TraceEvent)) :
    Method (Ledger V) PyError (Document V) := do
  let enforced := material.enforcement ≠ PyStr.ofString "off"
  let events ← buildPairs kernel objects material.manifests enforced 0 0 pairs
  let digest ← liftM (digestOf kernel material)
  return {
    traceId := (given material.traceId).getD (defaultTraceId kernel material.trial)
    trial := material.trial
    producer := {
      kernelVersion := given material.kernelVersion
      runtime := given material.runtime }
    events := events
    values := (← get).values
    inputsDigest := given digest }

/-- `build_trace`. -/
def buildTrace (material : Material V) : Except BuildError (Document V) :=
  match material.pairs with
  | .error misalignment => .error (.traceBuild misalignment)
  | .ok pairs => (outcome (assemble kernel objects material pairs) {}).mapError .python

/-- `trace_of_session`, where `sessionTraces` are the traces of the nodes of the session and the
rest is as given. -/
def traceOfSession (sessionTraces : List (List TraceEvent)) (material : Material V) :
    Except BuildError (Document V) :=
  buildTrace kernel objects
    { material with traceEvents := verdictsOf sessionTraces, observes := .executionsOnly }

end Build

end AxorWrap.Trace
