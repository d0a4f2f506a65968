/-
This file models `PlaneSession` (`axor_wrap/plane/session.py`), the adapter-side
half of the plane protocol.

A session splits into what its constructor fixes and what its methods write. The
first part is the `Node`: its identity, the operator keys of the local
configuration, and the platform it runs on, that is the packages outside this
repository (`cryptography`, `axor_core`) and the interpreter. No method assigns
any of it. The second part is the `Session` proper.

Every method of the class is one definition here under the same name. A method
may raise after some of its writes, and the writes stay.
-/

import AxorWrap.Python.Value
import AxorWrap.Library.Method
import AxorWrap.Library.Check
import Mathlib.Data.Finset.Insert
import Mathlib.Data.List.Sort

namespace AxorWrap.Plane

open Python Methods Checks

/-! ### Directives, effects and outbox events -/

/-- `axor_core.kernel.state.Injection`, as `_apply` builds it. -/
structure Injection where
  injectionId : PyStr
  text : PyStr
  reason : PyStr
  operator : PyStr
  sig : PyStr
deriving DecidableEq, Repr

/-- `axor_core.kernel.state.Excision`, as `_apply` builds it. The targets are whatever
`tuple()` drew from the command. -/
structure Excision where
  excisionId : PyStr
  targetRefs : List Value
  reason : PyStr
  operator : PyStr
  sig : PyStr
deriving Repr

/-- The replan directive, a `dict` of three texts in the source. -/
structure Replan where
  id : PyStr
  reason : PyStr
  operator : PyStr
deriving DecidableEq, Repr

/-- The three kinds of one-shot, in the order `_apply` looks for them. -/
inductive OneShot
  | replan
  | injection
  | excision
deriving DecidableEq, Repr

/-- The key of a command that carries a one-shot. -/
def OneShot.key : OneShot → PyStr
  | .replan => "replan"
  | .injection => "pending_injection"
  | .excision => "pending_excision"

/-- A pending one-shot of any kind. -/
inductive Directive
  | replan (directive : Replan)
  | injection (directive : Injection)
  | excision (directive : Excision)
deriving Repr

def Directive.kind : Directive → OneShot
  | .replan _ => .replan
  | .injection _ => .injection
  | .excision _ => .excision

def Directive.id : Directive → PyStr
  | .replan directive => directive.id
  | .injection directive => directive.injectionId
  | .excision directive => directive.excisionId

/-- What applying one downstream message did. -/
inductive EffectKind
  | applied
  | noopAbsorbed
  | noopStale
  | rejectedWidening
  | sigInvalid
deriving DecidableEq, Repr

def EffectKind.text : EffectKind → PyStr
  | .applied => "applied"
  | .noopAbsorbed => "noop_absorbed"
  | .noopStale => "noop_stale"
  | .rejectedWidening => "rejected_widening"
  | .sigInvalid => "sig_invalid"

structure AppliedEffect where
  kind : EffectKind
  detail : PyStr := []
deriving DecidableEq, Repr

/-- The kinds of event the session puts in its outbox or its heartbeat. -/
inductive EventKind
  | injectionRefused
  | injectionConsumed
  | excisionRefused
  | contextExcision
  | replanRefused
  | replanApplied
  | stateApplied
  | heartbeat
deriving DecidableEq, Repr

def EventKind.text : EventKind → PyStr
  | .injectionRefused => "injection_refused"
  | .injectionConsumed => "injection_consumed"
  | .excisionRefused => "excision_refused"
  | .contextExcision => "context_excision"
  | .replanRefused => "replan_refused"
  | .replanApplied => "replan_applied"
  | .stateApplied => "state_applied"
  | .heartbeat => "heartbeat"

/-- An upstream event: its kind and its payload, a `dict`. -/
structure OutboxEvent where
  kind : EventKind
  payload : Entries
deriving Repr

/-- A payload entry. -/
def field (name : PyStr) (value : Value) : Key × Value := (.str name, value)

/-! ### The node and its session -/

/-- Which segment of the context came from where: `provenance: dict[str, str]`. -/
abbrev Provenance := List (PyStr × PyStr)

/-- The `cryptography` backend. A public key is known by its raw bytes. -/
structure Ed25519 where
  fromPublicBytes : Bytes → Except PyError Bytes
  verify : (publicKey signature message : Bytes) → Except PyError Unit

/-- The code outside this repository that a session calls: the interpreter, the
canonicalizer and the provenance guard of `axor_core`, and the `cryptography` backend when
it is installed. All of it is arbitrary. -/
structure Platform where
  interpreter : Interpreter
  canonicalize : Value → Except PyError Bytes
  excisionRefusedRefs : Excision → Provenance → Except PyError (List Value)
  ed25519 : Option Ed25519

/-- What the constructor of a session fixes. -/
structure Node where
  platform : Platform
  nodeId : PyStr
  operatorPubkeys : List (PyStr × PyStr) := []
  testBench : Bool := false
  localBudgetCap : Option Int := none

/-- The fields the methods of a session write. -/
structure Session where
  appliedVersion : Int := 0
  paused : Bool := false
  stopped : Bool := false
  budgetCapCalls : Option Int := none
  pendingInjection : Option Injection := none
  pendingExcision : Option Excision := none
  pendingReplan : Option Replan := none
  consumedIds : Finset PyStr := ∅
  outbox : List OutboxEvent := []

/-- The pending directive of a kind. -/
def Session.pending (session : Session) : OneShot → Option Directive
  | .replan => session.pendingReplan.map .replan
  | .injection => session.pendingInjection.map .injection
  | .excision => session.pendingExcision.map .excision

/-- A freshly constructed session: `__post_init__` starts the budget at the local cap. -/
def Node.initial (node : Node) : Session := { budgetCapCalls := node.localBudgetCap }

/-- A method of the session. -/
abbrev SessionMethod (α : Type) := Method Session PyError α

variable (node : Node)

/-! ### Reports -/

/-- The event `_report` sends for an effect that did not apply. -/
def reportEvent (effect : AppliedEffect) (version : Int) : OutboxEvent where
  kind := .stateApplied
  payload := [field "version" (.int version), field "result" (.str effect.kind.text),
    field "detail" (.str effect.detail)]

def appendEvent (event : OutboxEvent) (session : Session) : Session :=
  { session with outbox := session.outbox ++ [event] }

def report (effect : AppliedEffect) (version : Int) : SessionMethod Unit :=
  if effect.kind = .applied then pure ()
  else modify (appendEvent (reportEvent effect version))

/-! ### Signatures -/

/-- `_verify_ed25519`: a bad signature and a `ValueError` are a refusal, anything else
raises. -/
def verifyEd25519 (platform : Platform) (pubkeyHex : PyStr) (message : Bytes) (sigHex : Value) :
    Except PyError Bool :=
  match platform.ed25519 with
  | none => .error .importError
  | some backend =>
    let checked : Except PyError Unit := do
      let key ← backend.fromPublicBytes (← (bytesOfHex pubkeyHex).elim (.error .valueError) .ok)
      let signature ← match sigHex with
        | .str text => (bytesOfHex text).elim (.error .valueError) .ok
        | _ => .error .typeError
      backend.verify key signature message
    match checked with
    | .ok () => .ok true
    | .error error =>
      if error = .invalidSignature ∨ error = .valueError then .ok false else .error error

/-- The payload an operator signs. -/
def signedPayload (version : Int) (body timestamp : Value) : Value :=
  .dict [field "node_id" (.str node.nodeId), field "version" (.int version), field "body" body,
    field "timestamp" timestamp]

/-- `self.operator_pubkeys.get(operator)`: an unhashable operator raises. -/
def operatorPubkey (operator : Value) : Except PyError (Option PyStr) :=
  match operator.toKey with
  | .ok (.str name) => .ok (node.operatorPubkeys.lookup name)
  | .ok _ => .ok none
  | .error error => .error error

/-- `_verify`: `none` when the signature is good, or nothing is signed here. -/
def verify (version : Int) (body operator timestamp sig : Value) :
    Except PyError (Option AppliedEffect) := do
  if node.operatorPubkeys.isEmpty then
    return none
  let pubkey ← operatorPubkey node operator
  let message ← node.platform.canonicalize (signedPayload node version body timestamp)
  let refusal : AppliedEffect :=
    ⟨.sigInvalid, PyStr.ofString "operator=" ++ operator.repr node.platform.interpreter⟩
  match pubkey with
  | none => return some refusal
  | some pubkey =>
    if ← verifyEd25519 node.platform pubkey message sig then
      return none
    return some refusal

/-! ### Applying one command -/

/-- `if key in state: ... = bool(state[key])`. -/
def derivedFlag (key : PyStr) (state : Value) : Except PyError (Option Bool) := do
  if ← state.contains key then
    return some (← state.item key).truthy
  return none

def applyStopped (state : Value) : SessionMethod Unit :=
  assign (derivedFlag "stopped" state) fun value session => { session with stopped := value }

def applyPaused (state : Value) : SessionMethod Unit :=
  assign (derivedFlag "paused" state) fun value session => { session with paused := value }

/-- The cap a command requests: absent and `None` request nothing. -/
def requestedCap (state : Value) : Except PyError (Option Int) := do
  if ← state.contains "budget_cap_calls" then
    match ← state.item "budget_cap_calls" with
    | .null => return none
    | value => return some (← value.toInt node.platform.interpreter)
  return none

def wideningEffect (requested cap : Int) : AppliedEffect :=
  ⟨.rejectedWidening, PyStr.ofString "cap " ++ intText requested ++
    PyStr.ofString " > local cap " ++ intText cap⟩

/-- The budget step. A widening request is refused here, and the refusal returned. -/
def applyBudget (state : Value) : SessionMethod (Option AppliedEffect) := do
  match ← liftM (requestedCap node state) with
  | none => return none
  | some requested =>
    let session ← get
    match session.budgetCapCalls with
    | some cap =>
      if requested > cap then
        return some (wideningEffect requested cap)
    | none => pure ()
    modify fun session => { session with budgetCapCalls := some requested }
    return none

/-- `str(source.get(key, ""))`. -/
def textOf (source : Value) (key : PyStr) : Except PyError PyStr := do
  return (← source.get key (.str [])).toStr node.platform.interpreter

/-- `str(source.get("id", source.get(other, "")))`. -/
def idOf (source : Value) (other : PyStr) : Except PyError PyStr := do
  let fallback ← source.get other (.str [])
  return (← source.get "id" fallback).toStr node.platform.interpreter

/-- The replan directive of a command; a request that is not a `dict` has empty texts. -/
def replanOf (source : Value) : Except PyError Replan :=
  match source with
  | .dict _ => do
    return { id := ← textOf node source "id", reason := ← textOf node source "reason",
             operator := ← textOf node source "operator" }
  | _ => .ok ⟨[], [], []⟩

def injectionOf (source : Value) : Except PyError Injection := do
  return { injectionId := ← idOf node source "injection_id"
           text := ← textOf node source "text"
           reason := ← textOf node source "reason"
           operator := ← textOf node source "operator"
           sig := ← textOf node source "sig" }

def excisionOf (source : Value) : Except PyError Excision := do
  return { excisionId := ← idOf node source "excision_id"
           targetRefs := ← (← source.get "target_refs" (.list [])).iterate
           reason := ← textOf node source "reason"
           operator := ← textOf node source "operator"
           sig := ← textOf node source "sig" }

/-- Build the directive a truthy one-shot key asks for. -/
def directiveOf (kind : OneShot) (source : Value) : Except PyError Directive :=
  match kind with
  | .replan => Directive.replan <$> replanOf node source
  | .injection => Directive.injection <$> injectionOf node source
  | .excision => Directive.excision <$> excisionOf node source

/-- `if state.get(key): ...` -/
def derivedDirective (kind : OneShot) (state : Value) : Except PyError (Option Directive) := do
  let source ← state.get kind.key .null
  if source.truthy then
    return some (← directiveOf node kind source)
  return none

/-- Put a directive in its pending field. -/
def arm (directive : Directive) (session : Session) : Session :=
  match directive with
  | .replan directive => { session with pendingReplan := some directive }
  | .injection directive => { session with pendingInjection := some directive }
  | .excision directive => { session with pendingExcision := some directive }

def armOneShot (kind : OneShot) (state : Value) : SessionMethod Unit :=
  assign (derivedDirective node kind state) arm

/-- The last part of `_apply`: the one-shots, and the report. -/
def applyOneShots (version : Int) (state : Value) : SessionMethod AppliedEffect := do
  armOneShot node .replan state
  armOneShot node .injection state
  armOneShot node .excision state
  let effect : AppliedEffect := ⟨.applied, []⟩
  report effect version
  return effect

/-- The body of `_apply` after the stale and the stopped exits. -/
def applyFields (version : Int) (state : Value) : SessionMethod AppliedEffect := do
  applyStopped state
  applyPaused state
  match ← applyBudget node state with
  | some effect =>
    report effect version
    return effect
  | none => applyOneShots node version state

def setVersion (version : Int) (session : Session) : Session :=
  { session with appliedVersion := version }

def staleEffect (version : Int) : AppliedEffect :=
  ⟨.noopStale, PyStr.ofString "version " ++ intText version ++ PyStr.ofString " already applied"⟩

def absorbedEffect : AppliedEffect := ⟨.noopAbsorbed, "node is stopped"⟩

/-- `_apply`. Its `signed` argument is never read. -/
def apply (version : Int) (state : Value) : SessionMethod AppliedEffect := do
  let session ← get
  if version ≤ session.appliedVersion then
    return staleEffect version
  modify (setVersion version)
  if session.stopped then
    -- absorbing: the version is taken, the effects are dropped
    report absorbedEffect version
    return absorbedEffect
  applyFields node version state

/-! ### Snapshots -/

/-- A command entry of a snapshot, decoded. -/
structure Command where
  version : Int
  delta : Entries
  operator : PyStr
  timestamp : PyStr
  sig : PyStr

/-- A check that accepts with a value, refuses with an effect, or raises. -/
abbrev SessionCheck (α : Type) := Check AppliedEffect PyError α

def malformedEntry : AppliedEffect := ⟨.sigInvalid, "malformed command entry"⟩

/-- The five reads of a command entry, with their conversions. -/
def readCommand (command : Value) : Except PyError (Int × Entries × Value × Value × Value) := do
  let version ← (← command.item "version").toInt node.platform.interpreter
  let delta ← (← command.item "delta").toDict
  let operator ← command.item "operator"
  let timestamp ← command.item "timestamp"
  let sig ← command.item "sig"
  return (version, delta, operator, timestamp, sig)

/-- A read that fails with one of the three caught classes, or that does not give texts, is a
malformed entry. -/
def decodeCommand (command : Value) : SessionCheck Command :=
  match readCommand node command with
  | .ok (version, delta, .str operator, .str timestamp, .str sig) =>
    pure ⟨version, delta, operator, timestamp, sig⟩
  | .ok _ => throw malformedEntry
  | .error error =>
    if error = .keyError ∨ error = .typeError ∨ error = .valueError then throw malformedEntry
    else ExceptT.lift (.error error)

/-- One pass of the verification loop. -/
def verifyCommand (entry : Value) : SessionCheck (Int × Entries) := do
  let command ← decodeCommand node entry
  match ← ExceptT.lift (verify node command.version (.dict command.delta) (.str command.operator)
      (.str command.timestamp) (.str command.sig)) with
  | some effect => throw effect
  | none => return (command.version, command.delta)

/-- Ascending in the version, equal versions in their listed order: `list.sort` is stable. -/
def sortChain (chain : List (Int × Entries)) : List (Int × Entries) :=
  chain.insertionSort fun first second => first.1 ≤ second.1

/-- The last value the chain writes to each key. -/
def signedValues (chain : List (Int × Entries)) : Entries :=
  chain.foldl (fun values command => Entries.update values command.2) []

/-- Every key of the state is one the chain last wrote that value to. -/
def checkState (values : Entries) : Entries → SessionCheck Unit
  | [] => pure ()
  | (key, value) :: rest =>
    let shown := key.repr node.platform.interpreter
    match Entries.find values key with
    | none => throw ⟨.sigInvalid, PyStr.ofString "unsigned state key " ++ shown⟩
    | some signed =>
      if signed.eq value then checkState values rest
      else throw ⟨.sigInvalid, PyStr.ofString "state key " ++ shown ++
        PyStr.ofString " is not what was signed"⟩

/-- Everything `apply_snapshot` checks before it applies anything. None of it reads the
session. The result is the chain to replay. -/
def checkSnapshot (state commands : Value) : SessionCheck (List (Int × Entries)) := do
  let entries ← ExceptT.lift commands.iterate
  let verified ← entries.mapM (verifyCommand node)
  let chain := sortChain verified
  let asserted ← ExceptT.lift state.items
  checkState node (signedValues chain) asserted
  return chain

/-- One pass of the replay loop: a version already reached is skipped. -/
def replayCommand (applied : AppliedEffect) (command : Int × Entries) :
    SessionMethod AppliedEffect := do
  let session ← get
  if command.1 ≤ session.appliedVersion then
    return applied
  apply node command.1 (.dict command.2)

def replay (chain : List (Int × Entries)) : SessionMethod AppliedEffect :=
  chain.foldlM (replayCommand node) ⟨.applied, []⟩

def applySnapshot (version : Int) (state commands : Value) : SessionMethod AppliedEffect := do
  if node.operatorPubkeys.isEmpty then
    apply node version state
  else
    match ← liftM (checkSnapshot node state commands).run with
    | .error effect =>
      report effect version
      return effect
    | .ok chain =>
      let applied ← replay node chain
      modify fun session => setVersion (max session.appliedVersion version) session
      return applied

/-! ### Live commands -/

def applyDelta (version : Int) (delta operator timestamp sig : Value) :
    SessionMethod AppliedEffect := do
  match ← liftM (verify node version delta operator timestamp sig) with
  | some rejected =>
    report rejected version
    return rejected
  | none => apply node version delta

/-! ### The intent boundary -/

def admitIntent (session : Session) : Bool := !(session.paused || session.stopped)

def idField (id : PyStr) : Key × Value := field "id" (.str id)

def injectionRefused (id reason : PyStr) : OutboxEvent :=
  ⟨.injectionRefused, [idField id, field "reason" (.str reason)]⟩

def injectionConsumed (id : PyStr) : OutboxEvent := ⟨.injectionConsumed, [idField id]⟩

def takePendingInjection : SessionMethod (Option Injection) := do
  let session ← get
  match session.pendingInjection with
  | none => return none
  | some injection =>
    modify fun session => { session with pendingInjection := none }
    if injection.injectionId ∈ session.consumedIds then
      return none
    if session.stopped then
      modify (appendEvent (injectionRefused injection.injectionId "stopped"))
      return none
    if !node.testBench then
      modify (appendEvent (injectionRefused injection.injectionId "not test-bench"))
      return none
    modify fun session =>
      { session with consumedIds := insert injection.injectionId session.consumedIds }
    modify (appendEvent (injectionConsumed injection.injectionId))
    return some injection

def excisionRefused (id : PyStr) (refs : List Value) : OutboxEvent :=
  ⟨.excisionRefused, [idField id, field "reason" (.str "operator_config_provenance"),
    field "refs" (.list refs)]⟩

/-- The provenance of the targets, `"runtime"` for those the map does not name. An
unhashable target raises. -/
def targetProvenance (provenance : Provenance) (refs : List Value) : Except PyError Entries :=
  refs.foldlM (fun entries ref => do
    let key ← ref.toKey
    let origin := match key with
      | .str name => (provenance.lookup name).getD "runtime"
      | _ => "runtime"
    return Entries.insert entries key (.str origin)) []

def contextExcision (excision : Excision) (provenance : Entries) : OutboxEvent :=
  ⟨.contextExcision, [idField excision.excisionId, field "refs" (.list excision.targetRefs),
    field "provenance" (.dict provenance), field "operator" (.str excision.operator),
    field "reason" (.str excision.reason)]⟩

def takePendingExcision (provenance : Provenance) : SessionMethod (Option Excision) := do
  let session ← get
  match session.pendingExcision with
  | none => return none
  | some excision =>
    modify fun session => { session with pendingExcision := none }
    if excision.excisionId ∈ session.consumedIds then
      return none
    let refused ← node.platform.excisionRefusedRefs excision provenance
    if !refused.isEmpty then
      modify (appendEvent (excisionRefused excision.excisionId refused))
      return none
    -- the id is consumed before the acknowledgement is built, which can still raise
    modify fun session =>
      { session with consumedIds := insert excision.excisionId session.consumedIds }
    let origins ← targetProvenance provenance excision.targetRefs
    modify (appendEvent (contextExcision excision origins))
    return some excision

def replanRefused (id : PyStr) : OutboxEvent :=
  ⟨.replanRefused, [idField id, field "reason" (.str "stopped")]⟩

def replanApplied (id : PyStr) : OutboxEvent := ⟨.replanApplied, [idField id]⟩

def takePendingReplan : SessionMethod (Option Replan) := do
  let session ← get
  match session.pendingReplan with
  | none => return none
  | some directive =>
    modify fun session => { session with pendingReplan := none }
    if directive.id ≠ [] ∧ directive.id ∈ session.consumedIds then
      return none
    if session.stopped then
      modify (appendEvent (replanRefused directive.id))
      return none
    if directive.id ≠ [] then
      modify fun session =>
        { session with consumedIds := insert directive.id session.consumedIds }
    modify (appendEvent (replanApplied directive.id))
    return some directive

end AxorWrap.Plane
