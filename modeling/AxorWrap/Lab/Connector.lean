/-
This file models `LabRuntimeConnector` (`axor_wrap/connect.py`), the client of the runtime-jobs
server, and proves what it sends and what becomes of what is answered.

A connector registers with one credential and works with another. The control token goes with
registrations, and nothing else; everything else goes with the key that the last registration to
grant one granted, or is not sent at all.

How each request ends is data. So is what `json` makes of what is read.
-/

import AxorWrap.Library.Machine
import AxorWrap.Plane.Connector

namespace AxorWrap.Lab

open Python Methods Machines
open AxorWrap.Plane (ConnectorError notConnected)

/-! ### Requests and replies -/

/-- What a call of the connector raises: a `ConnectorError`, or any other exception. -/
inductive Trouble
  | connector (error : ConnectorError)
  | python (error : PyError)
deriving DecidableEq, Repr

/-- A `urllib.request.Request`, with the headers the connector adds to it. -/
structure HttpRequest where
  method : PyStr
  url : PyStr
  body : Option Value := none
  authorization : Option PyStr := none

/-- How `urlopen` ends: with what is read, or raising an `HTTPError`, a `URLError` or another
exception. -/
inductive Reply
  | answered (raw : Bytes)
  | httpError (code : Int) (raw : Bytes) (reason : PyStr)
  | urlError (reason : PyStr)
  | raised (error : PyError)

/-- The interpreter as the connector uses it: `decode("utf-8", "replace")`, `json.loads` of bytes
and of a text, and `str`. -/
structure Wire where
  interpreter : Interpreter
  decode : Bytes → PyStr
  loads : Bytes → Except PyError Value
  loadsText : PyStr → Except PyError Value

/-- What the constructor fixes. -/
structure LabRuntimeConnector where
  wire : Wire
  baseUrl : PyStr
  controlToken : Option PyStr := none

/-- `base_url.rstrip("/")` -/
def LabRuntimeConnector.base (connector : LabRuntimeConnector) : PyStr :=
  (connector.baseUrl.reverse.dropWhile (· = 47)).reverse

/-- `runtime_ref`, `ingest_key`, and the requests sent so far, which the code does not keep. -/
structure Registration where
  runtimeRef : Option PyStr := none
  ingestKey : Option PyStr := none
  sent : List HttpRequest := []

abbrev ConnectorMethod (α : Type) := Method Registration Trouble α

variable (connector : LabRuntimeConnector)

/-- `str(value)` -/
def Wire.text (wire : Wire) (value : Value) : PyStr := value.toStr wire.interpreter

/-- `f"Bearer {token}"`, if there is a token. -/
def bearer (token : Option PyStr) : Option PyStr :=
  (token.filter fun token => !token.isEmpty).map (PyStr.ofString "Bearer " ++ ·)

/-- What a connector says of an `HTTPError`. -/
def detailOf (raw : Bytes) : Except PyError PyStr :=
  let detail := connector.wire.decode raw
  match connector.wire.loadsText detail with
  | .ok value => do return connector.wire.text (← value.get "error" (.str detail))
  | .error error => if error = .valueError then .ok detail else .error error

/-- `json.loads(raw or b"{}")` -/
def loaded (raw : Bytes) : Except PyError Value :=
  if raw.isEmpty then .ok (.dict []) else connector.wire.loads raw

def transportError (message : PyStr) : Trouble := .connector ⟨0, message⟩

/-- `_request`, from the reply on. -/
def payloadOf (path : PyStr) : Reply → Except Trouble Entries
  | .answered raw =>
    match loaded connector raw with
    | .ok (.dict payload) => .ok payload
    | .ok _ => .error (transportError (PyStr.ofString "unexpected response shape from " ++ path))
    | .error error =>
      if error = .valueError then
        .error (transportError (PyStr.ofString "non-JSON response from " ++ path))
      else .error (.python error)
  | .httpError code raw reason =>
    match detailOf connector raw with
    | .ok detail => .error (.connector ⟨code, if detail.isEmpty then reason else detail⟩)
    | .error error => .error (.python error)
  | .urlError reason => .error (transportError
      (PyStr.ofString "cannot reach " ++ connector.base ++ PyStr.ofString ": " ++ reason))
  | .raised error => .error (.python error)

/-- `_request`. -/
def request (method path : PyStr) (body : Option Value) (token : Option PyStr) (reply : Reply) :
    ConnectorMethod Entries := do
  modify fun registration => { registration with
    sent := registration.sent ++ [⟨method, connector.base ++ path, body, bearer token⟩] }
  liftM (payloadOf connector path reply)

/-- `payload[key]`. -/
def required (payload : Entries) (key : PyStr) : ConnectorMethod Value :=
  liftM ((Value.item (.dict payload) key).mapError Trouble.python)

/-- `_require_key`. -/
def requireKey : ConnectorMethod PyStr := do
  match (← get).ingestKey.filter fun key => !key.isEmpty with
  | some key => return key
  | none => throw (.connector notConnected)

/-! ### The calls -/

/-- `connect`. The reference is stored before the key is looked for. -/
def connect (runtimeLabel : PyStr) (agentRef : Option Value) (reply : Reply) :
    ConnectorMethod Entries := do
  let label : Entries := [(.str "runtime_label", .str runtimeLabel)]
  let body := label ++ (agentRef.map fun agent => ((.str "agent_ref", agent) : Key × Value)).toList
  let payload ← request connector "POST" "/runtimes/connect" (some (.dict body))
    connector.controlToken reply
  let runtimeRef ← required payload "runtime_ref"
  modify fun registration =>
    { registration with runtimeRef := some (connector.wire.text runtimeRef) }
  let ingestKey ← required payload "ingest_key"
  modify fun registration =>
    { registration with ingestKey := some (connector.wire.text ingestKey) }
  return payload

/-- A call of the runtime-facing surface: its request, but for the key. -/
structure RuntimeCall where
  method : PyStr
  path : PyStr
  body : Option Value := none

def jobPath (jobId : PyStr) : PyStr := PyStr.ofString "/runtime/jobs/" ++ jobId

def trialPath (jobId trialId : PyStr) : PyStr :=
  jobPath jobId ++ PyStr.ofString "/trials/" ++ trialId

/-- The request of `poll_jobs`. -/
def pollCall : RuntimeCall := ⟨"GET", "/runtime/jobs", none⟩

/-- `claim`. -/
def claim (jobId : PyStr) : RuntimeCall :=
  ⟨"POST", jobPath jobId ++ PyStr.ofString "/claim", some (.dict [])⟩

/-- `post_events`. -/
def postEvents (jobId trialId : PyStr) (events : List Value) : RuntimeCall :=
  ⟨"POST", trialPath jobId trialId ++ PyStr.ofString "/events",
    some (.dict [(.str "events", .list events)])⟩

/-- The body of `complete_trial`. What was not measured is not sent. -/
def completionBody (trace : Value) (status : PyStr) (metrics : Option Entries)
    (runtimeConfigHash : Option PyStr) : Entries :=
  let metrics := metrics.filter fun metrics => !metrics.isEmpty
  let hash := runtimeConfigHash.filter fun hash => !hash.isEmpty
  [(.str "trace", trace), (.str "status", .str status)] ++
    (metrics.map fun metrics => ((.str "metrics", .dict metrics) : Key × Value)).toList ++
    (hash.map fun hash => ((.str "runtime_config_hash", .str hash) : Key × Value)).toList

/-- `complete_trial`. -/
def completeTrial (jobId trialId : PyStr) (trace : Value) (status : PyStr)
    (metrics : Option Entries) (runtimeConfigHash : Option PyStr) : RuntimeCall :=
  ⟨"POST", trialPath jobId trialId ++ PyStr.ofString "/complete",
    some (.dict (completionBody trace status metrics runtimeConfigHash))⟩

/-- A runtime-facing call. The key is asked for before anything is sent. -/
def RuntimeCall.perform (call : RuntimeCall) (reply : Reply) : ConnectorMethod Entries := do
  let key ← requireKey
  request connector call.method call.path call.body (some key) reply

/-- `poll_jobs`. -/
def pollJobs (reply : Reply) : ConnectorMethod (List Value) := do
  let payload ← pollCall.perform connector reply
  liftM ((((Entries.lookup payload "jobs").getD (.list [])).iterate).mapError Trouble.python)

/-- One call of a connector, and how its request ends if it makes one. -/
inductive ConnectorCall
  | connect (runtimeLabel : PyStr) (agentRef : Option Value) (reply : Reply)
  | runtime (call : RuntimeCall) (reply : Reply)

def ConnectorCall.method : ConnectorCall → ConnectorMethod Entries
  | .connect runtimeLabel agentRef reply => Lab.connect connector runtimeLabel agentRef reply
  | .runtime call reply => call.perform connector reply

/-- The machine of a connector. -/
def connectorMachine : Machine Registration ConnectorCall (Except Trouble Entries) where
  answer registration call := outcome (call.method connector) registration
  next registration call := final (call.method connector) registration

/-! ### What a registration comes to -/

/-- The payload of an answer to a registration, if it names the runtime. -/
def naming (reply : Reply) : Option (Entries × Value) :=
  (payloadOf connector "/runtimes/connect" reply).toOption.bind fun payload =>
    (Entries.lookup payload "runtime_ref").map (payload, ·)

/-- The reference a call stores. -/
def ConnectorCall.named : ConnectorCall → Option PyStr
  | .connect _ _ reply => (naming connector reply).map fun named => connector.wire.text named.2
  | .runtime _ _ => none

/-- The key a call stores: that of an answer that names the runtime first. -/
def ConnectorCall.granted : ConnectorCall → Option PyStr
  | .connect _ _ reply => (naming connector reply).bind fun named =>
      (Entries.lookup named.1 "ingest_key").map connector.wire.text
  | .runtime _ _ => none

/-- The requests a call makes when the connector holds this key. -/
def ConnectorCall.requests (key : Option PyStr) : ConnectorCall → List HttpRequest
  | .connect runtimeLabel agentRef _ =>
    [⟨"POST", connector.base ++ PyStr.ofString "/runtimes/connect",
      some (.dict ([(.str "runtime_label", .str runtimeLabel)] ++
        (agentRef.map fun agent => ((.str "agent_ref", agent) : Key × Value)).toList)),
      bearer connector.controlToken⟩]
  | .runtime call _ => (key.filter fun key => !key.isEmpty).toList.map fun key =>
      ⟨call.method, connector.base ++ call.path, call.body,
        some (PyStr.ofString "Bearer " ++ key)⟩

section Steps

variable {connector}

theorem item_dict (payload : Entries) (key : PyStr) :
    Value.item (.dict payload) key = (Entries.lookup payload key).elim (.error .keyError) .ok := by
  unfold Value.item
  dsimp only
  cases Entries.lookup payload key <;> rfl

theorem final_request (method path : PyStr) (body : Option Value) (token : Option PyStr)
    (reply : Reply) (registration : Registration) :
    final (request connector method path body token reply) registration =
      { registration with
        sent := registration.sent ++ [⟨method, connector.base ++ path, body, bearer token⟩] } :=
  rfl

theorem outcome_request (method path : PyStr) (body : Option Value) (token : Option PyStr)
    (reply : Reply) (registration : Registration) :
    outcome (request connector method path body token reply) registration =
      payloadOf connector path reply := by
  unfold request
  rw [outcome_bind_ok (outcome_modify _ _), outcome_lift]

/-- A registration stores what it is answered, as far as it goes. -/
theorem next_connect (runtimeLabel : PyStr) (agentRef : Option Value) (reply : Reply)
    (registration : Registration) :
    let call : ConnectorCall := .connect runtimeLabel agentRef reply
    (connectorMachine connector).next registration call =
      ⟨(call.named connector).or registration.runtimeRef,
        (call.granted connector).or registration.ingestKey,
        registration.sent ++ call.requests connector registration.ingestKey⟩ := by
  intro call
  show final (connect connector runtimeLabel agentRef reply) registration = _
  unfold connect
  dsimp only
  rw [final_bind, outcome_request, final_request]
  simp only [call, ConnectorCall.named, ConnectorCall.granted, ConnectorCall.requests, naming]
  cases payloadOf connector "/runtimes/connect" reply with
  | error error => rfl
  | ok payload =>
    simp only [required, item_dict, final_bind, outcome_lift, final_lift, outcome_modify,
      final_modify, Except.toOption, Option.bind_some]
    cases Entries.lookup payload "runtime_ref" with
    | none => rfl
    | some runtimeRef =>
      simp only [Option.elim, Except.mapError, Option.map_some, Option.bind_some]
      cases Entries.lookup payload "ingest_key" <;> rfl

/-- Another call stores nothing, and sends its request when there is a key. -/
theorem next_runtime (call : RuntimeCall) (reply : Reply) (registration : Registration) :
    (connectorMachine connector).next registration (.runtime call reply) =
      { registration with
        sent := registration.sent ++
          ConnectorCall.requests connector registration.ingestKey (.runtime call reply) } := by
  show final (call.perform connector reply) registration = _
  unfold RuntimeCall.perform requireKey ConnectorCall.requests
  simp only [final_bind, outcome_bind, outcome_get, final_get]
  cases kept : registration.ingestKey.filter fun key => !key.isEmpty with
  | none =>
    simp only [Option.toList_none, List.map_nil, List.append_nil]
    rfl
  | some key =>
    have present : (!key.isEmpty) = true := (Option.filter_eq_some_iff.mp kept).2
    simp only [outcome_pure, final_pure, final_request, bearer, Option.filter_some, present,
      if_true]
    rfl

theorem outcome_runtime_of_none {call : RuntimeCall} {reply : Reply}
    {registration : Registration}
    (keyless : registration.ingestKey.filter (fun key => !key.isEmpty) = none) :
    (connectorMachine connector).answer registration (.runtime call reply) =
      .error (.connector notConnected) := by
  show outcome (call.perform connector reply) registration = _
  unfold RuntimeCall.perform requireKey
  simp only [outcome_bind, outcome_get, final_get, keyless]
  rfl

/-- What a call leaves. -/
theorem next_call (call : ConnectorCall) (registration : Registration) :
    (connectorMachine connector).next registration call =
      ⟨(call.named connector).or registration.runtimeRef,
        (call.granted connector).or registration.ingestKey,
        registration.sent ++ call.requests connector registration.ingestKey⟩ := by
  cases call with
  | connect runtimeLabel agentRef reply => exact next_connect runtimeLabel agentRef reply _
  | runtime call reply => exact next_runtime call reply registration

end Steps

/-! ### Over a run -/

/-- What the last call to store something stored. -/
def lastStored (stored : ConnectorCall → Option PyStr) (calls : List ConnectorCall) :
    Option PyStr :=
  calls.reverse.findSome? stored

theorem lastStored_concat (stored : ConnectorCall → Option PyStr) (calls : List ConnectorCall)
    (call : ConnectorCall) :
    lastStored stored (calls ++ [call]) = (stored call).or (lastStored stored calls) := by
  unfold lastStored
  rw [List.reverse_concat, List.findSome?_cons]
  cases stored call <;> rfl

/-- After a run a connector holds what was stored last, each for itself. -/
theorem run_stored (calls : List ConnectorCall) :
    let registration := (connectorMachine connector).run {} calls
    registration.runtimeRef = lastStored (ConnectorCall.named connector) calls ∧
      registration.ingestKey = lastStored (ConnectorCall.granted connector) calls := by
  induction calls using List.reverseRecOn with
  | nil => exact ⟨rfl, rfl⟩
  | append_singleton calls call inductionHypothesis =>
    obtain ⟨ref, key⟩ := inductionHypothesis
    dsimp only
    rw [Machine.run_append, lastStored_concat, lastStored_concat, ← ref, ← key]
    show ((connectorMachine connector).next _ call).runtimeRef = _ ∧
      ((connectorMachine connector).next _ call).ingestKey = _
    rw [next_call]
    exact ⟨rfl, rfl⟩

/-- The answer names the runtime and grants it no key. -/
def ConnectorCall.Half (call : ConnectorCall) : Prop :=
  (call.named connector).isSome ∧ call.granted connector = none

variable {connector} in
/-- A call grants a key only with a name. -/
theorem named_of_granted {call : ConnectorCall} {key : PyStr}
    (grants : call.granted connector = some key) : (call.named connector).isSome := by
  cases call with
  | connect runtimeLabel agentRef reply =>
    obtain ⟨named, names, _⟩ := Option.bind_eq_some_iff.mp grants
    simp only [ConnectorCall.named, names]
    rfl
  | runtime call reply => cases grants

/-- Without half answers the reference and the key that are held come from one answer. -/
theorem paired_of_whole {calls : List ConnectorCall} (whole : ∀ call ∈ calls,
    ¬ call.Half connector) :
    (lastStored (ConnectorCall.named connector) calls = none ∧
      lastStored (ConnectorCall.granted connector) calls = none) ∨
    ∃ call ∈ calls, ∃ ref key, call.named connector = some ref ∧
      call.granted connector = some key ∧
      lastStored (ConnectorCall.named connector) calls = some ref ∧
      lastStored (ConnectorCall.granted connector) calls = some key := by
  induction calls using List.reverseRecOn with
  | nil => exact .inl ⟨rfl, rfl⟩
  | append_singleton calls last inductionHypothesis =>
    rw [List.forall_mem_append, List.forall_mem_singleton] at whole
    rw [lastStored_concat, lastStored_concat]
    cases grants : last.granted connector with
    | some key =>
      obtain ⟨ref, names⟩ := Option.isSome_iff_exists.mp (named_of_granted grants)
      refine .inr ⟨last, List.mem_append_right _ (List.mem_singleton_self last), ref, key, names,
        grants, ?_, rfl⟩
      rw [names]
      rfl
    | none =>
      have unnamed : last.named connector = none :=
        Option.not_isSome_iff_eq_none.mp fun names => whole.2 ⟨names, grants⟩
      rw [unnamed, Option.none_or, Option.none_or]
      rcases inductionHypothesis whole.1 with nothing | ⟨call, member, paired⟩
      · exact .inl nothing
      · exact .inr ⟨call, List.mem_append_left _ member, paired⟩

/-- **The two credentials are kept apart**, after any calls of a fresh connector, whatever they are
answered. The next call sends its request with the control token if it registers, and otherwise with
the key that the last answer to grant one granted; without a key it sends nothing and says that the
connector is not connected. And unless an answer named the runtime without granting it a key, the
reference that is held is the one that came with the key. -/
theorem credentials_kept_apart (calls : List ConnectorCall) (next : ConnectorCall) :
    let machine := connectorMachine connector
    let registration := machine.run {} calls
    let key := lastStored (ConnectorCall.granted connector) calls
    (machine.next registration next).sent = registration.sent ++ next.requests connector key ∧
    (key.filter (fun key => !key.isEmpty) = none → ∀ call reply, next = .runtime call reply →
      machine.answer registration next = .error (.connector notConnected)) ∧
    ((∀ call ∈ calls, ¬ call.Half connector) →
      (registration.runtimeRef = none ∧ registration.ingestKey = none) ∨
      ∃ call ∈ calls, ∃ ref key, call.named connector = some ref ∧
        call.granted connector = some key ∧
        registration.runtimeRef = some ref ∧ registration.ingestKey = some key) := by
  intro machine registration key
  obtain ⟨ref, held⟩ := run_stored connector calls
  have holds : registration.ingestKey = key := held
  refine ⟨?_, ?_, fun whole => ?_⟩
  · show ((connectorMachine connector).next registration next).sent = _
    rw [next_call, holds]
  · rintro keyless call reply rfl
    exact outcome_runtime_of_none (holds ▸ keyless)
  · have paired := paired_of_whole connector whole
    rw [← ref, ← held] at paired
    exact paired

end AxorWrap.Lab
