/-
This file models the subscription of a node to its desired state: `PlaneClient.run`
with `_consume_sse` and `_dispatch` (`axor_wrap/plane/client.py`).

What the backend does is data: a list of connection attempts, each of which fails
or is answered with lines, and the last of which may still be live. With each comes
where `stop` was seen set, and whether it was set in the wait that follows.

The loop handles a failure of the transport and a rejected credential. Any other
exception leaves it, so the subscription outlives its backend exactly as long as
the backend sends nothing that raises one, and this file says what does.
-/

import AxorWrap.Plane.Returning
import AxorWrap.Plane.Runs
import AxorWrap.Library.Script

namespace AxorWrap.Plane

open Python Methods Checks Scripts

/-! ### What the backend does -/

/-- A line of a stream, and whether `stop` was set when it came. -/
structure Line where
  raw : PyStr
  stopped : Bool := false

/-- How a stream ends: it is closed, the transport fails, or it is live and more may come. -/
inductive Ending
  | closed
  | failed
  | live
deriving DecidableEq, Repr

/-- What becomes of an attempt to connect. -/
inductive Connection
  | failed
  | answered (status : Nat) (lines : List Line) (ending : Ending)

/-- One pass of the loop: whether `stop` was set before it, and while the node waited after it. -/
structure Attempt where
  stopped : Bool := false
  connection : Connection
  interrupted : Bool := false

/-! ### The client -/

abbrev Seconds := Rat

/-- `RECONNECT_DELAY`. -/
def reconnectDelay : Seconds := 1

/-- An exception, as the loop tells them apart: `httpx.HTTPError`, and any other. -/
inductive Failure
  | transport
  | python (error : PyError)
deriving DecidableEq, Repr

/-- What the constructor of a client fixes, and `json.loads`, as far as the subscription reads
them. -/
structure Client where
  node : Node
  loads : PyStr → Except PyError Value
  onFact : Option (Value → Except Failure Unit) := none
  holdAfter : Option Seconds := none

abbrev ClientMethod (α : Type) := Method Session Failure α

/-- What a session raises is no failure of the transport. -/
def raising {α : Type} (method : SessionMethod α) : ClientMethod α :=
  ExceptT.adapt Failure.python method

variable (client : Client)

def versionOf (data : Value) : Except PyError Int := do
  (← data.item "version").toInt client.node.platform.interpreter

/-- The arguments of `apply_snapshot`. -/
def snapshotFrom (data : Value) : Except PyError Message := do
  let version ← versionOf client data
  let state ← data.get "state" (.dict [])
  let commands ← data.get "commands" (.list [])
  return .snapshot version state commands

/-- The arguments of `apply_delta`. -/
def deltaFrom (data : Value) : Except PyError Message := do
  let version ← versionOf client data
  let state ← data.get "state" (.dict [])
  let delta ← data.get "delta" state
  let operator ← data.get "operator" (.str [])
  let timestamp ← data.get "timestamp" (.str [])
  let sig ← data.get "sig" (.str [])
  return .delta version delta operator timestamp sig

/-- `_dispatch`. -/
def dispatch (eventName : PyStr) (data : Value) : ClientMethod Unit :=
  if eventName = "snapshot" then do
    let message ← raising (liftM (snapshotFrom client data))
    let _ ← raising (message.deliver client.node)
  else if eventName = "delta" then do
    let message ← raising (liftM (deltaFrom client data))
    let _ ← raising (message.deliver client.node)
  else if eventName = "fact" then
    match client.onFact with
    | some onFact => do
      let fact ← raising (liftM (data.get "fact" (.dict [])))
      liftM (onFact fact)
    | none => pure ()
  else pure ()

/-- An event of the stream that is complete. -/
structure Frame where
  eventName : PyStr
  text : PyStr

/-- Decode a frame and dispatch it. -/
def handle (frame : Frame) : ClientMethod Unit := do
  let data ← raising (liftM (client.loads frame.text))
  dispatch client frame.eventName data

/-- How the stream of an attempt ends: the loop sees `stop` set, the backend closes it or rejects
the credential of the node, or it is live. -/
inductive Consumed
  | stopped
  | closed
  | rejected
  | live
deriving DecidableEq, Repr

/-- `_consume_sse`, from what it has read of the frame that is being sent. -/
def consumeSse (ending : Ending) :
    List Line → (eventName : PyStr) → (dataLines : List PyStr) → ClientMethod Consumed
  | [], _, _ =>
    match ending with
    | .closed => return .closed
    | .failed => throw .transport
    | .live => return .live
  | raw :: rest, eventName, dataLines => do
    if raw.stopped then
      return .stopped
    let strip := PyStr.strip client.node.platform.interpreter
    let line := raw.raw.rstripNewlines
    if line.startsWith "event:" then
      consumeSse ending rest (strip (line.drop 6)) dataLines
    else if line.startsWith "data:" then
      consumeSse ending rest eventName (dataLines ++ [strip (line.drop 5)])
    else if line.isEmpty && !dataLines.isEmpty then
      handle client ⟨eventName, PyStr.join "\n" dataLines⟩
      consumeSse ending rest [] []
    else
      consumeSse ending rest eventName dataLines

/-- The credential is refused. -/
def rejects (status : Nat) : Bool := status = 401 || status = 403

/-- What becomes of the stream of an attempt. -/
def subscribe : Connection → ClientMethod Consumed
  | .failed => throw .transport
  | .answered status lines ending =>
    if rejects status then return .rejected else consumeSse client ending lines [] []

/-- An answer that is no rejection resets the backoff. -/
def Connection.backoff (backoff : Seconds) : Connection → Seconds
  | .failed => backoff
  | .answered status _ _ => if rejects status then backoff else 1

/-- `min(backoff * 2, 30.0)`. -/
def doubled (backoff : Seconds) : Seconds := if backoff * 2 ≤ 30 then backoff * 2 else 30

/-- Where the loop is after a pass: past a wait, with the backoff of the next pass; waiting for more
of the stream; or returned. -/
inductive Turn
  | again (waited backoff : Seconds)
  | waiting
  | returned
deriving DecidableEq, Repr

/-- `_pause`, after which the loop goes on with this backoff unless `stop` was set. -/
def Attempt.pause (attempt : Attempt) (seconds backoff : Seconds) : Turn :=
  if attempt.interrupted then .returned else .again seconds backoff

/-- The branch for `httpx.HTTPError`. -/
def disconnected (attempt : Attempt) (backoff : Seconds) : ClientMethod Turn :=
  match client.holdAfter with
  | some holdAfter => do
    if !attempt.interrupted then
      modify fun session => { session with paused := true }
    return attempt.pause holdAfter backoff
  | none => return attempt.pause backoff (doubled backoff)

/-- One pass of the loop. Once `stop` is set the node waits no longer. -/
def pass (backoff : Seconds) (attempt : Attempt) : ClientMethod Turn := do
  if attempt.stopped then
    return .returned
  let backoff := attempt.connection.backoff backoff
  match ← observe (subscribe client attempt.connection) with
  | .ok .live => return .waiting
  | .ok .stopped => return .returned
  | .ok .closed => return attempt.pause reconnectDelay backoff
  | .ok .rejected => return attempt.pause backoff (doubled backoff)
  | .error .transport => disconnected client attempt backoff
  | .error (.python error) => throw (.python error)

/-- `PlaneClient.run`, up to the last of the attempts: it waits, on a stream or for the next
attempt, or it has returned. -/
def run (backoff : Seconds) : List Attempt → ClientMethod Turn
  | [] => return .waiting
  | attempt :: rest => do
    match ← pass client backoff attempt with
    | .again _ backoff => run backoff rest
    | .waiting => return .waiting
    | .returned => return .returned

/-! ### Exceptions that leave the loop -/

/-- From this state the method returns, or raises what the loop handles. -/
def Contained {α : Type} (method : ClientMethod α) (session : Session) : Prop :=
  ∀ error, outcome method session ≠ .error (.python error)

section Contained

variable {client} {α β : Type} {session : Session}

theorem contained_pure (value : α) (session : Session) :
    Contained (pure value : ClientMethod α) session := fun _ same => nomatch same

theorem contained_bind {method : ClientMethod α} {next : α → ClientMethod β} :
    Contained (method >>= next) session ↔
      Contained method session ∧
        ∀ value, outcome method session = .ok value →
          Contained (next value) (final method session) := by
  unfold Contained
  rw [outcome_bind]
  cases outcome method session with
  | error failure => simp
  | ok value => simp

theorem contained_raising {method : SessionMethod α} :
    Contained (raising method) session ↔ Succeeds method session := by
  unfold Contained Succeeds raising
  rw [outcome_adapt]
  cases outcome method session <;> simp [Except.mapError]

/-- What is read without the session is read before anything else is done. -/
theorem contained_read {computed : Except PyError α} {next : α → ClientMethod β} :
    Contained (raising (liftM computed) >>= next) session ↔
      ∃ value, computed = .ok value ∧ Contained (next value) session := by
  unfold Contained
  rw [outcome_bind]
  cases computed with
  | error error => simp [raising, Except.mapError]
  | ok value => simp [raising, Except.mapError]

end Contained

/-- A node in this posture gets over the frame: it is JSON; a snapshot and a delta have the shape
and the version of one, and are taken; and a fact has the shape of one, when there is a callback,
which does not raise anything but a failure of the transport. -/
structure Harmless (posture : Posture) (frame : Frame) (data : Value) : Prop where
  decoded : client.loads frame.text = .ok data
  snapshot : frame.eventName = "snapshot" →
    ∃ message, snapshotFrom client data = .ok message ∧ message.TakenBy client.node posture
  delta : frame.eventName = "delta" →
    ∃ message, deltaFrom client data = .ok message ∧ message.TakenBy client.node posture
  fact : frame.eventName = "fact" → ∀ onFact, client.onFact = some onFact →
    ∃ fact, data.get "fact" (.dict []) = .ok fact ∧ ∀ error, onFact fact ≠ .error (.python error)

theorem contained_deliver (message : Message) (session : Session) :
    Contained (do let _ ← raising (message.deliver client.node)) session ↔
      message.TakenBy client.node session.posture := by
  rw [← succeeds_deliver client.node message session, ← contained_raising]
  refine contained_bind.trans (and_iff_left fun _ _ => contained_pure _ _)

theorem contained_dispatch {eventName : PyStr} {data : Value} {session : Session} :
    Contained (dispatch client eventName data) session ↔
      (eventName = "snapshot" → ∃ message, snapshotFrom client data = .ok message ∧
        message.TakenBy client.node session.posture) ∧
      (eventName = "delta" → ∃ message, deltaFrom client data = .ok message ∧
        message.TakenBy client.node session.posture) ∧
      (eventName = "fact" → ∀ onFact, client.onFact = some onFact →
        ∃ fact, data.get "fact" (.dict []) = .ok fact ∧
          ∀ error, onFact fact ≠ .error (.python error)) := by
  have apart : PyStr.ofString "snapshot" ≠ "delta" ∧ PyStr.ofString "snapshot" ≠ "fact" ∧
      PyStr.ofString "delta" ≠ "fact" := by decide
  unfold dispatch
  by_cases isSnapshot : eventName = "snapshot"
  · subst isSnapshot
    rw [if_pos rfl, contained_read]
    simp only [contained_deliver, apart, false_imp_iff, true_imp_iff, and_true]
  rw [if_neg isSnapshot]
  by_cases isDelta : eventName = "delta"
  · subst isDelta
    rw [if_pos rfl, contained_read]
    simp only [contained_deliver, apart, isSnapshot, false_imp_iff, true_imp_iff, and_true,
      true_and]
  rw [if_neg isDelta]
  by_cases isFact : eventName = "fact"
  · subst isFact
    rw [if_pos rfl]
    simp only [isSnapshot, isDelta, false_imp_iff, true_imp_iff, true_and]
    cases client.onFact with
    | none => exact iff_of_true (contained_pure () session) fun _ isSet => nomatch isSet
    | some onFact =>
      simp only [Option.some.injEq, forall_eq']
      exact contained_read
  · rw [if_neg isFact]
    simp only [isSnapshot, isDelta, isFact, false_imp_iff, and_true, iff_true]
    exact contained_pure () session

theorem contained_handle (frame : Frame) (session : Session) :
    Contained (handle client frame) session ↔
      ∃ data, Harmless client session.posture frame data := by
  unfold handle
  rw [contained_read]
  refine exists_congr fun data => ?_
  rw [contained_dispatch]
  exact ⟨fun ⟨decoded, snapshot, delta, fact⟩ => ⟨decoded, snapshot, delta, fact⟩,
    fun harmless => ⟨harmless.decoded, harmless.snapshot, harmless.delta, harmless.fact⟩⟩

/-! ### The frames a run comes to -/

/-- The frames a stream completes, each with the session it finds. -/
def framesMet : List Line → (eventName : PyStr) → (dataLines : List PyStr) → Session →
    List (Frame × Session)
  | [], _, _, _ => []
  | raw :: rest, eventName, dataLines, session =>
    let strip := PyStr.strip client.node.platform.interpreter
    let line := raw.raw.rstripNewlines
    if raw.stopped then []
    else if line.startsWith "event:" then
      framesMet rest (strip (line.drop 6)) dataLines session
    else if line.startsWith "data:" then
      framesMet rest eventName (dataLines ++ [strip (line.drop 5)]) session
    else if line.isEmpty && !dataLines.isEmpty then
      let frame : Frame := ⟨eventName, PyStr.join "\n" dataLines⟩
      (frame, session) ::
        match outcome (handle client frame) session with
        | .ok () => framesMet rest [] [] (final (handle client frame) session)
        | .error _ => []
    else framesMet rest eventName dataLines session

def framesOf (session : Session) : Connection → List (Frame × Session)
  | .failed => []
  | .answered status lines _ =>
    if rejects status then [] else framesMet client lines [] [] session

/-- The frames a run completes, each with the session it finds. -/
def framesRun (backoff : Seconds) : List Attempt → Session → List (Frame × Session)
  | [], _ => []
  | attempt :: rest, session =>
    if attempt.stopped then []
    else framesOf client session attempt.connection ++
      match outcome (pass client backoff attempt) session with
      | .ok (.again _ next) => framesRun next rest (final (pass client backoff attempt) session)
      | _ => []

/-- The node gets over the frame in the session that finds it. -/
def GetsOver (met : Frame × Session) : Prop :=
  ∃ data, Harmless client met.2.posture met.1 data

theorem contained_consumeSse (ending : Ending) (lines : List Line) (eventName : PyStr)
    (dataLines : List PyStr) (session : Session) :
    Contained (consumeSse client ending lines eventName dataLines) session ↔
      ∀ met ∈ framesMet client lines eventName dataLines session, GetsOver client met := by
  induction lines generalizing eventName dataLines session with
  | nil =>
    refine iff_of_true ?_ (List.forall_mem_nil _)
    cases ending <;> exact fun _ same => nomatch same
  | cons raw rest inductionHypothesis =>
    rw [consumeSse, framesMet]
    cases raw.stopped with
    | true => exact iff_of_true (contained_pure _ _) (List.forall_mem_nil _)
    | false =>
      simp only [Bool.false_eq_true, if_false]
      split
      · exact inductionHypothesis _ _ _
      split
      · exact inductionHypothesis _ _ _
      split
      · rw [contained_bind, contained_handle, List.forall_mem_cons]
        refine and_congr_right fun _ => ?_
        cases outcome (handle client ⟨eventName, PyStr.join "\n" dataLines⟩) session with
        | ok value => simp [inductionHypothesis]
        | error failure => simp
      · exact inductionHypothesis _ _ _

theorem contained_subscribe (connection : Connection) (session : Session) :
    Contained (subscribe client connection) session ↔
      ∀ met ∈ framesOf client session connection, GetsOver client met := by
  cases connection with
  | failed => exact iff_of_true (fun _ same => nomatch same) fun _ member => nomatch member
  | answered status lines ending =>
    unfold subscribe framesOf
    dsimp only
    split
    · exact iff_of_true (contained_pure _ _) (List.forall_mem_nil _)
    · exact contained_consumeSse client ending lines [] [] session

/-- `stop` is not set yet. -/
structure Attempt.Undisturbed (attempt : Attempt) : Prop where
  running : attempt.stopped = false
  waited : attempt.interrupted = false
  streamed : ∀ status lines ending, attempt.connection = .answered status lines ending →
    ∀ line ∈ lines, line.stopped = false

theorem outcome_consumeSse_ne_stopped (ending : Ending) {lines : List Line}
    (unset : ∀ line ∈ lines, line.stopped = false) (eventName : PyStr) (dataLines : List PyStr)
    (session : Session) :
    outcome (consumeSse client ending lines eventName dataLines) session ≠ .ok .stopped := by
  induction lines generalizing eventName dataLines session with
  | nil => cases ending <;> exact fun same => nomatch same
  | cons raw rest inductionHypothesis =>
    rw [List.forall_mem_cons] at unset
    have goesOn := inductionHypothesis unset.2
    rw [consumeSse, if_neg (by simp [unset.1])]
    dsimp only
    split
    · exact goesOn _ _ _
    split
    · exact goesOn _ _ _
    split
    · intro same
      obtain ⟨_, _, rest⟩ := outcome_bind_eq_ok.mp same
      exact goesOn _ _ _ rest
    · exact goesOn _ _ _

/-- Before `stop` is set a stream is not left for it. -/
theorem outcome_subscribe_ne_stopped {attempt : Attempt} (undisturbed : attempt.Undisturbed)
    (session : Session) : outcome (subscribe client attempt.connection) session ≠ .ok .stopped := by
  cases connected : attempt.connection with
  | failed => exact fun same => nomatch same
  | answered status lines ending =>
    unfold subscribe
    dsimp only
    split
    · exact fun same => nomatch same
    · exact outcome_consumeSse_ne_stopped client ending (undisturbed.streamed _ _ _ connected) _ _ _

theorem outcome_disconnected {attempt : Attempt} (waited : attempt.interrupted = false)
    (backoff : Seconds) (session : Session) :
    ∃ seconds next, outcome (disconnected client attempt backoff) session =
      .ok (.again seconds next) := by
  unfold disconnected Attempt.pause
  rw [waited]
  cases client.holdAfter with
  | none => exact ⟨_, _, rfl⟩
  | some holdAfter => exact ⟨_, _, rfl⟩

/-- A pass before `stop` is set leaves the node connecting again or waiting, unless an exception
leaves the loop. -/
theorem outcome_pass {attempt : Attempt} (undisturbed : attempt.Undisturbed) (backoff : Seconds)
    (session : Session) :
    (Contained (subscribe client attempt.connection) session ∧
      ((∃ seconds next, outcome (pass client backoff attempt) session =
          .ok (.again seconds next)) ∨
        outcome (pass client backoff attempt) session = .ok .waiting)) ∨
    (¬ Contained (subscribe client attempt.connection) session ∧
      ∃ error, outcome (pass client backoff attempt) session = .error (.python error)) := by
  have pauses : ∀ seconds next, attempt.pause seconds next = .again seconds next := by
    intro seconds next
    unfold Attempt.pause
    rw [undisturbed.waited]
    rfl
  have notStopped := outcome_subscribe_ne_stopped client undisturbed session
  have observed : outcome (observe (subscribe client attempt.connection)) session =
      .ok (outcome (subscribe client attempt.connection) session) := rfl
  unfold pass Contained
  rw [if_neg (by simp [undisturbed.running]), outcome_bind_ok observed]
  match came : outcome (subscribe client attempt.connection) session with
  | .ok .live => exact .inl ⟨fun _ same => (nomatch same), .inr rfl⟩
  | .ok .stopped => exact absurd came notStopped
  | .ok .closed => exact .inl ⟨fun _ same => (nomatch same),
      .inl ⟨_, _, congrArg Except.ok (pauses _ _)⟩⟩
  | .ok .rejected => exact .inl ⟨fun _ same => (nomatch same),
      .inl ⟨_, _, congrArg Except.ok (pauses _ _)⟩⟩
  | .error .transport =>
    exact .inl ⟨fun _ same => (nomatch same),
      .inl (outcome_disconnected client undisturbed.waited _ _)⟩
  | .error (.python error) => exact .inr ⟨fun contained => contained error rfl, error, rfl⟩

/-- **The subscription outlives its backend** exactly as long as the node gets over every frame it
comes to: before `stop` is set the loop is then neither returned from nor left by an exception, and
the node waits for more, on a stream or for its next attempt. -/
theorem run_outlives_iff {attempts : List Attempt}
    (undisturbed : ∀ attempt ∈ attempts, attempt.Undisturbed) (backoff : Seconds)
    (session : Session) :
    outcome (run client backoff attempts) session = .ok .waiting ↔
      ∀ met ∈ framesRun client backoff attempts session, GetsOver client met := by
  induction attempts generalizing backoff session with
  | nil => exact iff_of_true rfl (List.forall_mem_nil _)
  | cons attempt rest inductionHypothesis =>
    rw [List.forall_mem_cons] at undisturbed
    obtain ⟨first, later⟩ := undisturbed
    rw [run, framesRun, outcome_bind, if_neg (by simp [first.running]), List.forall_mem_append,
      ← contained_subscribe]
    rcases outcome_pass client first backoff session with
      ⟨contained, ⟨seconds, next, again⟩ | waiting⟩ | ⟨escapes, error, raised⟩
    · simp only [again]
      exact (inductionHypothesis later next _).trans (and_iff_right contained).symm
    · simp only [waiting]
      exact iff_of_true rfl ⟨contained, List.forall_mem_nil _⟩
    · simp only [raised]
      exact iff_of_false (fun same => nomatch same) fun both => escapes both.1

/-! ### A backend that ends the subscription -/

/-- `json.loads` on the texts sent below. -/
def trialLoads (text : PyStr) : Except PyError Value :=
  if text = "\x7b\x7d" then .ok (.dict [])
  else if text = "\x7b\"version\": 1\x7d" then .ok (.dict [field "version" (.int 1)])
  else .error .valueError

def trialClient : Client where
  node := openNode
  loads := trialLoads

/-- A delta with this data, on the second attempt. -/
def sendsDelta (data : PyStr) : List Attempt :=
  [{ connection := .failed },
    { connection := .answered 200
        [{ raw := "event: delta" }, { raw := PyStr.ofString "data: " ++ data }, { raw := "" }]
        .live }]

theorem undisturbed_sendsDelta (data : PyStr) :
    ∀ attempt ∈ sendsDelta data, attempt.Undisturbed := by
  intro attempt member
  simp only [sendsDelta, List.mem_cons, List.not_mem_nil, or_false] at member
  rcases member with rfl | rfl
  · exact ⟨rfl, rfl, fun _ _ _ same => nomatch same⟩
  · refine ⟨rfl, rfl, fun _ lines _ same line member => ?_⟩
    cases same
    simp only [List.mem_cons, List.not_mem_nil, or_false] at member
    rcases member with rfl | rfl | rfl <;> rfl

theorem run_outlives_versioned :
    outcome (run trialClient 1 (sendsDelta "\x7b\"version\": 1\x7d")) {} = .ok .waiting ∧
      ∀ met ∈ framesRun trialClient 1 (sendsDelta "\x7b\"version\": 1\x7d") {},
        GetsOver trialClient met := by
  have waits : outcome (run trialClient 1 (sendsDelta "\x7b\"version\": 1\x7d")) {} =
      .ok .waiting := by
    decide +kernel
  exact ⟨waits, (run_outlives_iff trialClient (undisturbed_sendsDelta _) 1 {}).mp waits⟩

/-- A delta without a version ends the subscription. -/
theorem run_not_outlives :
    ¬ ∀ attempts session, (∀ attempt ∈ attempts, attempt.Undisturbed) →
      outcome (run trialClient 1 attempts) session = .ok .waiting := by
  intro outlives
  have waits := outlives (sendsDelta "\x7b\x7d") {} (undisturbed_sendsDelta _)
  have raises : outcome (run trialClient 1 (sendsDelta "\x7b\x7d")) {} =
      .error (.python .keyError) := by
    decide +kernel
  rw [raises] at waits
  cases waits

end AxorWrap.Plane
