/-
This file models the heartbeat of a node: `PlaneClient.heartbeat_loop` (`axor_wrap/plane/client.py`)
with the level of `PlaneConnector` (`axor_wrap/connect.py`).

A node that is silent for three periods is taken for dead, so nothing that a flush runs into may
end the loop. What it sends is what the plane sees of the node. The loop flushes one beat after the
other, while messages and takes go on during the waits and during the flushes; still the plane sees
a version that does not fall, a stop that stays, and consumed directives that stay consumed.
-/

import AxorWrap.Library.Raise
import AxorWrap.Plane.Clearing
import AxorWrap.Plane.Connector
import AxorWrap.Plane.Resending
import Mathlib.Data.Finset.Sort
import Mathlib.Data.List.Lex

namespace AxorWrap.Plane

open Python Methods Checks Scripts Machines

/-! ### The loop -/

/-- A session, what its client holds, and what the session was before each of its operations. The
outbox of the session is the one in the buffers. -/
structure Home where
  session : Session
  handedOver : session.outbox = []
  buffers : Buffers
  past : List Session := []

/-- Everything the session has been, the present last. -/
def Home.trail (home : Home) : List Session := home.past ++ [home.session]

/-- How the wait for the next beat ends: the period is over, `stop` is set, or the task is
cancelled. -/
inductive Waking
  | due
  | stopped
  | cancelled

/-- A turn of the loop: whether `stop` is set before it; what reaches the session while it waits,
and how the wait ends; what `budget_fn` says; what the flush meets, and what reaches the session
meanwhile. The events that this appends to the outbox are among the arrivals of the weather. -/
structure Beat where
  stopped : Bool := false
  before : List Operation := []
  waking : Waking := .due
  budget : Except PyError (Option Int) := .ok none
  weather : Weather
  during : List Operation := []

/-- Where the loop is left. -/
inductive Watch
  | waiting
  | returned
deriving DecidableEq

variable (uplink : Uplink) (node : Node)

/-- An operation of the session. -/
def Home.undergo (home : Home) (operation : Operation) : Home where
  session := { (sessionMachine node).next home.session operation with outbox := [] }
  handedOver := rfl
  buffers := home.buffers
  past := home.trail

/-- An operation of the session, whose events go to the outbox. -/
def Home.operate (home : Home) (operation : Operation) : Home :=
  { home.undergo node operation with
    buffers := arrive (((sessionMachine node).next home.session operation).outbox.map
      OutboxEvent.value) home.buffers }

/-- Operations while a flush is under way. -/
def Home.meanwhile (operations : List Operation) (home : Home) : Home :=
  operations.foldl (Home.undergo node) home

/-- `PlaneSession.heartbeat` of the session, as far as the session goes. -/
def Session.pulse (session : Session) (level : PyStr) (budget : Option Int) : Pulse where
  appliedVersion := session.appliedVersion
  consumedInjectionIds := session.consumedIds.sort
  level := level
  budgetRemaining := budget

/-- A flush by the client of the session. -/
def flushHome (weather : Weather) (pulse : Pulse) : Method Home Fault Unit :=
  ExceptT.mk fun home => (outcome (flush uplink weather [] pulse) home.buffers,
    { home with buffers := final (flush uplink weather [] pulse) home.buffers })

/-- What `level_fn` or `budget_fn` says. -/
def asking {α : Type} (answer : Except PyError α) : Method Home Fault α :=
  liftM (answer.mapError Fault.python)

/-- The beat itself. Whatever is an `Exception` is dropped, which a cancellation is not. -/
def beat (levelFn : Session → Except PyError PyStr) (turn : Beat) : Method Home Fault Unit := do
  let session := (← get).session
  let level ← asking (levelFn session)
  let budget ← asking turn.budget
  let flushed ← observe (flushHome uplink turn.weather (session.pulse level budget))
  modify (Home.meanwhile node turn.during)
  match flushed with
  | .error .cancelled => throw .cancelled
  | _ => return ()

/-- `PlaneClient.heartbeat_loop`. -/
def heartbeatLoop (levelFn : Session → Except PyError PyStr) : List Beat → Method Home Fault Watch
  | [] => return .waiting
  | turn :: rest => do
    if turn.stopped then return .returned
    modify fun home => turn.before.foldl (Home.operate node) home
    match turn.waking with
    | .stopped => return .returned
    | .cancelled => throw .cancelled
    | .due =>
      beat uplink node levelFn turn
      heartbeatLoop levelFn rest

/-- `PlaneConnector.level`, as the connector hands it to the loop. -/
def connectorLevel (session : Session) : Except PyError PyStr :=
  (level (some session)).mapError fun _ => .other "ConnectorError"

/-! ### What leaves the loop -/

/-- The task is cancelled in one of the waits of the flush. -/
def Weather.Cancels (weather : Weather) : Prop :=
  (∃ attempt, (weather.postings attempt).answer = .error .cancelled) ∨
    (∃ attempt, (weather.sleeps attempt).cancelled = true) ∨
      ∃ index, (weather.notices index).answer = .error .cancelled

section Leaving

variable {uplink node} {weather : Weather}

/-- Every exception that is none of the transport. -/
def IsException : Fault → Prop
  | .python _ => True
  | .transport | .cancelled => False

/-- What a flush may raise: an exception, or the cancellation that it met. -/
def Weather.Raises (weather : Weather) : Fault → Prop
  | .transport => True
  | .cancelled => weather.Cancels
  | .python _ => True

theorem raisesOnly_computing {α : Type} {computed : Except PyError α} :
    RaisesOnly IsException (computing computed) := by
  refine raisesOnly_lift fun fault raised => ?_
  cases computed with
  | ok value => cases raised
  | error error =>
    cases raised
    trivial

theorem IsException.raises (fault : Fault) (isException : IsException fault) :
    weather.Raises fault := by
  cases fault with
  | python error => trivial
  | _ => cases isException

theorem raisesOnly_post (request : Request) (posting : Posting)
    (cancels : posting.answer = .error .cancelled → weather.Cancels) :
    RaisesOnly weather.Raises (post request posting) := by
  refine raisesOnly_bind (raisesOnly_modify _) fun _ => raisesOnly_bind (raisesOnly_modify _)
    fun _ => raisesOnly_lift fun fault raised => ?_
  cases fault with
  | cancelled => exact cancels raised
  | _ => trivial

theorem raisesOnly_saveSpool (disk : Disk) (events : List (Stamped Value)) :
    RaisesOnly IsException (saveSpool uplink disk events) := by
  unfold saveSpool
  split
  · exact raisesOnly_get fun _ => raisesOnly_bind raisesOnly_computing fun _ => raisesOnly_modify _
  · exact raisesOnly_pure _

theorem raisesOnly_postAttempts (request : Request) (attempts : List Nat) :
    RaisesOnly weather.Raises (postAttempts weather request attempts) := by
  induction attempts with
  | nil => exact raisesOnly_throw trivial
  | cons attempt rest inductionHypothesis =>
    refine raisesOnly_observe (raisesOnly_post request _ fun same => .inl ⟨attempt, same⟩)
      (fun _ => raisesOnly_pure _) fun fault may => ?_
    match fault with
    | .transport =>
      show RaisesOnly _ (if attempt < telemetryAttempts - 1 then do
          sleep (weather.sleeps attempt)
          postAttempts weather request rest
        else postAttempts weather request rest)
      split
      · refine raisesOnly_bind (fun state fault raised => ?_) fun _ => inductionHypothesis
        rw [outcome_sleep] at raised
        cases awake : (weather.sleeps attempt).cancelled with
        | true =>
          rw [awake] at raised
          cases raised
          exact .inr (.inl ⟨attempt, awake⟩)
        | false =>
          rw [awake] at raised
          cases raised
      · exact inductionHypothesis
    | .cancelled | .python _ => exact raisesOnly_throw may

theorem raisesOnly_notify (events : List Value) :
    RaisesOnly weather.Raises (notify weather events) := by
  refine raisesOnly_forM fun item _ => ?_
  refine raisesOnly_bind (raisesOnly_computing.mono IsException.raises) fun kind => ?_
  cases consumedKey kind with
  | none => exact raisesOnly_pure _
  | some key =>
    refine raisesOnly_observe (raisesOnly_post _ _ fun same => .inr (.inr ⟨_, same⟩))
      (fun _ => raisesOnly_pure _) fun fault may => ?_
    match fault with
    | .transport => exact raisesOnly_pure _
    | .cancelled | .python _ => exact raisesOnly_throw may

theorem raisesOnly_restore (disk : Disk) (durable : List (Stamped Value)) :
    RaisesOnly IsException (restore uplink disk durable) := by
  unfold restore
  split
  · exact raisesOnly_saveSpool disk durable
  · exact raisesOnly_modify _

theorem raisesOnly_gather (extra : List Value) (pulse : Pulse) :
    RaisesOnly IsException (gather uplink weather extra pulse) := by
  refine raisesOnly_get fun _ => raisesOnly_bind raisesOnly_computing fun _ => raisesOnly_get
    fun _ => raisesOnly_bind (raisesOnly_modify _) fun _ => raisesOnly_bind ?_ fun _ =>
      raisesOnly_pure _
  refine raisesOnly_mapM (fun event => ?_) _
  exact raisesOnly_get fun _ => raisesOnly_bind (raisesOnly_modify _) fun _ =>
    raisesOnly_bind raisesOnly_computing fun _ => raisesOnly_bind raisesOnly_computing fun _ =>
      raisesOnly_pure _

/-- A flush is cancelled only by what it met. -/
theorem raisesOnly_flush (extra : List Value) (pulse : Pulse) :
    RaisesOnly weather.Raises (flush uplink weather extra pulse) := by
  cases able : weather.httpx with
  | false =>
    intro state fault raised
    unfold flush at raised
    rw [able] at raised
    cases raised
    trivial
  | true =>
    rw [flush_of_httpx uplink weather extra pulse able]
    refine raisesOnly_bind ((raisesOnly_gather extra pulse).mono IsException.raises) fun batch => ?_
    refine raisesOnly_observe (raisesOnly_postAttempts _ _) (fun _ => ?_) fun fault may => ?_
    · exact raisesOnly_bind (raisesOnly_modify _) fun _ => raisesOnly_bind
        ((raisesOnly_saveSpool _ _).mono IsException.raises) fun _ => raisesOnly_notify _
    · match fault with
      | .transport => exact (raisesOnly_restore _ _).mono IsException.raises
      | .cancelled | .python _ => exact raisesOnly_throw may

/-- What may leave the loop as an exception: the cancellation of its task, what `level_fn` raises on
the session as it is then, or what `budget_fn` raises. -/
def Beats (levelFn : Session → Except PyError PyStr) (turns : List Beat) (left : Home) :
    Fault → Prop
  | .transport => False
  | .cancelled => ∃ turn ∈ turns, turn.waking = .cancelled ∨ turn.weather.Cancels
  | .python error => levelFn left.session = .error error ∨
    ∃ turn ∈ turns, turn.budget = .error error

theorem raisesOnly_asking {α : Type} {answer : Except PyError α} {allowed : Fault → Prop}
    (only : ∀ error, answer = .error error → allowed (.python error)) :
    RaisesOnly allowed (asking answer) := by
  refine raisesOnly_lift fun fault raised => ?_
  cases answer with
  | ok value => cases raised
  | error error =>
    cases raised
    exact only error rfl

theorem raisesOnly_flushHome (pulse : Pulse) :
    RaisesOnly weather.Raises (flushHome uplink weather pulse) :=
  fun home fault raised => raisesOnly_flush [] pulse home.buffers fault raised

theorem raisesFrom_beat {levelFn : Session → Except PyError PyStr} {turns : List Beat}
    {turn : Beat} (member : turn ∈ turns) (home : Home) :
    RaisesFrom (Beats levelFn turns) home (beat uplink node levelFn turn) := by
  refine raisesFrom_bind (fun _ raised => nomatch raised) fun found same => ?_
  cases same
  -- The loop ends where `level_fn` raises, so what it leaves is what `level_fn` looked at.
  have asks : RaisesOnly (Beats levelFn turns home) (asking (levelFn home.session)) :=
    raisesOnly_asking fun error refused => .inl refused
  refine raisesFrom_bind (asks home) fun level _ => RaisesOnly.raisesFrom ?_
  refine raisesOnly_bind (raisesOnly_asking fun error raised _ => .inr ⟨turn, member, raised⟩)
    fun budget => ?_
  refine raisesOnly_observe (raisesOnly_flushHome _)
    (fun _ => raisesOnly_bind (raisesOnly_modify _) fun _ => raisesOnly_pure _) fun fault may => ?_
  refine raisesOnly_bind (raisesOnly_modify _) fun _ => ?_
  match fault with
  | .cancelled => exact raisesOnly_throw fun _ => ⟨turn, member, .inr may⟩
  | .transport | .python _ => exact raisesOnly_pure _

theorem raisesFrom_heartbeatLoop {levelFn : Session → Except PyError PyStr}
    {turns left : List Beat} (members : left ⊆ turns) (home : Home) :
    RaisesFrom (Beats levelFn turns) home (heartbeatLoop uplink node levelFn left) := by
  induction left generalizing home with
  | nil => exact fun _ raised => nomatch raised
  | cons turn rest inductionHypothesis =>
    obtain ⟨member, members⟩ := List.cons_subset.mp members
    unfold heartbeatLoop
    split
    · exact fun _ raised => nomatch raised
    · refine raisesFrom_bind (fun _ raised => nomatch raised) fun _ _ => ?_
      cases waking : turn.waking with
      | due =>
        exact raisesFrom_bind (raisesFrom_beat member _) fun _ _ => inductionHypothesis members _
      | stopped => exact fun _ raised => nomatch raised
      | cancelled =>
        intro fault raised
        cases raised
        exact ⟨turn, member, .inl waking⟩

theorem stopped_of_returned {levelFn : Session → Except PyError PyStr} {turns : List Beat}
    {home : Home}
    (returned : outcome (heartbeatLoop uplink node levelFn turns) home = .ok .returned) :
    ∃ turn ∈ turns, turn.stopped = true ∨ turn.waking = .stopped := by
  induction turns generalizing home with
  | nil => cases returned
  | cons turn rest inductionHypothesis =>
    rw [List.exists_mem_cons_iff]
    unfold heartbeatLoop at returned
    split at returned
    · next isStopped => exact .inl (.inl isStopped)
    · rw [outcome_bind_ok (outcome_modify _ _)] at returned
      cases waking : turn.waking with
      | due =>
        rw [waking] at returned
        obtain ⟨_, _, later⟩ := outcome_bind_eq_ok.mp returned
        exact .inr (inductionHypothesis later)
      | stopped => exact .inl (.inr rfl)
      | cancelled =>
        rw [waking] at returned
        cases returned

/-- **The heartbeat outlives its flushes.** Whatever they run into, the loop goes on waiting for the
next beat, unless `stop` is set, the task is cancelled, or one of the callables raises. -/
theorem heartbeat_outlives (uplink : Uplink) (node : Node)
    (levelFn : Session → Except PyError PyStr) (turns : List Beat) (home : Home) :
    outcome (heartbeatLoop uplink node levelFn turns) home = .ok .waiting ∨
      (outcome (heartbeatLoop uplink node levelFn turns) home = .ok .returned ∧
        ∃ turn ∈ turns, turn.stopped = true ∨ turn.waking = .stopped) ∨
      ∃ fault, outcome (heartbeatLoop uplink node levelFn turns) home = .error fault ∧
        Beats levelFn turns (final (heartbeatLoop uplink node levelFn turns) home) fault := by
  cases left : outcome (heartbeatLoop uplink node levelFn turns) home with
  | error fault =>
    have raises := raisesFrom_heartbeatLoop (List.Subset.refl turns) home fault left
    exact .inr (.inr ⟨fault, rfl, raises⟩)
  | ok watch =>
    cases watch with
    | waiting => exact .inl rfl
    | returned => exact .inr (.inl ⟨rfl, stopped_of_returned left⟩)

end Leaving

/-! ### What the plane sees -/

/-- The batches of telemetry among some requests. -/
def batchesOf (requests : List Request) : List (List Value) :=
  requests.filterMap fun
    | .telemetry _ _ lines => some lines
    | .consumed _ => none

/-- What is on the last line of a batch: the version, the consumed directives and the level. -/
structure View where
  version : Int
  consumed : Finset PyStr
  level : PyStr

/-- What the plane is to see of a session. -/
def Session.view (session : Session) : View where
  version := session.appliedVersion
  consumed := session.consumedIds
  level := session.standing.level

/-- The heartbeat at the end of the batch has the view. -/
def Shows (lines : List Value) (view : View) : Prop :=
  ∃ line payload, lines.getLast? = some line ∧
    line.item "kind" = .ok (.str EventKind.heartbeat.text) ∧ line.item "payload" = .ok payload ∧
    payload.item "applied_version" = .ok (.int view.version) ∧
    payload.item "consumed_injection_ids" = .ok (.list (view.consumed.sort.map .str)) ∧
    payload.item "level" = .ok (.str view.level)

/-- The second view is no way back from the first. -/
structure View.Advances (before after : View) : Prop where
  version : before.version ≤ after.version
  consumed : before.consumed ⊆ after.consumed
  restricted : before.level = "RESTRICTED" → after.level = "RESTRICTED"

/-- The second session is no way back from the first. -/
structure Session.Advances (before after : Session) : Prop where
  narrows : before.Narrows after
  consumed : before.consumedIds ⊆ after.consumedIds

instance : IsTrans Session Session.Advances where
  trans _ _ _ first second :=
    ⟨IsTrans.trans _ _ _ first.narrows second.narrows, first.consumed.trans second.consumed⟩

theorem Session.Advances.view {before after : Session} (advances : before.Advances after) :
    before.view.Advances after.view where
  version := advances.narrows.version
  consumed := advances.consumed
  restricted restricted := by
    have stopped := (Standing.level_eq_restricted_iff before.standing).mp restricted
    exact (Standing.level_eq_restricted_iff after.standing).mpr (advances.narrows.stopped stopped)

section Views

variable (weather : Weather) {buffers : Buffers}

theorem batchesOf_append (first second : List Request) :
    batchesOf (first ++ second) = batchesOf first ++ batchesOf second :=
  List.filterMap_append

/-- No batch was sent in between. -/
def SameBatches (before after : Buffers) : Prop :=
  batchesOf after.requests = batchesOf before.requests

instance : Std.Refl SameBatches := ⟨fun _ => rfl⟩

instance : IsTrans Buffers SameBatches := ⟨fun _ _ _ first second => second.trans first⟩

theorem sameBatches_of_requests {before after : Buffers} (same : after.requests = before.requests) :
    SameBatches before after :=
  congrArg batchesOf same

theorem sameBatches_notify (events : List Value) :
    SameBatches buffers (final (notify weather events) buffers) := by
  refine related_forM (fun item state => ?_) events.zipIdx buffers
  refine related_bind (Std.Refl.refl state) fun kind _ => ?_
  match consumedKey kind with
  | none => exact Std.Refl.refl _
  | some key =>
    refine related_bind ?_ fun result _ => ?_
    · show batchesOf (final (post (.consumed key) (weather.notices item.2)) _).requests = _
      rw [requests_post, batchesOf_append]
      exact List.append_nil _
    · match result with
      | .ok () | .error .transport | .error .cancelled | .error (.python _) =>
        exact Std.Refl.refl _

theorem requests_restore (disk : Disk) (durable : List (Stamped Value)) :
    (final (restore uplink disk durable) buffers).requests = buffers.requests := by
  unfold restore
  split
  · exact requests_saveSpool uplink disk durable buffers
  · rfl

/-- A flush that gets so far sends the lines of its batch, once or again. -/
theorem batchesOf_deliver (batch : Batch) (buffers : Buffers) :
    ∃ count, batchesOf (final (deliver uplink weather batch) buffers).requests =
      batchesOf buffers.requests ++ List.replicate count batch.lines := by
  refine ⟨(weather.made (List.range telemetryAttempts)).length, ?_⟩
  have requests : batchesOf (final (postTelemetry uplink weather batch.lines) buffers).requests =
      batchesOf buffers.requests ++
        List.replicate (weather.made (List.range telemetryAttempts)).length batch.lines := by
    unfold postTelemetry
    rw [requests_postAttempts, batchesOf_append, ← List.map_const']
    refine congrArg _ ?_
    unfold batchesOf
    rw [List.filterMap_map]
    exact congrFun List.filterMap_eq_map' _
  rw [← requests]
  unfold deliver
  rw [final_bind, outcome_observe, final_observe]
  match outcome (postTelemetry uplink weather batch.lines) buffers with
  | .error .transport => exact sameBatches_of_requests (requests_restore uplink _ _)
  | .error .cancelled | .error (.python _) => rfl
  | .ok () =>
    have delivered : SameBatches _ (final (do
        modify (acknowledge batch.durable)
        saveSpool uplink weather.disk []
        notify weather batch.events : TelemetryMethod Unit)
        (final (postTelemetry uplink weather batch.lines) buffers)) :=
      related_bind (Std.Refl.refl _) fun _ _ => related_bind
        (sameBatches_of_requests (requests_saveSpool uplink _ _ _)) fun _ _ =>
          sameBatches_notify weather _
    exact delivered

/-- The last line of a gathered batch is that of the heartbeat. -/
theorem shows_of_gathered {extra : List Value} {session : Session} {budget : Option Int}
    {batch : Batch} (gathered : outcome (gather uplink weather extra
      (session.pulse session.standing.level budget)) buffers = .ok batch) :
    Shows batch.lines session.view := by
  obtain ⟨loaded, lines, _, rfl, lined, _⟩ := gathered_ok uplink weather extra _ buffers gathered
  dsimp only at lined
  rw [List.mapM_append] at lined
  obtain ⟨earlier, _, later⟩ := outcome_bind_eq_ok.mp lined
  obtain ⟨last, ended, joined⟩ := outcome_bind_eq_ok.mp later
  cases joined
  cases ended
  refine ⟨_, _, List.getLast?_concat, rfl, rfl, rfl, rfl, rfl⟩

/-- A flush sends batches that show the session. -/
theorem batchesOf_flush (extra : List Value) (session : Session) (budget : Option Int)
    (buffers : Buffers) :
    ∃ sent, batchesOf (final (flush uplink weather extra
        (session.pulse session.standing.level budget)) buffers).requests =
      batchesOf buffers.requests ++ sent ∧ ∀ lines ∈ sent, Shows lines session.view := by
  have nothing {left : Buffers} (same : left.requests = buffers.requests) :
      ∃ sent, batchesOf left.requests = batchesOf buffers.requests ++ sent ∧
        ∀ lines ∈ sent, Shows lines session.view :=
    ⟨[], by rw [same, List.append_nil], List.forall_mem_nil _⟩
  cases able : weather.httpx with
  | false =>
    refine nothing ?_
    unfold flush
    rw [able]
    rfl
  | true =>
    rw [flush_of_httpx uplink weather extra _ able, final_bind]
    have gathers := gather_writes uplink weather extra
      (session.pulse session.standing.level budget) buffers
    have requests : (final (gather uplink weather extra
        (session.pulse session.standing.level budget)) buffers).requests = buffers.requests := by
      rcases gathers with same | ⟨seq, same⟩ <;> rw [same]
    cases gathered : outcome (gather uplink weather extra
        (session.pulse session.standing.level budget)) buffers with
    | error fault => exact nothing requests
    | ok batch =>
      obtain ⟨count, sent⟩ := batchesOf_deliver uplink weather batch
        (final (gather uplink weather extra
          (session.pulse session.standing.level budget)) buffers)
      refine ⟨_, sent.trans (congrArg (batchesOf · ++ _) requests), fun lines member => ?_⟩
      rw [List.eq_of_mem_replicate member]
      exact shows_of_gathered uplink weather gathered

theorem advances_of_same {before after : Session} (posture : after.posture = before.posture)
    (consumed : after.consumedIds = before.consumedIds) : before.Advances after :=
  ⟨narrows_of_posture posture, consumed.symm.subset⟩

theorem advances_next (session : Session) (operation : Operation) :
    session.Advances ((sessionMachine node).next session operation) :=
  ⟨narrows_next node session operation, (accounted node session operation).grows⟩

theorem advances_undergo (operation : Operation) (home : Home) :
    home.session.Advances (home.undergo node operation).session :=
  IsTrans.trans _ _ _ (advances_next node home.session operation) (advances_of_same rfl rfl)

theorem connectorLevel_eq (session : Session) :
    connectorLevel session = .ok session.standing.level := by
  unfold connectorLevel
  rw [level_eq]
  rfl

/-- Among the sessions there is one at this time, and the batch shows it. -/
def ShowsAt (sessions : List Session) (lines : List Value) (time : Nat) : Prop :=
  ∃ session, sessions[time]? = some session ∧ Shows lines session.view

/-- From one home to the next the session went through these, none a way back from one before, and
each batch that was sent shows one of them, the later batches no earlier one. -/
structure Shown (passed : List Session) (before after : Home) : Prop where
  trail : after.trail = before.trail ++ passed
  advances : (before.session :: passed).Pairwise Session.Advances
  sent : ∃ sent times,
    batchesOf after.buffers.requests = batchesOf before.buffers.requests ++ sent ∧
      times.Pairwise (· ≤ ·) ∧ List.Forall₂ (ShowsAt (before.session :: passed)) sent times

/-- What the session went through ends with what it is left as. -/
theorem Shown.last {passed : List Session} {before after : Home}
    (shown : Shown passed before after) :
    ∃ earlier, earlier.length = passed.length ∧
      before.session :: passed = earlier ++ [after.session] := by
  have split := List.dropLast_concat_getLast (List.cons_ne_nil before.session passed)
  have ends : (before.past ++ (before.session :: passed).dropLast) ++
      [(before.session :: passed).getLast (List.cons_ne_nil _ _)] =
      after.past ++ [after.session] := by
    rw [List.append_assoc, split, List.append_cons]
    exact shown.trail.symm
  refine ⟨(before.session :: passed).dropLast, List.length_dropLast, ?_⟩
  rw [← List.append_inj_right' ends rfl, split]

/-- Nothing is sent. -/
theorem shown_nothing {passed : List Session} {before after : Home}
    (trail : after.trail = before.trail ++ passed)
    (advances : (before.session :: passed).Pairwise Session.Advances)
    (same : after.buffers.requests = before.buffers.requests) : Shown passed before after where
  trail := trail
  advances := advances
  sent := ⟨[], [], by rw [same, List.append_nil], .nil, .nil⟩

theorem shown_still (home : Home) : Shown [] home home :=
  shown_nothing (List.append_nil _).symm (List.pairwise_singleton _ _) rfl

theorem ShowsAt.lt_length {sessions : List Session} {lines : List Value} {time : Nat}
    (shows : ShowsAt sessions lines time) : time < sessions.length := by
  obtain ⟨session, at_, _⟩ := shows
  exact (List.getElem?_eq_some_iff.mp at_).1

theorem ShowsAt.append_right {sessions : List Session} {lines : List Value} {time : Nat}
    (shows : ShowsAt sessions lines time) (more : List Session) :
    ShowsAt (sessions ++ more) lines time := by
  have bound := shows.lt_length
  obtain ⟨session, at_, view⟩ := shows
  exact ⟨session, by rw [List.getElem?_append_left bound, at_], view⟩

theorem ShowsAt.append_left {sessions : List Session} {lines : List Value} {time : Nat}
    (shows : ShowsAt sessions lines time) (earlier : List Session) :
    ShowsAt (earlier ++ sessions) lines (earlier.length + time) := by
  obtain ⟨session, at_, view⟩ := shows
  exact ⟨session, by rw [List.getElem?_append_right (Nat.le_add_right _ _),
    Nat.add_sub_cancel_left, at_], view⟩

theorem times_lt {sessions : List Session} {sent : List (List Value)} {times : List Nat}
    (shown : List.Forall₂ (ShowsAt sessions) sent times) :
    ∀ time ∈ times, time < sessions.length := by
  induction shown with
  | nil => exact List.forall_mem_nil _
  | cons shows _ inductionHypothesis =>
    exact List.forall_mem_cons.mpr ⟨shows.lt_length, inductionHypothesis⟩

theorem Shown.append {first second : List Session} {before between after : Home}
    (one : Shown first before between) (two : Shown second between after) :
    Shown (first ++ second) before after := by
  obtain ⟨earlier, length, ends⟩ := one.last
  have joined : before.session :: (first ++ second) = earlier ++ between.session :: second := by
    rw [← List.cons_append, ends, List.append_assoc]
    rfl
  refine ⟨by rw [two.trail, one.trail, List.append_assoc], ?_, ?_⟩
  · rw [joined]
    have early := one.advances
    rw [ends, List.pairwise_append] at early
    refine List.pairwise_append.mpr
      ⟨early.1, two.advances, fun session inEarlier later inLater => ?_⟩
    have reaches := early.2.2 session inEarlier between.session (List.mem_singleton_self _)
    rcases List.mem_cons.mp inLater with rfl | inSecond
    · exact reaches
    · exact IsTrans.trans _ _ _ reaches (List.rel_of_pairwise_cons two.advances inSecond)
  · obtain ⟨sentFirst, timesFirst, sameFirst, sortedFirst, showsFirst⟩ := one.sent
    obtain ⟨sentSecond, timesSecond, sameSecond, sortedSecond, showsSecond⟩ := two.sent
    refine ⟨sentFirst ++ sentSecond, timesFirst ++ timesSecond.map (earlier.length + ·),
      by rw [sameSecond, sameFirst, List.append_assoc], ?_, ?_⟩
    · refine List.pairwise_append.mpr ⟨sortedFirst,
        List.pairwise_map.mpr (sortedSecond.imp fun le => Nat.add_le_add_left le _),
        fun time inFirst other inSecond => ?_⟩
      obtain ⟨later, _, rfl⟩ := List.mem_map.mp inSecond
      have bound := times_lt showsFirst time inFirst
      rw [List.length_cons, ← length] at bound
      omega
    · refine List.rel_append ?_ ?_
      · rw [← List.cons_append]
        exact showsFirst.imp fun _ _ shows => shows.append_right second
      · rw [joined, List.forall₂_map_right_iff]
        exact showsSecond.imp fun _ _ shows => shows.append_left earlier

/-- Operations one after the other. -/
theorem shown_foldl (step : Home → Operation → Home)
    (each : ∀ home operation, Shown [(step home operation).session] home (step home operation))
    (operations : List Operation) (home : Home) :
    ∃ passed, Shown passed home (operations.foldl step home) := by
  induction operations generalizing home with
  | nil => exact ⟨[], shown_still home⟩
  | cons operation rest inductionHypothesis =>
    obtain ⟨passed, shown⟩ := inductionHypothesis (step home operation)
    exact ⟨_, (each home operation).append shown⟩

theorem shown_undergo (home : Home) (operation : Operation) :
    Shown [(home.undergo node operation).session] home (home.undergo node operation) :=
  shown_nothing rfl (List.pairwise_pair.mpr (advances_undergo node operation home)) rfl

theorem shown_operate (home : Home) (operation : Operation) :
    Shown [(home.operate node operation).session] home (home.operate node operation) :=
  shown_nothing rfl (List.pairwise_pair.mpr (advances_undergo node operation home))
    (requests_arrive _ _)

/-- A flush sends what shows the session that it finds, any number of times. -/
theorem shown_flushHome (home : Home) (turn : Beat) (budget : Option Int) :
    Shown [] home (final (flushHome uplink turn.weather
      (home.session.pulse home.session.standing.level budget)) home) := by
  obtain ⟨sent, same, shows⟩ := batchesOf_flush uplink turn.weather [] home.session budget
    home.buffers
  refine ⟨(List.append_nil _).symm, List.pairwise_singleton _ _, sent,
    List.replicate sent.length 0, same, List.pairwise_replicate_of_refl, ?_⟩
  clear same
  induction sent with
  | nil => exact .nil
  | cons lines rest inductionHypothesis =>
    rw [List.forall_mem_cons] at shows
    exact .cons ⟨home.session, rfl, shows.1⟩ (inductionHypothesis shows.2)

theorem shown_beat (turn : Beat) (home : Home) :
    ∃ passed, Shown passed home (final (beat uplink node connectorLevel turn) home) := by
  unfold beat asking
  simp only [final_bind, outcome_get, final_get, outcome_lift, final_lift, connectorLevel_eq,
    Except.mapError]
  cases turn.budget with
  | error error => exact ⟨[], shown_still home⟩
  | ok budget =>
    dsimp only
    rw [outcome_observe, final_observe]
    dsimp only
    rw [outcome_modify, final_modify]
    dsimp only
    have left (result : Except Fault Unit) (after : Home) :
        final (match result with
          | .error .cancelled => throw .cancelled
          | _ => return () : Method Home Fault Unit) after = after := by
      match result with
      | .ok () | .error .transport | .error .cancelled | .error (.python _) => rfl
    rw [left]
    obtain ⟨passed, meanwhile⟩ := shown_foldl (Home.undergo node) (shown_undergo node) turn.during
      (final (flushHome uplink turn.weather
        (home.session.pulse home.session.standing.level budget)) home)
    exact ⟨_, (shown_flushHome uplink home turn budget).append meanwhile⟩

theorem shown_heartbeatLoop (turns : List Beat) (home : Home) :
    ∃ passed, Shown passed home
      (final (heartbeatLoop uplink node connectorLevel turns) home) := by
  induction turns generalizing home with
  | nil => exact ⟨[], shown_still home⟩
  | cons turn rest inductionHypothesis =>
    unfold heartbeatLoop
    split
    · exact ⟨[], shown_still home⟩
    · rw [final_bind_ok (outcome_modify _ _), final_modify]
      obtain ⟨waits, before⟩ :=
        shown_foldl (Home.operate node) (shown_operate node) turn.before home
      cases turn.waking with
      | stopped => exact ⟨waits, before⟩
      | cancelled => exact ⟨waits, before⟩
      | due =>
        obtain ⟨flushes, beats⟩ := shown_beat uplink node turn (turn.before.foldl _ home)
        rw [final_bind]
        cases outcome (beat uplink node connectorLevel turn) (turn.before.foldl _ home) with
        | error fault => exact ⟨_, before.append beats⟩
        | ok value =>
          obtain ⟨passed, later⟩ := inductionHypothesis
            (final (beat uplink node connectorLevel turn) (turn.before.foldl _ home))
          exact ⟨_, (before.append beats).append later⟩

/-- **What the plane sees of a node is never taken back.** Over any run of the loop, each batch that
is sent shows a session that the run goes through, the later ones at no earlier time; and from each
of these sessions to those after it the version does not fall, what is consumed stays consumed, and
after a stop the level is restricted for good. -/
theorem plane_sees_advance (uplink : Uplink) (node : Node) (turns : List Beat) (home : Home) :
    ∃ passed sent times,
      (final (heartbeatLoop uplink node connectorLevel turns) home).trail = home.trail ++ passed ∧
      batchesOf (final (heartbeatLoop uplink node connectorLevel turns) home).buffers.requests =
        batchesOf home.buffers.requests ++ sent ∧
      times.Pairwise (· ≤ ·) ∧ List.Forall₂ (ShowsAt (home.session :: passed)) sent times ∧
      ((home.session :: passed).map Session.view).Pairwise View.Advances := by
  obtain ⟨passed, shown⟩ := shown_heartbeatLoop uplink node turns home
  obtain ⟨sent, times, same, sorted, shows⟩ := shown.sent
  exact ⟨passed, sent, times, shown.trail, same, sorted, shows,
    List.pairwise_map.mpr (shown.advances.imp Session.Advances.view)⟩

end Views

end AxorWrap.Plane
