/-
This file models the telemetry of a node: `PlaneClient.flush` with `_post_telemetry`, `_line`,
`_load_spool` and `_save_spool` (`axor_wrap/plane/client.py`).

The events a client holds are those in the outbox of its session and those on the lines of its
spool file. Each carries a stamp, which the code does not read: it is the identity of the event,
and tells two events of one content apart.

What the world does to a flush is data: whether the disk works, how each request and each wait
ends, and which events the rest of the program appends to the outbox in the meantime.
-/

import AxorWrap.Plane.Session
import AxorWrap.Library.Script

namespace AxorWrap.Plane

open Python Methods Checks Scripts

/-! ### What the client holds -/

/-- What holds an event, with the identity of the event. -/
structure Stamped (α : Type) where
  stamp : Nat
  content : α

def stamps {α : Type} (held : List (Stamped α)) : List Nat := held.map Stamped.stamp

/-- An exception, as a flush tells them apart: `httpx.HTTPError`, the cancellation of its task, and
any other. -/
inductive Fault
  | transport
  | cancelled
  | python (error : PyError)
deriving DecidableEq, Repr

/-- `json`, which writes an event as a line of text and reads it back. -/
structure Json where
  dumps : Value → Except PyError PyStr
  loads : PyStr → Except PyError Value

/-- What the constructor of a client fixes, as far as its telemetry reads it. -/
structure Uplink where
  nodeId : PyStr
  runId : PyStr
  spoolPath : Option PyStr := none
  json : Json

/-- An empty path is no path. -/
def Uplink.spools (uplink : Uplink) : Bool := uplink.spoolPath.any fun path => !path.isEmpty

/-- A request to the plane: a batch of telemetry under its idempotency key, or the notice that a
key of desired state is consumed. -/
inductive Request
  | telemetry (idempotencyKey runId : PyStr) (events : List Value)
  | consumed (key : PyStr)

/-- The outbox of the session, the lines of the spool file that are not blank, and the counter.
The rest the code does not read: the next stamp, the requests made so far, and the batches that
were acknowledged. -/
structure Buffers where
  outbox : List (Stamped Value) := []
  spool : Option (List (Stamped PyStr)) := none
  seq : Nat := 0
  issued : Nat := 0
  requests : List Request := []
  acknowledged : List (List Nat) := []

abbrev TelemetryMethod (α : Type) := Method Buffers Fault α

/-- The lines of the spool file. -/
def Buffers.lines (buffers : Buffers) : List (Stamped PyStr) := buffers.spool.getD []

/-- `outbox.append(event)`, by any part of the program. -/
def append (buffers : Buffers) (event : Value) : Buffers :=
  { buffers with
    outbox := buffers.outbox ++ [⟨buffers.issued, event⟩]
    issued := buffers.issued + 1 }

def arrive (events : List Value) (buffers : Buffers) : Buffers := events.foldl append buffers

def acknowledge (durable : List (Stamped Value)) (buffers : Buffers) : Buffers :=
  { buffers with acknowledged := buffers.acknowledged ++ [stamps durable] }

/-! ### What the world does -/

/-- How each access to the spool file ends. -/
structure Disk where
  reading : Except PyError Unit := .ok ()
  opening : Except PyError Unit := .ok ()
  replacing : Except PyError Unit := .ok ()
  removing : Except PyError Unit := .ok ()

/-- A request that is awaited: the events that arrive meanwhile, and how it ends. -/
structure Posting where
  arrivals : List Value := []
  answer : Except Fault Unit := .ok ()

/-- A sleep: the events that arrive meanwhile, and whether the task is cancelled in it. -/
structure Sleep where
  arrivals : List Value := []
  cancelled : Bool := false

/-- What a flush meets. The attempts, the sleeps between them and the notices are numbered from
zero; the time of a line is given by its number. -/
structure Weather where
  httpx : Bool := true
  disk : Disk := {}
  clock : Nat → PyStr
  idempotencyKey : PyStr
  postings : Nat → Posting
  sleeps : Nat → Sleep := fun _ => {}
  notices : Nat → Posting := fun _ => {}

/-- What a computation without the client raises is no failure of the transport. -/
def computing {α : Type} (computed : Except PyError α) : TelemetryMethod α :=
  liftM (computed.mapError Fault.python)

/-! ### The spool file -/

/-- Convert what holds each event, one after another. -/
def convert {α β : Type} (conversion : α → Except PyError β) (held : List (Stamped α)) :
    Except PyError (List (Stamped β)) :=
  held.mapM fun one => do return ⟨one.stamp, ← conversion one.content⟩

/-- `_load_spool`. -/
def loadSpool (uplink : Uplink) (disk : Disk) (spool : Option (List (Stamped PyStr))) :
    Except PyError (List (Stamped Value)) :=
  match spool with
  | some lines =>
    if uplink.spools then do
      disk.reading
      convert uplink.json.loads lines
    else return []
  | none => return []

/-- The spool file when the events are saved. The lines are written to a file beside it, which then
takes its place. -/
def saved (json : Json) (disk : Disk) (events : List (Stamped Value))
    (spool : Option (List (Stamped PyStr))) : Except PyError (Option (List (Stamped PyStr))) :=
  if events.isEmpty then do
    if spool.isSome then
      disk.removing
    return none
  else do
    disk.opening
    let lines ← convert json.dumps events
    disk.replacing
    return some lines

/-- `_save_spool`. -/
def saveSpool (uplink : Uplink) (disk : Disk) (events : List (Stamped Value)) :
    TelemetryMethod Unit := do
  if uplink.spools then
    let spool ← computing (saved uplink.json disk events (← get).spool)
    modify fun buffers => { buffers with spool := spool }

/-! ### A flush -/

/-- What the heartbeat of a session reports. -/
structure Pulse where
  appliedVersion : Int := 0
  consumedInjectionIds : List PyStr := []
  level : PyStr := "NORMAL"
  budgetRemaining : Option Int := none

/-- `PlaneSession.heartbeat`. -/
def heartbeat (pulse : Pulse) : Value :=
  .dict [field "kind" (.str EventKind.heartbeat.text),
    field "payload" (.dict [field "applied_version" (.int pulse.appliedVersion),
      field "consumed_injection_ids" (.list (pulse.consumedInjectionIds.map .str)),
      field "level" (.str pulse.level),
      field "budget_remaining" (pulse.budgetRemaining.elim .null .int)])]

/-- `_line`. The counter moves on before the event is looked at. -/
def lineOf (uplink : Uplink) (clock : Nat → PyStr) (event : Value) : TelemetryMethod Value := do
  let seq := (← get).seq
  modify fun buffers => { buffers with seq := seq + 1 }
  let kind ← computing (event.item "kind")
  let payload ← computing (event.get "payload" (.dict []))
  return .dict [field "schema_version" (.str "1.0"), field "seq" (.int seq),
    field "node_id" (.str uplink.nodeId), field "kind" kind, field "ts" (.str (clock seq)),
    field "causal_root" .null, field "gate" .null, field "verdict" .null,
    field "payload" payload]

/-- A flush before its first request: the durable events, and all events with their lines. -/
structure Batch where
  durable : List (Stamped Value)
  events : List Value
  lines : List Value

/-- The spooled events and those of the outbox, which leave it, are lined up with the rest. -/
def gather (uplink : Uplink) (weather : Weather) (extra : List Value) (pulse : Pulse) :
    TelemetryMethod Batch := do
  let loaded ← computing (loadSpool uplink weather.disk (← get).spool)
  let durable := loaded ++ (← get).outbox
  modify fun buffers => { buffers with outbox := [] }
  let events := durable.map Stamped.content ++ extra ++ [heartbeat pulse]
  let lines ← events.mapM (lineOf uplink weather.clock)
  return ⟨durable, events, lines⟩

/-- One request. -/
def post (request : Request) (posting : Posting) : TelemetryMethod Unit := do
  modify fun buffers => { buffers with requests := buffers.requests ++ [request] }
  modify (arrive posting.arrivals)
  liftM posting.answer

def sleep (sleep : Sleep) : TelemetryMethod Unit := do
  modify (arrive sleep.arrivals)
  if sleep.cancelled then
    throw .cancelled

/-- `_TELEMETRY_ATTEMPTS`. -/
def telemetryAttempts : Nat := 3

/-- The attempts of `_post_telemetry` that are left. -/
def postAttempts (weather : Weather) (request : Request) : List Nat → TelemetryMethod Unit
  | [] => throw .transport
  | attempt :: rest => do
    match ← observe (post request (weather.postings attempt)) with
    | .ok () => return ()
    | .error .transport =>
      if attempt < telemetryAttempts - 1 then
        sleep (weather.sleeps attempt)
      postAttempts weather request rest
    | .error fault => throw fault

/-- `_post_telemetry`. -/
def postTelemetry (uplink : Uplink) (weather : Weather) (lines : List Value) :
    TelemetryMethod Unit :=
  postAttempts weather (.telemetry weather.idempotencyKey uplink.runId lines)
    (List.range telemetryAttempts)

/-- The durable events of a batch that was not acknowledged are held for the next flush. -/
def restore (uplink : Uplink) (disk : Disk) (durable : List (Stamped Value)) :
    TelemetryMethod Unit :=
  if uplink.spools then saveSpool uplink disk durable
  else modify fun buffers => { buffers with outbox := durable ++ buffers.outbox }

/-- The key of desired state that an acknowledgement of this kind consumes. -/
def consumedKey (kind : Value) : Option PyStr :=
  if kind.eq (.str "injection_consumed") then some "pending_injection"
  else if kind.eq (.str "context_excision") then some "pending_excision"
  else none

/-- Tell the plane which keys the events consumed, as far as the transport allows. -/
def notify (weather : Weather) (events : List Value) : TelemetryMethod Unit :=
  events.zipIdx.forM fun (event, index) => do
    match consumedKey (← computing (event.item "kind")) with
    | none => pure ()
    | some key =>
      match ← observe (post (.consumed key) (weather.notices index)) with
      | .ok () | .error .transport => pure ()
      | .error fault => throw fault

/-- A flush from its first request. -/
def deliver (uplink : Uplink) (weather : Weather) (batch : Batch) : TelemetryMethod Unit := do
  match ← observe (postTelemetry uplink weather batch.lines) with
  | .error .transport => restore uplink weather.disk batch.durable
  | .error fault => throw fault
  | .ok () =>
    modify (acknowledge batch.durable)
    saveSpool uplink weather.disk []
    notify weather batch.events

/-- `PlaneClient.flush`. -/
def flush (uplink : Uplink) (weather : Weather) (extra : List Value) (pulse : Pulse) :
    TelemetryMethod Unit := do
  if !weather.httpx then
    throw (.python .importError)
  deliver uplink weather (← gather uplink weather extra pulse)

/-! ### The spool file read and written -/

theorem convert_eq_ok {α β : Type} {conversion : α → Except PyError β} {held : List (Stamped α)}
    {converted : List (Stamped β)} :
    convert conversion held = .ok converted ↔
      List.Forall₂ (fun one other => other.stamp = one.stamp ∧
        conversion one.content = .ok other.content) held converted := by
  unfold convert
  rw [mapM_eq_ok]
  have same : ∀ (one : Stamped α) (other : Stamped β),
      (do return ⟨one.stamp, ← conversion one.content⟩ : Except PyError (Stamped β)) = .ok other ↔
        other.stamp = one.stamp ∧ conversion one.content = .ok other.content := by
    intro one other
    cases other with
    | mk stamp content =>
      cases conversion one.content with
      | error error => exact ⟨fun same => (nomatch same), fun ⟨_, same⟩ => (nomatch same)⟩
      | ok result =>
        simp only [bind_pure_comp, Except.map_ok, Except.ok.injEq, Stamped.mk.injEq]
        exact and_congr_left' eq_comm
  simp only [same]

theorem stamps_convert {α β : Type} {conversion : α → Except PyError β} {held : List (Stamped α)}
    {converted : List (Stamped β)} (done : convert conversion held = .ok converted) :
    stamps converted = stamps held := by
  have paired := convert_eq_ok.mp done
  clear done
  induction paired with
  | nil => rfl
  | cons same _ inductionHypothesis =>
    rw [stamps, stamps, List.map_cons, List.map_cons, same.1]
    exact congrArg (_ :: ·) inductionHypothesis

theorem exists_convert {α β : Type} {conversion : α → Except PyError β}
    {held : List (Stamped α)} :
    (∃ converted, convert conversion held = .ok converted) ↔
      ∀ one ∈ held, ∃ content, conversion one.content = .ok content := by
  simp only [convert_eq_ok]
  induction held with
  | nil => exact iff_of_true ⟨[], .nil⟩ (List.forall_mem_nil _)
  | cons one rest inductionHypothesis =>
    rw [List.forall_mem_cons, ← inductionHypothesis]
    constructor
    · rintro ⟨_, paired⟩
      cases paired with
      | cons first later => exact ⟨⟨_, first.2⟩, _, later⟩
    · rintro ⟨⟨content, first⟩, others, later⟩
      exact ⟨⟨one.stamp, content⟩ :: others, .cons ⟨rfl, first⟩ later⟩

/-! ### The lines of a batch -/

/-- The event has what a line is made of. -/
def HasKind (event : Value) : Prop := ∃ kind, event.item "kind" = .ok kind

theorem final_lineOf (uplink : Uplink) (clock : Nat → PyStr) (event : Value) (buffers : Buffers) :
    final (lineOf uplink clock event) buffers = { buffers with seq := buffers.seq + 1 } := by
  unfold lineOf computing
  simp only [final_bind, outcome_get, final_get, outcome_modify, final_modify, outcome_lift,
    final_lift]
  cases event.item "kind" with
  | error error => rfl
  | ok kind => cases event.get "payload" (.dict []) <;> rfl

theorem succeeds_lineOf (uplink : Uplink) (clock : Nat → PyStr) (event : Value)
    (buffers : Buffers) : Succeeds (lineOf uplink clock event) buffers ↔ HasKind event := by
  unfold lineOf computing HasKind
  rw [succeeds_get, succeeds_seq, and_iff_right ⟨_, outcome_modify _ _⟩, succeeds_bind]
  simp only [outcome_lift]
  cases event with
  | dict entries =>
    cases lookedUp : Value.item (.dict entries) "kind" with
    | error error => exact ⟨fun ⟨_, same, _⟩ => (nomatch same), fun ⟨_, same⟩ => (nomatch same)⟩
    | ok kind =>
      exact iff_of_true ⟨kind, rfl, succeeds_bind.mpr ⟨_, rfl, succeeds_pure _ _⟩⟩ ⟨kind, rfl⟩
  | _ => exact ⟨fun ⟨_, same, _⟩ => (nomatch same), fun ⟨_, same⟩ => (nomatch same)⟩

/-- Only the counter moved. -/
def Counted (before after : Buffers) : Prop := after = { before with seq := after.seq }

instance : Std.Refl Counted := ⟨fun _ => rfl⟩

instance : IsTrans Buffers Counted where
  trans first second third one two := by
    unfold Counted at *
    rw [two, one]

theorem counted_lines (uplink : Uplink) (clock : Nat → PyStr) (events : List Value)
    (buffers : Buffers) :
    Counted buffers (final (events.mapM (lineOf uplink clock)) buffers) :=
  related_mapM (fun event state => by rw [Counted, final_lineOf]) events buffers

theorem hasKind_heartbeat (pulse : Pulse) : HasKind (heartbeat pulse) := ⟨_, rfl⟩

/-! ### What a flush does before its first request -/

section Gather

variable (uplink : Uplink) (weather : Weather) (extra : List Value) (pulse : Pulse)
  (buffers : Buffers)

/-- A spool that cannot be read stops the flush before it takes anything. -/
theorem gather_of_unread {error : PyError}
    (unread : loadSpool uplink weather.disk buffers.spool = .error error) :
    outcome (gather uplink weather extra pulse) buffers = .error (.python error) ∧
      final (gather uplink weather extra pulse) buffers = buffers := by
  unfold gather computing
  simp only [outcome_bind, final_bind, outcome_get, final_get, outcome_lift, final_lift, unread]
  exact ⟨rfl, rfl⟩

/-- The outbox is empty before the events are lined up, which an event without a kind prevents. -/
theorem gather_of_read {loaded : List (Stamped Value)}
    (read : loadSpool uplink weather.disk buffers.spool = .ok loaded) :
    (∃ seq, final (gather uplink weather extra pulse) buffers =
        { buffers with outbox := [], seq := seq }) ∧
      (Succeeds (gather uplink weather extra pulse) buffers ↔
        (∀ event ∈ loaded, HasKind event.content) ∧
          (∀ event ∈ buffers.outbox, HasKind event.content) ∧ ∀ event ∈ extra, HasKind event) ∧
      ∀ batch, outcome (gather uplink weather extra pulse) buffers = .ok batch →
        batch.durable = loaded ++ buffers.outbox := by
  let events := (loaded ++ buffers.outbox).map Stamped.content ++ extra ++ [heartbeat pulse]
  have all : (∀ event ∈ events, HasKind event) ↔ (∀ event ∈ loaded, HasKind event.content) ∧
      (∀ event ∈ buffers.outbox, HasKind event.content) ∧ ∀ event ∈ extra, HasKind event := by
    simp only [events, List.forall_mem_append, List.map_append, List.forall_mem_map,
      List.mem_singleton, forall_eq, hasKind_heartbeat, and_true, and_assoc]
  have lined := counted_lines uplink weather.clock events { buffers with outbox := [] }
  have succeeds := succeeds_mapM (succeeds_lineOf uplink weather.clock) events
    { buffers with outbox := [] }
  rw [← all, ← succeeds]
  unfold gather computing Succeeds
  simp only [outcome_bind, final_bind, outcome_get, final_get, outcome_lift, final_lift, read,
    Except.mapError, outcome_modify, final_modify]
  cases went : outcome (events.mapM (lineOf uplink weather.clock))
      { buffers with outbox := [] } with
  | error fault =>
    exact ⟨⟨_, lined⟩, ⟨fun ⟨_, same⟩ => (nomatch same), fun ⟨_, same⟩ => (nomatch same)⟩,
      fun _ same => (nomatch same)⟩
  | ok lines =>
    refine ⟨⟨_, lined⟩, iff_of_true ⟨_, rfl⟩ ⟨_, rfl⟩, fun batch same => ?_⟩
    cases same
    rfl

/-- Gathering leaves the buffers as they are, or takes the outbox and numbers the lines. -/
theorem gather_writes :
    final (gather uplink weather extra pulse) buffers = buffers ∨
      ∃ seq, final (gather uplink weather extra pulse) buffers =
        { buffers with outbox := [], seq := seq } := by
  cases read : loadSpool uplink weather.disk buffers.spool with
  | error error => exact .inl (gather_of_unread uplink weather extra pulse buffers read).2
  | ok loaded => exact .inr (gather_of_read uplink weather extra pulse buffers read).1

/-- A gathered batch has the events of the spool, of the outbox and of the caller, lined up. -/
theorem gathered_ok {batch : Batch}
    (gathered : outcome (gather uplink weather extra pulse) buffers = .ok batch) :
    ∃ loaded lines,
      loadSpool uplink weather.disk buffers.spool = .ok loaded ∧
      batch = ⟨loaded ++ buffers.outbox,
        (loaded ++ buffers.outbox).map Stamped.content ++ extra ++ [heartbeat pulse], lines⟩ ∧
      outcome (batch.events.mapM (lineOf uplink weather.clock)) { buffers with outbox := [] } =
        .ok lines ∧
      final (gather uplink weather extra pulse) buffers =
        final (batch.events.mapM (lineOf uplink weather.clock)) { buffers with outbox := [] } := by
  unfold gather computing at gathered ⊢
  simp only [outcome_bind, final_bind, outcome_get, final_get, outcome_lift, final_lift,
    outcome_modify, final_modify] at gathered ⊢
  cases read : loadSpool uplink weather.disk buffers.spool with
  | error error =>
    rw [read] at gathered
    cases gathered
  | ok loaded =>
    rw [read] at gathered
    simp only [Except.mapError] at gathered ⊢
    split at gathered
    next lines lined =>
      cases gathered
      exact ⟨loaded, lines, rfl, rfl, lined, rfl⟩
    next => cases gathered

/-- A flush gathers and delivers, when the transport is there. -/
theorem flush_of_httpx (able : weather.httpx = true) :
    flush uplink weather extra pulse = gather uplink weather extra pulse >>=
      deliver uplink weather := by
  unfold flush
  simp only [able, Bool.not_true, Bool.false_eq_true, if_false]

end Gather

/-! ### What happens while a flush waits -/

/-- Requests were made, and events arrived at the end of the outbox. -/
structure Awaited (before after : Buffers) : Prop where
  spool : after.spool = before.spool
  acknowledged : after.acknowledged = before.acknowledged
  outbox : ∃ arrivals, after.outbox = before.outbox ++ arrivals ∧
    stamps arrivals = List.range' before.issued (after.issued - before.issued)
  issued : before.issued ≤ after.issued

instance : Std.Refl Awaited where
  refl buffers :=
    { spool := rfl
      acknowledged := rfl
      outbox := ⟨[], (List.append_nil _).symm, by simp [stamps]⟩
      issued := le_rfl }

instance : IsTrans Buffers Awaited where
  trans first second third one two := by
    obtain ⟨early, appendedEarly, stampedEarly⟩ := one.outbox
    obtain ⟨late, appendedLate, stampedLate⟩ := two.outbox
    refine ⟨two.spool.trans one.spool, two.acknowledged.trans one.acknowledged,
      ⟨early ++ late, ?_, ?_⟩, one.issued.trans two.issued⟩
    · rw [appendedLate, appendedEarly, List.append_assoc]
    · have split : third.issued - first.issued =
          (second.issued - first.issued) + (third.issued - second.issued) := by
        have := one.issued
        have := two.issued
        omega
      have joins : first.issued + 1 * (second.issued - first.issued) = second.issued := by
        have := one.issued
        omega
      rw [split, ← List.range'_append, joins, ← stampedEarly, ← stampedLate, stamps, stamps,
        stamps, List.map_append]

theorem awaited_append (buffers : Buffers) (event : Value) :
    Awaited buffers (append buffers event) where
  spool := rfl
  acknowledged := rfl
  outbox := ⟨[⟨buffers.issued, event⟩], rfl, by simp [append, stamps]⟩
  issued := Nat.le_succ _

theorem awaited_arrive (events : List Value) (buffers : Buffers) :
    Awaited buffers (arrive events buffers) := by
  unfold arrive
  induction events generalizing buffers with
  | nil => exact Std.Refl.refl buffers
  | cons event rest inductionHypothesis =>
    exact IsTrans.trans _ _ _ (awaited_append buffers event) (inductionHypothesis _)

theorem awaited_post (request : Request) (posting : Posting) (buffers : Buffers) :
    Awaited buffers (final (post request posting) buffers) := by
  have asked : Awaited buffers { buffers with requests := buffers.requests ++ [request] } :=
    ⟨rfl, rfl, ⟨[], (List.append_nil _).symm, by simp [stamps]⟩, le_rfl⟩
  exact related_bind asked fun _ _ => related_bind (awaited_arrive _ _) fun _ _ => Std.Refl.refl _

theorem awaited_sleep (pause : Sleep) (buffers : Buffers) :
    Awaited buffers (final (sleep pause) buffers) := by
  refine related_bind (awaited_arrive _ _) fun _ _ => ?_
  cases pause.cancelled <;> exact Std.Refl.refl _

theorem outcome_sleep (pause : Sleep) (buffers : Buffers) :
    outcome (sleep pause) buffers = if pause.cancelled then .error .cancelled else .ok () := by
  unfold sleep
  rw [outcome_bind, outcome_modify]
  cases pause.cancelled <;> rfl

theorem requests_arrive (events : List Value) (buffers : Buffers) :
    (arrive events buffers).requests = buffers.requests := by
  unfold arrive
  induction events generalizing buffers with
  | nil => rfl
  | cons event rest inductionHypothesis => exact inductionHypothesis (append buffers event)

theorem requests_post (request : Request) (posting : Posting) (buffers : Buffers) :
    (final (post request posting) buffers).requests = buffers.requests ++ [request] := by
  show (arrive posting.arrivals { buffers with requests := buffers.requests ++ [request] }).requests
    = _
  exact requests_arrive _ _

/-- The attempt fails in the transport, and the wait after it is not cut short. -/
def Weather.Fails (weather : Weather) (attempt : Nat) : Prop :=
  (weather.postings attempt).answer = .error .transport ∧
    (attempt < telemetryAttempts - 1 → (weather.sleeps attempt).cancelled = false)

/-- The attempts keep what a request and a sleep keep. -/
theorem related_postAttempts {R : Buffers → Buffers → Prop} [Std.Refl R] [IsTrans Buffers R]
    (posts : ∀ request posting buffers, R buffers (final (post request posting) buffers))
    (sleeps : ∀ pause buffers, R buffers (final (sleep pause) buffers)) (weather : Weather)
    (request : Request) (attempts : List Nat) (buffers : Buffers) :
    R buffers (final (postAttempts weather request attempts) buffers) := by
  induction attempts generalizing buffers with
  | nil => exact Std.Refl.refl buffers
  | cons attempt rest inductionHypothesis =>
    refine related_bind (posts request _ buffers) fun result _ => ?_
    match result with
    | .ok () => exact Std.Refl.refl _
    | .error .transport =>
      show R _ (final (if attempt < telemetryAttempts - 1 then do
          sleep (weather.sleeps attempt)
          postAttempts weather request rest
        else postAttempts weather request rest) _)
      split
      · exact related_bind (sleeps _ _) fun _ _ => inductionHypothesis _
      · exact inductionHypothesis _
    | .error .cancelled => exact Std.Refl.refl _
    | .error (.python error) => exact Std.Refl.refl _

theorem awaited_postAttempts (weather : Weather) (request : Request) (attempts : List Nat)
    (buffers : Buffers) :
    Awaited buffers (final (postAttempts weather request attempts) buffers) :=
  related_postAttempts awaited_post awaited_sleep weather request attempts buffers

/-- The attempts end in `httpx.HTTPError` exactly when all of them fail. -/
theorem outcome_postAttempts_eq_transport (weather : Weather) (request : Request)
    (attempts : List Nat) (buffers : Buffers) :
    outcome (postAttempts weather request attempts) buffers = .error .transport ↔
      ∀ attempt ∈ attempts, weather.Fails attempt := by
  induction attempts generalizing buffers with
  | nil => exact iff_of_true rfl (List.forall_mem_nil _)
  | cons attempt rest inductionHypothesis =>
    have answered : outcome (post request (weather.postings attempt)) buffers =
        (weather.postings attempt).answer := rfl
    rw [List.forall_mem_cons, Weather.Fails, postAttempts,
      outcome_bind_ok (outcome_observe _ _), answered]
    match (weather.postings attempt).answer with
    | .ok () => exact iff_of_false (fun same => nomatch same) fun both => nomatch both.1.1
    | .error .cancelled =>
      exact iff_of_false (fun same => nomatch same) fun both => nomatch both.1.1
    | .error (.python _) =>
      exact iff_of_false (fun same => nomatch same) fun both => nomatch both.1.1
    | .error .transport =>
      show outcome (if attempt < telemetryAttempts - 1 then do
          sleep (weather.sleeps attempt)
          postAttempts weather request rest
        else postAttempts weather request rest) _ = .error .transport ↔ _
      by_cases early : attempt < telemetryAttempts - 1
      · rw [if_pos early, outcome_bind, outcome_sleep]
        cases (weather.sleeps attempt).cancelled with
        | true =>
          exact iff_of_false (fun same => nomatch same) fun both =>
            Bool.false_ne_true (both.1.2 early).symm
        | false =>
          exact (inductionHypothesis _).trans (and_iff_right ⟨rfl, fun _ => rfl⟩).symm
      · rw [if_neg early]
        exact (inductionHypothesis _).trans
          (and_iff_right ⟨rfl, fun isEarly => absurd isEarly early⟩).symm

/-! ### What happens when the requests have ended -/

theorem final_saveSpool (uplink : Uplink) (disk : Disk) (events : List (Stamped Value))
    (buffers : Buffers) :
    final (saveSpool uplink disk events) buffers =
      if uplink.spools then
        match saved uplink.json disk events buffers.spool with
        | .ok spool => { buffers with spool := spool }
        | .error _ => buffers
      else buffers := by
  unfold saveSpool computing
  cases uplink.spools with
  | false => rfl
  | true =>
    simp only [if_true, final_bind, outcome_get, final_get, outcome_lift, final_lift]
    cases saved uplink.json disk events buffers.spool <;> rfl

/-- Saving writes the spool and nothing else. -/
theorem saveSpool_writes (uplink : Uplink) (disk : Disk) (events : List (Stamped Value))
    (buffers : Buffers) :
    ∃ spool, final (saveSpool uplink disk events) buffers = { buffers with spool := spool } := by
  rw [final_saveSpool]
  split
  · split
    · exact ⟨_, rfl⟩
    · exact ⟨buffers.spool, rfl⟩
  · exact ⟨buffers.spool, rfl⟩

theorem acknowledged_saveSpool (uplink : Uplink) (disk : Disk) (events : List (Stamped Value))
    (buffers : Buffers) :
    (final (saveSpool uplink disk events) buffers).acknowledged = buffers.acknowledged := by
  obtain ⟨spool, same⟩ := saveSpool_writes uplink disk events buffers
  rw [same]

/-- The notices keep what a request keeps. -/
theorem related_notify {R : Buffers → Buffers → Prop} [Std.Refl R] [IsTrans Buffers R]
    (posts : ∀ request posting buffers, R buffers (final (post request posting) buffers))
    (weather : Weather) (events : List Value) (buffers : Buffers) :
    R buffers (final (notify weather events) buffers) := by
  refine related_forM (fun item state => ?_) events.zipIdx buffers
  refine related_bind (Std.Refl.refl state) fun kind _ => ?_
  match consumedKey kind with
  | none => exact Std.Refl.refl _
  | some key =>
    refine related_bind (posts _ _ _) fun result _ => ?_
    match result with
    | .ok () | .error .transport | .error .cancelled | .error (.python _) => exact Std.Refl.refl _

theorem awaited_notify (weather : Weather) (events : List Value) (buffers : Buffers) :
    Awaited buffers (final (notify weather events) buffers) :=
  related_notify awaited_post weather events buffers

/-! ### The ends of a flush -/

section Flush

variable (uplink : Uplink) (weather : Weather) (extra : List Value) (pulse : Pulse)
  (buffers : Buffers)

/-- A flush without an acknowledgement ends before it takes anything; or when the events are lined
up; or after its requests, and only when they all failed it restores what it took. -/
inductive Ends (left : Buffers) : Prop
  | untouched (unable : weather.httpx = false ∨
      ∀ loaded, loadSpool uplink weather.disk buffers.spool ≠ .ok loaded)
    (same : left = buffers)
  | unlined (able : weather.httpx = true) (loaded : List (Stamped Value))
    (read : loadSpool uplink weather.disk buffers.spool = .ok loaded)
    (unlined : ¬ ((∀ event ∈ loaded, HasKind event.content) ∧
      (∀ event ∈ buffers.outbox, HasKind event.content) ∧ ∀ event ∈ extra, HasKind event))
    (seq : Nat) (taken : left = { buffers with outbox := [], seq := seq })
  | interrupted (able : weather.httpx = true) (loaded : List (Stamped Value))
    (read : loadSpool uplink weather.disk buffers.spool = .ok loaded)
    (interrupted : ∃ attempt < telemetryAttempts, ¬ weather.Fails attempt)
    (seq : Nat) (waited : Awaited { buffers with outbox := [], seq := seq } left)
  | restored (able : weather.httpx = true) (loaded : List (Stamped Value))
    (read : loadSpool uplink weather.disk buffers.spool = .ok loaded)
    (lined : (∀ event ∈ loaded, HasKind event.content) ∧
      (∀ event ∈ buffers.outbox, HasKind event.content) ∧ ∀ event ∈ extra, HasKind event)
    (failed : ∀ attempt < telemetryAttempts, weather.Fails attempt)
    (seq : Nat) (waiting : Buffers)
    (waited : Awaited { buffers with outbox := [], seq := seq } waiting)
    (restores : left = final (restore uplink weather.disk (loaded ++ buffers.outbox)) waiting)

/-- An acknowledgement stays on record. -/
theorem acknowledged_delivered (durable : List (Stamped Value)) (events : List Value)
    (waiting : Buffers) :
    (final (do
        modify (acknowledge durable)
        saveSpool uplink weather.disk []
        notify weather events : TelemetryMethod Unit) waiting).acknowledged =
      waiting.acknowledged ++ [stamps durable] := by
  rw [final_bind, outcome_modify, final_modify, final_bind]
  cases outcome (saveSpool uplink weather.disk []) (acknowledge durable waiting) with
  | error fault => exact acknowledged_saveSpool _ _ _ _
  | ok value => exact (awaited_notify _ _ _).acknowledged.trans (acknowledged_saveSpool _ _ _ _)

theorem outcome_postTelemetry_eq_transport (lines : List Value) (buffers : Buffers) :
    outcome (postTelemetry uplink weather lines) buffers = .error .transport ↔
      ∀ attempt < telemetryAttempts, weather.Fails attempt := by
  refine (outcome_postAttempts_eq_transport _ _ _ _).trans ?_
  simp only [List.mem_range]

/-- After the events are taken, they are restored when every request failed, and left where they
are when the requests ended in another way. -/
theorem final_deliver_unacknowledged (batch : Batch) (buffers : Buffers)
    (unacknowledged : (final (deliver uplink weather batch) buffers).acknowledged =
      buffers.acknowledged) :
    ∃ waiting, Awaited buffers waiting ∧
      (((∃ attempt < telemetryAttempts, ¬ weather.Fails attempt) ∧
          final (deliver uplink weather batch) buffers = waiting) ∨
        ((∀ attempt < telemetryAttempts, weather.Fails attempt) ∧
          final (deliver uplink weather batch) buffers =
            final (restore uplink weather.disk batch.durable) waiting)) := by
  have waited : Awaited buffers (final (postTelemetry uplink weather batch.lines) buffers) :=
    awaited_postAttempts _ _ _ _
  have interrupted (other : outcome (postTelemetry uplink weather batch.lines) buffers ≠
      .error .transport) : ∃ attempt < telemetryAttempts, ¬ weather.Fails attempt := by
    by_contra none
    push Not at none
    exact other ((outcome_postTelemetry_eq_transport uplink weather _ _).mpr none)
  unfold deliver at unacknowledged ⊢
  rw [final_bind, outcome_observe, final_observe] at unacknowledged ⊢
  refine ⟨_, waited, ?_⟩
  match ended : outcome (postTelemetry uplink weather batch.lines) buffers with
  | .error .transport =>
    exact .inr ⟨(outcome_postTelemetry_eq_transport uplink weather _ _).mp ended, rfl⟩
  | .error .cancelled =>
    exact .inl ⟨interrupted fun same => (nomatch ended.symm.trans same), rfl⟩
  | .error (.python error) =>
    exact .inl ⟨interrupted fun same => (nomatch ended.symm.trans same), rfl⟩
  | .ok () =>
    rw [ended] at unacknowledged
    have longer := congrArg List.length
      ((acknowledged_delivered _ _ _ _ _).symm.trans unacknowledged)
    rw [waited.acknowledged, List.length_append] at longer
    simp at longer

theorem ends_of_unacknowledged
    (unacknowledged : (final (flush uplink weather extra pulse) buffers).acknowledged =
      buffers.acknowledged) :
    Ends uplink weather extra buffers (final (flush uplink weather extra pulse) buffers) := by
  unfold flush at unacknowledged ⊢
  cases able : weather.httpx with
  | false => exact .untouched (.inl able) rfl
  | true =>
    simp only [able, Bool.not_true, Bool.false_eq_true, if_false] at unacknowledged ⊢
    cases read : loadSpool uplink weather.disk buffers.spool with
    | error error =>
      obtain ⟨raises, same⟩ := gather_of_unread uplink weather extra pulse buffers read
      refine .untouched (.inr fun loaded same => (nomatch read.symm.trans same)) ?_
      rw [final_bind, raises]
      exact same
    | ok loaded =>
      obtain ⟨⟨seq, taken⟩, succeeds, batches⟩ :=
        gather_of_read uplink weather extra pulse buffers read
      rw [final_bind] at unacknowledged ⊢
      cases gathered : outcome (gather uplink weather extra pulse) buffers with
      | error fault =>
        refine .unlined able loaded read (fun lined => ?_) seq taken
        obtain ⟨batch, same⟩ := succeeds.mpr lined
        cases gathered.symm.trans same
      | ok batch =>
        simp only [gathered, taken] at unacknowledged ⊢
        obtain ⟨waiting, waited, ⟨interrupted, left⟩ | ⟨failed, left⟩⟩ :=
          final_deliver_unacknowledged uplink weather batch _ unacknowledged
        · rw [left]
          exact .interrupted able loaded read interrupted seq waited
        · rw [left, batches batch gathered]
          exact .restored able loaded read (succeeds.mp ⟨batch, gathered⟩) failed seq waiting
            waited rfl

end Flush

end AxorWrap.Plane
