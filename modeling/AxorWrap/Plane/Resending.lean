/-
This file says how often the backend stores an event. It ignores a batch whose idempotency key it
has stored and an event whose run, node and number it has stored. The attempts of one flush carry
one key and one set of numbers, so they count once. But another flush draws a new key, and
numbers again every event it sends.

So an event that was stored is stored again when a later flush sends it: when all the requests
of a flush failed, though one of them reached the backend, and the events went back to the outbox
or the spool; and when the events of the spool stayed there because the flush was
interrupted, or the file could not be removed. This file proves that in every run in which no
flush ends so, each event is stored at most once, and once it is acknowledged exactly once.
-/

import AxorWrap.Plane.Durability
import AxorWrap.Library.Machine
import AxorWrap.Library.Dedup

namespace AxorWrap.Plane

open Python Methods Checks Scripts Machines Dedup

/-! ### The backend -/

/-- A line as the backend stores it. The stamp is the identity of the event on the line, if it is
a durable one, and no part of what is sent. -/
structure Record where
  stamp : Option Nat
  runId : PyStr
  line : Value

/-- Run, node and number of a line: `(run_id, node_id, seq)`. -/
def Record.identity (record : Record) : PyStr × Option PyStr × Option Int :=
  (record.runId,
    match record.line.item "node_id" with
    | .ok (.str nodeId) => some nodeId
    | _ => none,
    match record.line.item "seq" with
    | .ok (.int seq) => some seq
    | _ => none)

/-- The batches the backend has stored by their keys, and the lines. -/
abbrev Backend := Store PyStr Record

/-- The durable events on the lines the backend has stored. -/
def stored (backend : Backend) : List Nat := backend.records.filterMap Record.stamp

/-- The lines of the durable events come first, each with the stamp of its event. -/
def Batch.records (runId : PyStr) (batch : Batch) : List Record :=
  (((stamps batch.durable).map some ++
    List.replicate (batch.lines.length - batch.durable.length) none).zip batch.lines).map
      fun (stamp, line) => ⟨stamp, runId, line⟩

/-! ### Flushes and their requests -/

instance (weather : Weather) (attempt : Nat) : Decidable (weather.Fails attempt) :=
  inferInstanceAs (Decidable (_ ∧ _))

/-- The attempts that are made: they end with the first that does not fail. -/
def Weather.made (weather : Weather) : List Nat → List Nat
  | [] => []
  | attempt :: rest => attempt :: if weather.Fails attempt then weather.made rest else []

/-- What a flush meets, and which of its requests the backend receives. One that is answered was
received; of one that is not, the request or the response was lost. -/
structure Passage where
  weather : Weather
  reaches : Nat → Bool
  answered : ∀ attempt, (weather.postings attempt).answer = .ok () → reaches attempt = true

/-- A client and its backend. -/
structure Relay where
  buffers : Buffers
  backend : Backend := {}

/-- An event joins the outbox, or a flush runs from its start to its end. -/
inductive Act
  | append (event : Value)
  | flush (passage : Passage) (extra : List Value) (pulse : Pulse)

variable (uplink : Uplink)

/-- What the requests of a flush leave in the backend. -/
def Backend.receive (backend : Backend) (passage : Passage) (batch : Batch) : Backend :=
  (passage.weather.made (List.range telemetryAttempts)).foldl (fun backend attempt =>
    if passage.reaches attempt then
      backend.submit Record.identity passage.weather.idempotencyKey (batch.records uplink.runId)
    else backend) backend

def Relay.next (relay : Relay) : Act → Relay
  | .append event => { relay with buffers := append relay.buffers event }
  | .flush passage extra pulse =>
    { buffers := final (flush uplink passage.weather extra pulse) relay.buffers
      backend :=
        if passage.weather.httpx then
          match outcome (gather uplink passage.weather extra pulse) relay.buffers with
          | .ok batch => relay.backend.receive uplink passage batch
          | .error _ => relay.backend
        else relay.backend }

/-- A client whose flushes do not overlap, each act answered without a value. -/
def relaying : Machine Relay Act Unit where
  answer _ _ := ()
  next := Relay.next uplink

/-- The idempotency keys the flushes draw. -/
def keysDrawn (acts : List Act) : List PyStr :=
  acts.filterMap fun
    | .append _ => none
    | .flush passage _ _ => some passage.weather.idempotencyKey

/-! ### The requests that are made -/

section Attempts

variable {weather : Weather} (request : Request) {attempt : Nat} (rest : List Nat)
  (buffers : Buffers)

/-- After an attempt that fails the others are made. -/
theorem postAttempts_of_fails (fails : weather.Fails attempt) :
    ∃ left : Buffers, left.requests = buffers.requests ++ [request] ∧
      outcome (postAttempts weather request (attempt :: rest)) buffers =
        outcome (postAttempts weather request rest) left ∧
      final (postAttempts weather request (attempt :: rest)) buffers =
        final (postAttempts weather request rest) left := by
  have posts : outcome (observe (post request (weather.postings attempt))) buffers =
      .ok (.error .transport) := congrArg Except.ok fails.1
  have requests := requests_post request (weather.postings attempt) buffers
  rw [postAttempts, outcome_bind_ok posts, final_bind_ok posts, final_observe]
  generalize final (post request (weather.postings attempt)) buffers = posted at requests ⊢
  show ∃ left : Buffers, _ ∧
    outcome (if attempt < telemetryAttempts - 1 then do
        sleep (weather.sleeps attempt)
        postAttempts weather request rest
      else postAttempts weather request rest) posted = _ ∧
    final (if attempt < telemetryAttempts - 1 then do
        sleep (weather.sleeps attempt)
        postAttempts weather request rest
      else postAttempts weather request rest) posted = _
  by_cases early : attempt < telemetryAttempts - 1
  · have slept : outcome (sleep (weather.sleeps attempt)) posted = .ok () := by
      rw [outcome_sleep, fails.2 early]
      rfl
    simp only [if_pos early]
    refine ⟨_, ?_, outcome_bind_ok slept, final_bind_ok slept⟩
    unfold sleep
    rw [final_bind_ok (outcome_modify _ _), final_modify, fails.2 early, ← requests]
    exact requests_arrive _ _
  · simp only [if_neg early]
    exact ⟨posted, requests, rfl, rfl⟩

/-- An attempt that does not fail is the last, acknowledged or not. -/
theorem postAttempts_of_not_fails (survives : ¬ weather.Fails attempt) :
    (final (postAttempts weather request (attempt :: rest)) buffers).requests =
        buffers.requests ++ [request] ∧
      (outcome (postAttempts weather request (attempt :: rest)) buffers = .ok () ↔
        (weather.postings attempt).answer = .ok ()) := by
  have posts : outcome (observe (post request (weather.postings attempt))) buffers =
      .ok (weather.postings attempt).answer := rfl
  have requests := requests_post request (weather.postings attempt) buffers
  rw [postAttempts, outcome_bind_ok posts, final_bind_ok posts, final_observe]
  generalize final (post request (weather.postings attempt)) buffers = posted at requests ⊢
  rcases answered : (weather.postings attempt).answer with (_ | _ | _) | _
  case ok => exact ⟨requests, iff_of_true rfl rfl⟩
  case error.cancelled =>
    refine ⟨requests, iff_of_false (fun same => ?_) fun same => ?_⟩ <;> cases same
  case error.python =>
    refine ⟨requests, iff_of_false (fun same => ?_) fun same => ?_⟩ <;> cases same
  case error.transport =>
    have early : attempt < telemetryAttempts - 1 := by
      by_contra late
      exact survives ⟨answered, fun early => absurd early late⟩
    have cancelled : (weather.sleeps attempt).cancelled = true := by
      by_contra awake
      exact survives ⟨answered, fun _ => Bool.eq_false_iff.mpr awake⟩
    have slept : outcome (sleep (weather.sleeps attempt)) posted = .error .cancelled := by
      rw [outcome_sleep, cancelled]
      rfl
    have silent : (final (sleep (weather.sleeps attempt)) posted).requests = posted.requests := by
      unfold sleep
      rw [final_bind_ok (outcome_modify _ _), final_modify, cancelled]
      exact requests_arrive _ _
    show (final (if attempt < telemetryAttempts - 1 then do
        sleep (weather.sleeps attempt)
        postAttempts weather request rest
      else postAttempts weather request rest) posted).requests = _ ∧
      (outcome (if attempt < telemetryAttempts - 1 then do
        sleep (weather.sleeps attempt)
        postAttempts weather request rest
      else postAttempts weather request rest) posted = .ok () ↔ _)
    rw [if_pos early, final_bind, outcome_bind, slept]
    refine ⟨silent.trans requests, iff_of_false (fun same => ?_) fun same => ?_⟩ <;> cases same

end Attempts

/-- A request of the attempts made is a request made. -/
theorem requests_postAttempts (weather : Weather) (request : Request) (attempts : List Nat)
    (buffers : Buffers) :
    (final (postAttempts weather request attempts) buffers).requests =
      buffers.requests ++ (weather.made attempts).map fun _ => request := by
  induction attempts generalizing buffers with
  | nil => exact (List.append_nil _).symm
  | cons attempt rest inductionHypothesis =>
    rw [Weather.made, List.map_cons]
    by_cases fails : weather.Fails attempt
    · obtain ⟨left, requests, _, same⟩ := postAttempts_of_fails request rest buffers fails
      rw [same, inductionHypothesis, requests, if_pos fails, List.append_assoc]
      rfl
    · rw [(postAttempts_of_not_fails request rest buffers fails).1, if_neg fails]
      rfl

/-- The attempts are acknowledged exactly when one that is made is. -/
theorem outcome_postAttempts_eq_ok (weather : Weather) (request : Request) (attempts : List Nat)
    (buffers : Buffers) :
    outcome (postAttempts weather request attempts) buffers = .ok () ↔
      ∃ attempt ∈ weather.made attempts, (weather.postings attempt).answer = .ok () := by
  induction attempts generalizing buffers with
  | nil => exact iff_of_false (fun same => nomatch same) fun ⟨_, member, _⟩ => nomatch member
  | cons attempt rest inductionHypothesis =>
    rw [Weather.made, List.exists_mem_cons_iff]
    by_cases fails : weather.Fails attempt
    · obtain ⟨left, _, same, _⟩ := postAttempts_of_fails request rest buffers fails
      rw [same, inductionHypothesis, if_pos fails]
      have unanswered : (weather.postings attempt).answer ≠ .ok () := by
        rw [fails.1]
        exact fun same => nomatch same
      exact (or_iff_right unanswered).symm
    · rw [(postAttempts_of_not_fails request rest buffers fails).2, if_neg fails]
      simp

/-- The batch reaches the backend in one of the requests that are made. -/
def Passage.Reaches (passage : Passage) : Prop :=
  ∃ attempt ∈ passage.weather.made (List.range telemetryAttempts), passage.reaches attempt = true

/-- One of the requests that are made is acknowledged. -/
def Weather.Acknowledges (weather : Weather) : Prop :=
  ∃ attempt ∈ weather.made (List.range telemetryAttempts),
    (weather.postings attempt).answer = .ok ()

theorem Passage.reaches_of_acknowledges {passage : Passage}
    (acknowledges : passage.weather.Acknowledges) : passage.Reaches := by
  obtain ⟨attempt, made, answer⟩ := acknowledges
  exact ⟨attempt, made, passage.answered attempt answer⟩

theorem receive_eq (backend : Backend) (passage : Passage) (batch : Batch) :
    (passage.Reaches → backend.receive uplink passage batch =
      backend.submit Record.identity passage.weather.idempotencyKey
        (batch.records uplink.runId)) ∧
    (¬ passage.Reaches → backend.receive uplink passage batch = backend) := by
  unfold Backend.receive Passage.Reaches
  rw [foldl_submit, ← List.any_eq_true]
  exact ⟨fun some => if_pos some, fun none => if_neg none⟩

/-! ### The numbers of a batch -/

/-- The identity of the line with this number. -/
def identityOf (seq : Nat) : PyStr × Option PyStr × Option Int :=
  (uplink.runId, some uplink.nodeId, some seq)

theorem identity_line {clock : Nat → PyStr} {event line : Value} {buffers : Buffers}
    (lined : outcome (lineOf uplink clock event) buffers = .ok line) (stamp : Option Nat) :
    Record.identity ⟨stamp, uplink.runId, line⟩ = identityOf uplink buffers.seq := by
  unfold lineOf computing at lined
  rw [outcome_bind_ok (outcome_get _), outcome_bind_ok (outcome_modify _ _)] at lined
  obtain ⟨kind, _, later⟩ := outcome_bind_eq_ok.mp lined
  obtain ⟨payload, _, made⟩ := outcome_bind_eq_ok.mp later
  cases made
  rfl

/-- The lines of a batch are numbered on from the counter, which moves past them. -/
theorem identity_lines {clock : Nat → PyStr} {events lines : List Value} {buffers : Buffers}
    (lined : outcome (events.mapM (lineOf uplink clock)) buffers = .ok lines) :
    (final (events.mapM (lineOf uplink clock)) buffers).seq = buffers.seq + events.length ∧
      ∀ stamp, lines.map (fun line => Record.identity ⟨stamp, uplink.runId, line⟩) =
        (List.range' buffers.seq events.length).map (identityOf uplink) := by
  induction events generalizing buffers lines with
  | nil =>
    cases lined
    exact ⟨rfl, fun _ => rfl⟩
  | cons event rest inductionHypothesis =>
    rw [List.mapM_cons, outcome_bind_eq_ok] at lined
    obtain ⟨line, first, later⟩ := lined
    obtain ⟨others, tail, made⟩ := outcome_bind_eq_ok.mp later
    cases made
    have moved := final_lineOf uplink clock event buffers
    obtain ⟨counted, numbered⟩ := inductionHypothesis tail
    rw [moved] at counted numbered
    refine ⟨?_, fun stamp => ?_⟩
    · rw [List.mapM_cons, final_bind_ok first, final_bind_ok tail, final_pure, moved, counted,
        List.length_cons]
      exact Nat.add_right_comm _ _ _
    · rw [List.map_cons, identity_line uplink first, numbered, List.length_cons, List.range'_succ,
        List.map_cons]

section Gathered

variable {weather : Weather} {extra : List Value} {pulse : Pulse} {buffers : Buffers}
  {batch : Batch}

/-- A flush lines up its durable events and more, numbered on from the counter. -/
theorem gathered_lines
    (gathered : outcome (gather uplink weather extra pulse) buffers = .ok batch) :
    batch.durable.length ≤ batch.lines.length ∧
      (final (gather uplink weather extra pulse) buffers).seq =
        buffers.seq + batch.lines.length ∧
      ∀ stamp, batch.lines.map (fun line => Record.identity ⟨stamp, uplink.runId, line⟩) =
        (List.range' buffers.seq batch.lines.length).map (identityOf uplink) := by
  obtain ⟨loaded, lines, _, rfl, lined, left⟩ :=
    gathered_ok uplink weather extra pulse buffers gathered
  obtain ⟨counted, numbered⟩ := identity_lines uplink lined
  have length := congrArg List.length (numbered none)
  simp only [List.length_map, List.length_range'] at length
  refine ⟨?_, ?_, fun stamp => ?_⟩
  · rw [length]
    simp only [List.length_append, List.length_map]
    omega
  · rw [left, length]
    exact counted
  · rw [length]
    exact numbered stamp

/-- The durable events are on the first lines, and every line has its own identity. -/
theorem records_spec (enough : batch.durable.length ≤ batch.lines.length) (runId : PyStr) :
    (batch.records runId).filterMap Record.stamp = stamps batch.durable ∧
      (batch.records runId).map Record.identity =
        batch.lines.map fun line => Record.identity ⟨none, runId, line⟩ := by
  have length : ((stamps batch.durable).map some ++ List.replicate
      (batch.lines.length - batch.durable.length) none).length = batch.lines.length := by
    simp only [stamps, List.length_append, List.length_map, List.length_replicate]
    omega
  unfold Batch.records
  constructor
  · have first : Record.stamp ∘ (fun one : Option Nat × Value => Record.mk one.1 runId one.2) =
        id ∘ Prod.fst := rfl
    rw [List.filterMap_map, first, ← List.filterMap_map, List.map_fst_zip length.le,
      List.filterMap_append, List.filterMap_map]
    simp
  · have second : Record.identity ∘ (fun one : Option Nat × Value => Record.mk one.1 runId one.2) =
        (fun line => Record.identity ⟨none, runId, line⟩) ∘ Prod.snd := rfl
    rw [List.map_map, second, ← List.map_map, List.map_snd_zip length.ge]

end Gathered

/-! ### What a flush keeps -/

/-- The counter has not moved. -/
def Uncounted (before after : Buffers) : Prop := after.seq = before.seq

instance : Std.Refl Uncounted := ⟨fun _ => rfl⟩

instance : IsTrans Buffers Uncounted := ⟨fun _ _ _ first second => Eq.trans second first⟩

theorem uncounted_arrive (events : List Value) (buffers : Buffers) :
    Uncounted buffers (arrive events buffers) := by
  unfold arrive
  induction events generalizing buffers with
  | nil => rfl
  | cons event rest inductionHypothesis => exact inductionHypothesis (append buffers event)

theorem uncounted_post (request : Request) (posting : Posting) (buffers : Buffers) :
    Uncounted buffers (final (post request posting) buffers) :=
  uncounted_arrive posting.arrivals { buffers with requests := buffers.requests ++ [request] }

theorem uncounted_sleep (pause : Sleep) (buffers : Buffers) :
    Uncounted buffers (final (sleep pause) buffers) := by
  refine related_bind (uncounted_arrive _ _) fun _ _ => ?_
  cases pause.cancelled <;> exact Std.Refl.refl _

theorem uncounted_saveSpool (disk : Disk) (events : List (Stamped Value)) (buffers : Buffers) :
    Uncounted buffers (final (saveSpool uplink disk events) buffers) := by
  obtain ⟨spool, same⟩ := saveSpool_writes uplink disk events buffers
  rw [same]
  rfl

/-- Once the lines are numbered the counter stays. -/
theorem uncounted_deliver (weather : Weather) (batch : Batch) (buffers : Buffers) :
    Uncounted buffers (final (deliver uplink weather batch) buffers) := by
  have posted : Uncounted buffers (final (postTelemetry uplink weather batch.lines) buffers) :=
    related_postAttempts uncounted_post uncounted_sleep _ _ _ _
  refine related_bind posted fun result _ => ?_
  match result with
  | .ok () =>
    refine related_bind (rfl : Uncounted _ _) fun _ _ => ?_
    exact related_bind (uncounted_saveSpool uplink _ _ _) fun _ _ =>
      related_notify uncounted_post _ _ _
  | .error .transport =>
    show Uncounted _ (final (restore uplink weather.disk batch.durable) _)
    unfold restore
    split
    · exact uncounted_saveSpool uplink _ _ _
    · rfl
  | .error .cancelled => exact Std.Refl.refl _
  | .error (.python error) => exact Std.Refl.refl _

theorem stamps_append {α : Type} (first second : List (Stamped α)) :
    stamps (first ++ second) = stamps first ++ stamps second := List.map_append

/-- While a flush waits, the lines stay and what arrives is new. -/
theorem stamps_awaited {buffers waiting : Buffers} {seq : Nat}
    (waited : Awaited { buffers with outbox := [], seq := seq } waiting) :
    stamps waiting.lines = stamps buffers.lines ∧
      stamps waiting.outbox = List.range' buffers.issued (waiting.issued - buffers.issued) := by
  obtain ⟨arrivals, appended, numbered⟩ := waited.outbox
  refine ⟨?_, ?_⟩
  · unfold Buffers.lines
    rw [waited.spool]
  · rw [appended, List.nil_append, numbered]

/-- No event that the backend may have stored is held after the flush: when a request reaches it,
the spool was empty, or the flush is acknowledged and the file removed; and the outbox was empty,
or not all requests fail, or what they carried cannot be written. -/
def Passage.Spares (passage : Passage) (extra : List Value) (buffers : Buffers) : Prop :=
  ∀ loaded, passage.weather.httpx = true →
    loadSpool uplink passage.weather.disk buffers.spool = .ok loaded →
    (∀ event ∈ loaded, HasKind event.content) → (∀ event ∈ buffers.outbox, HasKind event.content) →
    (∀ event ∈ extra, HasKind event) → passage.Reaches →
      (loaded = [] ∨ passage.weather.Acknowledges ∧ passage.weather.disk.removing = .ok ()) ∧
      (buffers.outbox = [] ∨ (∃ attempt < telemetryAttempts, ¬ passage.weather.Fails attempt) ∨
        uplink.spools = true ∧ ¬ (passage.weather.disk.opening = .ok () ∧
          passage.weather.disk.replacing = .ok () ∧
            ∀ event ∈ loaded ++ buffers.outbox, ∃ text, uplink.json.dumps event.content = .ok text))

/-- What a flush that lined up its events leaves. -/
structure Leaves (passage : Passage) (spares : Prop) (durable : List (Stamped Value))
    (before after : Buffers) : Prop where
  held : ∃ kept, kept.Sublist (stamps before.held) ∧
    stamps after.held = kept ++ List.range' before.issued (after.issued - before.issued) ∧
    (spares → ∀ stamp ∈ kept, stamp ∉ stamps durable)
  issued : before.issued ≤ after.issued
  acknowledged : after.acknowledged = before.acknowledged ∨ passage.weather.Acknowledges ∧
    after.acknowledged = before.acknowledged ++ [stamps durable]

section Left

variable {uplink} {passage : Passage} {extra : List Value} {buffers : Buffers}
  {loaded : List (Stamped Value)} {batch : Batch} {seq : Nat} {waiting : Buffers}

/-- The events of the outbox are not those on the lines. -/
theorem lines_apart (nodup : (stamps buffers.held).Nodup) :
    ∀ stamp ∈ stamps buffers.lines, stamp ∉ stamps buffers.outbox := by
  rw [stamps_held, List.nodup_append] at nodup
  exact fun stamp line event => nodup.2.2 stamp line stamp event rfl

/-- When the lines stay and the outbox is lost, nothing that was sent is held if nothing was
loaded. -/
theorem leaves_of_lines (nodup : (stamps buffers.held).Nodup)
    (durable : batch.durable = loaded ++ buffers.outbox) {spares : Prop}
    (unloaded : spares → loaded = []) {after : Buffers}
    (lines : stamps after.lines = stamps buffers.lines)
    (outbox : stamps after.outbox = List.range' buffers.issued (after.issued - buffers.issued))
    (issued : buffers.issued ≤ after.issued)
    (acknowledged : after.acknowledged = buffers.acknowledged ∨ passage.weather.Acknowledges ∧
      after.acknowledged = buffers.acknowledged ++ [stamps batch.durable]) :
    Leaves passage spares batch.durable buffers after where
  held := by
    refine ⟨stamps buffers.lines, ?_, ?_, fun spared stamp line => ?_⟩
    · rw [stamps_held]
      exact List.sublist_append_left _ _
    · rw [stamps_held, lines, outbox]
    · rw [durable, unloaded spared, List.nil_append]
      exact lines_apart nodup stamp line
  issued := issued
  acknowledged := acknowledged

/-- When all requests fail, what was sent is held again, unless it cannot be written. -/
theorem leaves_restored (nodup : (stamps buffers.held).Nodup)
    (read : loadSpool uplink passage.weather.disk buffers.spool = .ok loaded)
    (durable : batch.durable = loaded ++ buffers.outbox) {spares : Prop}
    (spared : spares → loaded = [] ∧ (buffers.outbox = [] ∨ uplink.spools = true ∧
      ¬ (passage.weather.disk.opening = .ok () ∧ passage.weather.disk.replacing = .ok () ∧
        ∀ event ∈ loaded ++ buffers.outbox, ∃ text, uplink.json.dumps event.content = .ok text)))
    (waited : Awaited { buffers with outbox := [], seq := seq } waiting) :
    Leaves passage spares batch.durable buffers
      (final (restore uplink passage.weather.disk batch.durable) waiting) := by
  obtain ⟨lines, outbox⟩ := stamps_awaited waited
  have issued : buffers.issued ≤ waiting.issued := waited.issued
  unfold restore
  cases spools : uplink.spools with
  | false =>
    have nothing := loaded_of_not_spools read spools
    rw [nothing, List.nil_append] at durable
    rw [if_neg Bool.false_ne_true, final_modify, durable]
    refine ⟨⟨stamps buffers.held, List.Sublist.refl _, ?_, fun isSpared stamp held sent => ?_⟩,
      issued, .inl waited.acknowledged⟩
    · rw [stamps_held, stamps_held]
      show stamps waiting.lines ++ stamps (buffers.outbox ++ waiting.outbox) = _
      rw [stamps_append, lines, outbox, List.append_assoc]
    · rcases (spared isSpared).2 with empty | ⟨able, _⟩
      · rw [empty] at sent
        cases sent
      · cases spools.symm.trans able
  | true =>
    rw [if_pos rfl, final_saveSpool, if_pos spools]
    cases wrote : saved uplink.json passage.weather.disk batch.durable waiting.spool with
    | error error =>
      exact leaves_of_lines nodup durable (fun isSpared => (spared isSpared).1) lines outbox issued
        (.inl waited.acknowledged)
    | ok left =>
      have written := stamps_convert (converted_of_saved wrote)
      have same : stamps batch.durable = stamps buffers.held := by
        rw [stamps_held, ← stamps_convert (converted_of_read read spools), durable, stamps_append]
      refine ⟨⟨stamps buffers.held, List.Sublist.refl _, ?_, fun isSpared stamp held sent => ?_⟩,
        issued, .inl waited.acknowledged⟩
      · rw [stamps_held]
        show stamps (left.getD []) ++ stamps waiting.outbox = _
        rw [written, same, outbox]
      · obtain ⟨nothing, empty | ⟨_, unwritten⟩⟩ := spared isSpared
        · rw [durable, nothing, empty] at sent
          cases sent
        · by_cases empty : batch.durable = []
          · rw [empty] at sent
            cases sent
          · rw [← durable] at unwritten
            exact unwritten ((exists_saved empty).mp ⟨left, wrote⟩)

/-- Clearing the spool leaves no file, or the file there was if it cannot be removed. -/
theorem final_clear (disk : Disk) (buffers : Buffers) :
    ∃ spool, final (saveSpool uplink disk []) buffers = { buffers with spool := spool } ∧
      (spool = none ∨
        spool = buffers.spool ∧ (uplink.spools = false ∨ disk.removing ≠ .ok ())) := by
  rw [final_saveSpool]
  obtain ⟨outbox, spool, seq, issued, requests, acknowledged⟩ := buffers
  cases spools : uplink.spools with
  | false => exact ⟨spool, rfl, .inr ⟨rfl, .inl rfl⟩⟩
  | true =>
    unfold saved
    cases spool with
    | none => exact ⟨none, rfl, .inl rfl⟩
    | some lines =>
      cases removing : disk.removing with
      | ok value => exact ⟨none, rfl, .inl rfl⟩
      | error error => exact ⟨some lines, rfl, .inr ⟨rfl, .inr fun same => nomatch same⟩⟩

/-- When the requests are acknowledged, what was sent is held only on lines that stay. -/
theorem leaves_acknowledged (nodup : (stamps buffers.held).Nodup)
    (read : loadSpool uplink passage.weather.disk buffers.spool = .ok loaded)
    (durable : batch.durable = loaded ++ buffers.outbox) {spares : Prop}
    (spared : spares → loaded = [] ∨ passage.weather.disk.removing = .ok ())
    (acknowledges : passage.weather.Acknowledges)
    (waited : Awaited { buffers with outbox := [], seq := seq } waiting) {after : Buffers}
    (left : Awaited (final (saveSpool uplink passage.weather.disk [])
      (acknowledge batch.durable waiting)) after) :
    Leaves passage spares batch.durable buffers after := by
  obtain ⟨spool, cleared, removed⟩ := @final_clear uplink passage.weather.disk
    (acknowledge batch.durable waiting)
  rw [cleared] at left
  let base : Buffers :=
    { buffers with
      spool := spool
      acknowledged := waiting.acknowledged ++ [stamps batch.durable] }
  have rebased : Awaited { base with outbox := [], seq := seq }
      { acknowledge batch.durable waiting with spool := spool } :=
    ⟨rfl, rfl, waited.outbox, waited.issued⟩
  have joined := IsTrans.trans _ _ _ rebased left
  obtain ⟨lines, outbox⟩ := stamps_awaited joined
  have acknowledged : after.acknowledged = buffers.acknowledged ++ [stamps batch.durable] := by
    rw [← waited.acknowledged]
    exact joined.acknowledged
  rcases removed with rfl | ⟨rfl, stays⟩
  · refine ⟨⟨[], List.nil_sublist _, ?_, fun _ _ member => nomatch member⟩, joined.issued,
      .inr ⟨acknowledges, acknowledged⟩⟩
    rw [stamps_held, lines, outbox]
    rfl
  · refine leaves_of_lines nodup durable (fun isSpared => ?_) (lines.trans ?_) outbox joined.issued
      (.inr ⟨acknowledges, acknowledged⟩)
    · rcases stays with spools | remains
      · exact loaded_of_not_spools read spools
      · exact (spared isSpared).resolve_right remains
    · show stamps (waiting.spool.getD []) = _
      rw [waited.spool]
      rfl

/-- A flush that lined up its events leaves those it may have stored nowhere, if it is spared. -/
theorem leaves_deliver (seq : Nat) (nodup : (stamps buffers.held).Nodup)
    (read : loadSpool uplink passage.weather.disk buffers.spool = .ok loaded)
    (durable : batch.durable = loaded ++ buffers.outbox) {spares : Prop}
    (spared : spares →
      (loaded = [] ∨ passage.weather.Acknowledges ∧ passage.weather.disk.removing = .ok ()) ∧
      (buffers.outbox = [] ∨ (∃ attempt < telemetryAttempts, ¬ passage.weather.Fails attempt) ∨
        uplink.spools = true ∧ ¬ (passage.weather.disk.opening = .ok () ∧
          passage.weather.disk.replacing = .ok () ∧
            ∀ event ∈ loaded ++ buffers.outbox,
              ∃ text, uplink.json.dumps event.content = .ok text))) :
    Leaves passage spares batch.durable buffers
      (final (deliver uplink passage.weather batch) { buffers with outbox := [], seq := seq }) := by
  let taken : Buffers := { buffers with outbox := [], seq := seq }
  have waited : Awaited taken (final (postTelemetry uplink passage.weather batch.lines) taken) :=
    awaited_postAttempts _ _ _ _
  have failing := outcome_postTelemetry_eq_transport uplink passage.weather batch.lines taken
  have acknowledged := outcome_postAttempts_eq_ok passage.weather
    (.telemetry passage.weather.idempotencyKey uplink.runId batch.lines)
    (List.range telemetryAttempts) taken
  have interrupted (error : Fault) (other : error ≠ .transport)
      (ended : outcome (postTelemetry uplink passage.weather batch.lines) taken = .error error) :
      spares → loaded = [] := by
    intro isSpared
    rcases (spared isSpared).1 with nothing | ⟨acknowledges, _⟩
    · exact nothing
    · cases ended.symm.trans (acknowledged.mpr acknowledges)
  unfold deliver
  rw [final_bind, outcome_observe, final_observe]
  obtain ⟨lines, outbox⟩ := stamps_awaited waited
  match ended : outcome (postTelemetry uplink passage.weather batch.lines) taken with
  | .error .transport =>
    have fails := failing.mp ended
    refine leaves_restored nodup read durable (fun isSpared => ?_) waited
    obtain ⟨spooled, taken⟩ := spared isSpared
    refine ⟨spooled.resolve_right fun both => ?_, taken.imp_right fun either => ?_⟩
    · cases ended.symm.trans (acknowledged.mpr both.1)
    · refine either.resolve_left ?_
      rintro ⟨attempt, within, survives⟩
      exact survives (fails attempt within)
  | .error .cancelled =>
    exact leaves_of_lines nodup durable (interrupted _ (by simp) ended) lines outbox waited.issued
      (.inl waited.acknowledged)
  | .error (.python error) =>
    exact leaves_of_lines nodup durable (interrupted _ (by simp) ended) lines outbox waited.issued
      (.inl waited.acknowledged)
  | .ok () =>
    refine leaves_acknowledged nodup read durable
      (fun isSpared => (spared isSpared).1.imp_right And.right) (acknowledged.mp ended) waited ?_
    show Awaited _ (final (do
      modify (acknowledge batch.durable)
      saveSpool uplink passage.weather.disk []
      notify passage.weather batch.events : TelemetryMethod Unit) _)
    rw [final_bind, outcome_modify, final_modify, final_bind]
    cases outcome (saveSpool uplink passage.weather.disk []) _ with
    | error fault => exact Std.Refl.refl _
    | ok value => exact awaited_notify _ _ _

end Left

/-! ### The invariant of a run -/

/-- What is held is not stored, what is stored is stored once, and what is acknowledged is stored.
The counter is beyond the numbers stored. -/
structure Relay.Sound (relay : Relay) : Prop where
  held : (stamps relay.buffers.held).Nodup
  bounded : relay.buffers.Bounded
  once : (stored relay.backend).Nodup
  known : ∀ stamp ∈ stored relay.backend, stamp < relay.buffers.issued
  apart : ∀ stamp ∈ stamps relay.buffers.held, stamp ∉ stored relay.backend
  acknowledged : ∀ stamp ∈ relay.buffers.acknowledged.flatten, stamp ∈ stored relay.backend
  counted : ∀ record ∈ relay.backend.records, ∃ seq < relay.buffers.seq,
    record.identity = identityOf uplink seq

variable {uplink} {relay : Relay}

theorem Relay.Sound.appended (event : Value) (sound : relay.Sound uplink) :
    Relay.Sound uplink { relay with buffers := append relay.buffers event } := by
  have held : stamps (append relay.buffers event).held =
      stamps relay.buffers.held ++ [relay.buffers.issued] := by
    rw [stamps_held, stamps_held]
    show stamps relay.buffers.lines ++ stamps (relay.buffers.outbox ++ [_]) = _
    rw [stamps_append, List.append_assoc]
    rfl
  refine ⟨?_, ?_, sound.once, fun stamp member => Nat.lt_succ_of_lt (sound.known stamp member),
    ?_, sound.acknowledged, sound.counted⟩
  · show (stamps (append relay.buffers event).held).Nodup
    rw [held, List.nodup_append]
    refine ⟨sound.held, List.nodup_singleton _, fun stamp member new isNew => ?_⟩
    rw [List.mem_singleton.mp isNew]
    exact (sound.bounded stamp member).ne
  · intro stamp member
    rw [held, List.mem_append, List.mem_singleton] at member
    rcases member with old | rfl
    · exact Nat.lt_succ_of_lt (sound.bounded stamp old)
    · exact Nat.lt_succ_self _
  · intro stamp member isStored
    rw [held, List.mem_append, List.mem_singleton] at member
    rcases member with old | rfl
    · exact sound.apart stamp old isStored
    · exact absurd (sound.known _ isStored) (lt_irrefl _)

/-- What a flush leaves is sound when nothing that is held was stored before or by it. -/
theorem Leaves.sound {passage : Passage} {spares : Prop} {durable : List (Stamped Value)}
    {after : Buffers} (leaves : Leaves passage spares durable relay.buffers after)
    (sound : relay.Sound uplink) : (stamps after.held).Nodup ∧ after.Bounded ∧
      ∀ stamp ∈ stamps after.held, stamp ∉ stored relay.backend := by
  obtain ⟨kept, sublist, held, _⟩ := leaves.held
  have old : ∀ stamp ∈ kept, stamp < relay.buffers.issued := fun stamp member =>
    sound.bounded stamp (sublist.subset member)
  have issued := leaves.issued
  rw [held]
  refine ⟨?_, fun stamp member => ?_, fun stamp member isStored => ?_⟩
  · rw [List.nodup_append]
    refine ⟨sound.held.sublist sublist, List.nodup_range', fun stamp member new isNew same => ?_⟩
    have := old stamp member
    have := (List.mem_range'_1.mp isNew).1
    omega
  · rw [held, List.mem_append, List.mem_range'_1] at member
    rcases member with isOld | isNew
    · have := old stamp isOld
      omega
    · omega
  · rw [List.mem_append, List.mem_range'_1] at member
    rcases member with isOld | isNew
    · exact sound.apart stamp (sublist.subset isOld) isStored
    · have := sound.known stamp isStored
      omega

/-- A flush of which nothing was stored. -/
theorem Leaves.sound_unstored {passage : Passage} {spares : Prop}
    {durable : List (Stamped Value)} {after : Buffers}
    (leaves : Leaves passage spares durable relay.buffers after) (sound : relay.Sound uplink)
    (acknowledged : after.acknowledged = relay.buffers.acknowledged)
    (seq : relay.buffers.seq ≤ after.seq) : Relay.Sound uplink ⟨after, relay.backend⟩ := by
  obtain ⟨held, bounded, apart⟩ := leaves.sound sound
  refine ⟨held, bounded, sound.once, fun stamp member => ?_, apart, ?_, fun record member => ?_⟩
  · exact (sound.known stamp member).trans_le leaves.issued
  · rw [acknowledged]
    exact sound.acknowledged
  · obtain ⟨number, before, same⟩ := sound.counted record member
    exact ⟨number, before.trans_le seq, same⟩

/-- A flush whose batch was stored. -/
theorem Leaves.sound_stored {passage : Passage} {spares : Prop} {batch : Batch} {after : Buffers}
    (leaves : Leaves passage spares batch.durable relay.buffers after) (spared : spares)
    (sound : relay.Sound uplink) (nodup : (stamps batch.durable).Nodup)
    (sent : ∀ stamp ∈ stamps batch.durable, stamp ∈ stamps relay.buffers.held)
    (enough : batch.durable.length ≤ batch.lines.length)
    (numbered : (batch.records uplink.runId).map Record.identity =
      (List.range' relay.buffers.seq batch.lines.length).map (identityOf uplink))
    (seq : after.seq = relay.buffers.seq + batch.lines.length) (keys : List PyStr) :
    Relay.Sound uplink
      ⟨after, ⟨keys, relay.backend.records ++ batch.records uplink.runId⟩⟩ := by
  obtain ⟨held, bounded, apart⟩ := leaves.sound sound
  have stores : stored ⟨keys, relay.backend.records ++ batch.records uplink.runId⟩ =
      stored relay.backend ++ stamps batch.durable := by
    rw [← (records_spec enough uplink.runId).1]
    exact List.filterMap_append
  refine ⟨held, bounded, ?_, fun stamp member => ?_, fun stamp member isStored => ?_,
    fun stamp member => ?_, fun record member => ?_⟩
  · rw [stores, List.nodup_append]
    refine ⟨sound.once, nodup, fun stamp old new isNew same => ?_⟩
    exact sound.apart new (sent new isNew) (same ▸ old)
  · rw [stores, List.mem_append] at member
    rcases member with old | new
    · exact (sound.known stamp old).trans_le leaves.issued
    · exact (sound.bounded stamp (sent stamp new)).trans_le leaves.issued
  · rw [stores, List.mem_append] at isStored
    rcases isStored with old | new
    · exact apart stamp member old
    · obtain ⟨kept, sublist, holds, lost⟩ := leaves.held
      rw [holds, List.mem_append, List.mem_range'_1] at member
      rcases member with isKept | arrived
      · exact lost spared stamp isKept new
      · have := sound.bounded stamp (sent stamp new)
        omega
  · rw [stores, List.mem_append]
    rcases leaves.acknowledged with same | ⟨_, same⟩
    · rw [same] at member
      exact .inl (sound.acknowledged stamp member)
    · rw [same, List.flatten_append, List.mem_append, List.flatten_singleton] at member
      exact member.imp_left (sound.acknowledged stamp)
  · rw [seq]
    rcases List.mem_append.mp member with old | new
    · obtain ⟨number, before, same⟩ := sound.counted record old
      exact ⟨number, before.trans_le (Nat.le_add_right _ _), same⟩
    · have identity := List.mem_map_of_mem (f := Record.identity) new
      rw [numbered] at identity
      obtain ⟨number, within, same⟩ := List.mem_map.mp identity
      exact ⟨number, (List.mem_range'_1.mp within).2, same.symm⟩

/-! ### One flush -/

/-- The counter of a flush that takes its events only grows. -/
def Grown (before after : Buffers) : Prop := before.seq ≤ after.seq

instance : Std.Refl Grown := ⟨fun _ => le_rfl⟩

instance : IsTrans Buffers Grown := ⟨fun _ _ _ => le_trans⟩

theorem grown_gather (weather : Weather) (extra : List Value) (pulse : Pulse)
    (buffers : Buffers) : Grown buffers (final (gather uplink weather extra pulse) buffers) := by
  unfold gather
  refine related_bind (Std.Refl.refl _) fun _ _ => ?_
  refine related_bind (Std.Refl.refl _) fun _ _ => ?_
  refine related_bind (Std.Refl.refl _) fun _ _ => ?_
  refine related_bind (le_refl buffers.seq : Grown _ _) fun _ _ => ?_
  refine related_bind (related_mapM (fun event state => ?_) _ _) fun _ _ => Std.Refl.refl _
  rw [Grown, final_lineOf]
  exact Nat.le_succ _

/-- A flush that stops before its first request. -/
theorem Relay.Sound.stopped (sound : relay.Sound uplink) (passage : Passage) (extra : List Value)
    (pulse : Pulse) :
    Relay.Sound uplink
      ⟨final (gather uplink passage.weather extra pulse) relay.buffers, relay.backend⟩ := by
  have grown := @grown_gather uplink passage.weather extra pulse relay.buffers
  rcases gather_writes uplink passage.weather extra pulse relay.buffers with same | ⟨seq, taken⟩
  · rw [same]
    exact sound
  · rw [taken] at grown ⊢
    have leaves : Leaves passage False ([] : List (Stamped Value)) relay.buffers
        { relay.buffers with outbox := [], seq := seq } := by
      refine ⟨⟨stamps relay.buffers.lines, ?_, ?_, fun never => never.elim⟩, le_rfl, .inl rfl⟩
      · rw [stamps_held]
        exact List.sublist_append_left _ _
      · rw [stamps_held, Nat.sub_self]
        rfl
    exact leaves.sound_unstored sound rfl grown

theorem identityOf_injective : Function.Injective (identityOf uplink) := by
  intro one other same
  have equal : (one : Int) = other := Option.some.inj (congrArg (fun identity => identity.2.2) same)
  exact Int.ofNat.inj equal

/-- The durable events of a flush are held before it. -/
theorem durable_sublist {disk : Disk} {buffers : Buffers} {loaded : List (Stamped Value)}
    (read : loadSpool uplink disk buffers.spool = .ok loaded) :
    (stamps (loaded ++ buffers.outbox)).Sublist (stamps buffers.held) := by
  rw [stamps_append, stamps_held]
  cases spools : uplink.spools with
  | false =>
    rw [loaded_of_not_spools read spools]
    exact List.sublist_append_right _ _
  | true => rw [stamps_convert (converted_of_read read spools)]

/-- The batch of a flush is new to the backend. -/
theorem Relay.Sound.submitted (sound : relay.Sound uplink) {key : PyStr}
    (fresh : key ∉ relay.backend.keys) {records : List Record} {count : Nat}
    (numbered : records.map Record.identity =
      (List.range' relay.buffers.seq count).map (identityOf uplink)) :
    relay.backend.submit Record.identity key records =
      ⟨relay.backend.keys ++ [key], relay.backend.records ++ records⟩ := by
  refine submit_new fresh (fun record member known => ?_) ?_
  · have identity := List.mem_map_of_mem (f := Record.identity) member
    rw [numbered] at identity
    obtain ⟨number, within, same⟩ := List.mem_map.mp identity
    obtain ⟨old, isOld, again⟩ := List.mem_map.mp known
    obtain ⟨before, earlier, identified⟩ := sound.counted old isOld
    have equal := identityOf_injective (same.trans (again.symm.trans identified))
    have := (List.mem_range'_1.mp within).1
    omega
  · rw [numbered]
    exact List.Nodup.map identityOf_injective List.nodup_range'

/-- A flush that lines up its events, and spares those it sends. -/
theorem Relay.Sound.delivered (sound : relay.Sound uplink) {passage : Passage}
    {extra : List Value} (pulse : Pulse) (able : passage.weather.httpx = true)
    (spares : passage.Spares uplink extra relay.buffers)
    (fresh : passage.weather.idempotencyKey ∉ relay.backend.keys) {batch : Batch}
    (gathered : outcome (gather uplink passage.weather extra pulse) relay.buffers = .ok batch) :
    Relay.Sound uplink
      ⟨final (deliver uplink passage.weather batch)
        (final (gather uplink passage.weather extra pulse) relay.buffers),
        relay.backend.receive uplink passage batch⟩ := by
  cases read : loadSpool uplink passage.weather.disk relay.buffers.spool with
  | error error =>
    have raised := (gather_of_unread uplink passage.weather extra pulse relay.buffers read).1
    cases gathered.symm.trans raised
  | ok loaded =>
    obtain ⟨⟨seq, taken⟩, succeeds, batches⟩ :=
      gather_of_read uplink passage.weather extra pulse relay.buffers read
    obtain ⟨kinds, events, extraKinds⟩ := succeeds.mp ⟨batch, gathered⟩
    have durable := batches batch gathered
    obtain ⟨enough, moved, numbered⟩ := gathered_lines uplink gathered
    have leaves := leaves_deliver seq sound.held read durable
      (spares loaded able read kinds events extraKinds)
    have counted : (final (deliver uplink passage.weather batch)
        { relay.buffers with outbox := [], seq := seq }).seq =
          relay.buffers.seq + batch.lines.length := by
      rw [← moved, taken]
      exact uncounted_deliver uplink passage.weather batch _
    obtain ⟨received, unreceived⟩ := receive_eq uplink relay.backend passage batch
    rw [taken]
    by_cases reaches : passage.Reaches
    · rw [received reaches]
      have identities : (batch.records uplink.runId).map Record.identity =
          (List.range' relay.buffers.seq batch.lines.length).map (identityOf uplink) :=
        (records_spec enough uplink.runId).2.trans (numbered none)
      have sublist : (stamps batch.durable).Sublist (stamps relay.buffers.held) :=
        durable ▸ durable_sublist read
      rw [sound.submitted fresh identities]
      exact leaves.sound_stored reaches sound (sound.held.sublist sublist)
        (fun stamp member => sublist.subset member) enough identities counted _
    · rw [unreceived reaches]
      refine leaves.sound_unstored sound ?_ (counted ▸ Nat.le_add_right _ _)
      refine leaves.acknowledged.resolve_right fun both => ?_
      exact reaches (Passage.reaches_of_acknowledges both.1)

/-- A flush that spares what it sends. -/
theorem Relay.Sound.flushed (sound : relay.Sound uplink) {passage : Passage} {extra : List Value}
    (pulse : Pulse) (spares : passage.Spares uplink extra relay.buffers)
    (fresh : passage.weather.idempotencyKey ∉ relay.backend.keys) :
    (relay.next uplink (.flush passage extra pulse)).Sound uplink := by
  show Relay.Sound uplink ⟨final (flush uplink passage.weather extra pulse) relay.buffers,
    if passage.weather.httpx then
      match outcome (gather uplink passage.weather extra pulse) relay.buffers with
      | .ok batch => relay.backend.receive uplink passage batch
      | .error _ => relay.backend
    else relay.backend⟩
  cases able : passage.weather.httpx with
  | false =>
    unfold flush
    rw [able]
    exact sound
  | true =>
    rw [flush_of_httpx uplink passage.weather extra pulse able, final_bind, if_pos rfl]
    cases gathered : outcome (gather uplink passage.weather extra pulse) relay.buffers with
    | error fault => exact sound.stopped passage extra pulse
    | ok batch => exact sound.delivered pulse able spares fresh gathered

/-- Only the key of the flush is new in the backend. -/
theorem mem_keys_next {act : Act} {key : PyStr}
    (member : key ∈ (relay.next uplink act).backend.keys) :
    key ∈ relay.backend.keys ∨ key ∈ keysDrawn [act] := by
  cases act with
  | append event => exact .inl member
  | flush passage extra pulse =>
    have received (batch : Batch)
        (isKey : key ∈ (relay.backend.receive uplink passage batch).keys) :
        key ∈ relay.backend.keys ∨ key ∈ keysDrawn [.flush passage extra pulse] := by
      obtain ⟨reached, unreached⟩ := receive_eq uplink relay.backend passage batch
      by_cases reaches : passage.Reaches
      · rw [reached reaches] at isKey
        refine (mem_keys_of_submit isKey).imp_right fun same => ?_
        rw [same]
        exact List.mem_singleton_self _
      · rw [unreached reaches] at isKey
        exact .inl isKey
    unfold Relay.next at member
    simp only at member
    split at member
    · split at member
      · exact received _ member
      · exact .inl member
    · exact .inl member

/-- Every flush of the history spares what it sends. -/
def Spared (uplink : Uplink) (history : List (Transition Relay Act Unit)) : Prop :=
  ∀ step ∈ history, ∀ passage extra pulse, step.operation = .flush passage extra pulse →
    passage.Spares uplink extra step.before.buffers

theorem Relay.Sound.ran {acts : List Act} (sound : relay.Sound uplink)
    (distinct : (keysDrawn acts).Nodup)
    (unused : ∀ key ∈ keysDrawn acts, key ∉ relay.backend.keys)
    (spared : Spared uplink ((relaying uplink).history relay acts)) :
    ((relaying uplink).run relay acts).Sound uplink := by
  induction acts generalizing relay with
  | nil => exact sound
  | cons act rest inductionHypothesis =>
    have split : keysDrawn (act :: rest) = keysDrawn [act] ++ keysDrawn rest :=
      List.filterMap_append (l := [act])
    rw [split] at distinct unused
    rw [Machine.history, Spared, List.forall_mem_cons] at spared
    rw [List.nodup_append] at distinct
    refine inductionHypothesis ?_ distinct.2.1 (fun key drawn known => ?_) spared.2
    · cases act with
      | append event => exact Relay.Sound.appended event sound
      | flush passage extra pulse =>
        exact Relay.Sound.flushed sound pulse (spared.1 passage extra pulse rfl)
          (unused _ (List.mem_append_left _ (List.mem_singleton_self _)))
    · rcases mem_keys_next known with old | new
      · exact unused key (List.mem_append_right _ drawn) old
      · exact distinct.2.2 key new key drawn rfl

variable (uplink)

/-- **Events are stored once**: in every run in which the flushes draw different idempotency keys
and each spares what it sends, the backend stores a durable event at most once, and one that is
acknowledged exactly once. -/
theorem stored_once (start : Buffers) (held : (stamps start.held).Nodup) (bounded : start.Bounded)
    (unacknowledged : start.acknowledged = []) (acts : List Act)
    (distinct : (keysDrawn acts).Nodup)
    (spared : Spared uplink ((relaying uplink).history ⟨start, {}⟩ acts)) :
    let after := (relaying uplink).run ⟨start, {}⟩ acts
    (stored after.backend).Nodup ∧
      ∀ stamp ∈ after.buffers.acknowledged.flatten, (stored after.backend).count stamp = 1 := by
  have initially : Relay.Sound uplink ⟨start, {}⟩ :=
    { held := held
      bounded := bounded
      once := List.nodup_nil
      known := fun _ member => nomatch member
      apart := fun _ _ member => nomatch member
      acknowledged := by
        rw [unacknowledged]
        exact fun _ member => nomatch member
      counted := fun _ member => nomatch member }
  have sound := Relay.Sound.ran initially distinct (fun _ _ member => nomatch member) spared
  exact ⟨sound.once, fun stamp member =>
    List.count_eq_one_of_mem sound.once (sound.acknowledged stamp member)⟩

/-! ### Lost requests and lost responses -/

/-- No request is answered, and the backend receives each of them or none. -/
def unanswered (reaches : Bool) : Passage where
  weather := endingAs .transport
  reaches _ := reaches
  answered _ same := nomatch same

/-- Every request is answered. -/
def answering : Passage where
  weather := { endingAs .transport with idempotencyKey := "6f", postings := fun _ => {} }
  reaches _ := true
  answered _ _ := rfl

/-- An acknowledgement is appended, a flush fails, and another succeeds. -/
def retried (reaches : Bool) : List Act :=
  [.append (replanAck "r1"), .flush (unanswered reaches) [] {}, .flush answering [] {}]

/-- When the requests are lost, the acknowledgement is stored once. -/
theorem stored_once_retried :
    let after := (relaying trialUplink).run ⟨{}, {}⟩ (retried false)
    (stored after.backend).Nodup ∧
      ∀ stamp ∈ after.buffers.acknowledged.flatten, (stored after.backend).count stamp = 1 := by
  refine stored_once trialUplink {} List.nodup_nil (fun _ member => nomatch member) rfl
    (retried false) (by decide +kernel) ?_
  refine List.forall_mem_cons.mpr ⟨?_, List.forall_mem_cons.mpr ⟨?_,
    List.forall_mem_cons.mpr ⟨?_, fun _ member => nomatch member⟩⟩⟩
  · intro passage extra pulse same
    cases same
  · rintro passage extra pulse same _ _ _ _ _ _ ⟨attempt, _, received⟩
    cases same
    cases received
  · intro passage extra pulse same _ _ _ _ _ _ _
    cases same
    exact ⟨.inr ⟨⟨0, List.mem_cons_self, rfl⟩, rfl⟩,
      .inr (.inl ⟨0, by decide, fun fails => nomatch fails.1⟩)⟩

/-- When the responses are lost, it is stored twice. -/
theorem stored_twice :
    ¬ ∀ (uplink : Uplink) (acts : List Act), (keysDrawn acts).Nodup →
      (stored ((relaying uplink).run ⟨{}, {}⟩ acts).backend).Nodup := by
  intro once
  have nodup := once trialUplink (retried true) (by decide +kernel)
  have twice : stored ((relaying trialUplink).run ⟨{}, {}⟩ (retried true)).backend = [0, 0] := by
    decide +kernel
  rw [twice] at nodup
  exact absurd nodup (by decide)

end AxorWrap.Plane
