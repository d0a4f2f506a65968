/-
This file says when a backend that has gone silent pauses the node. A node with
`hold_on_disconnect_after` is paused by the wait that follows a failure of the transport, and by
nothing else: the waits after a stream that ended and after a rejected credential only let it
connect again.

A backend that answers, with 401 or with an empty stream, therefore keeps the node running for as
long as it likes. The node is held in time exactly when the waits before the first failure of the
transport fall short of the grace period.
-/

import AxorWrap.Plane.Subscription
import Mathlib.Algebra.Order.Ring.Rat
import Mathlib.Tactic.Linarith

namespace AxorWrap.Plane

open Python Methods Checks Scripts

variable (client : Client)

/-! ### A silent backend -/

/-- `stop` is not set, and the attempt ends without an event. -/
structure Attempt.Silent (attempt : Attempt) : Prop extends attempt.Undisturbed where
  ends : ∀ status lines, attempt.connection = .answered status lines .live → rejects status = true
  eventless : ∀ session, framesOf client session attempt.connection = []

/-- The transport fails, before the stream or in it. -/
def Connection.breaks : Connection → Bool
  | .failed => true
  | .answered status _ ending => !rejects status && ending = .failed

/-- The credential is refused. -/
def Connection.refuses : Connection → Bool
  | .failed => false
  | .answered status _ _ => rejects status

/-- How a stream without an event ends. -/
def Ending.outcome : Ending → Except Failure Consumed
  | .closed => .ok .closed
  | .failed => .error .transport
  | .live => .ok .live

/-- A stream without an event ends as the backend ends it, and leaves the session alone. -/
theorem consumeSse_silent (ending : Ending) {lines : List Line}
    (unset : ∀ line ∈ lines, line.stopped = false) {eventName : PyStr} {dataLines : List PyStr}
    {session : Session} (silent : framesMet client lines eventName dataLines session = []) :
    outcome (consumeSse client ending lines eventName dataLines) session = ending.outcome ∧
      final (consumeSse client ending lines eventName dataLines) session = session := by
  induction lines generalizing eventName dataLines with
  | nil => cases ending <;> exact ⟨rfl, rfl⟩
  | cons raw rest inductionHypothesis =>
    rw [List.forall_mem_cons] at unset
    have running : ¬ raw.stopped = true := by simp [unset.1]
    simp only [framesMet, if_neg running] at silent
    simp only [consumeSse, if_neg running]
    split at silent
    · next event =>
      rw [if_pos event]
      exact inductionHypothesis unset.2 silent
    next notEvent =>
    rw [if_neg notEvent]
    split at silent
    · next data =>
      rw [if_pos data]
      exact inductionHypothesis unset.2 silent
    next notData =>
    rw [if_neg notData]
    split at silent
    · cases silent
    next incomplete =>
    rw [if_neg incomplete]
    exact inductionHypothesis unset.2 silent

/-- A silent attempt fails, is refused or is closed, and leaves the session alone. -/
theorem subscribe_silent {attempt : Attempt} (silent : attempt.Silent client) (session : Session) :
    outcome (subscribe client attempt.connection) session =
        (if attempt.connection.breaks then .error .transport
          else if attempt.connection.refuses then .ok .rejected else .ok .closed) ∧
      final (subscribe client attempt.connection) session = session := by
  have eventless := silent.eventless session
  cases connected : attempt.connection with
  | failed => exact ⟨rfl, rfl⟩
  | answered status lines ending =>
    rw [connected] at eventless
    cases refused : rejects status with
    | true => simp [subscribe, Connection.breaks, Connection.refuses, refused]
    | false =>
      simp only [framesOf, refused, Bool.false_eq_true, if_false] at eventless
      have streamed := consumeSse_silent client ending (silent.streamed _ _ _ connected) eventless
      simp only [subscribe, Connection.breaks, Connection.refuses, refused, Bool.false_eq_true,
        if_false, Bool.not_false, Bool.true_and]
      refine ⟨streamed.1.trans ?_, streamed.2⟩
      cases ending with
      | closed => rfl
      | failed => rfl
      | live => cases refused.symm.trans (silent.ends status lines connected)

/-! ### One pass -/

/-- The wait after an attempt that did not fail. -/
def Connection.quietWait (connection : Connection) (backoff : Seconds) : Seconds :=
  if connection.refuses then backoff else reconnectDelay

/-- The backoff after it. -/
def Connection.quietBackoff (connection : Connection) (backoff : Seconds) : Seconds :=
  if connection.refuses then doubled backoff else 1

/-- A pass goes by what became of its attempt. -/
theorem pass_silent {attempt : Attempt} (silent : attempt.Silent client) (backoff : Seconds)
    (session : Session) :
    outcome (pass client backoff attempt) session =
        (if attempt.connection.breaks then
          outcome (disconnected client attempt (attempt.connection.backoff backoff)) session
        else .ok (.again (attempt.connection.quietWait backoff)
          (attempt.connection.quietBackoff backoff))) ∧
      final (pass client backoff attempt) session =
        if attempt.connection.breaks then
          final (disconnected client attempt (attempt.connection.backoff backoff)) session
        else session := by
  have running : ¬ attempt.stopped = true := by simp [silent.running]
  have pauses : ∀ seconds next, attempt.pause seconds next = .again seconds next := by
    intro seconds next
    unfold Attempt.pause
    rw [silent.waited]
    rfl
  have came := subscribe_silent client silent session
  unfold pass
  rw [if_neg running]
  simp only [outcome_bind, final_bind, outcome_observe, final_observe, came]
  cases breaks : attempt.connection.breaks with
  | true => exact ⟨rfl, rfl⟩
  | false =>
    have answered :
        attempt.connection.refuses = false → attempt.connection.backoff backoff = 1 := by
      intro accepted
      cases connected : attempt.connection with
      | failed => simp [connected, Connection.breaks] at breaks
      | answered status lines ending =>
        rw [connected] at accepted
        exact if_neg (by simpa [Connection.refuses] using accepted)
    have refusal : attempt.connection.refuses = true →
        attempt.connection.backoff backoff = backoff := by
      intro refused
      cases connected : attempt.connection with
      | failed => rfl
      | answered status lines ending =>
        rw [connected] at refused
        exact if_pos refused
    simp only [Bool.false_eq_true, if_false, Connection.quietWait, Connection.quietBackoff]
    cases refused : attempt.connection.refuses with
    | true => simp [pauses, refusal refused]
    | false => simp [pauses, answered refused]

/-- After a failure of the transport the node waits for the grace period, and is paused. -/
theorem disconnected_held {holdAfter : Seconds} (held : client.holdAfter = some holdAfter)
    {attempt : Attempt} (waited : attempt.interrupted = false) (backoff : Seconds)
    (session : Session) :
    outcome (disconnected client attempt backoff) session = .ok (.again holdAfter backoff) ∧
      final (disconnected client attempt backoff) session = { session with paused := true } := by
  unfold disconnected Attempt.pause
  rw [held, waited]
  exact ⟨rfl, rfl⟩

/-! ### A run -/

/-- The waits a run makes, in all. -/
def waits (backoff : Seconds) : List Attempt → Session → Seconds
  | [], _ => 0
  | attempt :: rest, session =>
    match outcome (pass client backoff attempt) session with
    | .ok (.again waited next) =>
      waited + waits next rest (final (pass client backoff attempt) session)
    | _ => 0

/-- The waits before the first failure of the transport. -/
def quietWaits (backoff : Seconds) : List Attempt → Seconds
  | [] => 0
  | attempt :: rest =>
    if attempt.connection.breaks then 0
    else attempt.connection.quietWait backoff +
      quietWaits (attempt.connection.quietBackoff backoff) rest

/-- No delay is negative. -/
theorem delays_nonneg (connection : Connection) {backoff : Seconds} (positive : 0 ≤ backoff) :
    0 ≤ connection.quietWait backoff ∧ 0 ≤ connection.quietBackoff backoff ∧
      0 ≤ connection.backoff backoff := by
  refine ⟨?_, ?_, ?_⟩
  · unfold Connection.quietWait reconnectDelay
    split <;> linarith
  · unfold Connection.quietBackoff doubled
    split
    · split <;> linarith
    · linarith
  · unfold Connection.backoff
    split
    · exact positive
    · split <;> linarith

theorem quietWaits_nonneg (attempts : List Attempt) {backoff : Seconds} (positive : 0 ≤ backoff) :
    0 ≤ quietWaits backoff attempts := by
  induction attempts generalizing backoff with
  | nil => exact le_refl 0
  | cons attempt rest inductionHypothesis =>
    obtain ⟨wait, next, _⟩ := delays_nonneg attempt.connection positive
    rw [quietWaits]
    split
    · exact le_refl 0
    · exact add_nonneg wait (inductionHypothesis next)

/-- Once the waits of a run add up to this limit, the node is paused. -/
def HeldBy (limit backoff : Seconds) (attempts : List Attempt) (session : Session) : Prop :=
  ∀ passed, passed <+: attempts → limit ≤ waits client backoff passed session →
    (final (run client backoff passed) session).paused = true

/-- A run is held by the limit when it is held at its start, and after its first pass by what the
wait of that pass leaves of the limit. -/
theorem heldBy_cons {attempt : Attempt} {backoff waited next : Seconds} {session : Session}
    (again : outcome (pass client backoff attempt) session = .ok (.again waited next))
    (limit : Seconds) (rest : List Attempt) :
    HeldBy client limit backoff (attempt :: rest) session ↔
      (limit ≤ 0 → session.paused = true) ∧
        HeldBy client (limit - waited) next rest (final (pass client backoff attempt) session) := by
  have goesOn : ∀ later, final (run client backoff (attempt :: later)) session =
      final (run client next later) (final (pass client backoff attempt) session) := by
    intro later
    rw [run, final_bind_ok again]
  have adds : ∀ later, waits client backoff (attempt :: later) session =
      waited + waits client next later (final (pass client backoff attempt) session) := by
    intro later
    rw [waits, again]
  constructor
  · refine fun all => ⟨fun reached => all [] (List.nil_prefix) reached,
      fun passed isPrefix reached => ?_⟩
    rw [← goesOn]
    refine all (attempt :: passed) (List.prefix_cons_inj attempt |>.mpr isPrefix) ?_
    rw [adds]
    linarith
  · rintro ⟨start, later⟩ passed isPrefix reached
    cases passed with
    | nil => exact start reached
    | cons first passed =>
      obtain ⟨rfl, shorter⟩ := List.cons_prefix_cons.mp isPrefix
      rw [goesOn]
      refine later passed shorter ?_
      rw [adds] at reached
      linarith

/-- Among silent attempts only the waits before the first failure of the transport count. -/
theorem heldBy_iff {holdAfter : Seconds} (held : client.holdAfter = some holdAfter)
    {attempts : List Attempt} (silent : ∀ attempt ∈ attempts, attempt.Silent client)
    {backoff : Seconds} (positive : 0 ≤ backoff) (limit : Seconds) (session : Session) :
    HeldBy client limit backoff attempts session ↔
      session.paused = true ∨ quietWaits backoff attempts < limit := by
  have start : ∀ (limit : Seconds) (session : Session),
      (limit ≤ 0 → session.paused = true) ↔ session.paused = true ∨ 0 < limit := by
    intro limit session
    rw [← not_le, imp_iff_or_not]
  induction attempts generalizing backoff limit session with
  | nil =>
    rw [quietWaits, ← start]
    refine ⟨fun all reached => all [] List.prefix_rfl reached, fun start passed isPrefix => ?_⟩
    rw [List.prefix_nil.mp isPrefix]
    exact start
  | cons attempt rest inductionHypothesis =>
    obtain ⟨first, later⟩ := List.forall_mem_cons.mp silent
    obtain ⟨wait, quietNext, brokenNext⟩ := delays_nonneg attempt.connection positive
    obtain ⟨came, left⟩ := pass_silent client first backoff session
    rw [quietWaits]
    cases breaks : attempt.connection.breaks with
    | true =>
      obtain ⟨again, paused⟩ := disconnected_held client held first.waited
        (attempt.connection.backoff backoff) session
      rw [if_pos breaks] at came left
      rw [heldBy_cons client (came.trans again), left, paused, start, if_pos rfl]
      exact and_iff_left ((inductionHypothesis later brokenNext _ _).mpr (.inl rfl))
    | false =>
      have quiet : ¬ attempt.connection.breaks = true := by simp [breaks]
      rw [if_neg quiet] at came left
      have after : HeldBy client (limit - attempt.connection.quietWait backoff)
          (attempt.connection.quietBackoff backoff) rest session ↔ session.paused = true ∨
            quietWaits (attempt.connection.quietBackoff backoff) rest <
              limit - attempt.connection.quietWait backoff :=
        inductionHypothesis later quietNext _ session
      rw [heldBy_cons client came, left, start, after, if_neg Bool.false_ne_true, ← or_and_left]
      refine or_congr_right ⟨fun ⟨_, short⟩ => by linarith, fun short => ?_⟩
      have rest := quietWaits_nonneg rest quietNext
      exact ⟨by linarith, by linarith⟩

/-- **The hold comes in time** exactly when the node was paused before, or the waits the backend
leaves it before the first failure of the transport fall short of the grace period. -/
theorem held_in_time_iff {holdAfter : Seconds} (held : client.holdAfter = some holdAfter)
    {attempts : List Attempt} (silent : ∀ attempt ∈ attempts, attempt.Silent client)
    (session : Session) :
    HeldBy client holdAfter 1 attempts session ↔
      session.paused = true ∨ quietWaits 1 attempts < holdAfter :=
  heldBy_iff client held silent zero_le_one holdAfter session

/-! ### A backend that prevents the hold -/

/-- A client that holds after two seconds. -/
def holdingClient : Client := { trialClient with holdAfter := some 2 }

/-- An attempt that comes to this. -/
def comesTo (connection : Connection) : Attempt := { connection := connection }

/-- A rejected credential. -/
def unauthorized : Attempt := comesTo (.answered 401 [] .closed)

theorem silent_unauthorized : unauthorized.Silent holdingClient where
  running := rfl
  waited := rfl
  streamed := by
    intro _ _ _ same
    cases same
    exact List.forall_mem_nil _
  ends := by
    intro _ _ same
    cases same
  eventless _ := rfl

theorem silent_failed : (comesTo .failed).Silent holdingClient where
  running := rfl
  waited := rfl
  streamed := by
    intro _ _ _ same
    cases same
  ends := by
    intro _ _ same
    cases same
  eventless _ := rfl

/-- One rejection does not use up the grace period, and the failure after it pauses the node. -/
theorem held_after_one_rejection :
    HeldBy holdingClient 2 1 [unauthorized, comesTo .failed] {} := by
  have silent : ∀ attempt ∈ [unauthorized, comesTo .failed], attempt.Silent holdingClient := by
    simp [silent_unauthorized, silent_failed]
  exact (held_in_time_iff holdingClient rfl silent {}).mpr (.inr (by decide +kernel))

/-- Two rejections use it up, and the node goes on. -/
theorem rejections_prevent_hold :
    (∀ attempt ∈ [unauthorized, unauthorized], attempt.Silent holdingClient) ∧
      ¬ HeldBy holdingClient 2 1 [unauthorized, unauthorized] {} := by
  refine ⟨by simp [silent_unauthorized], fun all => ?_⟩
  have paused := all [unauthorized, unauthorized] List.prefix_rfl (by decide +kernel)
  exact absurd paused (by decide +kernel)

end AxorWrap.Plane
