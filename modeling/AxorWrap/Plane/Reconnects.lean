/-
This file says when a client reconnects in a storm. Between two attempts the loop waits: a fixed
delay after a stream that ended, and the backoff after a rejection or a failure of the transport.
The backoff is never below the delay. But with `hold_on_disconnect_after` the wait after a failure
is the grace period instead, and that can be as short as its configuration has it.
-/

import AxorWrap.Plane.Hold

namespace AxorWrap.Plane

open Python Methods Checks Scripts

variable (client : Client)

/-! ### Gaps -/

/-- An attempt that another one follows, the session that it found, and the wait after it. -/
structure Gap where
  attempt : Attempt
  session : Session
  waited : Seconds

/-- There is another attempt, before which `stop` is not set. -/
def follows : List Attempt → Bool
  | [] => false
  | following :: _ => !following.stopped

/-- The gaps between the attempts of a run. -/
def gaps (backoff : Seconds) : List Attempt → Session → List Gap
  | [], _ => []
  | attempt :: rest, session =>
    match outcome (pass client backoff attempt) session with
    | .ok (.again waited next) =>
      (if follows rest then [⟨attempt, session, waited⟩] else []) ++
        gaps next rest (final (pass client backoff attempt) session)
    | _ => []

/-- The values that the backoff of a run has. -/
def backoffs (backoff : Seconds) : List Attempt → Session → List Seconds
  | [], _ => [backoff]
  | attempt :: rest, session =>
    if attempt.stopped then [backoff]
    else backoff :: attempt.connection.backoff backoff ::
      match outcome (pass client backoff attempt) session with
      | .ok (.again _ next) => backoffs next rest (final (pass client backoff attempt) session)
      | _ => []

/-- Every gap is at least the delay and at most the longest wait there is, and the backoff stays
between its bounds. -/
structure NoStorm (attempts : List Attempt) (session : Session) : Prop where
  spaced : ∀ gap ∈ gaps client 1 attempts session,
    reconnectDelay ≤ gap.waited ∧ gap.waited ≤ max 30 (client.holdAfter.getD 0)
  bounded : ∀ backoff ∈ backoffs client 1 attempts session, 1 ≤ backoff ∧ backoff ≤ 30

/-- If the transport failed, the grace period of a node that is held is at least the delay. -/
def Gap.Calm (gap : Gap) : Prop :=
  outcome (subscribe client gap.attempt.connection) gap.session = .error .transport →
    ∀ holdAfter, client.holdAfter = some holdAfter → reconnectDelay ≤ holdAfter

/-! ### One pass -/

variable {client} {backoff waited next : Seconds} {attempt : Attempt} {session : Session}

theorem backoff_bounds (low : 1 ≤ backoff) (high : backoff ≤ 30) (connection : Connection) :
    1 ≤ connection.backoff backoff ∧ connection.backoff backoff ≤ 30 := by
  unfold Connection.backoff
  split
  · exact ⟨low, high⟩
  · split
    · exact ⟨low, high⟩
    · constructor <;> linarith

theorem doubled_bounds (low : 1 ≤ backoff) : 1 ≤ doubled backoff ∧ doubled backoff ≤ 30 := by
  unfold doubled
  split
  · constructor <;> linarith
  · constructor <;> linarith

theorem again_of_pause {seconds later : Seconds}
    (again : attempt.pause seconds later = .again waited next) : waited = seconds ∧ next = later := by
  unfold Attempt.pause at again
  split at again
  · cases again
  · cases again
    exact ⟨rfl, rfl⟩

/-- What a pass waits for, and what it leaves the backoff at, goes by what became of its stream. -/
theorem again_of_pass
    (again : outcome (pass client backoff attempt) session = .ok (.again waited next)) :
    (outcome (subscribe client attempt.connection) session = .ok .closed ∧
        waited = reconnectDelay ∧ next = attempt.connection.backoff backoff) ∨
      (outcome (subscribe client attempt.connection) session = .ok .rejected ∧
        waited = attempt.connection.backoff backoff ∧
        next = doubled (attempt.connection.backoff backoff)) ∨
      (outcome (subscribe client attempt.connection) session = .error .transport ∧
        ((client.holdAfter = some waited ∧ next = attempt.connection.backoff backoff) ∨
          (client.holdAfter = none ∧ waited = attempt.connection.backoff backoff ∧
            next = doubled (attempt.connection.backoff backoff)))) := by
  have observed : outcome (observe (subscribe client attempt.connection)) session =
      .ok (outcome (subscribe client attempt.connection) session) := rfl
  unfold pass at again
  cases stopped : attempt.stopped with
  | true =>
    rw [stopped, if_pos rfl] at again
    cases again
  | false =>
    rw [stopped, if_neg Bool.false_ne_true] at again
    dsimp only at again
    rw [outcome_bind_ok observed] at again
    cases came : outcome (subscribe client attempt.connection) session with
    | ok consumed =>
      rw [came] at again
      cases consumed with
      | stopped => cases again
      | live => cases again
      | closed => exact .inl ⟨rfl, again_of_pause (Except.ok.inj again)⟩
      | rejected => exact .inr (.inl ⟨rfl, again_of_pause (Except.ok.inj again)⟩)
    | error failure =>
      rw [came] at again
      cases failure with
      | python error => cases again
      | transport =>
        refine .inr (.inr ⟨rfl, ?_⟩)
        dsimp only at again
        unfold disconnected at again
        cases held : client.holdAfter with
        | none =>
          rw [held] at again
          exact .inr ⟨rfl, again_of_pause (Except.ok.inj again)⟩
        | some holdAfter =>
          rw [held] at again
          have paused : attempt.pause holdAfter (attempt.connection.backoff backoff) =
              .again waited next := by
            dsimp only at again
            split at again
            · obtain ⟨_, _, returned⟩ := outcome_bind_eq_ok.mp again
              exact Except.ok.inj returned
            · exact Except.ok.inj again
          obtain ⟨rfl, same⟩ := again_of_pause paused
          exact .inl ⟨rfl, same⟩

/-- A pass leaves the backoff between its bounds. -/
theorem next_bounds (low : 1 ≤ backoff) (high : backoff ≤ 30)
    (again : outcome (pass client backoff attempt) session = .ok (.again waited next)) :
    1 ≤ next ∧ next ≤ 30 := by
  have kept := backoff_bounds low high attempt.connection
  rcases again_of_pass again with ⟨_, _, rfl⟩ | ⟨_, _, rfl⟩ | ⟨_, ⟨_, rfl⟩ | ⟨_, _, rfl⟩⟩
  · exact kept
  · exact doubled_bounds kept.1
  · exact kept
  · exact doubled_bounds kept.1

/-- The wait of a pass is within bounds exactly when a grace period that it waits for is at least
the delay. -/
theorem waited_bounds_iff (low : 1 ≤ backoff) (high : backoff ≤ 30)
    (again : outcome (pass client backoff attempt) session = .ok (.again waited next)) :
    (reconnectDelay ≤ waited ∧ waited ≤ max 30 (client.holdAfter.getD 0)) ↔
      Gap.Calm client ⟨attempt, session, waited⟩ := by
  have kept := backoff_bounds low high attempt.connection
  unfold Gap.Calm
  rcases again_of_pass again with ⟨closed, rfl, _⟩ | ⟨rejected, rfl, _⟩ | ⟨failed, wait⟩
  · refine iff_of_true ⟨le_refl _, le_max_of_le_left ?_⟩ ?_
    · unfold reconnectDelay
      linarith
    · rw [closed]
      rintro ⟨⟩
  · refine iff_of_true ⟨kept.1, le_max_of_le_left kept.2⟩ ?_
    rw [rejected]
    rintro ⟨⟩
  · rcases wait with ⟨held, _⟩ | ⟨free, rfl, _⟩
    · rw [held]
      refine ⟨fun bounds _ holdAfter same => ?_, fun calm => ⟨calm failed waited rfl, ?_⟩⟩
      · cases same
        exact bounds.1
      · exact le_max_right _ _
    · rw [free]
      refine iff_of_true ⟨kept.1, le_max_of_le_left kept.2⟩ ?_
      rintro _ _ ⟨⟩

/-! ### A run -/

theorem gaps_bounds_iff (low : 1 ≤ backoff) (high : backoff ≤ 30) {attempts : List Attempt} :
    (∀ gap ∈ gaps client backoff attempts session,
        reconnectDelay ≤ gap.waited ∧ gap.waited ≤ max 30 (client.holdAfter.getD 0)) ↔
      ∀ gap ∈ gaps client backoff attempts session, gap.Calm client := by
  induction attempts generalizing backoff session with
  | nil =>
    refine iff_of_true ?_ ?_
    · exact List.forall_mem_nil _
    · exact List.forall_mem_nil _
  | cons attempt rest inductionHypothesis =>
    rw [gaps]
    split
    · next waited next again =>
      have bounds := next_bounds low high again
      rw [List.forall_mem_append, List.forall_mem_append, inductionHypothesis bounds.1 bounds.2]
      refine and_congr_left' ?_
      cases follows rest with
      | false =>
        refine iff_of_true ?_ ?_
        · exact List.forall_mem_nil _
        · exact List.forall_mem_nil _
      | true =>
        rw [if_pos rfl, List.forall_mem_singleton, List.forall_mem_singleton]
        exact waited_bounds_iff low high again
    · refine iff_of_true ?_ ?_
      · exact List.forall_mem_nil _
      · exact List.forall_mem_nil _

/-- The backoff stays between its bounds, whatever the configuration. -/
theorem backoffs_bounds (low : 1 ≤ backoff) (high : backoff ≤ 30) {attempts : List Attempt} :
    ∀ value ∈ backoffs client backoff attempts session, 1 ≤ value ∧ value ≤ 30 := by
  induction attempts generalizing backoff session with
  | nil => exact List.forall_mem_singleton.mpr ⟨low, high⟩
  | cons attempt rest inductionHypothesis =>
    rw [backoffs]
    split
    · exact List.forall_mem_singleton.mpr ⟨low, high⟩
    · rw [List.forall_mem_cons, List.forall_mem_cons]
      refine ⟨⟨low, high⟩, backoff_bounds low high attempt.connection, ?_⟩
      split
      · next waited next again =>
        have bounds := next_bounds low high again
        exact inductionHypothesis bounds.1 bounds.2
      · exact List.forall_mem_nil _

/-- A client that is held after this long waits so long, and no longer, between two failures. -/
theorem mem_gaps_failed {holdAfter : Seconds} (held : client.holdAfter = some holdAfter)
    (session : Session) :
    ⟨comesTo .failed, session, holdAfter⟩ ∈
      gaps client 1 [comesTo .failed, comesTo .failed] session := by
  have again : outcome (pass client 1 (comesTo .failed)) session = .ok (.again holdAfter 1) :=
    (disconnected_held client held rfl 1 session).1
  rw [gaps, again]
  exact List.mem_append_left _ List.mem_cons_self

/-- **A run makes no storm** exactly when no failure of the transport is followed by an attempt
after a grace period below the delay. So no run of a client does exactly when it has no grace
period, or one that is at least the delay. -/
theorem noStorm_iff (client : Client) :
    (∀ attempts session, NoStorm client attempts session ↔
      ∀ gap ∈ gaps client 1 attempts session, gap.Calm client) ∧
    ((∀ attempts session, NoStorm client attempts session) ↔
      ∀ holdAfter, client.holdAfter = some holdAfter → reconnectDelay ≤ holdAfter) := by
  have each : ∀ attempts session, NoStorm client attempts session ↔
      ∀ gap ∈ gaps client 1 attempts session, gap.Calm client := by
    intro attempts session
    have bounds : (1 : Seconds) ≤ 30 := by norm_num
    rw [← gaps_bounds_iff (le_refl 1) bounds]
    exact ⟨NoStorm.spaced, fun spaced => ⟨spaced, backoffs_bounds (le_refl 1) bounds⟩⟩
  refine ⟨each, fun calm holdAfter held => ?_, fun long attempts session => ?_⟩
  · exact (each _ {}).mp (calm [comesTo .failed, comesTo .failed] {}) _ (mem_gaps_failed held {})
      rfl holdAfter held
  · exact (each attempts session).mpr fun _ _ _ => long

/-- A client that is held at once. -/
def hastyClient : Client := { trialClient with holdAfter := some 0 }

/-- It connects again without a wait. -/
theorem hasty_storm : ¬ NoStorm hastyClient [comesTo .failed, comesTo .failed] {} := by
  intro noStorm
  have spaced := (noStorm.spaced _ (mem_gaps_failed rfl {})).1
  exact absurd spaced (by decide)

end AxorWrap.Plane
