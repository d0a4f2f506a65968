/-
This file says when a session takes a message without raising. A command raises
only when it is fresh, the node runs, and one of its fields cannot be read; the
fields are read in order, and a refused widening ends the reading. A message
raises when its vetting does, or when one of the commands it is let through with
raises in the posture the commands before it left.

So whether a message raises is settled by the message and by the posture it finds.
-/

import AxorWrap.Plane.Delivery

namespace AxorWrap.Plane

open Python Methods Checks

variable (node : Node)

/-! ### One command -/

/-- The cap requested is above the one in force. -/
def Widens (requested cap : Option Int) : Prop :=
  ∃ more current, requested = some more ∧ cap = some current ∧ current < more

/-- The fields of a command can be read under this cap. A widening is refused before the one-shots
are looked at. -/
structure Readable (state : Value) (cap : Option Int) : Prop where
  stopped : ∃ flag, derivedFlag "stopped" state = .ok flag
  paused : ∃ flag, derivedFlag "paused" state = .ok flag
  rest : ∃ requested, requestedCap node state = .ok requested ∧
    (Widens requested cap ∨ ∀ kind, ∃ directive, derivedDirective node kind state = .ok directive)

/-- A node in this posture takes the command without raising. -/
def Takes (posture : Posture) (version : Int) (state : Value) : Prop :=
  version ≤ posture.version ∨ posture.stopped = true ∨ Readable node state posture.cap

theorem succeeds_report_return (effect : AppliedEffect) (version : Int) (session : Session) :
    Succeeds (do report effect version; return effect) session :=
  ⟨effect, outcome_report_return effect version session⟩

theorem succeeds_applyOneShots (version : Int) (state : Value) (session : Session) :
    Succeeds (applyOneShots node version state) session ↔
      ∀ kind, ∃ directive, derivedDirective node kind state = .ok directive := by
  have arms (kind : OneShot) (session : Session) :
      Succeeds (armOneShot node kind state) session ↔
        ∃ directive, derivedDirective node kind state = .ok directive := succeeds_assign
  unfold applyOneShots
  simp only [succeeds_seq, arms]
  constructor
  · rintro ⟨replan, injection, excision, _⟩ kind
    cases kind with
    | replan => exact replan
    | injection => exact injection
    | excision => exact excision
  · intro each
    exact ⟨each .replan, each .injection, each .excision,
      succeeds_seq.mp (succeeds_report_return ⟨.applied, []⟩ version _)⟩

/-- The cap in force decides whether a request is refused. -/
theorem outcome_applyBudget (state : Value) (session : Session) {requested : Option Int}
    (read : requestedCap node state = .ok requested) :
    ∃ verdict, outcome (applyBudget node state) session = .ok verdict ∧
      (verdict.isSome ↔ Widens requested session.budgetCapCalls) := by
  unfold applyBudget
  rw [outcome_bind, outcome_lift, final_lift, read]
  cases requested with
  | none => exact ⟨none, rfl, by simp [Widens]⟩
  | some requested =>
    simp only [outcome_bind, outcome_get, final_get]
    cases capped : session.budgetCapCalls with
    | none => exact ⟨none, rfl, by simp [Widens]⟩
    | some cap =>
      by_cases above : requested > cap
      · simp only [if_pos above]
        exact ⟨_, rfl, by simp [Widens, above]⟩
      · simp only [if_neg above]
        exact ⟨none, rfl, by simp [Widens, not_lt.mp above]⟩

/-- What was judged of a request was read of it, and is told by the cap in force. -/
theorem widens_of_judged {state : Value} {session : Session} {verdict : Option AppliedEffect}
    (judged : outcome (applyBudget node state) session = .ok verdict) :
    ∃ requested, requestedCap node state = .ok requested ∧
      (verdict.isSome ↔ Widens requested session.budgetCapCalls) := by
  have read : ∃ requested, requestedCap node state = .ok requested := by
    unfold applyBudget at judged
    obtain ⟨requested, read, _⟩ := outcome_bind_eq_ok.mp judged
    exact ⟨requested, read⟩
  obtain ⟨requested, read⟩ := read
  obtain ⟨_, again, widens⟩ := outcome_applyBudget node state session read
  cases judged.symm.trans again
  exact ⟨requested, read, widens⟩

/-- The flags are written beside the cap. -/
theorem cap_flags (state : Value) (session : Session) :
    (final (applyPaused state) (final (applyStopped state) session)).budgetCapCalls =
      session.budgetCapCalls := by
  simp only [applyPaused, applyStopped, final_assign]
  cases wanted (derivedFlag "paused" state) <;> cases wanted (derivedFlag "stopped" state) <;> rfl

theorem succeeds_applyFields (version : Int) (state : Value) (session : Session) :
    Succeeds (applyFields node version state) session ↔
      Readable node state session.budgetCapCalls := by
  unfold applyFields
  rw [succeeds_seq, succeeds_seq, succeeds_bind]
  constructor
  · rintro ⟨stopped, paused, verdict, budgeted, rest⟩
    obtain ⟨requested, read, widens⟩ := widens_of_judged node budgeted
    rw [cap_flags] at widens
    refine ⟨succeeds_assign.mp stopped, succeeds_assign.mp paused, requested, read, ?_⟩
    cases verdict with
    | some effect => exact .inl (widens.mp rfl)
    | none => exact .inr ((succeeds_applyOneShots node version state _).mp rest)
  · rintro ⟨stopped, paused, requested, read, rest⟩
    obtain ⟨verdict, judged, widens⟩ := outcome_applyBudget node state
      (final (applyPaused state) (final (applyStopped state) session)) read
    rw [cap_flags] at widens
    refine ⟨succeeds_assign.mpr stopped, succeeds_assign.mpr paused, verdict, judged, ?_⟩
    cases verdict with
    | some effect => exact succeeds_report_return effect version _
    | none =>
      have narrow : ¬ Widens requested session.budgetCapCalls := fun wide => by
        cases widens.mpr wide
      exact (succeeds_applyOneShots node version state _).mpr (rest.resolve_left narrow)

theorem succeeds_apply (version : Int) (state : Value) (session : Session) :
    Succeeds (apply node version state) session ↔ Takes node session.posture version state := by
  unfold Succeeds Takes
  rw [outcome_apply]
  by_cases stale : version ≤ session.appliedVersion
  · rw [if_pos stale]
    exact iff_of_true ⟨_, rfl⟩ (.inl stale)
  rw [if_neg stale]
  cases stopped : session.stopped with
  | true =>
    rw [if_pos rfl]
    exact iff_of_true ⟨_, rfl⟩ (.inr (.inl stopped))
  | false =>
    rw [if_neg Bool.false_ne_true]
    refine (succeeds_applyFields node version state (setVersion version session)).trans ?_
    show Readable node state session.budgetCapCalls ↔ version ≤ session.appliedVersion ∨
      session.stopped = true ∨ Readable node state session.budgetCapCalls
    rw [stopped]
    simp [stale]

/-! ### A message -/

/-- A node in this posture takes the commands one after another without raising. -/
def TakesAll : Posture → List (Int × Value) → Prop
  | _, [] => True
  | posture, (version, state) :: rest =>
    Takes node posture version state ∧
      TakesAll (posture.command version (desiredOf node state)) rest

theorem succeeds_replayCommand (applied : AppliedEffect) (command : Int × Entries)
    (session : Session) :
    Succeeds (replayCommand node applied command) session ↔
      Takes node session.posture command.1 (.dict command.2) := by
  unfold replayCommand
  rw [succeeds_get]
  split
  · next stale => exact iff_of_true (succeeds_pure _ _) (.inl stale)
  · exact succeeds_apply node command.1 (.dict command.2) session

theorem succeeds_replay (chain : List (Int × Entries)) (session : Session) :
    Succeeds (replay node chain) session ↔ TakesAll node session.posture (chainCommands chain) := by
  unfold replay
  generalize (⟨.applied, []⟩ : AppliedEffect) = start
  induction chain generalizing start session with
  | nil => exact iff_of_true (succeeds_pure _ _) trivial
  | cons command rest inductionHypothesis =>
    have left : (final (replayCommand node start command) session).posture =
        session.posture.command command.1 (desiredOf node (.dict command.2)) := by
      rw [final_replayCommand]
      exact posture_apply node command.1 (.dict command.2) session
    rw [List.foldlM_cons, succeeds_bind]
    simp only [inductionHypothesis, left]
    rw [exists_and_right]
    exact and_congr_left' (succeeds_replayCommand node start command session)

/-- The message is vetted without raising, and the node takes the commands let through. -/
def Message.TakenBy (message : Message) (posture : Posture) : Prop :=
  (∀ error, (message.vetted node).run ≠ .error error) ∧
    ∀ commands, Accepts (message.vetted node) commands → TakesAll node posture commands

variable {node}

theorem not_takenBy_of_raised {message : Message} {error : PyError}
    (raised : (message.vetted node).run = .error error) (posture : Posture) :
    ¬ message.TakenBy node posture := fun taken => taken.1 error raised

theorem takenBy_of_refused {message : Message} {effect : AppliedEffect}
    (refused : Refuses (message.vetted node) effect) (posture : Posture) :
    message.TakenBy node posture := by
  refine ⟨fun error raised => ?_, fun commands accepted => ?_⟩
  · cases refused.symm.trans raised
  · cases refused.symm.trans accepted

theorem takenBy_iff_of_accepted {message : Message} {commands : List (Int × Value)}
    (accepted : Accepts (message.vetted node) commands) (posture : Posture) :
    message.TakenBy node posture ↔ TakesAll node posture commands := by
  refine ⟨fun taken => taken.2 commands accepted, fun takes => ⟨fun error raised => ?_, ?_⟩⟩
  · cases accepted.symm.trans raised
  · intro others alsoAccepted
    cases accepted.symm.trans alsoAccepted
    exact takes

variable (node)

theorem succeeds_applyDelta (version : Int) (body operator timestamp sig : Value)
    (session : Session) :
    Succeeds (applyDelta node version body operator timestamp sig) session ↔
      (Message.delta version body operator timestamp sig).TakenBy node session.posture := by
  have vetted := run_vetted_delta node version body operator timestamp sig
  unfold applyDelta
  rw [succeeds_bind, outcome_lift, final_lift]
  match checked : verify node version body operator timestamp sig with
  | .error error =>
    rw [checked] at vetted
    exact iff_of_false (fun ⟨_, same, _⟩ => nomatch same) (not_takenBy_of_raised vetted _)
  | .ok (some rejected) =>
    rw [checked] at vetted
    exact iff_of_true ⟨_, rfl, succeeds_report_return rejected version session⟩
      (takenBy_of_refused vetted _)
  | .ok none =>
    rw [checked] at vetted
    rw [takenBy_iff_of_accepted vetted]
    simp only [Except.ok.injEq, exists_eq_left', TakesAll, and_true]
    exact succeeds_apply node version body session

theorem succeeds_applySnapshot (version : Int) (state commands : Value) (session : Session) :
    Succeeds (applySnapshot node version state commands) session ↔
      (Message.snapshot version state commands).TakenBy node session.posture := by
  have vetted := run_vetted_snapshot node version state commands
  unfold applySnapshot
  cases signed : node.operatorPubkeys.isEmpty with
  | true =>
    rw [signed] at vetted
    rw [takenBy_iff_of_accepted vetted]
    simp only [if_true, TakesAll, and_true]
    exact succeeds_apply node version state session
  | false =>
    simp only [signed, Bool.false_eq_true, if_false] at vetted ⊢
    rw [succeeds_bind, outcome_lift, final_lift]
    match checked : (checkSnapshot node state commands).run with
    | .error error =>
      rw [checked] at vetted
      exact iff_of_false (fun ⟨_, same, _⟩ => nomatch same) (not_takenBy_of_raised vetted _)
    | .ok (.error effect) =>
      rw [checked] at vetted
      exact iff_of_true ⟨_, rfl, succeeds_report_return effect version session⟩
        (takenBy_of_refused vetted _)
    | .ok (.ok chain) =>
      rw [checked] at vetted
      rw [takenBy_iff_of_accepted vetted]
      simp only [Except.ok.injEq, exists_eq_left']
      refine Iff.trans ?_ (succeeds_replay node chain session)
      rw [succeeds_bind]
      exact exists_congr fun applied => and_iff_left ⟨applied, rfl⟩

/-- Delivering a message returns exactly then. -/
theorem succeeds_deliver (message : Message) (session : Session) :
    Succeeds (message.deliver node) session ↔ message.TakenBy node session.posture := by
  cases message with
  | snapshot version state commands =>
    exact succeeds_applySnapshot node version state commands session
  | delta version body operator timestamp sig =>
    exact succeeds_applyDelta node version body operator timestamp sig session

end AxorWrap.Plane
