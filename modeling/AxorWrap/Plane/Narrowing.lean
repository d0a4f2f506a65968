/-
This file proves what the plane can never undo. On the lattice fields every
message is a run of posture commands and every take is nothing, so narrowing is
inherited from the posture, over any run and whether its operations return or
raise.

A stop does more than fix the lattice fields: no later message arms anything.
Whether it also holds back what was armed before it is up to the takes. An
excision is let go by its provenance guard alone, so a stopped session keeps
one-shots back exactly when no excision is waiting that the guard would clear.
-/

import AxorWrap.Plane.Runs

namespace AxorWrap.Plane

open Python Methods Checks Machines

variable (node : Node)

/-! ### Narrowing -/

/-- On the lattice fields a list of commands is a run of the posture. -/
theorem posture_applyAll (commands : List (Int × Value)) (session : Session) :
    (applyAll node session commands).posture =
      session.posture.run (commands.map fun command => (command.1, desiredOf node command.2)) := by
  induction commands generalizing session with
  | nil => rfl
  | cons command rest inductionHypothesis =>
    rw [List.map_cons, Posture.run_cons, ← posture_apply]
    exact inductionHypothesis (applyOne node session command)

/-- One session is at least as narrow as another. -/
def Session.Narrows (before after : Session) : Prop := before.posture.Narrows after.posture

instance : Std.Refl Session.Narrows where
  refl session := Std.Refl.refl session.posture

instance : IsTrans Session Session.Narrows where
  trans _ _ _ first second := IsTrans.trans (r := Posture.Narrows) _ _ _ first second

theorem narrows_of_posture {before after : Session} (same : after.posture = before.posture) :
    before.Narrows after := by
  unfold Session.Narrows
  rw [same]
  exact Std.Refl.refl before.posture

theorem narrows_applyAll (commands : List (Int × Value)) (session : Session) :
    session.Narrows (applyAll node session commands) := by
  unfold Session.Narrows
  rw [posture_applyAll]
  exact Posture.narrows_run _ _

/-- Closing a message at most raises the version. -/
theorem narrows_close (message : Message) (session : Session) :
    session.Narrows (message.close node session) := by
  cases message with
  | delta => exact Std.Refl.refl session
  | snapshot version =>
    simp only [Message.close]
    split
    · exact Std.Refl.refl session
    · exact ⟨le_max_left _ _, id, le_rfl, fun _ => ⟨rfl, rfl⟩⟩

theorem narrows_message (message : Message) (session : Session) :
    session.Narrows (final (message.deliver node) session) := by
  have applied (commands : List (Int × Value)) := narrows_applyAll node commands session
  refine final_deliver_of node (Std.Refl.refl session) (fun effect => ?_) applied fun commands => ?_
  · exact narrows_of_posture rfl
  · exact IsTrans.trans _ _ _ (applied commands) (narrows_close node message _)

/-- Every operation only narrows. -/
theorem narrows_next (session : Session) (operation : Operation) :
    session.Narrows ((sessionMachine node).next session operation) := by
  cases operation with
  | message message =>
    rw [next_message]
    exact narrows_message node message session
  | take take =>
    rw [next_take]
    exact narrows_of_posture (posture_take node take session)

/-- Every run only narrows. -/
theorem narrows_run (session : Session) (operations : List Operation) :
    session.Narrows ((sessionMachine node).run session operations) :=
  (sessionMachine node).run_related (narrows_next node) session operations

/-! ### A stop arms nothing -/

theorem pending_close (message : Message) (session : Session) (kind : OneShot) :
    (message.close node session).pending kind = session.pending kind := by
  cases message with
  | delta => rfl
  | snapshot =>
    simp only [Message.close]
    split
    · rfl
    · cases kind <;> rfl

theorem pending_applyAll_of_stopped (commands : List (Int × Value)) {session : Session}
    (stopped : session.stopped = true) (kind : OneShot) :
    (applyAll node session commands).pending kind = session.pending kind := by
  induction commands generalizing session with
  | nil => rfl
  | cons command rest inductionHypothesis =>
    have still : (applyOne node session command).stopped = true :=
      (narrows_applyAll node [command] session).stopped stopped
    exact (inductionHypothesis still).trans
      (pending_apply_of_stopped node command.1 command.2 stopped kind)

/-- No message arms a directive in a stopped session. -/
theorem pending_message_of_stopped (message : Message) {session : Session}
    (stopped : session.stopped = true) (kind : OneShot) :
    (final (message.deliver node) session).pending kind = session.pending kind := by
  have applied (commands : List (Int × Value)) :=
    pending_applyAll_of_stopped node commands stopped kind
  refine final_deliver_of node (motive := fun after => after.pending kind = _) rfl
    (fun effect => ?_) applied fun commands => ?_
  · cases kind <;> rfl
  · rw [pending_close]
    exact applied commands

theorem admitIntent_of_stopped {session : Session} (stopped : session.stopped = true) :
    admitIntent session = false := by
  simp [admitIntent, stopped]

/-- Over any run from any session, whatever its operations return or raise: the version does
not fall, a stop stays, the cap does not rise and stays within the local one, and once the
session is stopped no message changes its pause, its cap or what is pending, and no intent is
admitted ever after. -/
theorem plane_only_narrows (session : Session) (operations : List Operation) :
    (∀ step ∈ (sessionMachine node).history session operations,
      step.before.appliedVersion ≤ step.after.appliedVersion ∧
      (step.before.stopped = true → step.after.stopped = true) ∧
      limit step.after.budgetCapCalls ≤ limit step.before.budgetCapCalls ∧
      (step.before.stopped = true → ∀ message, step.operation = .message message →
        step.after.paused = step.before.paused ∧
        step.after.budgetCapCalls = step.before.budgetCapCalls ∧
        ∀ kind, step.after.pending kind = step.before.pending kind)) ∧
    (session = node.initial →
      limit ((sessionMachine node).run session operations).budgetCapCalls ≤
        limit node.localBudgetCap) ∧
    (session.stopped = true →
      admitIntent ((sessionMachine node).run session operations) = false) := by
  refine ⟨?_, ?_, ?_⟩
  · refine (sessionMachine node).history_forall fun before operation => ?_
    have narrows := narrows_next node before operation
    refine ⟨narrows.version, narrows.stopped, narrows.cap, fun stopped message isMessage => ?_⟩
    have unchanged := narrows.absorbed stopped
    refine ⟨unchanged.1, unchanged.2, fun kind => ?_⟩
    rw [show operation = .message message from isMessage, transition_message]
    exact pending_message_of_stopped node message stopped kind
  · rintro rfl
    exact (narrows_run node node.initial operations).cap
  · intro stopped
    exact admitIntent_of_stopped ((narrows_run node session operations).stopped stopped)

/-! ### What a stop holds back -/

/-- A take hands nothing out and consumes nothing. -/
def Absorbs (session : Session) (take : Take) : Prop :=
  (∀ directive, outcome (take.method node) session ≠ .ok (some directive)) ∧
    (final (take.method node) session).consumedIds ⊆ session.consumedIds

/-- An excision is pending that was not consumed and that the provenance guard clears. -/
def Escapes (session : Session) (provenance : Provenance) : Prop :=
  ∃ excision, session.pendingExcision = some excision ∧
    excision.excisionId ∉ session.consumedIds ∧
    node.platform.excisionRefusedRefs excision provenance = .ok []

/-- A take that lets nothing go absorbs. -/
theorem absorbs_of_barred {session : Session} {take : Take}
    (barred : ∀ directive, session.pending take.kind = some directive →
      ¬ directive.Repeated session → ¬ Admits node session take directive) :
    Absorbs node session take := by
  have came := taken node take session
  unfold Absorbs
  generalize outcome (take.method node) session = answer at came ⊢
  generalize final (take.method node) session = after at came ⊢
  cases came with
  | idle => exact ⟨fun _ => by simp, Finset.Subset.refl _⟩
  | repeated => exact ⟨fun _ => by simp, (consumedIds_clear _ _).subset⟩
  | refused => exact ⟨fun _ => by simp, (consumedIds_clear _ _).subset⟩
  | unguarded => exact ⟨fun _ => by simp, (consumedIds_clear _ _).subset⟩
  | unacknowledged _ found fresh admitted => exact absurd admitted (barred _ found fresh)
  | given _ found fresh admitted => exact absurd admitted (barred _ found fresh)

/-- Taking an excision that escapes hands it out or consumes it. -/
theorem not_absorbs_of_escapes {session : Session} {provenance : Provenance}
    (escapes : Escapes node session provenance) :
    ¬ Absorbs node session (.excision provenance) := by
  obtain ⟨excision, pending, fresh, cleared⟩ := escapes
  have found : session.pending .excision = some (.excision excision) :=
    congrArg (Option.map _) pending
  have named : (Directive.excision excision).Named := fun impossible => by cases impossible
  rintro ⟨nothing, consumes⟩
  have came := taken node (.excision provenance) session
  generalize outcome ((Take.excision provenance).method node) session = answer at came nothing
  generalize final ((Take.excision provenance).method node) session = after at came consumes
  cases came with
  | idle empty => exact absurd (found.symm.trans empty) (by simp)
  | repeated same known =>
    cases found.symm.trans same
    exact fresh known.2
  | refused _ same barred =>
    cases found.symm.trans same
    exact barred cleared
  | unguarded same barred =>
    cases found.symm.trans same
    exact barred cleared
  | unacknowledged _ same =>
    cases found.symm.trans same
    exact fresh (consumes ((mem_consumedIds_spend _ _ _).mpr (.inl ⟨named, rfl⟩)))
  | given => exact nothing _ rfl

/-- A stopped session absorbs every take exactly when no pending excision escapes. -/
theorem absorbs_iff {session : Session} (stopped : session.stopped = true) :
    (∀ take, Absorbs node session take) ↔ ∀ provenance, ¬ Escapes node session provenance := by
  constructor
  · exact fun absorbs provenance escapes =>
      not_absorbs_of_escapes node escapes (absorbs (.excision provenance))
  · refine fun none take => absorbs_of_barred node fun directive found fresh admitted => ?_
    cases take with
    | injection =>
      cases directive with
      | injection => exact Bool.eq_false_iff.mp admitted.1 stopped
      | replan | excision => exact admitted
    | replan =>
      cases directive with
      | replan => exact Bool.eq_false_iff.mp admitted stopped
      | injection | excision => exact admitted
    | excision provenance =>
      cases directive with
      | excision excision =>
        obtain ⟨pending, held, same⟩ := Option.map_eq_some_iff.mp found
        cases same
        refine none provenance ⟨excision, held, fun known => fresh ⟨?_, known⟩, admitted⟩
        exact fun impossible => by cases impossible
      | injection | replan => exact admitted

/-- No excision is pending once the session is stopped. -/
def DroppedByStop (session : Session) : Prop :=
  session.stopped = true → session.pendingExcision = none

/-- An operation that finds a stopped session arms no excision. -/
theorem pendingExcision_next {session : Session} (stopped : session.stopped = true)
    (empty : session.pendingExcision = none) (operation : Operation) :
    ((sessionMachine node).next session operation).pendingExcision = none := by
  have isEmpty : session.pending .excision = none := congrArg (Option.map _) empty
  suffices after : ((sessionMachine node).next session operation).pending .excision = none from
    Option.map_eq_none_iff.mp after
  cases operation with
  | message message =>
    rw [next_message, pending_message_of_stopped node message stopped, isEmpty]
  | take take =>
    rw [next_take]
    have came := taken node take session
    generalize outcome (take.method node) session = answer at came
    generalize final (take.method node) session = after at came ⊢
    have cleared : (session.clear take.kind).pending .excision = none := by
      rw [pending_clear, isEmpty, ite_self]
    cases came with
    | idle => exact isEmpty
    | repeated | unguarded => exact cleared
    | refused => exact cleared
    | unacknowledged => rw [pending_spend, cleared]
    | given => exact (pending_spend _ _ _).trans cleared

/-- Every stopped state of the run absorbs every take. -/
def StopAbsorbs (operations : List Operation) : Prop :=
  ∀ earlier, earlier <+: operations →
    ((sessionMachine node).run node.initial earlier).stopped = true →
    ∀ take, Absorbs node ((sessionMachine node).run node.initial earlier) take

/-- A stop absorbs every one-shot throughout a run exactly when no stopped state of the run has
an excision waiting that its guard clears; and it does in every run in which no excision
is pending after the message that stops the node. -/
theorem stopAbsorbs_iff (operations : List Operation) :
    (StopAbsorbs node operations ↔
      ∀ earlier, earlier <+: operations →
        ((sessionMachine node).run node.initial earlier).stopped = true →
        ∀ provenance, ¬ Escapes node ((sessionMachine node).run node.initial earlier) provenance) ∧
    ((∀ step ∈ (sessionMachine node).history node.initial operations,
        step.before.stopped = false → DroppedByStop step.after) →
      StopAbsorbs node operations) := by
  have exactly : StopAbsorbs node operations ↔ ∀ earlier, earlier <+: operations →
      ((sessionMachine node).run node.initial earlier).stopped = true →
      ∀ provenance, ¬ Escapes node ((sessionMachine node).run node.initial earlier) provenance :=
    forall₃_congr fun _ _ stopped => absorbs_iff node stopped
  refine ⟨exactly, fun dropped => exactly.mpr fun earlier isPrefix stopped provenance escapes => ?_⟩
  have initially : DroppedByStop node.initial := fun impossible => by cases impossible
  have invariant := (sessionMachine node).history_invariant initially
    (fun step member kept => ?_) isPrefix
  · obtain ⟨excision, pending, _⟩ := escapes
    exact absurd (pending.symm.trans (invariant stopped)) (by simp)
  · cases running : step.before.stopped with
    | false => exact dropped step member running
    | true =>
      obtain ⟨_, _, _, made⟩ := (sessionMachine node).mem_history member
      rw [made] at running kept ⊢
      exact fun _ => pendingExcision_next node running (kept running) _

/-- An excision of what a tool returned arrives, then a stop, and it is still handed out. -/
theorem stopAbsorbs_not_always :
    ¬ ∀ (node : Node) (operations : List Operation), StopAbsorbs node operations := by
  intro always
  let excise : Value := .dict [field "pending_excision" (.dict [field "id" (.str "e1"),
    field "target_refs" (.list [.str "segment"])])]
  let stop : Value := .dict [field "stopped" (.bool true)]
  let operations : List Operation := [.message (.delta 1 excise .null .null .null),
    .message (.delta 2 stop .null .null .null)]
  have absorbs := always openNode operations operations List.prefix_rfl rfl
    (.excision [("segment", "tool_result")])
  exact absorbs.1 (.excision ⟨"e1", [.str "segment"], [], [], []⟩) rfl

end AxorWrap.Plane
