/-
This file proves that one-shots fire at most once. A take hands out only what
was not consumed and consumes what it hands out; no message touches the consumed
identifiers, so a later message may arm the same identifier as often as it likes
and nothing is handed out again.

The acknowledgements in the outbox tell the same story. A take that hands out a
directive appends its acknowledgement and nothing else, and no other operation
appends one, so the acknowledgements of a run are its returns, in order.
-/

import AxorWrap.Plane.Runs

namespace AxorWrap.Plane

open Python Methods Checks Machines

variable (node : Node)

/-! ### What a message keeps -/

/-- Nothing is consumed, and what is appended to the outbox are reports. -/
structure Reported (before after : Session) : Prop where
  consumed : after.consumedIds = before.consumedIds
  outbox : ∃ reports, after.outbox = before.outbox ++ reports ∧
    ∀ event ∈ reports, event.kind = .stateApplied

instance : Std.Refl Reported where
  refl _ := ⟨rfl, [], by simp⟩

instance : IsTrans Session Reported where
  trans _ _ _ first second :=
    ⟨second.consumed.trans first.consumed, appended_trans first.outbox second.outbox⟩

theorem reported_applyOne (session : Session) (command : Int × Value) :
    Reported session (applyOne node session command) :=
  have wrote := wrote_apply node command.1 command.2 session
  ⟨wrote.consumed, wrote.outbox⟩

theorem reported_applyAll (commands : List (Int × Value)) (session : Session) :
    Reported session (applyAll node session commands) := by
  induction commands generalizing session with
  | nil => exact Std.Refl.refl session
  | cons command rest inductionHypothesis =>
    exact IsTrans.trans _ _ _ (reported_applyOne node session command) (inductionHypothesis _)

/-- A message consumes nothing and acknowledges nothing. -/
theorem reported_message (message : Message) (session : Session) :
    Reported session (final (message.deliver node) session) := by
  have applied (commands : List (Int × Value)) := reported_applyAll node commands session
  refine final_deliver_of node (Std.Refl.refl session) (fun effect => ?_) applied fun commands => ?_
  · exact ⟨rfl, _, rfl, by simp [reportEvent]⟩
  · obtain ⟨version, closed⟩ := close_eq node message (applyAll node session commands)
    rw [closed]
    exact ⟨(applied commands).consumed, (applied commands).outbox⟩

/-! ### What a transition hands out -/

/-- The directive a transition handed out. -/
def returned (step : Transition Session Operation (Except PyError Answer)) : Option Directive :=
  match step.answer with
  | .ok (.directive given) => given
  | _ => none

/-- The identifiers of a kind that a transition handed out, those that count. -/
def handedOut (kind : OneShot)
    (step : Transition Session Operation (Except PyError Answer)) : List PyStr :=
  ((returned step).filter fun directive => directive.kind = kind ∧ directive.Named).toList.map
    Directive.id

/-- The acknowledgements of a kind in an outbox, by the identifier they carry. -/
def acknowledged (kind : OneShot) (outbox : List OutboxEvent) : List (Option Value) :=
  (outbox.filter fun event => event.kind = kind.ackKind).map fun event =>
    Entries.lookup event.payload "id"

/-- What a transition owes the outbox: one acknowledgement of each directive it handed out. -/
def owed (kind : OneShot)
    (step : Transition Session Operation (Except PyError Answer)) : List (Option Value) :=
  ((returned step).filter fun directive => directive.kind = kind).toList.map fun directive =>
    some (.str directive.id)

/-- A pending directive is of the kind it is pending as. -/
theorem kind_of_pending {session : Session} {kind : OneShot} {directive : Directive}
    (found : session.pending kind = some directive) : directive.kind = kind := by
  cases kind <;> obtain ⟨_, _, rfl⟩ := Option.map_eq_some_iff.mp found <;> rfl

/-- What every transition does with directives, identifiers and acknowledgements. -/
structure Accounted (step : Transition Session Operation (Except PyError Answer)) : Prop where
  /-- A directive is handed out by the take of its kind, unconsumed, and acknowledged once. -/
  given : ∀ directive, returned step = some directive →
    (∃ take, step.operation = .take take ∧ take.kind = directive.kind) ∧
    step.before.pending directive.kind = some directive ∧
    ¬ directive.Repeated step.before ∧
    step.after.consumedIds = (spend directive step.before).consumedIds ∧
    ∃ event, event.Acknowledges directive ∧ step.after.outbox = step.before.outbox ++ [event]
  /-- Nothing is acknowledged otherwise. -/
  kept : returned step = none → ∃ events, step.after.outbox = step.before.outbox ++ events ∧
    ∀ event ∈ events, ∀ kind : OneShot, event.kind ≠ kind.ackKind
  /-- A take that returns nothing consumes nothing. -/
  refused : step.answer = .ok (.directive none) → step.after.consumedIds = step.before.consumedIds
  /-- What is consumed stays consumed. -/
  grows : step.before.consumedIds ⊆ step.after.consumedIds

theorem stateApplied_ne_ackKind (kind : OneShot) : EventKind.stateApplied ≠ kind.ackKind := by
  cases kind <;> decide

theorem refusalKind_ne_ackKind (kind other : OneShot) : kind.refusalKind ≠ other.ackKind := by
  cases kind <;> cases other <;> decide

theorem ackKind_injective {kind other : OneShot} (same : kind.ackKind = other.ackKind) :
    kind = other := by
  cases kind <;> cases other <;> first | rfl | cases same

/-- A transition that hands out nothing and consumes nothing accounts for its events when none of
them is an acknowledgement. -/
theorem accounted_of_withheld {step : Transition Session Operation (Except PyError Answer)}
    (nothing : returned step = none) (consumed : step.after.consumedIds = step.before.consumedIds)
    (appended : ∃ events, step.after.outbox = step.before.outbox ++ events ∧
      ∀ event ∈ events, ∀ kind : OneShot, event.kind ≠ kind.ackKind) : Accounted step where
  given _ given := absurd (nothing.symm.trans given) (by simp)
  kept _ := appended
  refused _ := consumed
  grows := consumed.symm.subset

theorem accounted_message (message : Message) (session : Session) :
    Accounted ((sessionMachine node).transition session (.message message)) := by
  have kept := reported_message node message session
  rw [transition_message]
  refine accounted_of_withheld ?_ kept.consumed ?_
  · unfold returned
    cases outcome (message.deliver node) session <;> rfl
  · obtain ⟨reports, appended, kinds⟩ := kept.outbox
    refine ⟨reports, appended, fun event member kind => ?_⟩
    rw [kinds event member]
    exact stateApplied_ne_ackKind kind

theorem consumedIds_spend_clear (directive : Directive) (session : Session) (kind : OneShot) :
    (spend directive (session.clear kind)).consumedIds = (spend directive session).consumedIds := by
  unfold spend
  split <;> simp

theorem accounted_take (take : Take) (session : Session) :
    Accounted ((sessionMachine node).transition session (.take take)) := by
  have came := taken node take session
  rw [transition_take]
  generalize outcome (take.method node) session = answer at came ⊢
  generalize final (take.method node) session = after at came ⊢
  cases came with
  | idle => exact accounted_of_withheld rfl rfl ⟨[], by simp⟩
  | repeated | unguarded =>
    exact accounted_of_withheld rfl (consumedIds_clear _ _) ⟨[], by simp⟩
  | @refused _ event _ _ kind =>
    refine accounted_of_withheld rfl (consumedIds_clear _ _) ⟨[event], ?_, ?_⟩
    · simp [appendEvent]
    · intro other member ackKind
      rw [List.mem_singleton.mp member, kind]
      exact refusalKind_ne_ackKind _ _
  | @unacknowledged directive _ found =>
    refine ⟨fun _ given => (by cases given), fun _ => ⟨[], by simp⟩,
      fun answered => (by cases answered), ?_⟩
    intro id known
    exact (mem_consumedIds_spend _ _ _).mpr (.inr (by rwa [consumedIds_clear]))
  | @given directive event found fresh admitted ack =>
    have kind := kind_of_pending found
    refine ⟨fun other given => ?_, fun nothing => (by cases nothing),
      fun answered => (by cases answered), ?_⟩
    · cases given
      refine ⟨⟨take, rfl, kind.symm⟩, kind.symm ▸ found, fresh,
        consumedIds_spend_clear directive session take.kind, event, ack, ?_⟩
      simp [appendEvent]
    · intro id known
      exact (mem_consumedIds_spend _ _ _).mpr (.inr (by rwa [consumedIds_clear]))

theorem accounted (session : Session) (operation : Operation) :
    Accounted ((sessionMachine node).transition session operation) := by
  cases operation with
  | message message => exact accounted_message node message session
  | take take => exact accounted_take node take session

/-! ### Over a run -/

theorem mem_handedOut {kind : OneShot} {id : PyStr}
    {step : Transition Session Operation (Except PyError Answer)} :
    id ∈ handedOut kind step ↔
      ∃ directive, returned step = some directive ∧ directive.kind = kind ∧ directive.Named ∧
        directive.id = id := by
  simp [handedOut, and_assoc]

/-- A transition acknowledges exactly what it hands out. -/
theorem acknowledged_next (kind : OneShot) (session : Session) (operation : Operation) :
    acknowledged kind ((sessionMachine node).next session operation).outbox =
      acknowledged kind session.outbox ++
        owed kind ((sessionMachine node).transition session operation) := by
  have step := accounted node session operation
  generalize made : (sessionMachine node).transition session operation = transition at step ⊢
  have before : session = transition.before := by rw [← made]; rfl
  have after : (sessionMachine node).next session operation = transition.after := by
    rw [← made]
    rfl
  rw [after, before]
  cases isReturned : returned transition with
  | none =>
    obtain ⟨events, appended, others⟩ := step.kept isReturned
    have silent : events.filter (fun event => event.kind = kind.ackKind) = [] :=
      List.filter_eq_nil_iff.mpr fun event member same =>
        others event member kind (of_decide_eq_true same)
    simp [acknowledged, owed, appended, silent, isReturned]
  | some directive =>
    obtain ⟨_, _, _, _, event, ack, appended⟩ := step.given directive isReturned
    by_cases same : directive.kind = kind
    · simp [acknowledged, owed, appended, isReturned, ack.1, ack.2, same,
        Option.filter_some]
    · have other : directive.kind.ackKind ≠ kind.ackKind := mt ackKind_injective same
      simp [acknowledged, owed, appended, isReturned, ack.1, same, other,
        Option.filter_some]

/-- Over any run an identifier is handed out at most once by the take of each kind. -/
theorem nodup_run (kind : OneShot) (session : Session) (operations : List Operation) :
    (((sessionMachine node).history session operations).flatMap (handedOut kind)).Nodup := by
  refine (sessionMachine node).nodup_handedOut (fun session id => id ∈ session.consumedIds)
    (fun state operation id given spent => ?_) (fun state operation id given => ?_)
    (fun state operation id spent => (accounted node state operation).grows spent)
    (fun state operation => ?_) session operations
  · obtain ⟨directive, isReturned, _, named, rfl⟩ := mem_handedOut.mp given
    exact ((accounted node state operation).given directive isReturned).2.2.1 ⟨named, spent⟩
  · obtain ⟨directive, isReturned, _, named, rfl⟩ := mem_handedOut.mp given
    have consumed := ((accounted node state operation).given directive isReturned).2.2.2.1
    show directive.id ∈ ((sessionMachine node).transition state operation).after.consumedIds
    rw [consumed]
    exact (mem_consumedIds_spend _ _ _).mpr (.inl ⟨named, rfl⟩)
  · unfold handedOut
    cases (returned _).filter _ <;> simp

/-- **One-shots fire once**: over any run the take of each kind hands out an identifier at most
once, an unnamed replan apart; the acknowledgements of that kind in the outbox are those of the
directives handed out, one each and in order; and every transition accounts for what it does with
directives, so that what is refused is not consumed. -/
theorem one_shots_fire_once (kind : OneShot) (session : Session) (operations : List Operation) :
    let history := (sessionMachine node).history session operations
    (history.flatMap (handedOut kind)).Nodup ∧
      acknowledged kind ((sessionMachine node).run session operations).outbox =
        acknowledged kind session.outbox ++ history.flatMap (owed kind) ∧
      ∀ step ∈ history, Accounted step :=
  ⟨nodup_run node kind session operations,
    (sessionMachine node).log_run (fun session => acknowledged kind session.outbox)
      (acknowledged_next node kind) session operations,
    (sessionMachine node).history_forall (accounted node)⟩

end AxorWrap.Plane
