/-
This file says once what a take does, and makes the session a machine: its
operations are the two messages and the three takes, and a run is any list of
them. A take that raises is an answer like any other, since the session goes on
from the state it left.

Taking clears the pending field of its kind before it looks at anything else.
What follows depends on the kind in one place only, the condition under which
the directive is let go.
-/

import AxorWrap.Plane.Delivery
import AxorWrap.Library.Machine

namespace AxorWrap.Plane

open Python Methods Checks Machines

variable (node : Node)

/-! ### Takes -/

/-- One of the three takes. Only an excision is taken against a provenance map. -/
inductive Take
  | injection
  | excision (provenance : Provenance)
  | replan

def Take.kind : Take → OneShot
  | .injection => .injection
  | .excision _ => .excision
  | .replan => .replan

/-- The method of a take. -/
def Take.method : Take → SessionMethod (Option Directive)
  | .injection => Option.map .injection <$> takePendingInjection node
  | .excision provenance => Option.map .excision <$> takePendingExcision node provenance
  | .replan => Option.map .replan <$> takePendingReplan

/-- The event that acknowledges a directive of a kind. -/
def OneShot.ackKind : OneShot → EventKind
  | .replan => .replanApplied
  | .injection => .injectionConsumed
  | .excision => .contextExcision

/-- The event that refuses a directive of a kind. -/
def OneShot.refusalKind : OneShot → EventKind
  | .replan => .replanRefused
  | .injection => .injectionRefused
  | .excision => .excisionRefused

def OutboxEvent.Acknowledges (event : OutboxEvent) (directive : Directive) : Prop :=
  event.kind = directive.kind.ackKind ∧
    Entries.lookup event.payload "id" = some (.str directive.id)

/-- The session with one pending field cleared. -/
def Session.clear (session : Session) : OneShot → Session
  | .replan => { session with pendingReplan := none }
  | .injection => { session with pendingInjection := none }
  | .excision => { session with pendingExcision := none }

/-- Whether the identifier of a directive counts: a replan may come without one. -/
def Directive.Named (directive : Directive) : Prop :=
  directive.kind = .replan → directive.id ≠ []

instance (directive : Directive) : Decidable directive.Named :=
  inferInstanceAs (Decidable (_ → _))

/-- Consume the identifier of a directive. -/
def spend (directive : Directive) (session : Session) : Session :=
  if directive.Named then { session with consumedIds := insert directive.id session.consumedIds }
  else session

/-- A directive whose identifier was consumed before. -/
def Directive.Repeated (directive : Directive) (session : Session) : Prop :=
  directive.Named ∧ directive.id ∈ session.consumedIds

/-- The condition under which a take lets a directive go. A stop is no part of it for an
excision. -/
def Admits (session : Session) : Take → Directive → Prop
  | .injection, .injection _ => session.stopped = false ∧ node.testBench = true
  | .excision provenance, .excision excision =>
    node.platform.excisionRefusedRefs excision provenance = .ok []
  | .replan, .replan _ => session.stopped = false
  | _, _ => False

/-- What a take comes to. -/
inductive Taken (take : Take) (session : Session) :
    Except PyError (Option Directive) → Session → Prop
  /-- Nothing was pending. -/
  | idle (empty : session.pending take.kind = none) : Taken take session (.ok none) session
  /-- The directive was consumed before. -/
  | repeated {directive : Directive} (found : session.pending take.kind = some directive)
      (known : directive.Repeated session) :
      Taken take session (.ok none) (session.clear take.kind)
  /-- The directive was refused, and the refusal reported. -/
  | refused {directive : Directive} (event : OutboxEvent)
      (found : session.pending take.kind = some directive)
      (barred : ¬ Admits node session take directive)
      (kind : event.kind = take.kind.refusalKind) :
      Taken take session (.ok none) (appendEvent event (session.clear take.kind))
  /-- The provenance guard raised. -/
  | unguarded {directive : Directive} {error : PyError}
      (found : session.pending take.kind = some directive)
      (barred : ¬ Admits node session take directive) :
      Taken take session (.error error) (session.clear take.kind)
  /-- The acknowledgement raised, after the identifier was consumed. -/
  | unacknowledged {directive : Directive} (error : PyError)
      (found : session.pending take.kind = some directive)
      (fresh : ¬ directive.Repeated session) (admitted : Admits node session take directive) :
      Taken take session (.error error) (spend directive (session.clear take.kind))
  /-- The directive was handed out, and acknowledged. -/
  | given {directive : Directive} (event : OutboxEvent)
      (found : session.pending take.kind = some directive)
      (fresh : ¬ directive.Repeated session) (admitted : Admits node session take directive)
      (ack : event.Acknowledges directive) :
      Taken take session (.ok (some directive))
        (appendEvent event (spend directive (session.clear take.kind)))

/-- The identifier of an event that starts with it. -/
theorem lookup_idField (id : PyStr) (rest : Entries) :
    Entries.lookup (idField id :: rest) "id" = some (.str id) := by
  rw [Entries.lookup_cons, idField, field, if_pos (by rw [Key.eq_str, beq_self_eq_true])]

theorem taken_injection (session : Session) :
    Taken node .injection session (outcome (Take.injection.method node) session)
      (final (Take.injection.method node) session) := by
  unfold Take.method takePendingInjection
  rw [outcome_map, final_map, outcome_bind_ok (outcome_get session),
    final_bind_ok (outcome_get session), final_get]
  cases found : session.pendingInjection with
  | none => exact .idle (congrArg (Option.map _) found)
  | some injection =>
    have pending : session.pending Take.injection.kind = some (.injection injection) :=
      congrArg (Option.map _) found
    have named : (Directive.injection injection).Named := fun impossible => by cases impossible
    simp only [outcome_bind, final_bind, outcome_modify, final_modify]
    by_cases known : injection.injectionId ∈ session.consumedIds
    · simp only [if_pos known]
      exact .repeated pending ⟨named, known⟩
    simp only [if_neg known]
    by_cases stopped : session.stopped = true
    · simp only [if_pos stopped, outcome_bind, final_bind, outcome_modify, final_modify]
      exact .refused (injectionRefused injection.injectionId "stopped") pending
        (fun admitted => Bool.eq_false_iff.mp admitted.1 stopped) rfl
    simp only [if_neg stopped]
    cases bench : node.testBench with
    | false =>
      exact .refused (injectionRefused injection.injectionId "not test-bench") pending
        (fun admitted => Bool.eq_false_iff.mp bench admitted.2) rfl
    | true =>
      have given := Taken.given (injectionConsumed injection.injectionId) pending
        (fun repeated => known repeated.2)
        (show Admits node session .injection (.injection injection) from
          ⟨Bool.eq_false_iff.mpr stopped, bench⟩) ⟨rfl, lookup_idField _ _⟩
      rw [spend, if_pos named] at given
      exact given

theorem taken_excision (provenance : Provenance) (session : Session) :
    Taken node (.excision provenance) session
      (outcome ((Take.excision provenance).method node) session)
      (final ((Take.excision provenance).method node) session) := by
  unfold Take.method takePendingExcision
  rw [outcome_map, final_map, outcome_bind_ok (outcome_get session),
    final_bind_ok (outcome_get session), final_get]
  cases found : session.pendingExcision with
  | none => exact .idle (congrArg (Option.map _) found)
  | some excision =>
    have pending : session.pending (Take.excision provenance).kind =
        some (.excision excision) :=
      congrArg (Option.map _) found
    have named : (Directive.excision excision).Named := fun impossible => by cases impossible
    simp only [outcome_bind, final_bind, outcome_modify, final_modify]
    by_cases known : excision.excisionId ∈ session.consumedIds
    · simp only [if_pos known]
      exact .repeated pending ⟨named, known⟩
    have fresh : ¬ (Directive.excision excision).Repeated session := fun repeated =>
      known repeated.2
    simp only [if_neg known, outcome_bind, final_bind, outcome_lift, final_lift]
    match guarded : node.platform.excisionRefusedRefs excision provenance with
    | .error error => exact .unguarded pending (by simp [Admits, guarded])
    | .ok (ref :: refs) =>
      exact .refused (excisionRefused excision.excisionId (ref :: refs)) pending
        (by simp [Admits, guarded]) rfl
    | .ok [] =>
      have admitted : Admits node session (.excision provenance) (.excision excision) := guarded
      simp only [List.isEmpty_nil, Bool.not_true, Bool.false_eq_true, if_false, outcome_bind,
        final_bind, outcome_modify, final_modify, outcome_lift, final_lift]
      cases targetProvenance provenance excision.targetRefs with
      | error error =>
        have raised := Taken.unacknowledged error pending fresh admitted
        rw [spend, if_pos named] at raised
        exact raised
      | ok origins =>
        have given := Taken.given (contextExcision excision origins) pending fresh
          admitted ⟨rfl, lookup_idField _ _⟩
        rw [spend, if_pos named] at given
        exact given

theorem taken_replan (session : Session) :
    Taken node .replan session (outcome (Take.replan.method node) session)
      (final (Take.replan.method node) session) := by
  unfold Take.method takePendingReplan
  rw [outcome_map, final_map, outcome_bind_ok (outcome_get session),
    final_bind_ok (outcome_get session), final_get]
  cases found : session.pendingReplan with
  | none => exact .idle (congrArg (Option.map _) found)
  | some replan =>
    have pending : session.pending Take.replan.kind = some (.replan replan) :=
      congrArg (Option.map _) found
    have isNamed : (Directive.replan replan).Named ↔ replan.id ≠ [] :=
      ⟨fun named => named rfl, fun named _ => named⟩
    simp only [outcome_bind, final_bind, outcome_modify, final_modify]
    by_cases known : replan.id ≠ [] ∧ replan.id ∈ session.consumedIds
    · simp only [if_pos known]
      exact .repeated pending ⟨isNamed.mpr known.1, known.2⟩
    have fresh : ¬ (Directive.replan replan).Repeated session := fun repeated =>
      known ⟨isNamed.mp repeated.1, repeated.2⟩
    simp only [if_neg known]
    by_cases stopped : session.stopped = true
    · simp only [if_pos stopped, outcome_bind, final_bind, outcome_modify, final_modify]
      exact .refused (replanRefused replan.id) pending
        (fun admitted => Bool.eq_false_iff.mp admitted stopped) rfl
    have given := Taken.given (replanApplied replan.id) pending fresh
      (show Admits node session .replan (.replan replan) from Bool.eq_false_iff.mpr stopped)
      ⟨rfl, lookup_idField _ _⟩
    simp only [if_neg stopped]
    by_cases named : replan.id ≠ []
    · rw [spend, if_pos (isNamed.mpr named)] at given
      simp only [if_pos named, outcome_bind, final_bind, outcome_modify, final_modify]
      exact given
    · rw [spend, if_neg (mt isNamed.mp named)] at given
      simp only [if_neg named, outcome_bind, final_bind, outcome_modify, final_modify,
        outcome_pure, final_pure]
      exact given

/-- Every take is one of the six. -/
theorem taken (take : Take) (session : Session) :
    Taken node take session (outcome (take.method node) session)
      (final (take.method node) session) := by
  cases take with
  | injection => exact taken_injection node session
  | excision provenance => exact taken_excision node provenance session
  | replan => exact taken_replan node session

/-! ### The session as a machine -/

/-- An operation of a session. -/
inductive Operation
  | message (message : Message)
  | take (take : Take)

/-- What an operation returns. -/
inductive Answer
  | effect (effect : AppliedEffect)
  | directive (taken : Option Directive)

def Operation.method : Operation → SessionMethod Answer
  | .message incoming => Answer.effect <$> incoming.deliver node
  | .take request => Answer.directive <$> request.method node

/-- The machine of a session. -/
def sessionMachine : Machine Session Operation (Except PyError Answer) where
  answer session operation := outcome (operation.method node) session
  next session operation := final (operation.method node) session

theorem transition_message (message : Message) (session : Session) :
    (sessionMachine node).transition session (.message message) =
      ⟨session, .message message, (outcome (message.deliver node) session).map .effect,
        final (message.deliver node) session⟩ := by
  simp [Machine.transition, sessionMachine, Operation.method]

theorem transition_take (take : Take) (session : Session) :
    (sessionMachine node).transition session (.take take) =
      ⟨session, .take take, (outcome (take.method node) session).map .directive,
        final (take.method node) session⟩ := by
  simp [Machine.transition, sessionMachine, Operation.method]

theorem next_message (message : Message) (session : Session) :
    (sessionMachine node).next session (.message message) = final (message.deliver node) session :=
  congrArg Transition.after (transition_message node message session)

theorem next_take (take : Take) (session : Session) :
    (sessionMachine node).next session (.take take) = final (take.method node) session :=
  congrArg Transition.after (transition_take node take session)

/-! ### What an operation leaves alone -/

section Frame

variable (session : Session) (kind : OneShot) (directive : Directive)

@[simp] theorem posture_clear : (session.clear kind).posture = session.posture := by
  cases kind <;> rfl

@[simp] theorem consumedIds_clear : (session.clear kind).consumedIds = session.consumedIds := by
  cases kind <;> rfl

@[simp] theorem outbox_clear : (session.clear kind).outbox = session.outbox := by
  cases kind <;> rfl

theorem pending_clear (other : OneShot) :
    (session.clear kind).pending other = if kind = other then none else session.pending other := by
  cases kind <;> cases other <;> rfl

@[simp] theorem posture_spend : (spend directive session).posture = session.posture := by
  unfold spend
  split <;> rfl

@[simp] theorem outbox_spend : (spend directive session).outbox = session.outbox := by
  unfold spend
  split <;> rfl

@[simp] theorem pending_spend : (spend directive session).pending kind = session.pending kind := by
  unfold spend
  split <;> cases kind <;> rfl

/-- Spending consumes the identifier of a directive, if it counts. -/
theorem mem_consumedIds_spend (id : PyStr) :
    id ∈ (spend directive session).consumedIds ↔
      (directive.Named ∧ id = directive.id) ∨ id ∈ session.consumedIds := by
  unfold spend
  split
  · next named => simp [named]
  · next unnamed => simp [unnamed]

end Frame

/-- A take keeps the posture. -/
theorem posture_take (take : Take) (session : Session) :
    (final (take.method node) session).posture = session.posture := by
  have came := taken node take session
  generalize outcome (take.method node) session = answer at came
  generalize final (take.method node) session = after at came ⊢
  cases came <;> simp [posture_appendEvent]

/-! ### A platform to evaluate on -/

/-- An interpreter that knows no character beyond ASCII. -/
def asciiInterpreter : Interpreter where
  isPrintable _ := false
  isSpace _ := false
  decimal _ := none
  floatText _ := []

/-- What is not known to come from elsewhere counts as the operator's configuration. -/
def isConfigured (provenance : Provenance) : Key → Bool
  | .str name => (provenance.lookup name).getD "operator_config" == "operator_config"
  | _ => true

/-- A platform on which a key signs by its own bytes, and whose guard refuses the targets that
count as the operator's configuration. -/
def Platform.trial : Platform where
  interpreter := asciiInterpreter
  canonicalize value :=
    .ok ((value.repr asciiInterpreter).map fun point => UInt8.ofNat point.val)
  excisionRefusedRefs excision provenance := do
    let keys ← excision.targetRefs.mapM Value.toKey
    return (keys.filter (isConfigured provenance)).map Key.toValue
  ed25519 := some
    { fromPublicBytes := .ok
      verify := fun key signature _ =>
        if signature = key then .ok () else .error .invalidSignature }

/-- A node that signs nothing. -/
def openNode : Node where
  platform := .trial
  nodeId := "node"

/-- A node with one operator. -/
def signedNode : Node where
  platform := .trial
  nodeId := "node"
  operatorPubkeys := [("alice", "aa")]

/-- A stop signed by that operator. -/
def signedStop : Message :=
  .delta 1 (.dict [field "stopped" (.bool true)]) (.str "alice") (.str "now") (.str "aa")

end AxorWrap.Plane
