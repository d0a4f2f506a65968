/-
This file proves that nothing enters a signed session unsigned. The sender of
the messages chooses every field of every one of them; what it cannot choose is
a signature that verifies.

A message carries some commands: a live message carries one, a snapshot the
entries of its list as they are read. A carried command is vouched for when its
own signature verifies. Vetting lets only vouched commands through, and what is
applied is what was let through, so a field that a message changes has the value
`_apply` derives from a vouched command of that message.
-/

import AxorWrap.Plane.Runs

namespace AxorWrap.Plane

open Python Methods Checks Machines

variable (node : Node)

/-! ### What a message carries -/

/-- The parts of a signed command, as a message gives them. -/
structure CarriedCommand where
  version : Int
  body : Value
  operator : Value
  timestamp : Value
  sig : Value

/-- The message has this command among its own. Entries of a snapshot are read as
`apply_snapshot` reads them, `int()` and `dict()` included. -/
inductive Message.Carries : Message → CarriedCommand → Prop
  | live (version : Int) (body operator timestamp sig : Value) :
      Carries (.delta version body operator timestamp sig) ⟨version, body, operator, timestamp, sig⟩
  | listed {version entryVersion : Int} {state commands : Value} {entries : List Value}
      {entry operator timestamp sig : Value} {delta : Entries}
      (iterated : commands.iterate = .ok entries) (member : entry ∈ entries)
      (read : readCommand node entry = .ok (entryVersion, delta, operator, timestamp, sig)) :
      Carries (.snapshot version state commands)
        ⟨entryVersion, .dict delta, operator, timestamp, sig⟩

/-- The message carries this version and body under a signature that verifies. -/
def Message.Vouches (message : Message) (version : Int) (body : Value) : Prop :=
  ∃ operator timestamp sig, message.Carries node ⟨version, body, operator, timestamp, sig⟩ ∧
    Authentic node version body operator timestamp sig

/-- Vetting lets through only what the message vouches for. -/
theorem vouches_of_vetted (signed : node.operatorPubkeys.isEmpty = false) {message : Message}
    {commands : List (Int × Value)} (vetted : Accepts (message.vetted node) commands) :
    ∀ command ∈ commands, message.Vouches node command.1 command.2 := by
  cases message with
  | delta version body operator timestamp sig =>
    obtain ⟨verdict, verified, passed⟩ := accepts_bind.mp vetted
    cases verdict with
    | some effect => exact absurd passed not_accepts_throw
    | none =>
      rw [← accepts_pure.mp passed]
      intro command member
      rw [List.mem_singleton.mp member]
      exact ⟨operator, timestamp, sig, .live version body operator timestamp sig,
        (verify_eq_none_iff node signed).mp (accepts_lift.mp verified)⟩
  | snapshot version state listed =>
    simp only [Message.vetted, signed, Bool.false_eq_true, if_false] at vetted
    obtain ⟨chain, accepted, rfl⟩ := accepts_map.mp vetted
    obtain ⟨entries, verified, asserted, iterated, each, _, _, rfl⟩ :=
      (accepts_checkSnapshot node).mp accepted
    intro command member
    obtain ⟨pair, inChain, rfl⟩ := List.mem_map.mp member
    have inVerified : pair ∈ verified := (List.mem_insertionSort _).mp inChain
    obtain ⟨entry, inEntries, passes⟩ := exists_of_mem_right each inVerified
    obtain ⟨decoded, read, verifies, rfl⟩ := (accepts_verifyCommand node).mp passes
    exact ⟨.str decoded.operator, .str decoded.timestamp, .str decoded.sig,
      .listed iterated inEntries ((accepts_decodeCommand node).mp read),
      (verify_eq_none_iff node signed).mp verifies⟩

/-! ### What a message writes -/

/-- Each field is kept, or has the value that a command of some `vouched` body derives. -/
structure WroteFrom (vouched : Value → Prop) (before after : Session) : Prop where
  stopped : KeptOr (fun value => ∃ body, vouched body ∧
    derivedFlag "stopped" body = .ok (some value)) before.stopped after.stopped
  paused : KeptOr (fun value => ∃ body, vouched body ∧
    derivedFlag "paused" body = .ok (some value)) before.paused after.paused
  cap : KeptOr (fun value => ∃ body, vouched body ∧ value.isSome ∧
    requestedCap node body = .ok value) before.budgetCapCalls after.budgetCapCalls
  pending : ∀ kind, KeptOr (fun value => ∃ body, vouched body ∧ value.isSome ∧
    derivedDirective node kind body = .ok value) (before.pending kind) (after.pending kind)

variable (vouched : Value → Prop)

instance : Std.Refl (WroteFrom node vouched) where
  refl _ := ⟨.refl _, .refl _, .refl _, fun _ => .refl _⟩

instance : IsTrans Session (WroteFrom node vouched) where
  trans _ _ _ first second :=
    ⟨first.stopped.trans second.stopped, first.paused.trans second.paused,
      first.cap.trans second.cap, fun kind => (first.pending kind).trans (second.pending kind)⟩

variable {vouched}

/-- One vouched command writes what it derives. -/
theorem wroteFrom_applyOne {command : Int × Value} (isVouched : vouched command.2)
    (session : Session) : WroteFrom node vouched session (applyOne node session command) := by
  have wrote := wrote_apply node command.1 command.2 session
  refine ⟨wrote.stopped.mono fun derived => ⟨command.2, isVouched, derived⟩,
    wrote.paused.mono fun derived => ⟨command.2, isVouched, derived⟩,
    wrote.cap.mono fun derived => ⟨command.2, isVouched, derived⟩, fun kind => ?_⟩
  have armed := wrote.pending kind
  rw [pending_setVersion] at armed
  exact armed.mono fun derived => ⟨command.2, isVouched, derived⟩

theorem wroteFrom_applyAll {commands : List (Int × Value)}
    (allVouched : ∀ command ∈ commands, vouched command.2) (session : Session) :
    WroteFrom node vouched session (applyAll node session commands) := by
  induction commands generalizing session with
  | nil => exact Std.Refl.refl session
  | cons command rest inductionHypothesis =>
    exact IsTrans.trans (r := WroteFrom node vouched) _ _ _
      (wroteFrom_applyOne node (allVouched command List.mem_cons_self) session)
      (inductionHypothesis (fun other member => allVouched other (List.mem_cons_of_mem _ member)) _)

/-- A message to a signed session applies commands it vouches for, and beyond them writes at most
the version and the outbox. -/
theorem applies_vouched (signed : node.operatorPubkeys.isEmpty = false) (message : Message)
    (session : Session) :
    ∃ commands, (∀ command ∈ commands, message.Vouches node command.1 command.2) ∧
      ∃ version outbox, final (message.deliver node) session =
        { applyAll node session commands with appliedVersion := version, outbox := outbox } := by
  have came := delivered node message session
  generalize outcome (message.deliver node) session = answer at came
  generalize final (message.deliver node) session = after at came ⊢
  cases came with
  | raised => exact ⟨[], by simp, session.appliedVersion, session.outbox, rfl⟩
  | refused => exact ⟨[], by simp, session.appliedVersion, _, rfl⟩
  | @applied commands _ vetted =>
    obtain ⟨version, closed⟩ := close_eq node message (applyAll node session commands)
    rw [closed]
    exact ⟨commands, vouches_of_vetted node signed vetted, version, _, rfl⟩
  | @stopped _ ran _ vetted isPrefix =>
    exact ⟨ran, fun command member => vouches_of_vetted node signed vetted command
      (isPrefix.subset member), _, _, rfl⟩

/-- A message answered `sig_invalid` was refused before anything was applied. -/
theorem refused_of_sigInvalid {message : Message} {session : Session} {effect : AppliedEffect}
    (returned : outcome (message.deliver node) session = .ok effect)
    (kind : effect.kind = .sigInvalid) :
    final (message.deliver node) session =
      appendEvent (reportEvent effect message.version) session := by
  have came := delivered node message session
  rw [returned] at came
  generalize final (message.deliver node) session = after at came ⊢
  cases came with
  | refused => rfl
  | applied _ notInvalid => exact absurd kind notInvalid

/-- Over any run of a session with operator keys, every message applies only commands it carries
under a signature that verifies, so every field it writes has the value `_apply` derives from
such a command; and a message answered `sig_invalid` adds one report to the outbox and is
otherwise nothing. -/
theorem messages_are_authentic (signed : node.operatorPubkeys ≠ []) (session : Session)
    (operations : List Operation) :
    ∀ step ∈ (sessionMachine node).history session operations,
      ∀ message, step.operation = .message message →
        (∃ commands, (∀ command ∈ commands, message.Vouches node command.1 command.2) ∧
          ∃ version outbox, step.after =
            { applyAll node step.before commands with
              appliedVersion := version, outbox := outbox }) ∧
        WroteFrom node (fun body => ∃ version, message.Vouches node version body)
          step.before step.after ∧
        ∀ effect, step.answer = .ok (.effect effect) → effect.kind = .sigInvalid →
          step.after = appendEvent (reportEvent effect message.version) step.before := by
  have isSigned : node.operatorPubkeys.isEmpty = false := List.isEmpty_eq_false_iff.mpr signed
  refine (sessionMachine node).history_forall fun before operation message isMessage => ?_
  rw [show operation = .message message from isMessage, transition_message]
  have applies := applies_vouched node isSigned message before
  refine ⟨applies, ?_, fun effect answered kind => ?_⟩
  · obtain ⟨commands, vouched, version, outbox, after⟩ := applies
    have wrote : WroteFrom node (fun body => ∃ version, message.Vouches node version body) before
        (applyAll node before commands) :=
      wroteFrom_applyAll node (fun command member => ⟨command.1, vouched command member⟩) before
    rw [after]
    exact ⟨wrote.stopped, wrote.paused, wrote.cap, wrote.pending⟩
  · cases returned : outcome (message.deliver node) before with
    | error error => simp [returned, Except.map] at answered
    | ok given =>
      simp only [returned, Except.map, Except.ok.injEq, Answer.effect.injEq] at answered
      rw [answered] at returned
      exact refused_of_sigInvalid node returned kind

/-- The signed stop stops the node, and only on the strength of what it vouches for. -/
theorem messages_are_authentic_signedStop :
    signedNode.operatorPubkeys ≠ [] ∧
      (final (signedStop.deliver signedNode) signedNode.initial).stopped = true ∧
      WroteFrom signedNode (fun body => ∃ version, signedStop.Vouches signedNode version body)
        signedNode.initial (final (signedStop.deliver signedNode) signedNode.initial) := by
  have signed : signedNode.operatorPubkeys ≠ [] := List.cons_ne_nil _ _
  have step := messages_are_authentic signedNode signed signedNode.initial [.message signedStop]
    ((sessionMachine signedNode).transition signedNode.initial (.message signedStop))
    List.mem_cons_self signedStop rfl
  rw [transition_message] at step
  exact ⟨signed, rfl, step.2.1⟩

end AxorWrap.Plane
