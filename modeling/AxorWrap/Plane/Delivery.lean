/-
This file joins the two entry points of the session. Whatever the message, the
session first vets it, without reading or writing any of its own fields, and
then applies the commands the vetting let through, one `_apply` each. A snapshot
and a live command differ in how they are vetted and in nothing else, save that
an accepted snapshot may raise the version once more at its end.
-/

import AxorWrap.Plane.Application

namespace AxorWrap.Plane

open Python Methods Checks

/-- A downstream message. Its sender is not trusted, and its contents are arbitrary. -/
inductive Message
  | snapshot (version : Int) (state commands : Value)
  | delta (version : Int) (body operator timestamp sig : Value)

variable (node : Node)

/-- The method a message calls. -/
def Message.deliver : Message → SessionMethod AppliedEffect
  | .snapshot version state commands => applySnapshot node version state commands
  | .delta version body operator timestamp sig =>
    applyDelta node version body operator timestamp sig

/-! ### Vetting -/

/-- A chain of a snapshot as a list of commands. -/
def chainCommands (chain : List (Int × Entries)) : List (Int × Value) :=
  chain.map fun command => (command.1, .dict command.2)

/-- The commands a message is let through with. The session is not consulted. -/
def Message.vetted : Message → SessionCheck (List (Int × Value))
  | .snapshot version state commands =>
    if node.operatorPubkeys.isEmpty then pure [(version, state)]
    else chainCommands <$> checkSnapshot node state commands
  | .delta version body operator timestamp sig => do
    match ← ExceptT.lift (verify node version body operator timestamp sig) with
    | some rejected => throw rejected
    | none => return [(version, body)]

/-- The version in the envelope of a message. -/
def Message.version : Message → Int
  | .snapshot version _ _ => version
  | .delta version _ _ _ _ => version

/-- What a message does after its last command. -/
def Message.close (message : Message) (session : Session) : Session :=
  match message with
  | .snapshot version _ _ =>
    if node.operatorPubkeys.isEmpty then session
    else setVersion (max session.appliedVersion version) session
  | .delta .. => session

/-- Closing a message writes the version alone. -/
theorem close_eq (message : Message) (session : Session) :
    ∃ version, message.close node session = setVersion version session := by
  cases message with
  | delta => exact ⟨session.appliedVersion, rfl⟩
  | snapshot version =>
    simp only [Message.close]
    split
    · exact ⟨session.appliedVersion, rfl⟩
    · exact ⟨_, rfl⟩

/-- The state one command leaves. -/
def applyOne (session : Session) (command : Int × Value) : Session :=
  final (apply node command.1 command.2) session

/-- The state a list of commands leaves. -/
def applyAll (session : Session) (commands : List (Int × Value)) : Session :=
  commands.foldl (applyOne node) session

/-! ### Acceptance -/

/-- A command of these parts carries a signature that verifies under the key of its operator. -/
def Authentic (version : Int) (body operator timestamp sig : Value) : Prop :=
  ∃ name pubkey message, operator = .str name ∧ node.operatorPubkeys.lookup name = some pubkey ∧
    node.platform.canonicalize (signedPayload node version body timestamp) = .ok message ∧
    verifyEd25519 node.platform pubkey message sig = .ok true

/-- Where something is signed, `_verify` passes exactly the authentic. -/
theorem verify_eq_none_iff (signed : node.operatorPubkeys.isEmpty = false) {version : Int}
    {body operator timestamp sig : Value} :
    verify node version body operator timestamp sig = .ok none ↔
      Authentic node version body operator timestamp sig := by
  unfold verify
  simp only [signed, Bool.false_eq_true, if_false, bind_eq_ok]
  constructor
  · rintro ⟨pubkey, keyed, message, canonical, passed⟩
    cases pubkey with
    | none => cases passed
    | some pubkey =>
      obtain ⟨good, checked, returned⟩ := bind_eq_ok.mp passed
      cases good with
      | false => cases returned
      | true =>
        unfold operatorPubkey at keyed
        split at keyed
        · next name hashed =>
          refine ⟨name, pubkey, message, ?_, Except.ok.inj keyed, canonical, checked⟩
          cases operator <;> cases hashed
          rfl
        · cases keyed
        · cases keyed
  · rintro ⟨name, pubkey, message, rfl, keyed, canonical, checked⟩
    refine ⟨some pubkey, congrArg Except.ok keyed, message, canonical, ?_⟩
    exact bind_eq_ok.mpr ⟨true, checked, rfl⟩

theorem accepts_decodeCommand {entry : Value} {command : Command} :
    Accepts (decodeCommand node entry) command ↔
      readCommand node entry = .ok (command.version, command.delta, .str command.operator,
        .str command.timestamp, .str command.sig) := by
  unfold decodeCommand
  split
  · next read =>
    rw [accepts_pure, read]
    constructor
    · rintro rfl
      rfl
    · intro same
      cases same
      rfl
  · next parts notTexts read =>
    rw [read]
    exact ⟨fun accepted => absurd accepted not_accepts_throw,
      fun same => (notTexts _ _ _ _ _ (Except.ok.inj same)).elim⟩
  · next error read =>
    rw [read]
    refine ⟨fun accepted => ?_, fun same => by cases same⟩
    split at accepted
    · exact absurd accepted not_accepts_throw
    · cases accepts_lift.mp accepted

theorem accepts_verifyCommand {entry : Value} {result : Int × Entries} :
    Accepts (verifyCommand node entry) result ↔
      ∃ command, Accepts (decodeCommand node entry) command ∧
        verify node command.version (.dict command.delta) (.str command.operator)
          (.str command.timestamp) (.str command.sig) = .ok none ∧
        (command.version, command.delta) = result := by
  unfold verifyCommand
  rw [accepts_bind]
  refine exists_congr fun command => and_congr_right fun _ => ?_
  rw [accepts_bind]
  constructor
  · rintro ⟨verdict, verified, passed⟩
    cases verdict with
    | some effect => exact absurd passed not_accepts_throw
    | none => exact ⟨accepts_lift.mp verified, accepts_pure.mp passed⟩
  · rintro ⟨verified, same⟩
    exact ⟨none, accepts_lift.mpr verified, accepts_pure.mpr same⟩

/-- A snapshot is accepted when its commands all verify and its state is what they signed. -/
theorem accepts_checkSnapshot {state commands : Value} {chain : List (Int × Entries)} :
    Accepts (checkSnapshot node state commands) chain ↔
      ∃ entries verified asserted, commands.iterate = .ok entries ∧
        List.Forall₂ (fun entry command => Accepts (verifyCommand node entry) command)
          entries verified ∧
        state.items = .ok asserted ∧
        Accepts (checkState node (signedValues (sortChain verified)) asserted) () ∧
        sortChain verified = chain := by
  unfold checkSnapshot
  simp only [accepts_bind, accepts_lift, accepts_mapM, accepts_pure]
  constructor
  · rintro ⟨entries, iterated, verified, each, asserted, items, checked, state, same⟩
    exact ⟨entries, verified, asserted, iterated, each, items, state, same⟩
  · rintro ⟨entries, verified, asserted, iterated, each, items, state, same⟩
    exact ⟨entries, iterated, verified, each, asserted, items, (), state, same⟩

/-! ### Refusals -/

theorem verify_refusal {version : Int} {body operator timestamp sig : Value}
    {effect : AppliedEffect}
    (refused : verify node version body operator timestamp sig = .ok (some effect)) :
    effect.kind = .sigInvalid := by
  unfold verify at refused
  split at refused
  · cases refused
  simp only [bind_eq_ok] at refused
  obtain ⟨pubkey, _, message, _, judged⟩ := refused
  cases pubkey with
  | none =>
    cases judged
    rfl
  | some pubkey =>
    obtain ⟨good, _, returned⟩ := bind_eq_ok.mp judged
    cases good <;> cases returned
    rfl

theorem decodeCommand_refusal {entry : Value} {effect : AppliedEffect}
    (refused : Refuses (decodeCommand node entry) effect) : effect = malformedEntry := by
  unfold decodeCommand at refused
  split at refused
  · exact absurd refused not_refuses_pure
  · exact (refuses_throw.mp refused).symm
  · split at refused
    · exact (refuses_throw.mp refused).symm
    · exact absurd refused not_refuses_lift

theorem verifyCommand_refusal {entry : Value} {effect : AppliedEffect}
    (refused : Refuses (verifyCommand node entry) effect) : effect.kind = .sigInvalid := by
  unfold verifyCommand at refused
  rcases refuses_bind refused with decoded | ⟨command, _, later⟩
  · rw [decodeCommand_refusal node decoded]
    rfl
  rcases refuses_bind later with lifted | ⟨verdict, verified, last⟩
  · exact absurd lifted not_refuses_lift
  cases verdict with
  | none => exact absurd last not_refuses_pure
  | some rejected =>
    rw [← refuses_throw.mp last]
    exact verify_refusal node (accepts_lift.mp verified)

theorem checkState_refusal {values asserted : Entries} {effect : AppliedEffect}
    (refused : Refuses (checkState node values asserted) effect) : effect.kind = .sigInvalid := by
  induction asserted with
  | nil => exact absurd refused not_refuses_pure
  | cons entry rest inductionHypothesis =>
    simp only [checkState] at refused
    split at refused
    · rw [← refuses_throw.mp refused]
    · split at refused
      · exact inductionHypothesis refused
      · rw [← refuses_throw.mp refused]

/-- Every refusal of a snapshot says that a signature is bad. -/
theorem checkSnapshot_refusal {state commands : Value} {effect : AppliedEffect}
    (refused : Refuses (checkSnapshot node state commands) effect) :
    effect.kind = .sigInvalid := by
  unfold checkSnapshot at refused
  rcases refuses_bind refused with lifted | ⟨entries, _, refused⟩
  · exact absurd lifted not_refuses_lift
  rcases refuses_bind refused with verifying | ⟨verified, _, refused⟩
  · obtain ⟨entry, _, refusal⟩ := refuses_mapM verifying
    exact verifyCommand_refusal node refusal
  rcases refuses_bind refused with lifted | ⟨asserted, _, refused⟩
  · exact absurd lifted not_refuses_lift
  rcases refuses_bind refused with checking | ⟨_, _, last⟩
  · exact checkState_refusal node checking
  · exact absurd last not_refuses_pure

/-! ### A pass of the replay loop -/

/-- Skipping a stale command and applying it come to the same. -/
theorem final_replayCommand (applied : AppliedEffect) (command : Int × Entries)
    (session : Session) :
    final (replayCommand node applied command) session =
      applyOne node session (command.1, .dict command.2) := by
  unfold replayCommand applyOne
  rw [final_bind_ok (outcome_get session), final_get]
  split
  · next stale =>
    rw [(apply_stale node stale _).2]
    rfl
  · rfl

/-- A replay applies a prefix of the chain, and all of it when it returns. -/
theorem final_replay (chain : List (Int × Entries)) (session : Session) :
    ∃ ran, ran <+: chainCommands chain ∧
      final (replay node chain) session = applyAll node session ran ∧
      ∀ effect, outcome (replay node chain) session = .ok effect → ran = chainCommands chain := by
  obtain ⟨ran, isPrefix, left, all⟩ := final_foldlM
    (fun session command => applyOne node session (command.1, .dict command.2))
    (final_replayCommand node) chain ⟨.applied, []⟩ session
  refine ⟨chainCommands ran, isPrefix.map _, ?_, fun effect returned => ?_⟩
  · unfold applyAll chainCommands
    rw [List.foldl_map]
    exact left
  · rw [all effect returned]

/-- A replay never answers that a signature is bad. -/
theorem replay_kind {chain : List (Int × Entries)} {session : Session} {effect : AppliedEffect}
    (returned : outcome (replay node chain) session = .ok effect) : effect.kind ≠ .sigInvalid := by
  refine outcome_foldlM_forall (fun effect => effect.kind ≠ .sigInvalid)
    (fun carried command session value kind passed => ?_) chain (fun same => by cases same)
    session returned
  unfold replayCommand at passed
  rw [outcome_bind_eq_ok] at passed
  obtain ⟨_, _, later⟩ := passed
  split at later
  · cases later
    exact kind
  · exact apply_kind node later

/-! ### Delivery is vetting, then application -/

/-- What a delivery comes to, by how the message was vetted. -/
inductive Delivered (message : Message) (session : Session) :
    Except PyError AppliedEffect → Session → Prop
  /-- The vetting raised. -/
  | raised {error : PyError} (vetted : (message.vetted node).run = .error error) :
      Delivered message session (.error error) session
  /-- The vetting refused; the refusal is reported. -/
  | refused {effect : AppliedEffect} (vetted : Refuses (message.vetted node) effect)
      (kind : effect.kind = .sigInvalid) :
      Delivered message session (.ok effect)
        (appendEvent (reportEvent effect message.version) session)
  /-- The commands let through were all applied. -/
  | applied {commands : List (Int × Value)} {effect : AppliedEffect}
      (vetted : Accepts (message.vetted node) commands) (kind : effect.kind ≠ .sigInvalid) :
      Delivered message session (.ok effect) (message.close node (applyAll node session commands))
  /-- One of the commands let through raised, after those before it were applied. -/
  | stopped {commands ran : List (Int × Value)} {error : PyError}
      (vetted : Accepts (message.vetted node) commands) (isPrefix : ran <+: commands) :
      Delivered message session (.error error) (applyAll node session ran)

theorem run_vetted_delta (version : Int) (body operator timestamp sig : Value) :
    ((Message.delta version body operator timestamp sig).vetted node).run =
      (verify node version body operator timestamp sig).map fun verdict =>
        match verdict with
        | some rejected => .error rejected
        | none => .ok [(version, body)] := by
  simp only [Message.vetted]
  cases verify node version body operator timestamp sig with
  | error error => rfl
  | ok verdict => cases verdict <;> rfl

theorem run_vetted_snapshot (version : Int) (state commands : Value) :
    ((Message.snapshot version state commands).vetted node).run =
      if node.operatorPubkeys.isEmpty then .ok (.ok [(version, state)])
      else (checkSnapshot node state commands).run.map fun verdict =>
        verdict.map chainCommands := by
  simp only [Message.vetted]
  split
  · rfl
  · rw [ExceptT.run_map]
    rfl

/-- A live command is delivered in one of the four ways. -/
theorem delivered_delta (version : Int) (body operator timestamp sig : Value)
    (session : Session) :
    Delivered node (.delta version body operator timestamp sig) session
      (outcome (applyDelta node version body operator timestamp sig) session)
      (final (applyDelta node version body operator timestamp sig) session) := by
  unfold applyDelta
  rw [outcome_bind, final_bind, outcome_lift, final_lift]
  have vetted := run_vetted_delta node version body operator timestamp sig
  match checked : verify node version body operator timestamp sig with
  | .error error =>
    rw [checked] at vetted
    exact .raised vetted
  | .ok (some rejected) =>
    rw [checked] at vetted
    have kind := verify_refusal node checked
    show Delivered node _ session
      (outcome (do report rejected version; return rejected) session)
      (final (do report rejected version; return rejected) session)
    rw [outcome_report_return, final_report_return, if_neg (by rw [kind]; decide)]
    exact .refused vetted kind
  | .ok none =>
    rw [checked] at vetted
    show Delivered node _ session (outcome (apply node version body) session)
      (final (apply node version body) session)
    cases returned : outcome (apply node version body) session with
    | error error => exact .stopped vetted (List.prefix_rfl)
    | ok effect => exact .applied vetted (apply_kind node returned)

/-- A snapshot is delivered in one of the four ways. -/
theorem delivered_snapshot (version : Int) (state commands : Value) (session : Session) :
    Delivered node (.snapshot version state commands) session
      (outcome (applySnapshot node version state commands) session)
      (final (applySnapshot node version state commands) session) := by
  have vetted := run_vetted_snapshot node version state commands
  unfold applySnapshot
  cases signed : node.operatorPubkeys.isEmpty with
  | true =>
    rw [signed] at vetted
    simp only [if_true]
    cases returned : outcome (apply node version state) session with
    | error error => exact .stopped vetted List.prefix_rfl
    | ok effect =>
      have applied : Delivered node _ session _ _ := .applied vetted (apply_kind node returned)
      simp only [Message.close, signed, if_true] at applied
      exact applied
  | false =>
    simp only [signed, Bool.false_eq_true, if_false] at vetted ⊢
    rw [outcome_bind, final_bind, outcome_lift, final_lift]
    match checked : (checkSnapshot node state commands).run with
    | .error error =>
      rw [checked] at vetted
      exact .raised vetted
    | .ok (.error effect) =>
      rw [checked] at vetted
      have kind := checkSnapshot_refusal node checked
      show Delivered node _ session
        (outcome (do report effect version; return effect) session)
        (final (do report effect version; return effect) session)
      rw [outcome_report_return, final_report_return, if_neg (by rw [kind]; decide)]
      exact .refused vetted kind
    | .ok (.ok chain) =>
      rw [checked] at vetted
      obtain ⟨ran, isPrefix, left, all⟩ := final_replay node chain session
      simp only [outcome_bind, final_bind]
      cases returned : outcome (replay node chain) session with
      | error error =>
        rw [left]
        exact .stopped vetted isPrefix
      | ok effect =>
        have applied : Delivered node _ session _ _ := .applied vetted (replay_kind node returned)
        rw [← all effect returned, ← left] at applied
        simp only [Message.close, signed, Bool.false_eq_true, if_false] at applied
        exact applied

/-- Every delivery is one of the four. -/
theorem delivered (message : Message) (session : Session) :
    Delivered node message session (outcome (message.deliver node) session)
      (final (message.deliver node) session) := by
  cases message with
  | delta version body operator timestamp sig =>
    exact delivered_delta node version body operator timestamp sig session
  | snapshot version state commands =>
    exact delivered_snapshot node version state commands session

/-- What holds of a session however a message was vetted, holds once it is delivered: nothing was
done, a report was added, or commands were applied, after all of which it is closed. -/
theorem final_deliver_of {motive : Session → Prop} {message : Message} {session : Session}
    (unchanged : motive session)
    (reported : ∀ effect, motive (appendEvent (reportEvent effect message.version) session))
    (applied : ∀ commands, motive (applyAll node session commands))
    (closed : ∀ commands, motive (message.close node (applyAll node session commands))) :
    motive (final (message.deliver node) session) := by
  have came := delivered node message session
  generalize outcome (message.deliver node) session = answer at came
  generalize final (message.deliver node) session = after at came ⊢
  cases came with
  | raised => exact unchanged
  | refused => exact reported _
  | applied => exact closed _
  | stopped => exact applied _

end AxorWrap.Plane
