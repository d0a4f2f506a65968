/-
This file proves that delivery does not care about repetition or about the road
a command takes.

A message that was delivered once is behind the session from then on: the
version has reached everything the message carries, for good, and vetting it
again gives what it gave before, since vetting does not look at the session. So
delivering it again does nothing.

A snapshot that is accepted does what its commands would have done live, one by
one in ascending order. The order in which it lists them matters only between
commands of one version.
-/

import AxorWrap.Plane.Narrowing
import AxorWrap.Library.Sorting

namespace AxorWrap.Plane

open Python Methods Checks Machines

variable (node : Node)

/-! ### Messages that are behind -/

/-- The version has reached the message, and everything the message is let through with. -/
def Message.Behind (message : Message) (session : Session) : Prop :=
  ∀ commands, Accepts (message.vetted node) commands →
    message.version ≤ session.appliedVersion ∧
      ∀ command ∈ commands, command.1 ≤ session.appliedVersion

/-- What is behind stays behind. -/
theorem behind_of_narrows {message : Message} {before after : Session}
    (behind : message.Behind node before) (narrows : before.Narrows after) :
    message.Behind node after := by
  intro commands vetted
  have reached := behind commands vetted
  exact ⟨reached.1.trans narrows.version,
    fun command member => (reached.2 command member).trans narrows.version⟩

/-- A list of commands raises the version to each of theirs. -/
theorem le_version_applyAll (commands : List (Int × Value)) (session : Session) :
    ∀ command ∈ commands, command.1 ≤ (applyAll node session commands).appliedVersion := by
  induction commands generalizing session with
  | nil => simp
  | cons command rest inductionHypothesis =>
    intro other member
    rcases List.mem_cons.mp member with rfl | later
    · have reached : other.1 ≤ (applyOne node session other).appliedVersion := by
        have version := congrArg Posture.version (posture_apply node other.1 other.2 session)
        rw [Posture.command_version] at version
        exact (le_max_right _ _).trans version.ge
      exact reached.trans (narrows_applyAll node rest (applyOne node session other)).version
    · exact inductionHypothesis _ other later

/-- An accepted message that is delivered ends with its own version reached: a live or an open one
carries it as its only command, and a signed snapshot is closed by raising the version to it. -/
theorem le_version_close {message : Message} {commands : List (Int × Value)}
    (vetted : Accepts (message.vetted node) commands) (session : Session) :
    message.version ≤ (message.close node (applyAll node session commands)).appliedVersion := by
  cases message with
  | delta version body operator timestamp sig =>
    obtain ⟨verdict, _, passed⟩ := accepts_bind.mp vetted
    cases verdict with
    | some effect => exact absurd passed not_accepts_throw
    | none =>
      rw [← accepts_pure.mp passed]
      exact le_version_applyAll node [(version, body)] session _ List.mem_cons_self
  | snapshot version state listed =>
    simp only [Message.vetted] at vetted
    simp only [Message.close]
    split
    · next unsigned =>
      rw [if_pos unsigned] at vetted
      rw [← accepts_pure.mp vetted]
      exact le_version_applyAll node [(version, state)] session _ List.mem_cons_self
    · exact le_max_right _ _

/-- A message that was delivered and returned is behind. -/
theorem behind_of_delivered {message : Message} {session : Session} {effect : AppliedEffect}
    (returned : outcome (message.deliver node) session = .ok effect) :
    message.Behind node (final (message.deliver node) session) := by
  intro commands vetted
  have came := delivered node message session
  rw [returned] at came
  generalize final (message.deliver node) session = after at came ⊢
  cases came with
  | refused refusal => cases refusal.symm.trans vetted
  | applied accepted =>
    cases accepted.symm.trans vetted
    refine ⟨le_version_close node vetted session, fun command member => ?_⟩
    exact (le_version_applyAll node commands session command member).trans
      (narrows_close node message _).version

/-! ### Delivering again -/

/-- Commands that are all stale do nothing. -/
theorem applyAll_of_stale {commands : List (Int × Value)} {session : Session}
    (stale : ∀ command ∈ commands, command.1 ≤ session.appliedVersion) :
    applyAll node session commands = session := by
  induction commands with
  | nil => rfl
  | cons command rest inductionHypothesis =>
    have nothing : applyOne node session command = session :=
      (apply_stale node (stale command List.mem_cons_self) command.2).2
    show applyAll node (applyOne node session command) rest = session
    rw [nothing]
    exact inductionHypothesis fun other member => stale other (List.mem_cons_of_mem _ member)

theorem close_of_reached {message : Message} {session : Session}
    (reached : message.version ≤ session.appliedVersion) :
    message.close node session = session := by
  cases message with
  | delta => rfl
  | snapshot version =>
    simp only [Message.close]
    split
    · rfl
    · rw [show max session.appliedVersion version = session.appliedVersion from
        max_eq_left reached]
      rfl

/-- Delivering what is behind does nothing, or is refused and reported. -/
theorem deliver_behind {message : Message} {session : Session}
    (behind : message.Behind node session) :
    final (message.deliver node) session = session ∨
      ∃ effect, Refuses (message.vetted node) effect ∧ effect.kind = .sigInvalid ∧
        outcome (message.deliver node) session = .ok effect ∧
        final (message.deliver node) session =
          appendEvent (reportEvent effect message.version) session := by
  have came := delivered node message session
  generalize outcome (message.deliver node) session = answer at came ⊢
  generalize final (message.deliver node) session = after at came ⊢
  cases came with
  | raised => exact .inl rfl
  | @refused effect refusal kind => exact .inr ⟨effect, refusal, kind, rfl, rfl⟩
  | applied vetted =>
    obtain ⟨reached, stale⟩ := behind _ vetted
    rw [applyAll_of_stale node stale]
    exact .inl (close_of_reached node reached)
  | stopped vetted isPrefix =>
    obtain ⟨_, stale⟩ := behind _ vetted
    exact .inl (applyAll_of_stale node fun command member =>
      stale command (isPrefix.subset member))

/-- After a message was delivered in a run and returned, whatever followed, delivering it again
leaves the whole session as it is, or is answered `sig_invalid` again and adds that one report
to the outbox. -/
theorem redelivery_is_harmless (session : Session) (earlier later : List Operation)
    (message : Message) (effect : AppliedEffect)
    (returned : outcome (message.deliver node) ((sessionMachine node).run session earlier) =
      .ok effect) :
    let again := (sessionMachine node).run session (earlier ++ .message message :: later)
    final (message.deliver node) again = again ∨
      effect.kind = .sigInvalid ∧ outcome (message.deliver node) again = .ok effect ∧
        final (message.deliver node) again =
          appendEvent (reportEvent effect message.version) again := by
  intro again
  have first := behind_of_delivered node returned
  have since : (final (message.deliver node) ((sessionMachine node).run session earlier)).Narrows
      again := by
    show Session.Narrows _
      ((sessionMachine node).run session (earlier ++ .message message :: later))
    rw [Machine.run_append, Machine.run_cons, next_message]
    exact narrows_run node _ later
  rcases deliver_behind node (behind_of_narrows node first since) with same | refused
  · exact .inl same
  · obtain ⟨other, refusal, kind, answered, after⟩ := refused
    have came := delivered node message ((sessionMachine node).run session earlier)
    rw [returned] at came
    generalize final (message.deliver node) ((sessionMachine node).run session earlier) = left
      at came
    cases came with
    | refused before =>
      cases before.symm.trans refusal
      exact .inr ⟨kind, answered, after⟩
    | applied vetted => cases vetted.symm.trans refusal

/-- The stop, delivered twice in a row. -/
theorem redelivery_is_harmless_signedStop :
    outcome (signedStop.deliver signedNode)
        ((sessionMachine signedNode).run signedNode.initial []) = .ok ⟨.applied, []⟩ ∧
      final (signedStop.deliver signedNode)
          ((sessionMachine signedNode).run signedNode.initial [.message signedStop]) =
        (sessionMachine signedNode).run signedNode.initial [.message signedStop] := by
  have first : outcome (signedStop.deliver signedNode)
      ((sessionMachine signedNode).run signedNode.initial []) = .ok ⟨.applied, []⟩ := rfl
  rcases redelivery_is_harmless signedNode signedNode.initial [] [] signedStop ⟨.applied, []⟩ first
    with same | ⟨impossible, _⟩
  · exact ⟨first, same⟩
  · cases impossible

/-! ### Live delivery -/

/-- The live message a command would have been. -/
def Command.live (command : Command) : Message :=
  .delta command.version (.dict command.delta) (.str command.operator) (.str command.timestamp)
    (.str command.sig)

/-- Commands in ascending order, those of one version as listed. -/
def sortCommands (commands : List Command) : List Command :=
  commands.insertionSort fun first second => first.version ≤ second.version

/-- The session after commands were delivered live, one after another. -/
def deliverLive (session : Session) (commands : List Command) : Session :=
  (sessionMachine node).run session (commands.map fun command => .message command.live)

/-- What `_apply` is given of a command. -/
def Command.pair (command : Command) : Int × Entries := (command.version, command.delta)

/-- The signature of a command verifies. -/
def Command.Verified (command : Command) : Prop :=
  verify node command.version (.dict command.delta) (.str command.operator)
    (.str command.timestamp) (.str command.sig) = .ok none

/-- A verified command delivered live is applied. -/
theorem final_deliver_live {command : Command} (verified : command.Verified node)
    (session : Session) :
    final (command.live.deliver node) session =
      applyOne node session (command.version, .dict command.delta) := by
  unfold Command.Verified at verified
  simp only [Command.live, Message.deliver, applyDelta]
  rw [final_bind, outcome_lift, final_lift, verified]
  rfl

/-- Verified commands delivered live are applied in turn. -/
theorem deliverLive_eq {commands : List Command}
    (verified : ∀ command ∈ commands, command.Verified node) (session : Session) :
    deliverLive node session commands =
      applyAll node session (chainCommands (commands.map Command.pair)) := by
  induction commands generalizing session with
  | nil => rfl
  | cons command rest inductionHypothesis =>
    unfold deliverLive
    rw [List.map_cons, Machine.run_cons, next_message,
      final_deliver_live node (verified command List.mem_cons_self)]
    exact inductionHypothesis (fun other member => verified other (List.mem_cons_of_mem _ member)) _

/-- Sorting what is read off the commands is reading off the sorted commands. -/
theorem sortChain_map (commands : List Command) :
    sortChain (commands.map Command.pair) = (sortCommands commands).map Command.pair :=
  (List.map_insertionSort _ _ Command.pair commands fun _ _ _ _ => Iff.rfl).symm

/-- The entries of a snapshot that verify are its decoded commands, all verified. -/
theorem decoded_of_verified {entries : List Value} {verified : List (Int × Entries)}
    (each : List.Forall₂ (fun entry command => Accepts (verifyCommand node entry) command)
      entries verified) :
    ∃ decoded : List Command,
      List.Forall₂ (fun entry command => Accepts (decodeCommand node entry) command)
        entries decoded ∧
      (∀ command ∈ decoded, command.Verified node) ∧ decoded.map Command.pair = verified := by
  induction each with
  | nil => exact ⟨[], .nil, by simp, rfl⟩
  | cons first _ inductionHypothesis =>
    obtain ⟨command, decodes, verifies, rfl⟩ := (accepts_verifyCommand node).mp first
    obtain ⟨decoded, tail, allVerified, rfl⟩ := inductionHypothesis
    refine ⟨command :: decoded, .cons decodes tail, fun other member => ?_, rfl⟩
    rcases List.mem_cons.mp member with rfl | later
    · exact verifies
    · exact allVerified other later

/-- What a snapshot that was accepted went through. -/
structure AcceptedSnapshot (state commands : Value) (entries : List Value)
    (decoded : List Command) : Prop where
  iterated : commands.iterate = .ok entries
  decodes : List.Forall₂ (fun entry command => Accepts (decodeCommand node entry) command)
    entries decoded
  verified : ∀ command ∈ decoded, command.Verified node
  checked : Accepts (checkSnapshot node state commands) ((sortCommands decoded).map Command.pair)

/-- A signed snapshot that returns anything but `sig_invalid` was accepted, and its commands were
applied in ascending order. -/
theorem applied_of_returned (signed : node.operatorPubkeys.isEmpty = false) {version : Int}
    {state commands : Value} {session : Session} {effect : AppliedEffect}
    (returned : outcome (applySnapshot node version state commands) session = .ok effect)
    (accepted : effect.kind ≠ .sigInvalid) :
    ∃ entries decoded, AcceptedSnapshot node state commands entries decoded ∧
      let live := applyAll node session (chainCommands ((sortCommands decoded).map Command.pair))
      final (applySnapshot node version state commands) session =
        setVersion (max live.appliedVersion version) live := by
  have came := delivered_snapshot node version state commands session
  rw [returned] at came
  generalize final (applySnapshot node version state commands) session = after at came ⊢
  cases came with
  | refused _ kind => exact absurd kind accepted
  | applied vetted =>
    simp only [Message.vetted, signed, Bool.false_eq_true, if_false] at vetted
    obtain ⟨chain, checked, rfl⟩ := accepts_map.mp vetted
    obtain ⟨entries, verified, _, iterated, each, _, _, sorted⟩ :=
      (accepts_checkSnapshot node).mp checked
    obtain ⟨decoded, decodes, allVerified, rfl⟩ := decoded_of_verified node each
    rw [sortChain_map] at sorted
    subst sorted
    refine ⟨entries, decoded, ⟨iterated, decodes, allVerified, checked⟩, ?_⟩
    simp only [Message.close, signed, Bool.false_eq_true, if_false]

/-- A replay that returns applied each command without a raise. -/
theorem returned_replay {chain : List (Int × Entries)} {session : Session}
    {effect : AppliedEffect} (returned : outcome (replay node chain) session = .ok effect)
    {earlier later : List (Int × Entries)} {command : Int × Entries}
    (split : chain = earlier ++ command :: later) :
    ∃ given, outcome (apply node command.1 (.dict command.2))
      (applyAll node session (chainCommands earlier)) = .ok given := by
  have each := returned_foldlM
    (fun session command => applyOne node session (command.1, .dict command.2))
    (fun session command =>
      ∃ given, outcome (apply node command.1 (.dict command.2)) session = .ok given)
    (final_replayCommand node) (fun carried command session value passed => ?_) returned split
  · unfold applyAll chainCommands
    rw [List.foldl_map]
    exact each
  · unfold replayCommand at passed
    rw [outcome_bind_ok (outcome_get session), final_get] at passed
    split at passed
    · next stale => exact ⟨_, (apply_stale node stale _).1⟩
    · exact ⟨value, passed⟩

/-- An accepted snapshot is the replay of its chain, and then its own version. -/
theorem applySnapshot_of_accepted (signed : node.operatorPubkeys.isEmpty = false)
    {state commands : Value} {chain : List (Int × Entries)}
    (checked : Accepts (checkSnapshot node state commands) chain) (version : Int) :
    applySnapshot node version state commands = (do
      let applied ← replay node chain
      modify fun session => setVersion (max session.appliedVersion version) session
      return applied) := by
  unfold applySnapshot
  have passed : (checkSnapshot node state commands).run = .ok (.ok chain) := checked
  rw [if_neg (by rw [signed]; exact Bool.false_ne_true), passed]
  rfl

/-! ### The order of listing -/

/-- Commands of distinct versions sort to one list, however they are listed. -/
theorem sortCommands_perm {first second : List Command} (perm : first.Perm second)
    (distinct : (second.map Command.version).Nodup) : sortCommands first = sortCommands second :=
  Sorting.insertionSort_eq_of_perm Command.version perm distinct

/-- Listing the commands of an accepted snapshot in another order gives the same method. -/
theorem applySnapshot_perm (signed : node.operatorPubkeys.isEmpty = false) {state commands : Value}
    {entries listed : List Value} {decoded : List Command}
    (accepted : AcceptedSnapshot node state commands entries decoded)
    (distinct : (decoded.map Command.version).Nodup) (perm : listed.Perm entries) (version : Int) :
    applySnapshot node version state (.list listed) =
      applySnapshot node version state commands := by
  obtain ⟨reordered, decodes, permDecoded⟩ := List.perm_comp_forall₂ perm accepted.decodes
  obtain ⟨_, _, asserted, _, _, items, checked, sorted⟩ :=
    (accepts_checkSnapshot node).mp accepted.checked
  have same : sortChain (reordered.map Command.pair) = (sortCommands decoded).map Command.pair := by
    rw [sortChain_map, sortCommands_perm permDecoded distinct]
  have again : Accepts (checkSnapshot node state (.list listed))
      ((sortCommands decoded).map Command.pair) := by
    refine (accepts_checkSnapshot node).mpr
      ⟨listed, reordered.map Command.pair, asserted, rfl, ?_, items, ?_, same⟩
    · rw [List.forall₂_map_right_iff]
      refine List.forall₂_iff_zip.mpr ⟨decodes.length_eq, fun {entry command} member => ?_⟩
      have inReordered : command ∈ reordered := (List.of_mem_zip member).2
      exact (accepts_verifyCommand node).mpr ⟨command, (List.forall₂_iff_zip.mp decodes).2 member,
        accepted.verified command (permDecoded.subset inReordered), rfl⟩
    · rw [same, ← sorted]
      exact checked
  rw [applySnapshot_of_accepted node signed again, applySnapshot_of_accepted node signed
    accepted.checked]

/-- A signed snapshot that is accepted, none of whose commands raises, leaves the session that
its commands leave when they are delivered live in ascending order, each returning, and the
version is then raised to the snapshot's. Commands of distinct versions may be listed in any
order. -/
theorem snapshot_is_live_delivery (signed : node.operatorPubkeys ≠ []) (version : Int)
    (state commands : Value) (session : Session) (effect : AppliedEffect)
    (returned : outcome (applySnapshot node version state commands) session = .ok effect)
    (accepted : effect.kind ≠ .sigInvalid) :
    ∃ entries decoded, commands.iterate = .ok entries ∧
      List.Forall₂ (fun entry command => Accepts (decodeCommand node entry) command)
        entries decoded ∧
      final (applySnapshot node version state commands) session =
        setVersion (max (deliverLive node session (sortCommands decoded)).appliedVersion version)
          (deliverLive node session (sortCommands decoded)) ∧
      (∀ earlier command later, sortCommands decoded = earlier ++ command :: later →
        ∃ given, outcome (command.live.deliver node) (deliverLive node session earlier) =
          .ok given) ∧
      ((decoded.map Command.version).Nodup → ∀ listed, listed.Perm entries →
        outcome (applySnapshot node version state (.list listed)) session = .ok effect ∧
          final (applySnapshot node version state (.list listed)) session =
            final (applySnapshot node version state commands) session) := by
  have isSigned : node.operatorPubkeys.isEmpty = false := List.isEmpty_eq_false_iff.mpr signed
  obtain ⟨entries, decoded, went, after⟩ := applied_of_returned node isSigned returned accepted
  have sortedVerified : ∀ command ∈ sortCommands decoded, command.Verified node :=
    fun command member => went.verified command ((List.mem_insertionSort _).mp member)
  refine ⟨entries, decoded, went.iterated, went.decodes, ?_, ?_, fun distinct listed perm => ?_⟩
  · rw [deliverLive_eq node sortedVerified]
    exact after
  · intro earlier command later split
    have replayed : outcome (replay node ((sortCommands decoded).map Command.pair)) session =
        .ok effect := by
      rw [applySnapshot_of_accepted node isSigned went.checked, outcome_bind_eq_ok] at returned
      obtain ⟨applied, first, rest⟩ := returned
      cases rest
      exact first
    have members (other : Command) (inEarlier : other ∈ earlier ++ [command]) :
        other.Verified node := by
      refine sortedVerified other ?_
      rw [split]
      simp only [List.mem_append, List.mem_cons, List.not_mem_nil, or_false] at inEarlier ⊢
      exact inEarlier.imp_right .inl
    have pairs : (sortCommands decoded).map Command.pair =
        earlier.map Command.pair ++ command.pair :: later.map Command.pair := by
      rw [split, List.map_append, List.map_cons]
    obtain ⟨given, applied⟩ := returned_replay node replayed pairs
    refine ⟨given, ?_⟩
    rw [deliverLive_eq node fun other member => members other (List.mem_append_left _ member)]
    have verified := members command (List.mem_append_right _ (List.mem_singleton_self command))
    unfold Command.Verified at verified
    simp only [Command.live, Message.deliver, applyDelta]
    rw [outcome_bind, outcome_lift, final_lift, verified]
    exact applied
  · rw [applySnapshot_perm node isSigned went distinct perm]
    exact ⟨returned, rfl⟩

/-- A command as a snapshot lists it. -/
def Command.entry (command : Command) : Value :=
  .dict [field "version" (.int command.version), field "delta" (.dict command.delta),
    field "operator" (.str command.operator), field "timestamp" (.str command.timestamp),
    field "sig" (.str command.sig)]

/-- A stop, listed before the pause that came before it. -/
theorem snapshot_is_live_delivery_signedStop :
    let pause : Command := ⟨1, [field "paused" (.bool true)], "alice", "now", "aa"⟩
    let stop : Command := ⟨2, [field "stopped" (.bool true)], "alice", "now", "aa"⟩
    let state : Value := .dict (pause.delta ++ stop.delta)
    let commands : Value := .list [stop.entry, pause.entry]
    ∃ entries decoded, commands.iterate = .ok entries ∧
      List.Forall₂ (fun entry command => Accepts (decodeCommand signedNode entry) command)
        entries decoded ∧
      final (applySnapshot signedNode 3 state commands) signedNode.initial =
        setVersion
          (max (deliverLive signedNode signedNode.initial (sortCommands decoded)).appliedVersion 3)
          (deliverLive signedNode signedNode.initial (sortCommands decoded)) ∧
      (∀ earlier command later, sortCommands decoded = earlier ++ command :: later →
        ∃ given, outcome (command.live.deliver signedNode)
          (deliverLive signedNode signedNode.initial earlier) = .ok given) ∧
      ((decoded.map Command.version).Nodup → ∀ listed, listed.Perm entries →
        outcome (applySnapshot signedNode 3 state (.list listed)) signedNode.initial =
            .ok ⟨.applied, []⟩ ∧
          final (applySnapshot signedNode 3 state (.list listed)) signedNode.initial =
            final (applySnapshot signedNode 3 state commands) signedNode.initial) := by
  intro pause stop state commands
  exact snapshot_is_live_delivery signedNode (List.cons_ne_nil _ _) 3 state commands
    signedNode.initial ⟨.applied, []⟩ rfl (by decide)

end AxorWrap.Plane
