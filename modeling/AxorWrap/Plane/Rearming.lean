/-
This file says which one-shots a snapshot arms. The check of a snapshot runs over
the keys of its state, the replay over the commands behind them, and the commands
may carry more than the state asserts. A one-shot in a command that takes hold is
therefore armed whether or not the state still has its key.

A command takes hold when it is newer than everything applied, the session is
running, and its cap is no widening. Commands that take hold arm what they carry,
in order, until one of them raises; this closed form gives the exact condition
under which a snapshot arms only what its state asserts.
-/

import AxorWrap.Plane.Replay

namespace AxorWrap.Plane

open Python Methods Checks Machines

variable (node : Node)

/-! ### What one command arms -/

/-- The directive of a kind that a command leaves pending when it takes hold: what its key
derives, unless something evaluated earlier raises. -/
def armedBy (state : Value) : OneShot → Option Directive
  | .replan => wanted (do
      let _ ← requestedCap node state
      derivedDirective node .replan state)
  | .injection => wanted (do
      let _ ← requestedCap node state
      let _ ← derivedDirective node .replan state
      derivedDirective node .injection state)
  | .excision => wanted (do
      let _ ← requestedCap node state
      let _ ← derivedDirective node .replan state
      let _ ← derivedDirective node .injection state
      derivedDirective node .excision state)

/-- Whether all a command evaluates when it takes hold returns. Its flags always do. -/
def evaluates (state : Value) : Bool :=
  Except.isOk (do
    let _ ← requestedCap node state
    let _ ← derivedDirective node .replan state
    let _ ← derivedDirective node .injection state
    derivedDirective node .excision state)

/-- Whether a request is above the cap in force. -/
def Posture.widened (posture : Posture) (desired : Desired) : Bool :=
  match desired.cap, posture.cap with
  | some requested, some cap => requested > cap
  | _, _ => false

/-- The command is newer than the posture, which is running, and asks for no widening. -/
def TakesHold (posture : Posture) (command : Int × Value) : Prop :=
  posture.version < command.1 ∧ posture.stopped = false ∧
    posture.widened (desiredOf node command.2) = false

instance (posture : Posture) (command : Int × Value) :
    Decidable (TakesHold node posture command) :=
  inferInstanceAs (Decidable (_ ∧ _ ∧ _))

/-! ### The budget step -/

theorem pending_applyBudget (state : Value) (session : Session) (kind : OneShot) :
    (final (applyBudget node state) session).pending kind = session.pending kind := by
  unfold applyBudget
  rw [final_bind, outcome_lift, final_lift]
  match requestedCap node state with
  | .error _ => rfl
  | .ok none => rfl
  | .ok (some requested) =>
    simp only [final_bind, outcome_get, final_get]
    cases capped : session.budgetCapCalls with
    | none => cases kind <;> rfl
    | some cap =>
      by_cases above : requested > cap
      · simp [above]
      · simp only [above]
        cases kind <;> rfl

/-- The budget step refuses a widening. -/
theorem outcome_applyBudget_widened {state : Value} {session : Session}
    (widened : session.posture.widened (desiredOf node state) = true) :
    ∃ effect, outcome (applyBudget node state) session = .ok (some effect) := by
  unfold Posture.widened desiredOf Session.posture at widened
  unfold applyBudget
  rw [outcome_bind, outcome_lift, final_lift]
  match read : requestedCap node state, capped : session.budgetCapCalls with
  | .error _, _ => simp [read, wanted, Except.toOption] at widened
  | .ok none, _ => simp [read, wanted, Except.toOption] at widened
  | .ok (some requested), none => simp [read, capped, wanted, Except.toOption] at widened
  | .ok (some requested), some cap =>
    have above : requested > cap := by simpa [read, capped, wanted, Except.toOption] using widened
    refine ⟨wideningEffect requested cap, ?_⟩
    simp only [outcome_bind, outcome_get, final_get, capped, if_pos above, outcome_pure]

/-- The budget step passes any other request that can be read. -/
theorem outcome_applyBudget_within {state : Value} {session : Session}
    (within : session.posture.widened (desiredOf node state) = false) :
    outcome (applyBudget node state) session = (requestedCap node state).map fun _ => none := by
  unfold Posture.widened desiredOf Session.posture at within
  unfold applyBudget
  rw [outcome_bind, outcome_lift, final_lift]
  match read : requestedCap node state, capped : session.budgetCapCalls with
  | .error _, _ => rfl
  | .ok none, _ => rfl
  | .ok (some requested), none => simp [outcome_bind, capped, Except.map]
  | .ok (some requested), some cap =>
    have below : ¬ requested > cap := by simpa [read, capped, wanted, Except.toOption] using within
    simp only [outcome_bind, outcome_get, final_get, capped, if_neg below]
    rfl

/-! ### The one-shots -/

theorem outcome_armOneShot (kind : OneShot) (state : Value) (session : Session) :
    outcome (armOneShot node kind state) session =
      (derivedDirective node kind state).map fun _ => () :=
  outcome_assign _ _ _

theorem pending_armOneShot (kind other : OneShot) (state : Value) (session : Session) :
    (final (armOneShot node kind state) session).pending other =
      if kind = other then (wanted (derivedDirective node kind state)).or (session.pending other)
      else session.pending other := by
  unfold armOneShot
  rw [final_assign]
  match derived : derivedDirective node kind state with
  | .error _ => simp [wanted, Except.toOption]
  | .ok none => simp [wanted, Except.toOption]
  | .ok (some directive) =>
    simp only [wanted, Except.toOption, Option.join_some, Option.elim_some, pending_arm,
      derivedDirective_kind node derived, Option.some_or]

/-- The one-shots of a command are armed in order, up to the first that raises. -/
theorem pending_applyOneShots (version : Int) (state : Value) (session : Session)
    {requested : Option Int} (read : requestedCap node state = .ok requested) (kind : OneShot) :
    (final (applyOneShots node version state) session).pending kind =
      (armedBy node state kind).or (session.pending kind) := by
  unfold applyOneShots armedBy
  simp only [read, final_bind, outcome_armOneShot]
  cases replan : derivedDirective node .replan state with
  | error error =>
    cases kind <;> simp [pending_armOneShot, replan, wanted, Except.toOption, Except.map, bind,
      Except.bind]
  | ok _ =>
    cases injection : derivedDirective node .injection state with
    | error error =>
      cases kind <;> simp [pending_armOneShot, replan, injection, wanted, Except.toOption,
        Except.map, bind, Except.bind]
    | ok _ =>
      cases excision : derivedDirective node .excision state with
      | error error =>
        cases kind <;> simp [pending_armOneShot, replan, injection, excision, wanted,
          Except.toOption, Except.map, bind, Except.bind]
      | ok _ =>
        cases kind <;> simp [pending_armOneShot, replan, injection, excision, wanted,
          Except.toOption, Except.map, bind, Except.bind, outcome_report, final_report]

theorem returns_applyOneShots (version : Int) (state : Value) (session : Session)
    {requested : Option Int} (read : requestedCap node state = .ok requested) :
    (outcome (applyOneShots node version state) session).isOk = evaluates node state := by
  unfold applyOneShots evaluates
  simp only [read, outcome_bind, outcome_armOneShot, outcome_report, outcome_pure]
  cases derivedDirective node .replan state with
  | error error => rfl
  | ok _ =>
    cases derivedDirective node .injection state with
    | error error => rfl
    | ok _ => cases derivedDirective node .excision state <;> rfl

/-! ### One command of a chain -/

/-- The session after the flags of a command. -/
def flagged (entries : Entries) (session : Session) : Session :=
  final (applyPaused (.dict entries)) (final (applyStopped (.dict entries)) session)

theorem final_flags (entries : Entries) (session : Session) :
    final (applyPaused (.dict entries)) (final (applyStopped (.dict entries)) session) =
      flagged entries session := rfl

theorem pending_flagged (entries : Entries) (session : Session) (kind : OneShot) :
    (flagged entries session).pending kind = session.pending kind := by
  unfold flagged applyPaused applyStopped
  rw [final_assign, final_assign]
  cases wanted (derivedFlag "paused" (.dict entries)) <;>
    cases wanted (derivedFlag "stopped" (.dict entries)) <;> cases kind <;> rfl

theorem widened_flagged (entries : Entries) (session : Session) (desired : Desired) :
    (flagged entries session).posture.widened desired = session.posture.widened desired := by
  unfold flagged applyPaused applyStopped
  rw [final_assign, final_assign]
  cases wanted (derivedFlag "paused" (.dict entries)) <;>
    cases wanted (derivedFlag "stopped" (.dict entries)) <;> rfl

/-- A widening arms nothing and returns. -/
theorem applyFields_widened {entries : Entries} (session : Session)
    (widened : session.posture.widened (desiredOf node (.dict entries)) = true) (version : Int) :
    (∀ kind, (final (applyFields node version (.dict entries)) session).pending kind =
      session.pending kind) ∧
    (outcome (applyFields node version (.dict entries)) session).isOk = true := by
  rw [← widened_flagged entries session] at widened
  obtain ⟨effect, refused⟩ := outcome_applyBudget_widened node widened
  unfold applyFields
  rw [final_bind_ok (outcome_applyStopped entries session),
    outcome_bind_ok (outcome_applyStopped entries session),
    final_bind_ok (outcome_applyPaused entries _), outcome_bind_ok (outcome_applyPaused entries _),
    final_flags, final_bind_ok refused, outcome_bind_ok refused]
  refine ⟨fun kind => ?_, ?_⟩
  · have kept := (pending_applyBudget node (.dict entries) (flagged entries session) kind).trans
      (pending_flagged entries session kind)
    rw [final_report_return]
    split
    · exact kept
    · exact Eq.trans (by cases kind <;> rfl) kept
  · rw [outcome_report_return]
    rfl

/-- A command that is no widening arms what it carries, and returns when all it evaluates does. -/
theorem applyFields_within {entries : Entries} (session : Session)
    (within : session.posture.widened (desiredOf node (.dict entries)) = false) (version : Int) :
    (∀ kind, (final (applyFields node version (.dict entries)) session).pending kind =
      (armedBy node (.dict entries) kind).or (session.pending kind)) ∧
    (outcome (applyFields node version (.dict entries)) session).isOk =
      evaluates node (.dict entries) := by
  rw [← widened_flagged entries session] at within
  have budget := outcome_applyBudget_within node within
  have kept (kind : OneShot) := (pending_applyBudget node (.dict entries) (flagged entries session)
    kind).trans (pending_flagged entries session kind)
  unfold applyFields
  rw [final_bind_ok (outcome_applyStopped entries session),
    outcome_bind_ok (outcome_applyStopped entries session),
    final_bind_ok (outcome_applyPaused entries _), outcome_bind_ok (outcome_applyPaused entries _),
    final_flags]
  cases read : requestedCap node (.dict entries) with
  | error error =>
    rw [read] at budget
    simp only [final_bind, outcome_bind, budget, Except.map]
    refine ⟨fun kind => (kept kind).trans ?_, ?_⟩
    · cases kind <;> simp [armedBy, read, wanted, bind, Except.bind, Except.toOption]
    · simp [evaluates, read, bind, Except.bind, Except.isOk, Except.toBool]
  | ok requested =>
    rw [read] at budget
    rw [final_bind_ok budget, outcome_bind_ok budget]
    refine ⟨fun kind => ?_, returns_applyOneShots node version _ _ read⟩
    exact (pending_applyOneShots node version _ _ read kind).trans (by rw [← kept kind])

/-- What one command of a chain leaves pending. -/
theorem pending_applyOne (version : Int) (entries : Entries) (session : Session) (kind : OneShot) :
    (applyOne node session (version, .dict entries)).pending kind =
      if TakesHold node session.posture (version, .dict entries) then
        (armedBy node (.dict entries) kind).or (session.pending kind)
      else session.pending kind := by
  show (final (apply node version (.dict entries)) session).pending kind = _
  rw [final_apply]
  by_cases stale : version ≤ session.appliedVersion
  · rw [if_pos stale, if_neg fun holds => not_lt.mpr stale holds.1]
  rw [if_neg stale]
  by_cases stopped : session.stopped = true
  · rw [if_pos stopped, if_neg fun holds => Bool.eq_false_iff.mp holds.2.1 stopped]
    cases kind <;> rfl
  rw [if_neg stopped]
  cases widened : session.posture.widened (desiredOf node (.dict entries)) with
  | true =>
    rw [if_neg fun holds => Bool.eq_false_iff.mp holds.2.2 widened]
    have fields := applyFields_widened node (setVersion version session) widened version
    exact (fields.1 kind).trans (pending_setVersion version session kind)
  | false =>
    rw [if_pos ⟨not_le.mp stale, Bool.eq_false_iff.mpr stopped, widened⟩, ←
      pending_setVersion version session kind]
    exact (applyFields_within node (setVersion version session) widened version).1 kind

/-- A command of a chain returns, unless it takes hold and something it evaluates raises. -/
theorem returns_apply (version : Int) (entries : Entries) (session : Session) :
    (outcome (apply node version (.dict entries)) session).isOk = true ↔
      (TakesHold node session.posture (version, .dict entries) →
        evaluates node (.dict entries) = true) := by
  rw [outcome_apply]
  by_cases stale : version ≤ session.appliedVersion
  · rw [if_pos stale]
    exact iff_of_true rfl fun holds => absurd holds.1 (not_lt.mpr stale)
  rw [if_neg stale]
  by_cases stopped : session.stopped = true
  · rw [if_pos stopped]
    exact iff_of_true rfl fun holds => absurd stopped (Bool.eq_false_iff.mp holds.2.1)
  rw [if_neg stopped]
  cases widened : session.posture.widened (desiredOf node (.dict entries)) with
  | true =>
    rw [(applyFields_widened node (setVersion version session) widened version).2]
    exact iff_of_true rfl fun holds => absurd widened (Bool.eq_false_iff.mp holds.2.2)
  | false =>
    rw [(applyFields_within node (setVersion version session) widened version).2]
    exact ⟨fun returns _ => returns, fun returns =>
      returns ⟨not_le.mp stale, Bool.eq_false_iff.mpr stopped, widened⟩⟩

/-! ### The chain of a snapshot -/

/-- The bodies of a chain that take hold, up to the first that raises. -/
def heeded (posture : Posture) : List (Int × Value) → List Value
  | [] => []
  | command :: rest =>
    let later := heeded (posture.command command.1 (desiredOf node command.2)) rest
    if TakesHold node posture command then
      command.2 :: if evaluates node command.2 then later else []
    else later

/-- What some bodies leave pending of a kind, one after another. -/
def armedByAll (kind : OneShot) (pending : Option Directive) (bodies : List Value) :
    Option Directive :=
  bodies.foldl (fun pending body => (armedBy node body kind).or pending) pending

/-- Where nothing was pending, something is left pending exactly when some body arms it. -/
theorem armedByAll_eq_none_iff {kind : OneShot} {pending : Option Directive} {bodies : List Value} :
    armedByAll node kind pending bodies = none ↔
      pending = none ∧ ∀ body ∈ bodies, armedBy node body kind = none := by
  induction bodies generalizing pending with
  | nil => simp [armedByAll]
  | cons body rest inductionHypothesis =>
    show armedByAll node kind ((armedBy node body kind).or pending) rest = none ↔ _
    rw [inductionHypothesis, Option.or_eq_none_iff, List.forall_mem_cons]
    tauto

theorem returns_replayCommand (applied : AppliedEffect) (command : Int × Entries)
    (session : Session) :
    (outcome (replayCommand node applied command) session).isOk = true ↔
      (TakesHold node session.posture (command.1, .dict command.2) →
        evaluates node (.dict command.2) = true) := by
  unfold replayCommand
  rw [outcome_bind_ok (outcome_get session), final_get]
  by_cases stale : command.1 ≤ session.appliedVersion
  · rw [if_pos stale]
    exact iff_of_true rfl fun holds => absurd holds.1 (not_lt.mpr stale)
  · rw [if_neg stale]
    exact returns_apply node command.1 command.2 session

/-- A replay leaves pending what the bodies it heeds arm, whether it returns or raises. The
induction is on the chain; a body that raises ends both the replay and the list. -/
theorem pending_replay (kind : OneShot) (chain : List (Int × Entries)) (start : AppliedEffect)
    (session : Session) :
    (final (chain.foldlM (replayCommand node) start) session).pending kind =
      armedByAll node kind (session.pending kind)
        (heeded node session.posture (chainCommands chain)) := by
  induction chain generalizing start session with
  | nil => rfl
  | cons command rest inductionHypothesis =>
    have left := final_replayCommand node start command session
    have armed := pending_applyOne node command.1 command.2 session kind
    have returns := returns_replayCommand node start command session
    have posture := posture_apply node command.1 (.dict command.2) session
    rw [List.foldlM_cons, final_bind, left]
    have continued (effect : AppliedEffect) := inductionHypothesis effect
      (applyOne node session (command.1, .dict command.2))
    rw [armed, show (applyOne node session (command.1, .dict command.2)).posture = _ from posture]
      at continued
    show _ = armedByAll node kind _ (heeded node session.posture
      ((command.1, .dict command.2) :: chainCommands rest))
    unfold heeded
    by_cases holds : TakesHold node session.posture (command.1, .dict command.2)
    · simp only [if_pos holds] at continued armed ⊢
      cases evaluated : evaluates node (.dict command.2) with
      | true =>
        obtain ⟨effect, passed⟩ := exists_of_isOk (returns.mpr fun _ => evaluated)
        rw [passed]
        exact continued effect
      | false =>
        cases came : outcome (replayCommand node start command) session with
        | ok effect =>
          rw [came] at returns
          exact absurd (returns.mp rfl holds) (Bool.eq_false_iff.mp evaluated)
        | error error => exact armed
    · simp only [if_neg holds] at continued armed ⊢
      obtain ⟨effect, passed⟩ :=
        exists_of_isOk (returns.mpr fun impossible => absurd impossible holds)
      rw [passed]
      exact continued effect

/-- What an accepted snapshot leaves pending, whether its replay returns or raises. -/
theorem pending_snapshot (signed : node.operatorPubkeys.isEmpty = false) {state commands : Value}
    {chain : List (Int × Entries)} (accepted : Accepts (checkSnapshot node state commands) chain)
    (version : Int) (session : Session) (kind : OneShot) :
    (final ((Message.snapshot version state commands).deliver node) session).pending kind =
      armedByAll node kind (session.pending kind)
        (heeded node session.posture (chainCommands chain)) := by
  have replayed := pending_replay node kind chain ⟨.applied, []⟩ session
  show (final (applySnapshot node version state commands) session).pending kind = _
  rw [applySnapshot_of_accepted node signed accepted, final_bind]
  cases outcome (replay node chain) session with
  | error error => exact replayed
  | ok effect => exact Eq.trans (by cases kind <;> rfl) replayed

/-! ### What a snapshot arms -/

/-- The message sets the pending field of this kind: with nothing pending there, it leaves
something. No method but a take reads a pending field. -/
def Arms (message : Message) (session : Session) (kind : OneShot) : Prop :=
  (final (message.deliver node) (session.clear kind)).pending kind ≠ none

theorem arms_snapshot_iff (signed : node.operatorPubkeys.isEmpty = false) {state commands : Value}
    {chain : List (Int × Entries)} (accepted : Accepts (checkSnapshot node state commands) chain)
    (version : Int) (session : Session) (kind : OneShot) :
    Arms node (.snapshot version state commands) session kind ↔
      ¬ ∀ body ∈ heeded node session.posture (chainCommands chain),
        armedBy node body kind = none := by
  have empty : (session.clear kind).pending kind = none := by rw [pending_clear, if_pos rfl]
  unfold Arms
  rw [pending_snapshot node signed accepted, posture_clear, empty, ne_eq, armedByAll_eq_none_iff]
  simp

/-- An accepted snapshot arms only what its state has a key for, exactly when no body of its chain
that takes hold carries a one-shot the state has no key for. -/
theorem snapshot_arms_asserted_iff (signed : node.operatorPubkeys ≠ []) (session : Session)
    (version : Int) (state commands : Value) (chain : List (Int × Entries))
    (accepted : Accepts (checkSnapshot node state commands) chain) :
    (∀ kind, Arms node (.snapshot version state commands) session kind →
      state.contains kind.key = .ok true) ↔
    ∀ kind : OneShot, state.contains kind.key ≠ .ok true →
      ∀ body ∈ heeded node session.posture (chainCommands chain),
        armedBy node body kind = none := by
  have isSigned : node.operatorPubkeys.isEmpty = false := List.isEmpty_eq_false_iff.mpr signed
  refine forall_congr' fun kind => ?_
  rw [arms_snapshot_iff node isSigned accepted, not_imp_comm]

/-- A pause that an operator signed after a replan. -/
def replanThenPause : List Command :=
  [⟨2, [field "replan" (.dict [field "id" (.str "r1")])], "alice", "now", "aa"⟩,
    ⟨4, [field "paused" (.bool true)], "alice", "now", "aa"⟩]

/-- The snapshot whose state is the pause alone, the replan having been cleared. -/
def clearedReplan : Message :=
  .snapshot 5 (.dict [field "paused" (.bool true)]) (.list (replanThenPause.map Command.entry))

/-- A state that keeps the key arms nothing else. -/
theorem snapshot_arms_asserted_kept :
    let state : Value := .dict (replanThenPause.flatMap Command.delta)
    let commands : Value := .list (replanThenPause.map Command.entry)
    ∀ kind, Arms signedNode (.snapshot 5 state commands) signedNode.initial kind →
      state.contains kind.key = .ok true := by
  intro state commands
  refine (snapshot_arms_asserted_iff signedNode (List.cons_ne_nil _ _) signedNode.initial 5 state
    commands (replanThenPause.map Command.pair) rfl).mpr fun kind absent body member => ?_
  cases kind with
  | replan => exact absurd rfl absent
  | injection | excision =>
    have bodies : heeded signedNode signedNode.initial.posture
        (chainCommands (replanThenPause.map Command.pair)) =
        replanThenPause.map fun command => .dict command.delta := rfl
    rw [bodies] at member
    simp only [replanThenPause, List.map_cons, List.map_nil, List.mem_cons, List.not_mem_nil,
      or_false] at member
    rcases member with rfl | rfl <;> rfl

/-- After a restart the cleared replan is armed again, and handed out again. -/
theorem snapshot_arms_cleared :
    (¬ ∀ (node : Node) (session : Session) (version : Int) (state commands : Value)
      (chain : List (Int × Entries)), node.operatorPubkeys ≠ [] →
        Accepts (checkSnapshot node state commands) chain → ∀ kind,
          Arms node (.snapshot version state commands) session kind →
            state.contains kind.key = .ok true) ∧
    outcome (Take.replan.method signedNode)
      (final (clearedReplan.deliver signedNode) signedNode.initial) =
        .ok (some (.replan ⟨"r1", [], []⟩)) := by
  refine ⟨fun always => ?_, rfl⟩
  have asserted := always signedNode signedNode.initial 5 _ _ (replanThenPause.map Command.pair)
    (List.cons_ne_nil _ _) (rfl : Accepts (checkSnapshot signedNode
      (.dict [field "paused" (.bool true)]) (.list (replanThenPause.map Command.entry))) _) .replan
    (by unfold Arms; exact Option.some_ne_none (Directive.replan ⟨"r1", [], []⟩))
  cases asserted

end AxorWrap.Plane
