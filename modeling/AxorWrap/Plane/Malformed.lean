/-
This file says which malformed snapshots are refused and which raise. The commands of a snapshot
are checked in order, and the first that is not well formed and validly signed decides: the check
refuses it, or raises.

Decoding catches what its conversions usually raise, but `int()` of an infinity raises something
else. And a command that decodes is canonicalized before its signature is looked at, outside any
handler: what `canonicalize` raises, on a float for one, leaves the session.
-/

import AxorWrap.Plane.Runs

namespace AxorWrap.Plane

open Python Methods Checks

variable (node : Node)

/-! ### Entries -/

/-- The entry is a well-formed command, and validly signed. -/
def SignedEntry (entry : Value) : Prop :=
  ∃ command : Command, readCommand node entry = .ok (command.version, command.delta,
      .str command.operator, .str command.timestamp, .str command.sig) ∧
    Authentic node command.version (.dict command.delta) (.str command.operator)
      (.str command.timestamp) (.str command.sig)

/-- The signature of the command can be checked: the payload has a canonical form, and checking the
signature over it does not raise. -/
def SignatureChecks (command : Command) : Prop :=
  ∃ message, node.platform.canonicalize (signedPayload node command.version (.dict command.delta)
      (.str command.timestamp)) = .ok message ∧
    ∀ pubkey, node.operatorPubkeys.lookup command.operator = some pubkey →
      ∃ good, verifyEd25519 node.platform pubkey message (.str command.sig) = .ok good

/-- The entry has no infinite version, and if it is a command its signature can be checked. -/
structure Checkable (entry : Value) : Prop where
  finite : ∀ negative, entry.item "version" ≠ .ok (.float (.infinity negative))
  signature : ∀ command : Command, readCommand node entry = .ok (command.version, command.delta,
    .str command.operator, .str command.timestamp, .str command.sig) → SignatureChecks node command

/-! ### What decoding raises -/

/-- The classes of exception that decoding catches. -/
def Caught (error : PyError) : Prop :=
  error = .keyError ∨ error = .typeError ∨ error = .valueError

theorem caught_item {value : Value} {key : PyStr} {error : PyError}
    (raised : value.item key = .error error) : Caught error := by
  cases value with
  | dict entries =>
    simp only [Value.item] at raised
    split at raised <;> cases raised
    exact .inl rfl
  | _ =>
    cases raised
    exact .inr (.inl rfl)

theorem toInt_raises_iff {interpreter : Interpreter} {value : Value} :
    (∃ error, value.toInt interpreter = .error error ∧ ¬ Caught error) ↔
      ∃ negative, value = .float (.infinity negative) := by
  constructor
  · rintro ⟨error, raised, uncaught⟩
    cases value with
    | float number =>
      cases number with
      | infinity negative => exact ⟨negative, rfl⟩
      | nan =>
        cases raised
        exact absurd (.inr (.inr rfl)) uncaught
      | finite => cases raised
    | str text =>
      simp only [Value.toInt] at raised
      split at raised <;> cases raised
      exact absurd (.inr (.inr rfl)) uncaught
    | null =>
      cases raised
      exact absurd (.inr (.inl rfl)) uncaught
    | list =>
      cases raised
      exact absurd (.inr (.inl rfl)) uncaught
    | dict =>
      cases raised
      exact absurd (.inr (.inl rfl)) uncaught
    | bool => cases raised
    | int => cases raised
  · rintro ⟨negative, rfl⟩
    refine ⟨.overflowError, rfl, fun caught => ?_⟩
    rcases caught with same | same | same <;> cases same

theorem caught_toPair {element : Value} {error : PyError} (raised : element.toPair = .error error) :
    Caught error := by
  unfold Value.toPair at raised
  split at raised
  · next key _ _ =>
    cases key <;> cases raised
    all_goals exact .inr (.inl rfl)
  · cases raised
    exact .inr (.inr rfl)
  · cases raised
    exact .inr (.inl rfl)

theorem caught_iterate {value : Value} {error : PyError} (raised : value.iterate = .error error) :
    Caught error := by
  cases value <;> cases raised
  all_goals exact .inr (.inl rfl)

theorem caught_toDict {value : Value} {error : PyError} (raised : value.toDict = .error error) :
    Caught error := by
  unfold Value.toDict at raised
  split at raised
  · cases raised
  · rcases bind_eq_error.mp raised with iterating | ⟨elements, _, building⟩
    · exact caught_iterate iterating
    · refine raised_foldlM (fun _ _ error failed => ?_) building
      rcases bind_eq_error.mp failed with pairing | ⟨pair, _, built⟩
      · exact caught_toPair pairing
      · cases built

/-- Reading an entry raises what is not caught exactly on an infinite version. -/
theorem readCommand_raises_iff {entry : Value} :
    (∃ error, readCommand node entry = .error error ∧ ¬ Caught error) ↔
      ∃ negative, entry.item "version" = .ok (.float (.infinity negative)) := by
  unfold readCommand
  constructor
  · rintro ⟨error, raised, uncaught⟩
    rcases bind_eq_error.mp raised with missing | ⟨version, versioned, raised⟩
    · exact absurd (caught_item missing) uncaught
    rcases bind_eq_error.mp raised with converting | ⟨number, _, raised⟩
    · obtain ⟨negative, rfl⟩ := toInt_raises_iff.mp ⟨error, converting, uncaught⟩
      exact ⟨negative, versioned⟩
    rcases bind_eq_error.mp raised with missing | ⟨delta, _, raised⟩
    · exact absurd (caught_item missing) uncaught
    rcases bind_eq_error.mp raised with converting | ⟨entries, _, raised⟩
    · exact absurd (caught_toDict converting) uncaught
    rcases bind_eq_error.mp raised with missing | ⟨operator, _, raised⟩
    · exact absurd (caught_item missing) uncaught
    rcases bind_eq_error.mp raised with missing | ⟨timestamp, _, raised⟩
    · exact absurd (caught_item missing) uncaught
    rcases bind_eq_error.mp raised with missing | ⟨sig, _, raised⟩
    · exact absurd (caught_item missing) uncaught
    cases raised
  · rintro ⟨negative, versioned⟩
    obtain ⟨error, converting, uncaught⟩ : ∃ error,
        (Value.float (.infinity negative)).toInt node.platform.interpreter = .error error ∧
          ¬ Caught error := toInt_raises_iff.mpr ⟨negative, rfl⟩
    exact ⟨error, bind_eq_error.mpr (.inr ⟨_, versioned, bind_eq_error.mpr (.inl converting)⟩),
      uncaught⟩

/-! ### One entry -/

variable {node} in
theorem signedEntry_iff (signed : node.operatorPubkeys ≠ []) {entry : Value} :
    SignedEntry node entry ↔ ∃ result, Accepts (verifyCommand node entry) result := by
  have isSigned : node.operatorPubkeys.isEmpty = false := by simpa using signed
  simp only [SignedEntry, accepts_verifyCommand, accepts_decodeCommand,
    verify_eq_none_iff node isSigned]
  constructor
  · rintro ⟨command, read, authentic⟩
    exact ⟨_, command, read, authentic, rfl⟩
  · rintro ⟨_, command, read, authentic, _⟩
    exact ⟨command, read, authentic⟩

variable {node} in
/-- `_verify` returns when the signature of the command can be checked. -/
theorem verify_returns_iff (signed : node.operatorPubkeys ≠ []) {command : Command} :
    (∃ verdict, verify node command.version (.dict command.delta) (.str command.operator)
        (.str command.timestamp) (.str command.sig) = .ok verdict) ↔
      SignatureChecks node command := by
  have isSigned : node.operatorPubkeys.isEmpty = false := by simpa using signed
  unfold verify SignatureChecks
  simp only [isSigned, Bool.false_eq_true, if_false, bind_eq_ok, operatorPubkey, Value.toKey,
    Except.ok.injEq, exists_eq_left']
  constructor
  · rintro ⟨verdict, message, canonical, judged⟩
    refine ⟨message, canonical, fun pubkey keyed => ?_⟩
    rw [keyed] at judged
    obtain ⟨good, checked, _⟩ := bind_eq_ok.mp judged
    exact ⟨good, checked⟩
  · rintro ⟨message, canonical, checks⟩
    cases keyed : node.operatorPubkeys.lookup command.operator with
    | none => exact ⟨_, message, canonical, rfl⟩
    | some pubkey =>
      obtain ⟨good, checked⟩ := checks pubkey keyed
      cases good with
      | true => exact ⟨_, message, canonical, bind_eq_ok.mpr ⟨true, checked, rfl⟩⟩
      | false => exact ⟨_, message, canonical, bind_eq_ok.mpr ⟨false, checked, rfl⟩⟩

variable {node} in
/-- The verification of a command returns when its signature can be checked. -/
theorem verifyCommand_returns_iff (signed : node.operatorPubkeys ≠ []) {entry : Value}
    {command : Command} (read : readCommand node entry = .ok (command.version, command.delta,
      .str command.operator, .str command.timestamp, .str command.sig)) :
    (∃ verdict, (verifyCommand node entry).run = .ok verdict) ↔ SignatureChecks node command := by
  rw [← verify_returns_iff signed]
  unfold verifyCommand decodeCommand
  rw [read]
  simp only [pure_bind, ExceptT.run_bind, ExceptT.run_lift]
  cases verify node command.version (.dict command.delta) (.str command.operator)
      (.str command.timestamp) (.str command.sig) with
  | error error =>
    refine iff_of_false ?_ ?_
    all_goals
      rintro ⟨_, same⟩
      cases same
  | ok verdict => cases verdict <;> exact iff_of_true ⟨_, rfl⟩ ⟨_, rfl⟩

theorem verifyCommand_of_caught {entry : Value} {error : PyError}
    (read : readCommand node entry = .error error) (caught : Caught error) :
    (verifyCommand node entry).run = .ok (.error malformedEntry) := by
  unfold verifyCommand decodeCommand
  rw [read]
  simp only [if_pos (show error = .keyError ∨ error = .typeError ∨ error = .valueError from caught)]
  rfl

theorem verifyCommand_of_uncaught {entry : Value} {error : PyError}
    (read : readCommand node entry = .error error) (uncaught : ¬ Caught error) :
    (verifyCommand node entry).run = .error error := by
  unfold verifyCommand decodeCommand
  rw [read]
  simp only [if_neg (show ¬ (error = .keyError ∨ error = .typeError ∨ error = .valueError)
    from uncaught)]
  rfl

/-- An entry whose operator, timestamp or signature is no text is malformed. -/
theorem verifyCommand_of_not_texts {entry : Value} {version : Int} {delta : Entries}
    {operator timestamp sig : Value}
    (read : readCommand node entry = .ok (version, delta, operator, timestamp, sig))
    (other : ¬ ∃ name time signature,
      operator = .str name ∧ timestamp = .str time ∧ sig = .str signature) :
    (verifyCommand node entry).run = .ok (.error malformedEntry) := by
  unfold verifyCommand decodeCommand
  rw [read]
  split
  · next same =>
    cases same
    exact absurd ⟨_, _, _, rfl, rfl, rfl⟩ other
  · rfl
  · next same => cases same

variable {node} in
/-- A pass of the verification loop does not raise exactly on a checkable entry. -/
theorem checkable_iff (signed : node.operatorPubkeys ≠ []) {entry : Value} :
    Checkable node entry ↔ ∃ verdict, (verifyCommand node entry).run = .ok verdict := by
  have returns : Checkable node entry ↔
      (¬ ∃ error, readCommand node entry = .error error ∧ ¬ Caught error) ∧
        ∀ command : Command, readCommand node entry = .ok (command.version, command.delta,
          .str command.operator, .str command.timestamp, .str command.sig) →
            SignatureChecks node command := by
    rw [readCommand_raises_iff, not_exists]
    exact ⟨fun checkable => ⟨checkable.finite, checkable.signature⟩,
      fun both => ⟨both.1, both.2⟩⟩
  rw [returns]
  rcases read : readCommand node entry with error | ⟨version, delta, operator, timestamp, sig⟩
  · by_cases caught : Caught error
    · refine iff_of_true ⟨?_, fun _ same => ?_⟩ ⟨_, verifyCommand_of_caught node read caught⟩
      · rintro ⟨_, same, uncaught⟩
        cases same
        exact uncaught caught
      · cases same
    · refine iff_of_false (fun all => all.1 ⟨error, rfl, caught⟩) ?_
      rintro ⟨verdict, ran⟩
      cases (verifyCommand_of_uncaught node read caught).symm.trans ran
  · rw [and_iff_right (by rintro ⟨_, same, _⟩; cases same)]
    by_cases texts : ∃ name time signature, operator = .str name ∧ timestamp = .str time ∧
        sig = .str signature
    · obtain ⟨name, time, signature, rfl, rfl, rfl⟩ := texts
      let command : Command := ⟨version, delta, name, time, signature⟩
      have verified := @verifyCommand_returns_iff node signed entry command read
      rw [verified]
      refine ⟨fun each => each command rfl, fun checks other same => ?_⟩
      cases same
      exact checks
    · refine iff_of_true (fun command same => ?_)
        ⟨_, verifyCommand_of_not_texts node read texts⟩
      cases same
      exact absurd ⟨_, _, _, rfl, rfl, rfl⟩ texts

/-! ### A snapshot -/

/-- The snapshot is refused as badly signed, and changes nothing but the outbox. -/
def SnapshotRefused (session : Session) (version : Int) (state commands : Value) : Prop :=
  ∃ effect, outcome (applySnapshot node version state commands) session = .ok effect ∧
    effect.kind = .sigInvalid ∧
    ∃ events, final (applySnapshot node version state commands) session =
      { session with outbox := session.outbox ++ events }

/-- A snapshot whose check refuses is refused. -/
theorem snapshotRefused_of_refuses (signed : node.operatorPubkeys ≠ []) {session : Session}
    {version : Int} {state commands : Value} {effect : AppliedEffect}
    (refused : Refuses (checkSnapshot node state commands) effect) :
    SnapshotRefused node session version state commands := by
  have isSigned : ¬ node.operatorPubkeys.isEmpty = true := by simpa using signed
  have kind := checkSnapshot_refusal node refused
  have ran : (checkSnapshot node state commands).run = .ok (.error effect) := refused
  unfold SnapshotRefused applySnapshot
  rw [if_neg isSigned]
  refine ⟨effect, ?_, kind, [reportEvent effect version], ?_⟩
  · rw [outcome_bind, outcome_lift, ran]
    exact outcome_report_return effect version session
  · rw [final_bind, outcome_lift, ran]
    refine (final_report_return effect version session).trans (if_neg ?_)
    rw [kind]
    decide

/-- A snapshot whose check raises is not refused. -/
theorem not_snapshotRefused_of_raises (signed : node.operatorPubkeys ≠ []) {session : Session}
    {version : Int} {state commands : Value} {error : PyError}
    (raised : (checkSnapshot node state commands).run = .error error) :
    ¬ SnapshotRefused node session version state commands := by
  have isSigned : ¬ node.operatorPubkeys.isEmpty = true := by simpa using signed
  rintro ⟨effect, returned, _⟩
  unfold applySnapshot at returned
  rw [if_neg isSigned, outcome_bind, outcome_lift, raised] at returned
  cases returned

/-- The check of a snapshot starts with its entries. -/
theorem run_checkSnapshot_list (state : Value) (entries : List Value) :
    (checkSnapshot node state (.list entries)).run =
      (entries.mapM (verifyCommand node) >>= fun verified => do
        let asserted ← ExceptT.lift state.items
        checkState node (signedValues (sortChain verified)) asserted
        return sortChain verified).run := by
  rfl

/-- A snapshot with an entry that is not well formed and validly signed is refused exactly when
the first such entry can be checked. -/
theorem malformed_iff (signed : node.operatorPubkeys ≠ []) (session : Session) (version : Int)
    (asserted : Entries) {entries : List Value} (malformed : ∃ entry ∈ entries,
      ¬ SignedEntry node entry) :
    SnapshotRefused node session version (.dict asserted) (.list entries) ↔
      ∀ before entry after, entries = before ++ entry :: after →
        (∀ earlier ∈ before, SignedEntry node earlier) → ¬ SignedEntry node entry →
          Checkable node entry := by
  have accepted : ∀ before : List Value, (∀ earlier ∈ before, SignedEntry node earlier) →
      ∀ earlier ∈ before, ∃ result, Accepts (verifyCommand node earlier) result :=
    fun before each earlier member => (signedEntry_iff signed).mp (each earlier member)
  constructor
  · rintro refused before entry after rfl each bad
    by_contra unchecked
    have raises : ∃ error, (verifyCommand node entry).run = .error error := by
      cases ran : (verifyCommand node entry).run with
      | error error => exact ⟨error, rfl⟩
      | ok verdict => exact absurd ((checkable_iff signed).mpr ⟨verdict, ran⟩) unchecked
    obtain ⟨error, raised⟩ := raises
    have loop : ((before ++ entry :: after).mapM (verifyCommand node)).run = .error error :=
      raises_mapM_of_first (accepted before each) raised
    have check : (checkSnapshot node (.dict asserted)
        (.list (before ++ entry :: after))).run = .error error := by
      rw [run_checkSnapshot_list, ExceptT.run_bind, loop]
      rfl
    exact not_snapshotRefused_of_raises node signed check refused
  · intro checkable
    obtain ⟨before, entry, after, rfl, each, bad⟩ := exists_first malformed
    obtain ⟨verdict, ran⟩ := (checkable_iff signed).mp (checkable before entry after rfl each bad)
    cases verdict with
    | ok result => exact absurd ((signedEntry_iff signed).mpr ⟨result, ran⟩) bad
    | error effect =>
      have loop : Refuses ((before ++ entry :: after).mapM (verifyCommand node)) effect :=
        refuses_mapM_of_first (accepted before each) ran
      have check : Refuses (checkSnapshot node (.dict asserted)
          (.list (before ++ entry :: after))) effect := by
        unfold Refuses at loop ⊢
        rw [run_checkSnapshot_list, ExceptT.run_bind, loop]
        rfl
      exact snapshotRefused_of_refuses node signed check

/-- A command that is not even an object is refused. -/
theorem malformed_null :
    SnapshotRefused signedNode signedNode.initial 1 (.dict []) (.list [.null]) := by
  have malformed : ∃ entry ∈ [Value.null], ¬ SignedEntry signedNode entry :=
    ⟨.null, List.mem_singleton_self _, fun ⟨_, read, _⟩ => nomatch read⟩
  refine (malformed_iff signedNode (by decide) _ 1 [] malformed).mpr ?_
  rintro before entry after same _ _
  have only : entry ∈ [Value.null] := same ▸ List.mem_append_right before List.mem_cons_self
  cases List.mem_singleton.mp only
  exact ⟨fun _ same => (nomatch same), fun _ read => (nomatch read)⟩

/-! ### A canonicalizer that rejects floats -/

mutual

/-- There is a float in the value. -/
def hasFloat : Value → Bool
  | .float _ => true
  | .list items => hasFloatItems items
  | .dict entries => hasFloatEntries entries
  | _ => false

def hasFloatItems : List Value → Bool
  | [] => false
  | item :: rest => hasFloat item || hasFloatItems rest

def hasFloatEntries : List (Key × Value) → Bool
  | [] => false
  | (_, value) :: rest => hasFloat value || hasFloatEntries rest

end

/-- The node with one operator, on a platform that has no canonical form for a float. -/
def strictNode : Node where
  platform := { Platform.trial with
    canonicalize := fun value =>
      if hasFloat value then .error .typeError else Platform.trial.canonicalize value }
  nodeId := "node"
  operatorPubkeys := [("alice", "aa")]

/-- A command whose cap is a float. -/
def fractionalCap : Value := .dict [field "version" (.int 1),
  field "delta" (.dict [field "budget_cap_calls" (.float (.finite false 5 (-1)))]),
  field "operator" (.str "alice"), field "timestamp" (.str "now"), field "sig" (.str "00")]

/-- A command with a float in it has no canonical form, so no signature on it is valid; and the
session raises instead of refusing it. -/
theorem float_raises : strictNode.operatorPubkeys ≠ [] ∧
    (∀ value, hasFloat value = true →
      ∃ error, strictNode.platform.canonicalize value = .error error) ∧
    (∃ entry ∈ [fractionalCap], ¬ SignedEntry strictNode entry) ∧
    ¬ SnapshotRefused strictNode strictNode.initial 1 (.dict []) (.list [fractionalCap]) := by
  have raised : outcome (applySnapshot strictNode 1 (.dict []) (.list [fractionalCap]))
      strictNode.initial = .error .typeError := rfl
  refine ⟨by decide, fun value floating => ⟨.typeError, if_pos floating⟩,
    ⟨fractionalCap, List.mem_singleton_self _, ?_⟩, ?_⟩
  · rintro ⟨⟨version, delta, operator, timestamp, sig⟩, read, _, _, _, _, _, canonical, _⟩
    cases read
    cases canonical
  · rintro ⟨effect, returned, _⟩
    cases raised.symm.trans returned

end AxorWrap.Plane
