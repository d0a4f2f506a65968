/-
This file says when declared-sensitive content stays out of a trace. A value read from a result is
redacted as its pattern is, and a pattern is sensitive when it is itself among the sensitive
patterns, once prefixes and indices are normalized.

That a concrete path lies below a sensitive one is not looked at. A manifest that declares a node
sensitive and a field below it untrusted has the field minted in clear.
-/

import AxorWrap.Trace.Expansion

namespace AxorWrap.Trace

open Python Methods Checks

variable {V : Type} {kernel : Kernel} {objects : Objects V}

/-! ### What is sensitive -/

/-- The path lies at or below the pattern, both normalized: the pattern is the whole result, or the
path goes on from it by a key or an element. -/
def Covers (pattern path : PyStr) : Prop :=
  pattern = PyStr.ofString "result" ∨ pattern = [] ∨ pattern = path ∨ pattern ++ [46] <+: path ∨
    pattern ++ [91] <+: path

/-- A concrete path lies at or below one of these patterns. -/
def CoveredBy (kernel : Kernel) (sensitive : List PyStr) (path : PyStr) : Prop :=
  ∃ pattern ∈ sensitive,
    Covers (normalize kernel.interpreter pattern) (dropIndexes kernel.interpreter none path)

/-- The content of the value is not in the trace, and it is labelled. -/
structure Redacted (entry : ValueEntry V) : Prop where
  decision : entry.decisionValue = none
  preview : entry.preview = PyStr.ofString "[redacted]"
  label : .sensitive ∈ entry.labels

/-- Every value of these that was minted from a path at or below a sensitive one is redacted. -/
def KeptSecret (kernel : Kernel) (tool : PyStr) (sensitive : List PyStr)
    (minted : List (ValueEntry V)) : Prop :=
  ∀ entry ∈ minted, ∀ path, entry.sources =
      [⟨.externalRead, PyStr.ofString "tool_result:" ++ tool ++ PyStr.ofString ":" ++ path⟩] →
    CoveredBy kernel sensitive path → Redacted entry

/-- A value is redacted exactly when it is minted as sensitive. -/
theorem redacted_iff {tool : PyStr} {flag : Bool} {read : PyStr × V} {entry : ValueEntry V}
    (minted : ReadFrom kernel objects tool flag read entry) : Redacted entry ↔ flag = true := by
  have shown := minted.preview
  cases flag with
  | true =>
    refine iff_of_true ⟨minted.decision, (Except.ok.inj shown).symm, ?_⟩ rfl
    rw [minted.labels]
    decide
  | false =>
    refine iff_of_false (fun redacted => ?_) Bool.false_ne_true
    cases minted.decision.symm.trans redacted.decision

/-- The path in the source of a value is the one it was read at. -/
theorem path_of_readFrom {tool path : PyStr} {flag : Bool} {read : PyStr × V}
    {entry : ValueEntry V} (minted : ReadFrom kernel objects tool flag read entry)
    (sources : entry.sources =
      [⟨.externalRead, PyStr.ofString "tool_result:" ++ tool ++ PyStr.ofString ":" ++ path⟩]) :
    read.1 = path := by
  have same := congrArg Source.originRef (List.cons.inj (minted.sources.symm.trans sources)).1
  exact List.append_cancel_left same

/-! ### What is minted -/

/-- The untrusted fields of a result are minted pattern by pattern. -/
theorem returns_mintUntrustedFields_eq {manifest : Entries} {tool : PyStr} {result : V}
    {sensitive untrusted produced : List PyStr} {ledger left : Ledger V}
    (listedSensitive : listed kernel manifest "sensitive_fields" = .ok sensitive)
    (listedUntrusted : listed kernel manifest "untrusted_fields" = .ok untrusted)
    (returned : Returns (mintUntrustedFields kernel objects manifest tool (some result)) ledger
      produced left) :
    ∃ groups : List (List (ValueEntry V)), left = ledger.pushAll groups.flatten ∧
      List.Forall₂ (fun pattern group => List.Forall₂ (ReadFrom kernel objects tool
          (decide (normalize kernel.interpreter pattern ∈
            sensitive.map (normalize kernel.interpreter))))
        (expand objects (headsOf (stripResult pattern)) result) group) untrusted groups := by
  obtain ⟨_, _, readSensitive, rest⟩ := returns_bind.mp returned
  obtain ⟨same, rfl⟩ := returns_lift.mp readSensitive
  cases listedSensitive.symm.trans same
  obtain ⟨_, _, readUntrusted, rest⟩ := returns_bind.mp rest
  obtain ⟨same, rfl⟩ := returns_lift.mp readUntrusted
  cases listedUntrusted.symm.trans same
  obtain ⟨lists, _, minted, made⟩ := returns_bind.mp rest
  obtain ⟨rfl, rfl⟩ := returns_pure.mp made
  exact returns_mapM_pushAll (fun _ _ _ _ passed => returns_mintFields_eq passed) minted

/-- **Declared-sensitive content stays out of the trace** exactly when every untrusted pattern at
which something is read at or below a sensitive path is itself among the sensitive patterns. -/
theorem keptSecret_iff {manifest : Entries} {tool : PyStr} {result : V}
    {sensitive untrusted produced : List PyStr} {ledger left : Ledger V}
    (listedSensitive : listed kernel manifest "sensitive_fields" = .ok sensitive)
    (listedUntrusted : listed kernel manifest "untrusted_fields" = .ok untrusted)
    (returned : Returns (mintUntrustedFields kernel objects manifest tool (some result)) ledger
      produced left) :
    KeptSecret kernel tool sensitive (left.values.drop ledger.values.length) ↔
      ∀ pattern ∈ untrusted,
        (∃ read ∈ expand objects (headsOf (stripResult pattern)) result,
          CoveredBy kernel sensitive read.1) →
        normalize kernel.interpreter pattern ∈ sensitive.map (normalize kernel.interpreter) := by
  obtain ⟨groups, rfl, made⟩ :=
    returns_mintUntrustedFields_eq listedSensitive listedUntrusted returned
  rw [values_pushAll, List.drop_left]
  constructor
  · rintro secret pattern inUntrusted ⟨read, inReads, covered⟩
    obtain ⟨group, inGroups, minted⟩ := exists_of_mem_left made inUntrusted
    obtain ⟨entry, inGroup, here⟩ := exists_of_mem_left minted inReads
    have member : entry ∈ groups.flatten := List.mem_flatten.mpr ⟨group, inGroups, inGroup⟩
    have redacted := secret entry member read.1 here.sources covered
    exact of_decide_eq_true ((redacted_iff here).mp redacted)
  · intro each entry member path sources covered
    obtain ⟨group, inGroups, inGroup⟩ := List.mem_flatten.mp member
    obtain ⟨pattern, inUntrusted, minted⟩ := exists_of_mem_right made inGroups
    obtain ⟨read, inReads, here⟩ := exists_of_mem_right minted inGroup
    have same := path_of_readFrom here sources
    refine (redacted_iff here).mpr (decide_eq_true (each pattern inUntrusted ⟨read, inReads, ?_⟩))
    exact same ▸ covered

/-! ### A field below a sensitive one -/

/-- A manifest with these fields. -/
def fieldsManifest (sensitive untrusted : List PyStr) : Entries :=
  [(.str "sensitive_fields", .list (sensitive.map .str)),
    (.str "untrusted_fields", .list (untrusted.map .str))]

/-- A result that holds a token below a user. -/
def userToken : Value := .dict [(.str "user", .dict [(.str "token", .str "hunter2")])]

/-- The ledger after the untrusted fields of that result were minted. -/
def tokenLedger (sensitive : PyStr) : Ledger Value :=
  final (mintUntrustedFields Kernel.trial (Objects.json Kernel.trial)
    (fieldsManifest [sensitive] ["result.user.token"]) "read" (some userToken)) {}

theorem listed_untrusted (sensitive : PyStr) :
    listed Kernel.trial (fieldsManifest [sensitive] ["result.user.token"]) "untrusted_fields" =
      .ok ["result.user.token"] := rfl

theorem listed_sensitive (sensitive : PyStr) :
    listed Kernel.trial (fieldsManifest [sensitive] ["result.user.token"]) "sensitive_fields" =
      .ok [sensitive] := rfl

theorem returns_tokenLedger (sensitive : PyStr) (produced : List PyStr)
    (minted : outcome (mintUntrustedFields Kernel.trial (Objects.json Kernel.trial)
      (fieldsManifest [sensitive] ["result.user.token"]) "read" (some userToken)) {} =
        .ok produced) :
    Returns (mintUntrustedFields Kernel.trial (Objects.json Kernel.trial)
      (fieldsManifest [sensitive] ["result.user.token"]) "read" (some userToken)) {} produced
      (tokenLedger sensitive) :=
  ⟨minted, rfl⟩

theorem token_keptSecret : KeptSecret Kernel.trial "read" ["result.user.token"]
    (tokenLedger "result.user.token").values := by
  have returned := returns_tokenLedger "result.user.token" ["v_ext_1"] (by decide +kernel)
  refine (keptSecret_iff (listed_sensitive _) (listed_untrusted _) returned).mpr
    fun pattern member _ => ?_
  exact List.mem_map_of_mem member

/-- A token below a sensitive user is written into the trace. -/
theorem token_in_clear : ¬ KeptSecret Kernel.trial "read" ["result.user"]
    (tokenLedger "result.user").values := by
  have returned := returns_tokenLedger "result.user" ["v_ext_1"] (by decide +kernel)
  obtain ⟨groups, left, made⟩ :=
    returns_mintUntrustedFields_eq (listed_sensitive _) (listed_untrusted _) returned
  obtain ⟨group, inGroups, minted⟩ := exists_of_mem_left made (List.mem_singleton_self _)
  have read : (PyStr.ofString "user.token", Value.str "hunter2") ∈
      expand (Objects.json Kernel.trial) (headsOf (stripResult "result.user.token")) userToken :=
    List.mem_singleton_self _
  obtain ⟨entry, inGroup, here⟩ := exists_of_mem_left minted read
  have member : entry ∈ (tokenLedger "result.user").values := by
    rw [left, values_pushAll]
    exact List.mem_append_right _ (List.mem_flatten.mpr ⟨group, inGroups, inGroup⟩)
  have covered : CoveredBy Kernel.trial ["result.user"] "user.token" :=
    ⟨"result.user", List.mem_singleton_self _, .inr (.inr (.inr (.inl (by decide +kernel))))⟩
  intro secret
  have redacted := secret entry member "user.token" here.sources covered
  exact absurd ((redacted_iff here).mp redacted) (by decide +kernel)

end AxorWrap.Trace
