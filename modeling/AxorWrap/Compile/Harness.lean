/-
This file says what becomes of the roles that are asserted of bare callables. A harness that has
no source to scan asserts a role of each of its tools; `harness_manifest` makes a manifest of
each assertion, and the manifests are compiled for the governor. Of one tool several roles may be
asserted.

Assertions of known classes give manifests that always compile. The governor is given the sinks
and the sources that some assertion makes one, and no others. In what drives a tool, and so in
the argument an allowlist is put on, the last assertion that names any counts.
-/

import AxorWrap.Compile.Agreement
import AxorWrap.Compile.Generate

namespace AxorWrap.Compile

open Python Checks

/-! ### Assertions -/

/-- The arguments of `harness_manifest`. -/
structure Assertion where
  toolId : PyStr
  effectClass : PyStr := "READ"
  drivingArgs : List PyStr := []
  untrusted : Bool := false
  sensitive : Bool := false
  argsSchema : Option LiteralEntries := none

/-- The manifest of the tool. -/
def Assertion.manifest (interpreter : LiteralInterpreter) (one : Assertion) :
    Except ManifestValidationError LiteralEntries :=
  harnessManifest interpreter one.toolId one.effectClass one.drivingArgs one.untrusted
    one.sensitive one.argsSchema

/-- What goes into it. -/
def Assertion.parts (one : Assertion) : ManifestParts :=
  harnessParts one.toolId one.effectClass one.drivingArgs one.untrusted one.sensitive
    one.argsSchema

/-- What the compilation reads of it. -/
def Assertion.facts (one : Assertion) : ToolFacts where
  toolId := one.toolId
  isEgress := one.effectClass ∈ egressClasses
  untrustedFields := if one.untrusted then ["result"] else []
  isSensitive := one.sensitive
  drivingArgs := one.drivingArgs

/-- Some assertion gives the tool this role. -/
def IsAsserted (asserted : List Assertion) (tool : PyStr) (role : Assertion → Prop) : Prop :=
  ∃ one ∈ asserted, role one ∧ one.toolId = tool

/-- What the last assertion that names any driving arguments of the tool names. -/
def drivingOf (asserted : List Assertion) (tool : PyStr) : Option (List PyStr) :=
  (asserted.reverse.find? fun one => one.toolId = tool && !one.drivingArgs.isEmpty).map
    Assertion.drivingArgs

/-- A sink is a tool that is asserted to export or to execute. -/
def IsSink (asserted : List Assertion) (tool : PyStr) : Prop :=
  IsAsserted asserted tool fun one => one.effectClass ∈ egressClasses

/-- The governor is given what is asserted, and each sink the texts that an allowlist resolves
to. -/
structure Governs {ConsequenceClass : Type} (asserted : List Assertion)
    (resolved : Option (List PyStr)) (kwargs : Kwargs ConsequenceClass) : Prop where
  egress : ∀ tool, tool ∈ kwargs.egressSinks ↔ IsSink asserted tool
  untrusted : ∀ tool, tool ∈ kwargs.untrustedSources ↔
    IsAsserted asserted tool fun one => one.untrusted = true
  sensitive : ∀ tool, tool ∈ kwargs.sensitiveSources.getD ∅ ↔
    IsAsserted asserted tool fun one => one.sensitive = true
  driving : ∀ tool, kwargs.drivingArgs.lookup tool = drivingOf asserted tool
  policies : ∀ tool predicates, predicates ∈ (kwargs.valuePolicies.getD ∅).lookup tool ↔
    ∃ texts, resolved = some texts ∧ IsSink asserted tool ∧
      predicates = [⟨((drivingOf asserted tool).getD []).headD defaultAllowlistArg, texts⟩]

/-! ### The manifests -/

section Manifests

variable {interpreter : LiteralInterpreter} {asserted : List Assertion}

theorem readManifest_asserted (unicode : Unicode) (one : Assertion) :
    readManifest unicode (fieldsOf one.parts.manifest) = .ok one.facts := by
  rw [readManifest_parts]
  unfold Assertion.parts Assertion.facts harnessParts
  cases one.sensitive <;> rfl

/-- Manifests are made exactly when every class is known. -/
theorem mapM_manifest_eq_ok {manifests : List LiteralEntries} :
    asserted.mapM (Assertion.manifest interpreter) = .ok manifests ↔
      (∀ one ∈ asserted, one.effectClass ∈ effectClasses) ∧
        asserted.map (fun one => one.parts.manifest) = manifests := by
  rw [mapM_eq_ok]
  unfold Assertion.manifest
  simp only [harnessManifest_eq_ok]
  constructor
  · intro each
    induction each with
    | nil => exact ⟨List.forall_mem_nil _, rfl⟩
    | cons first _ inductionHypothesis =>
      refine ⟨List.forall_mem_cons.mpr ⟨first.1, inductionHypothesis.1⟩, ?_⟩
      rw [List.map_cons, inductionHypothesis.2]
      exact congrArg (· :: _) first.2
  · rintro ⟨known, rfl⟩
    rw [List.forall₂_map_right_iff, List.forall₂_same]
    exact fun one member => ⟨known one member, rfl⟩

theorem mapM_asserted (unicode : Unicode) (asserted : List Assertion) :
    ((asserted.map fun one => one.parts.manifest).map fieldsOf).mapM (readManifest unicode) =
      .ok (asserted.map Assertion.facts) := by
  rw [mapM_eq_ok, List.map_map, List.forall₂_map_left_iff, List.forall₂_map_right_iff,
    List.forall₂_same]
  exact fun one _ => readManifest_asserted unicode one

end Manifests

/-! ### The compilation -/

section Compiled

variable {asserted : List Assertion} {tool : PyStr}

theorem mem_toolsWith_asserted {holds : ToolFacts → Bool} :
    tool ∈ toolsWith holds (asserted.map Assertion.facts) ↔
      IsAsserted asserted tool fun one => holds one.facts = true := by
  rw [mem_toolsWith, IsAsserted]
  simp only [List.mem_map, exists_exists_and_eq_and]
  exact Iff.rfl

theorem mem_egress_asserted :
    tool ∈ toolsWith ToolFacts.isEgress (asserted.map Assertion.facts) ↔ IsSink asserted tool := by
  rw [mem_toolsWith_asserted]
  unfold IsSink Assertion.facts
  simp only [decide_eq_true_eq]

theorem lookup_driving_asserted :
    (tableOf ToolFacts.drivingArgs (asserted.map Assertion.facts)).lookup tool =
      drivingOf asserted tool := by
  rw [lookup_tableOf, ← List.map_reverse, List.find?_map, Option.map_map]
  rfl

/-- Whatever the policy, the governor is given what is asserted. -/
theorem governs_canonOf {ConsequenceClass : Type} {unicode : Unicode} {declared : Entries}
    {resolved : Option (List PyStr)} {overrides : Option (Table ConsequenceClass)} :
    let canon := canonOf unicode (asserted.map Assertion.facts) declared resolved
    Governs asserted resolved {
      egressSinks := canon.egressSinks.toFinset
      untrustedSources := canon.untrustedSources.toFinset
      drivingArgs := canon.drivingArgs
      sensitiveSources :=
        if canon.sensitiveSources.isEmpty then none else some canon.sensitiveSources.toFinset
      valuePolicies :=
        if canon.valuePolicies.entries.isEmpty then none
        else some (canon.valuePolicies.mapValues predicatesOf)
      consequenceOverrides := overrides } := by
  intro canon
  constructor
  · intro tool
    rw [List.mem_toFinset]
    exact mem_egress_asserted
  · intro tool
    rw [List.mem_toFinset]
    refine mem_toolsWith_asserted.trans (exists_congr fun one => and_congr_right fun _ => ?_)
    refine and_congr_left' ?_
    unfold Assertion.facts
    cases one.untrusted <;> simp
  · intro tool
    have listed : tool ∈ canon.sensitiveSources ↔
        IsAsserted asserted tool fun one => one.sensitive = true := mem_toolsWith_asserted
    rw [← listed]
    dsimp only
    split
    · next empty => simp [List.isEmpty_iff.mp empty]
    · exact List.mem_toFinset
  · exact fun tool => lookup_driving_asserted
  · intro tool predicates
    have handed : Option.getD (if canon.valuePolicies.entries.isEmpty then none
        else some (canon.valuePolicies.mapValues predicatesOf)) ∅ =
          canon.valuePolicies.mapValues predicatesOf := by
      split
      · next empty =>
        have none : canon.valuePolicies = ∅ := AList.ext (List.isEmpty_iff.mp empty)
        rw [none]
        rfl
      · rfl
    rw [handed, Table.lookup_mapValues, Option.mem_def, Option.map_eq_some_iff]
    constructor
    · rintro ⟨byArg, found, rfl⟩
      obtain ⟨texts, resolves, sink, rfl⟩ := mem_lookup_policiesOf.mp found
      refine ⟨texts, resolves, mem_egress_asserted.mp sink, ?_⟩
      rw [← lookup_driving_asserted]
      rfl
    · rintro ⟨texts, resolves, sink, rfl⟩
      refine ⟨_, mem_lookup_policiesOf.mpr ⟨texts, resolves, mem_egress_asserted.mpr sink, rfl⟩, ?_⟩
      rw [← lookup_driving_asserted]
      rfl

end Compiled

/-! ### From the assertions to the governor -/

section Handed

variable (interpreter : LiteralInterpreter) (unicode : Unicode) {ConsequenceClass : Type}
  (consequenceClass : PyStr → Option ConsequenceClass)

/-- **The governor is given the roles that are asserted.** Manifests are made of assertions exactly
when every class is known. They compile without a policy, and under every policy that compiles
with them the governor is given what is asserted and what the allowlist resolves to. -/
theorem harness_governs (asserted : List Assertion) :
    ((∃ manifests, asserted.mapM (Assertion.manifest interpreter) = .ok manifests) ↔
      ∀ one ∈ asserted, one.effectClass ∈ effectClasses) ∧
    ∀ manifests, asserted.mapM (Assertion.manifest interpreter) = .ok manifests →
      (∃ kwargs, governorKwargs unicode consequenceClass (manifests.map fieldsOf) none none =
        .ok kwargs) ∧
      ∀ policy inputs kwargs,
        governorKwargs unicode consequenceClass (manifests.map fieldsOf) policy inputs =
          .ok kwargs →
        ∃ resolved, resolvedOf unicode policy inputs = .ok resolved ∧
          Governs asserted resolved kwargs := by
  simp only [mapM_manifest_eq_ok]
  refine ⟨exists_and_left.trans (and_iff_left ⟨_, rfl⟩), ?_⟩
  rintro _ ⟨_, rfl⟩
  have isRead := mapM_asserted unicode asserted
  refine ⟨?_, fun policy inputs kwargs handed => ?_⟩
  · have compiled : compileManifests unicode
        ((asserted.map fun one => one.parts.manifest).map fieldsOf) none none =
          .ok (canonOf unicode (asserted.map Assertion.facts) [] none) :=
      compileManifests_eq_ok.mpr ⟨_, isRead, _, rfl, _, rfl, rfl⟩
    exact ⟨_, bind_eq_ok.mpr ⟨_, compiled, rfl⟩⟩
  · obtain ⟨canon, compiled, later⟩ := bind_eq_ok.mp handed
    obtain ⟨overrides, _, same⟩ := bind_eq_ok.mp later
    obtain ⟨tools, isRead', declared, _, resolved, resolves, rfl⟩ :=
      compileManifests_eq_ok.mp compiled
    cases isRead.symm.trans isRead'
    cases same
    exact ⟨resolved, resolves, governs_canonOf⟩

end Handed

end AxorWrap.Compile
