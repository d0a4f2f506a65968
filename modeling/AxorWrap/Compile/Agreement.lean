/-
This file compares the two outputs of the compilation: what `governor_kwargs` hands to a governor,
and what is read back from `governance_yaml`.

What is handed over is what was compiled, always. What is read back differs where the text cannot
say it: overrides have no section, a point above `0xFFFF` is read as its surrogates, and a document
with a key that is too long for its line is refused. Elsewhere the two are one compilation.
-/

import AxorWrap.Compile.ReadBack
import Mathlib.Data.Finset.Empty

namespace AxorWrap.Compile

open Python Yaml Checks

/-! ### Tables and entries -/

/-- The entries are those of the table, in any order. -/
def SameEntries {α : Type} (entries : List (PyStr × α)) (table : Table α) : Prop :=
  entries.Perm (table.entries.map fun entry => (entry.1, entry.2))

section Tables

variable {α β : Type} {entries : List (PyStr × α)} {table : Table α} {key : PyStr} {value : α}

theorem mem_entries : (key, value) ∈ table.entries.map (fun entry => (entry.1, entry.2)) ↔
    value ∈ table.lookup key := by
  rw [Option.mem_def, ← Option.mem_def, AList.mem_lookup_iff, List.mem_map]
  constructor
  · rintro ⟨⟨found, _⟩, member, same⟩
    cases same
    exact member
  · exact fun member => ⟨⟨key, value⟩, member, rfl⟩

theorem SameEntries.mem_iff (same : SameEntries entries table) :
    (key, value) ∈ entries ↔ value ∈ table.lookup key :=
  (List.Perm.mem_iff same).trans mem_entries

theorem sameEntries_nil : SameEntries [] table ↔ table.entries = [] := by
  unfold SameEntries
  rw [List.nil_perm, List.map_eq_nil_iff]

/-- The entries of a table, by sorted keys. -/
theorem sameEntries_sorted {found : PyStr → α}
    (each : ∀ key, ∀ value ∈ table.lookup key, found key = value) :
    SameEntries ((sorted table.keys).map fun key => (key, found key)) table := by
  refine ((List.perm_insertionSort _ table.keys).map _).trans (List.Perm.of_eq ?_)
  show (table.entries.map Sigma.fst).map _ = _
  rw [List.map_map]
  refine List.map_congr_left fun entry member => ?_
  exact congrArg (Prod.mk entry.1) (each entry.1 entry.2 (AList.mem_lookup_iff.mpr member))

end Tables

/-! ### The outputs of one compilation -/

/-- What is configured is what was compiled. -/
structure Config.IsCompiled (config : Config) (canon : Canon) : Prop where
  egressSinks : config.egressSinks = canon.egressSinks
  untrustedSources : config.untrustedSources = canon.untrustedSources
  sensitiveSources : config.sensitiveSources = canon.sensitiveSources
  drivingArgs : SameEntries config.drivingArgs canon.drivingArgs
  valuePolicies : SameEntries config.valuePolicies (canon.valuePolicies.mapValues predicatesOf)
  consequenceOverrides : SameEntries config.consequenceOverrides canon.consequenceOverrides

variable (unicode : Unicode) {ConsequenceClass : Type}
  (consequenceClass : PyStr → Option ConsequenceClass)

/-- What is configured is what is handed to the governor. -/
structure Config.IsHandedOver (config : Config) (kwargs : Kwargs ConsequenceClass) : Prop where
  egressSinks : kwargs.egressSinks = config.egressSinks.toFinset
  untrustedSources : kwargs.untrustedSources = config.untrustedSources.toFinset
  sensitiveSources : kwargs.sensitiveSources.getD ∅ = config.sensitiveSources.toFinset
  drivingArgs : SameEntries config.drivingArgs kwargs.drivingArgs
  valuePolicies : SameEntries config.valuePolicies (kwargs.valuePolicies.getD ∅)
  consequenceOverrides : ∀ sink found,
    found ∈ (kwargs.consequenceOverrides.getD ∅).lookup sink ↔
      ∃ name, (sink, name) ∈ config.consequenceOverrides ∧
        classNamed unicode consequenceClass name = .ok found

/-- The text is read back as what was compiled, which is also what is handed over. -/
def OneCompilation (manifests : List Entries) (policy : Option Entries) : Prop :=
  ∃ canon text config, compileManifests unicode manifests policy none = .ok canon ∧
    governanceYaml unicode manifests policy = .ok text ∧ readBack text = some config ∧
      config.IsCompiled canon ∧
        ∀ inputs kwargs, governorKwargs unicode consequenceClass manifests policy inputs =
          .ok kwargs → config.IsHandedOver unicode consequenceClass kwargs

/-! ### What is handed over -/

variable {unicode} {consequenceClass}

/-- The classes are those the overrides name. -/
theorem lookup_classesOf {overrides : Table PyStr} {classes : Table ConsequenceClass}
    (named : classesOf unicode consequenceClass overrides = .ok classes) (sink : PyStr)
    (found : ConsequenceClass) : found ∈ classes.lookup sink ↔
      ∃ name ∈ overrides.lookup sink, classNamed unicode consequenceClass name = .ok found := by
  obtain ⟨entries, each, same⟩ := bind_eq_ok.mp named
  cases same
  have taken := mapM_eq_ok.mp each
  rw [AList.lookup_to_alist]
  unfold AList.lookup
  clear each named
  generalize overrides.entries = declared at taken ⊢
  induction taken with
  | nil => exact ⟨fun wrong => (nomatch wrong), fun ⟨_, wrong, _⟩ => (nomatch wrong)⟩
  | @cons entry value rest others first _ inductionHypothesis =>
    obtain ⟨other, name⟩ := entry
    obtain ⟨named, isNamed, same⟩ := bind_eq_ok.mp first
    cases same
    by_cases here : sink = other
    · subst here
      rw [List.dlookup_cons_eq, List.dlookup_cons_eq, Option.mem_some]
      constructor
      · rintro rfl
        exact ⟨name, rfl, isNamed⟩
      · rintro ⟨_, same, again⟩
        cases same
        exact Except.ok.inj (isNamed.symm.trans again)
    · rw [@List.dlookup_cons_ne _ _ _ others sink ⟨other, named⟩ here,
        @List.dlookup_cons_ne _ _ _ rest sink ⟨other, name⟩ here]
      exact inductionHypothesis

/-- What is handed over is the compilation. -/
theorem isHandedOver_of_isCompiled {manifests : List Entries} {policy inputs : Option Entries}
    {canon : Canon} {config : Config} {kwargs : Kwargs ConsequenceClass}
    (compiled : compileManifests unicode manifests policy inputs = .ok canon)
    (isCompiled : config.IsCompiled canon)
    (handed : governorKwargs unicode consequenceClass manifests policy inputs = .ok kwargs) :
    config.IsHandedOver unicode consequenceClass kwargs := by
  obtain ⟨canon', again, handed⟩ := bind_eq_ok.mp handed
  cases compiled.symm.trans again
  obtain ⟨overrides, isNamed, same⟩ := bind_eq_ok.mp handed
  cases same
  constructor
  · exact congrArg List.toFinset isCompiled.egressSinks.symm
  · exact congrArg List.toFinset isCompiled.untrustedSources.symm
  · rw [isCompiled.sensitiveSources]
    show (if canon.sensitiveSources.isEmpty then _ else _ : Option (Finset PyStr)).getD ∅ = _
    split
    · next empty => rw [List.isEmpty_iff.mp empty]; rfl
    · rfl
  · exact isCompiled.drivingArgs
  · show SameEntries _ (Option.getD (if canon.valuePolicies.entries.isEmpty then none
      else some (canon.valuePolicies.mapValues predicatesOf)) ∅)
    split
    · next empty =>
      have none : canon.valuePolicies = ∅ := AList.ext (List.isEmpty_iff.mp empty)
      have policies := isCompiled.valuePolicies
      rw [none] at policies
      exact policies
    · exact isCompiled.valuePolicies
  · intro sink found
    simp only [isCompiled.consequenceOverrides.mem_iff]
    unfold namedOverrides at isNamed
    split at isNamed
    · next empty =>
      cases isNamed
      have none : canon.consequenceOverrides = ∅ := AList.ext (List.isEmpty_iff.mp empty)
      rw [none]
      exact ⟨fun wrong => (nomatch wrong), fun ⟨_, wrong, _⟩ => (nomatch wrong)⟩
    · obtain ⟨classes, named, same⟩ := bind_eq_ok.mp isNamed
      cases same
      exact lookup_classesOf named sink found

/-! ### What is read back -/

/-- A predicate whose texts are read as they are. -/
def EnumPredicate.InPlane (predicate : EnumPredicate) : Prop :=
  Python.InPlane predicate.arg ∧ ∀ value ∈ predicate.allowed, Python.InPlane value

/-- A compilation that its text can say. -/
structure Canon.Sayable (canon : Canon) : Prop where
  untrustedSources : ∀ tool ∈ canon.untrustedSources, InPlane tool
  sensitiveSources : ∀ tool ∈ canon.sensitiveSources, InPlane tool
  egressSinks : ∀ tool ∈ canon.egressSinks, InPlane tool
  drivingArgs : ∀ tool, ∀ args ∈ canon.drivingArgs.lookup tool,
    InPlane tool ∧ ∀ arg ∈ args, InPlane arg
  valuePolicies : ∀ sink, ∀ byArg ∈ canon.valuePolicies.lookup sink,
    InPlane sink ∧ ∀ predicate ∈ predicatesOf byArg, predicate.InPlane
  consequenceOverrides : canon.consequenceOverrides.entries = []

theorem map_inSurrogates {values : List PyStr} :
    values.map inSurrogates = values ↔ ∀ value ∈ values, InPlane value := by
  constructor
  · intro same value member
    rw [← same] at member
    obtain ⟨source, _, rfl⟩ := List.mem_map.mp member
    exact inPlane_inSurrogates source
  · intro inPlane
    have same : ∀ value ∈ values, inSurrogates value = value :=
      fun value member => inSurrogates_eq_self.mpr (inPlane value member)
    exact (List.map_congr_left same).trans (List.map_id' values)

theorem inPlane_asRead (predicate : EnumPredicate) : predicate.asRead.InPlane := by
  refine ⟨inPlane_inSurrogates _, fun value member => ?_⟩
  obtain ⟨source, _, rfl⟩ := List.mem_map.mp member
  exact inPlane_inSurrogates source

theorem asRead_eq_self {predicate : EnumPredicate} (inPlane : predicate.InPlane) :
    predicate.asRead = predicate := by
  unfold EnumPredicate.asRead
  rw [inSurrogates_eq_self.mpr inPlane.1, map_inSurrogates.mpr inPlane.2]

/-- What is read back is what was compiled when the text can say it. -/
theorem isCompiled_of_sayable {canon : Canon} (sayable : canon.Sayable) :
    canon.asRead.IsCompiled canon where
  egressSinks := map_inSurrogates.mpr sayable.egressSinks
  untrustedSources := map_inSurrogates.mpr sayable.untrustedSources
  sensitiveSources := map_inSurrogates.mpr sayable.sensitiveSources
  drivingArgs := by
    have plain : canon.asRead.drivingArgs = (sorted canon.drivingArgs.keys).map fun tool =>
        (tool, (canon.drivingArgs.lookup tool).getD []) := by
      refine List.map_congr_left fun tool member => ?_
      obtain ⟨args, found⟩ := exists_lookup member
      obtain ⟨named, texts⟩ := sayable.drivingArgs tool args found
      rw [found, Option.getD_some, inSurrogates_eq_self.mpr named, map_inSurrogates.mpr texts]
    rw [plain]
    refine sameEntries_sorted fun tool args found => ?_
    rw [found]
    rfl
  valuePolicies := by
    have plain : canon.asRead.valuePolicies = (sorted canon.valuePolicies.keys).map fun sink =>
        (sink, (canon.valuePolicies.lookup sink).elim [] predicatesOf) := by
      refine List.map_congr_left fun sink member => ?_
      obtain ⟨byArg, found⟩ := exists_lookup member
      obtain ⟨named, predicates⟩ := sayable.valuePolicies sink byArg found
      have same : (predicatesOf byArg).map EnumPredicate.asRead = predicatesOf byArg :=
        (List.map_congr_left fun predicate isPredicate =>
          asRead_eq_self (predicates predicate isPredicate)).trans (List.map_id' _)
      rw [found, Option.elim_some, inSurrogates_eq_self.mpr named, same]
    rw [plain, ← Table.keys_mapValues predicatesOf]
    refine sameEntries_sorted fun sink predicates found => ?_
    rw [Table.lookup_mapValues] at found
    obtain ⟨byArg, isPolicy, rfl⟩ := Option.map_eq_some_iff.mp found
    rw [isPolicy]
    rfl
  consequenceOverrides := sameEntries_nil.mpr sayable.consequenceOverrides

/-- What is read back as it was compiled can be said. -/
theorem sayable_of_isCompiled {canon : Canon} (same : canon.asRead.IsCompiled canon) :
    canon.Sayable where
  untrustedSources := map_inSurrogates.mp same.untrustedSources
  sensitiveSources := map_inSurrogates.mp same.sensitiveSources
  egressSinks := map_inSurrogates.mp same.egressSinks
  drivingArgs := by
    intro tool args found
    obtain ⟨source, _, isRead⟩ := List.mem_map.mp (same.drivingArgs.mem_iff.mpr found)
    cases isRead
    refine ⟨inPlane_inSurrogates source, fun arg member => ?_⟩
    obtain ⟨sourceArg, _, rfl⟩ := List.mem_map.mp member
    exact inPlane_inSurrogates sourceArg
  valuePolicies := by
    intro sink byArg found
    have expected : predicatesOf byArg ∈
        (canon.valuePolicies.mapValues predicatesOf).lookup sink := by
      rw [Table.lookup_mapValues, found]
      rfl
    obtain ⟨source, _, isRead⟩ := List.mem_map.mp (same.valuePolicies.mem_iff.mpr expected)
    rw [Prod.mk.injEq] at isRead
    rw [← isRead.1, ← isRead.2]
    refine ⟨inPlane_inSurrogates source, fun predicate member => ?_⟩
    obtain ⟨sourcePredicate, _, rfl⟩ := List.mem_map.mp member
    exact inPlane_asRead sourcePredicate
  consequenceOverrides := sameEntries_nil.mp same.consequenceOverrides

/-! ### The inputs whose text can be read back -/

/-- The tool is in one of the lists or tables. -/
def ToolFacts.Listed (tool : ToolFacts) : Prop :=
  tool.isEgress = true ∨ tool.untrustedFields ≠ [] ∨ tool.isSensitive = true ∨
    tool.drivingArgs ≠ []

/-- The text says all of what these tools and this policy declare. -/
structure Legible (unicode : Unicode) (tools : List ToolFacts) (policy : Option Entries) :
    Prop where
  overrides : declaredOverrides policy = .ok []
  ids : ∀ tool ∈ tools, tool.Listed → InPlane tool.toolId
  drivingKeys : ∀ tool ∈ tools, tool.drivingArgs ≠ [] → KeyFits tool.toolId
  drivingArgs : ∀ id, ∀ tool ∈ tools.reverse.find? fun tool =>
      tool.toolId = id && !tool.drivingArgs.isEmpty, ∀ arg ∈ tool.drivingArgs, InPlane arg
  sinks : ∀ items, allowlistOf policy = .ok (some items) → ∀ tool ∈ tools, tool.isEgress = true →
    KeyFits tool.toolId ∧ ∀ item ∈ items, InPlane (textOf unicode item)

section Inputs

variable {tools : List ToolFacts} {declared : Entries} {resolved : Option (List PyStr)}
  {policy : Option Entries}

/-- The parts of a policy, as a compilation without inputs takes them. -/
structure Parts (unicode : Unicode) (policy : Option Entries) (declared : Entries)
    (resolved : Option (List PyStr)) : Prop where
  declared : declaredOverrides policy = .ok declared
  listed : ∃ listed, allowlistOf policy = .ok listed ∧
    resolved = listed.map fun items => items.map (textOf unicode)

theorem formed_canonOf (parts : Parts unicode policy declared resolved) :
    (canonOf unicode tools declared resolved).Formed where
  driving tool args found := by
    rw [Option.mem_def, canonOf, lookup_tableOf] at found
    obtain ⟨facts, isLast, rfl⟩ := Option.map_eq_some_iff.mp found
    have holds := List.find?_some isLast
    simpa using (Bool.and_eq_true_iff.mp holds).2
  policies sink byArg found := by
    obtain ⟨texts, _, _, rfl⟩ := mem_lookup_policiesOf.mp found
    exact List.cons_ne_nil _ _
  enums sink byArg found predicate member := by
    obtain ⟨texts, isResolved, _, rfl⟩ := mem_lookup_policiesOf.mp found
    cases List.mem_singleton.mp member
    obtain ⟨listed, isListed, rfl⟩ := parts.listed
    obtain ⟨items, rfl, rfl⟩ := Option.map_eq_some_iff.mp isResolved
    simpa using allowlistOf_nonempty isListed

/-- A value policy is that of a sink among the tools, on one argument, for the items listed. -/
theorem exists_of_lookup_policies (parts : Parts unicode policy declared resolved) {sink : PyStr}
    {byArg : Table EnumSpec}
    (found : byArg ∈ (canonOf unicode tools declared resolved).valuePolicies.lookup sink) :
    ∃ items, allowlistOf policy = .ok (some items) ∧
      (∃ tool ∈ tools, tool.isEgress = true ∧ tool.toolId = sink) ∧
        byArg = AList.singleton (allowlistArg (tableOf ToolFacts.drivingArgs tools) sink)
          ⟨items.map (textOf unicode)⟩ := by
  obtain ⟨listed, isListed, rfl⟩ := parts.listed
  obtain ⟨texts, isResolved, member, rfl⟩ := mem_lookup_policiesOf.mp found
  obtain ⟨items, rfl, rfl⟩ := Option.map_eq_some_iff.mp isResolved
  exact ⟨items, isListed, mem_toolsWith.mp member, rfl⟩

/-- The argument of a value policy is a driving argument, or `"recipient"`. -/
theorem inPlane_allowlistArg (legible : Legible unicode tools policy) (sink : PyStr) :
    InPlane (allowlistArg (tableOf ToolFacts.drivingArgs tools) sink) := by
  unfold allowlistArg
  have fallback : InPlane defaultAllowlistArg := inSurrogates_eq_self.mp rfl
  cases found : (tableOf ToolFacts.drivingArgs tools).lookup sink with
  | none => exact fallback
  | some args =>
    obtain ⟨tool, isLast, rfl⟩ := mem_lookup_tableOf.mp found
    have texts := legible.drivingArgs sink tool isLast
    rw [Option.getD_some]
    cases drivingArgs : tool.drivingArgs with
    | nil => exact fallback
    | cons first rest => exact texts first (drivingArgs ▸ List.mem_cons_self)

theorem keysFit_of_legible (parts : Parts unicode policy declared resolved)
    (legible : Legible unicode tools policy) :
    (canonOf unicode tools declared resolved).KeysFit := by
  constructor
  · intro tool member
    obtain ⟨facts, isTool, some, rfl⟩ := mem_tableOf.mp (mem_sorted.mp member)
    exact legible.drivingKeys facts isTool some
  · intro name member
    obtain ⟨byArg, found⟩ := exists_lookup member
    obtain ⟨items, isListed, ⟨facts, isTool, egress, rfl⟩, _⟩ :=
      exists_of_lookup_policies parts found
    exact (legible.sinks items isListed facts isTool egress).1

/-- What legible inputs compile to can be said. -/
theorem sayable_of_legible (parts : Parts unicode policy declared resolved)
    (legible : Legible unicode tools policy) :
    (canonOf unicode tools declared resolved).Sayable := by
  constructor
  · intro name member
    obtain ⟨facts, isTool, holds, rfl⟩ := mem_toolsWith.mp member
    exact legible.ids facts isTool (.inr (.inl (by simpa using holds)))
  · intro name member
    obtain ⟨facts, isTool, holds, rfl⟩ := mem_toolsWith.mp member
    exact legible.ids facts isTool (.inr (.inr (.inl holds)))
  · intro name member
    obtain ⟨facts, isTool, holds, rfl⟩ := mem_toolsWith.mp member
    exact legible.ids facts isTool (.inl holds)
  · intro name args found
    obtain ⟨facts, isLast, rfl⟩ := mem_lookup_tableOf.mp found
    have isTool := List.mem_reverse.mp (List.mem_of_find?_eq_some isLast)
    have isTaken := List.find?_some (Option.mem_def.mp isLast)
    have holds := Bool.and_eq_true_iff.mp isTaken
    refine ⟨?_, legible.drivingArgs name facts isLast⟩
    rw [← of_decide_eq_true holds.1]
    exact legible.ids facts isTool (.inr (.inr (.inr (by simpa using holds.2))))
  · intro name byArg found
    obtain ⟨items, isListed, ⟨facts, isTool, egress, rfl⟩, rfl⟩ :=
      exists_of_lookup_policies parts found
    refine ⟨legible.ids facts isTool (.inl egress), fun predicate member => ?_⟩
    cases List.mem_singleton.mp member
    refine ⟨inPlane_allowlistArg legible facts.toolId, fun value isValue => ?_⟩
    obtain ⟨item, isItem, rfl⟩ := List.mem_map.mp isValue
    exact (legible.sinks items isListed facts isTool egress).2 item isItem
  · have none := parts.declared.symm.trans legible.overrides
    exact (overridesOf_empty_iff unicode).mpr (Except.ok.inj none)

/-- What fits and can be said was compiled from legible inputs. -/
theorem legible_of_sayable (parts : Parts unicode policy declared resolved)
    (fit : (canonOf unicode tools declared resolved).KeysFit)
    (sayable : (canonOf unicode tools declared resolved).Sayable) :
    Legible unicode tools policy where
  overrides := by
    rw [parts.declared, (overridesOf_empty_iff unicode).mp sayable.consequenceOverrides]
  ids tool isTool listed := by
    rcases listed with egress | untrusted | sensitive | driving
    · exact sayable.egressSinks _ (mem_toolsWith.mpr ⟨tool, isTool, egress, rfl⟩)
    · exact sayable.untrustedSources _
        (mem_toolsWith.mpr ⟨tool, isTool, by simpa using untrusted, rfl⟩)
    · exact sayable.sensitiveSources _ (mem_toolsWith.mpr ⟨tool, isTool, sensitive, rfl⟩)
    · obtain ⟨args, found⟩ :=
        exists_lookup (mem_sorted.mpr (mem_tableOf.mpr ⟨tool, isTool, driving, rfl⟩))
      exact (sayable.drivingArgs tool.toolId args found).1
  drivingKeys tool isTool driving :=
    fit.1 tool.toolId (mem_sorted.mpr (mem_tableOf.mpr ⟨tool, isTool, driving, rfl⟩))
  drivingArgs id tool isLast :=
    (sayable.drivingArgs id tool.drivingArgs (mem_lookup_tableOf.mpr ⟨tool, isLast, rfl⟩)).2
  sinks items isListed tool isTool egress := by
    obtain ⟨listed, again, rfl⟩ := parts.listed
    cases isListed.symm.trans again
    have member := mem_toolsWith.mpr ⟨tool, isTool, egress, rfl⟩
    have found : _ ∈ (policiesOf _ (tableOf ToolFacts.drivingArgs tools) _).lookup tool.toolId :=
      mem_lookup_policiesOf.mpr ⟨items.map (textOf unicode), rfl, member, rfl⟩
    refine ⟨fit.2 tool.toolId (mem_sorted.mpr ?_), fun item isItem => ?_⟩
    · exact AList.mem_keys.mp (AList.lookup_isSome.mp (Option.isSome_of_mem found))
    · have policies := (sayable.valuePolicies tool.toolId _ found).2
      exact (policies _ (List.mem_singleton_self _)).2 _ (List.mem_map_of_mem isItem)

end Inputs

/-- The text is read back as the one compilation exactly when the inputs are legible. -/
theorem oneCompilation_iff {manifests : List Entries} {policy : Option Entries}
    (compiles : (compileManifests unicode manifests policy none).isOk = true) :
    OneCompilation unicode consequenceClass manifests policy ↔
      ∃ tools, manifests.mapM (readManifest unicode) = .ok tools ∧
        Legible unicode tools policy := by
  obtain ⟨canon, compiled⟩ := exists_of_isOk compiles
  obtain ⟨tools, isRead, declared, isDeclared, resolved, resolves, rfl⟩ :=
    compileManifests_eq_ok.mp compiled
  have parts : Parts unicode policy declared resolved :=
    ⟨isDeclared, (resolvedOf_without resolves).1⟩
  have written : governanceYaml unicode manifests policy =
      .ok (yamlOf manifests.length (canonOf unicode tools declared resolved)) :=
    bind_eq_ok.mpr ⟨_, compiled, rfl⟩
  have formed : (canonOf unicode tools declared resolved).Formed := formed_canonOf parts
  have reads := @readBack_yamlOf manifests.length _ formed
  constructor
  · rintro ⟨_, _, config, again, isText, isConfig, isCompiled, _⟩
    cases compiled.symm.trans again
    cases written.symm.trans isText
    refine ⟨tools, isRead, ?_⟩
    by_cases fit : (canonOf unicode tools declared resolved).KeysFit
    · cases (reads.1 fit).symm.trans isConfig
      exact legible_of_sayable parts fit (sayable_of_isCompiled isCompiled)
    · cases (reads.2 fit).symm.trans isConfig
  · rintro ⟨_, again, legible⟩
    cases isRead.symm.trans again
    have fit := keysFit_of_legible parts legible
    have sayable := sayable_of_legible parts legible
    have isCompiled := isCompiled_of_sayable sayable
    exact ⟨_, _, _, compiled, written, reads.1 fit, isCompiled, fun inputs kwargs handed =>
      isHandedOver_of_isCompiled (compileManifests_without compiled) isCompiled handed⟩

/-! ### A tool that sends -/

/-- Unicode tables that know no character beyond ASCII. -/
def Unicode.ascii : Unicode where
  isPrintable point := 32 ≤ point.val && point.val ≤ 126
  isSpace point := point.val = 32
  decimal _ := none
  floatText _ := []
  lower text := text.map fun point => if 65 ≤ point.val ∧ point.val ≤ 90 then point + 32 else point
  upper text := text.map fun point => if 97 ≤ point.val ∧ point.val ≤ 122 then point - 32 else point

/-- The manifest of a tool that sends mail to its argument `to`. -/
def sendEmail : Entries :=
  [(.str "id", .str "send_email"),
    (.str "effect", .dict [(.str "default_class", .str "EXPORT"),
      (.str "driving_args", .list [.str "to"])])]

/-- A policy that lets mail go to one address. -/
def oneRecipient : Entries := [(.str "allowlist", .list [.str "alice@corp.com"])]

/-- A policy that marks the tool as catastrophic. -/
def markedCatastrophic : Entries :=
  [(.str "criticality_overrides", .dict [(.str "send_email", .str "CATASTROPHIC")])]

/-- Two of the consequence classes there are. -/
def consequenceNamed (name : PyStr) : Option PyStr :=
  if name = "CATASTROPHIC" ∨ name = "REVERSIBLE" then some name else none

/-- What the manifest declares. -/
def sendEmailFacts : ToolFacts where
  toolId := "send_email"
  isEgress := true
  untrustedFields := []
  isSensitive := false
  drivingArgs := ["to"]

theorem oneCompilation_oneRecipient :
    OneCompilation Unicode.ascii consequenceNamed [sendEmail] (some oneRecipient) := by
  have inPlane : InPlane "send_email" ∧ InPlane "to" ∧ InPlane "alice@corp.com" :=
    ⟨inSurrogates_eq_self.mp rfl, inSurrogates_eq_self.mp rfl, inSurrogates_eq_self.mp rfl⟩
  refine (oneCompilation_iff rfl).mpr ⟨[sendEmailFacts], rfl, ?_⟩
  constructor
  · rfl
  · rintro tool isTool -
    cases List.mem_singleton.mp isTool
    exact inPlane.1
  · rintro tool isTool -
    cases List.mem_singleton.mp isTool
    decide
  · intro id tool isLast arg isArg
    cases List.mem_singleton.mp (List.mem_reverse.mp (List.mem_of_find?_eq_some isLast))
    cases List.mem_singleton.mp isArg
    exact inPlane.2.1
  · intro items isListed tool isTool _
    cases (show _ = Except.ok (some [Value.str "alice@corp.com"]) from rfl).symm.trans isListed
    cases List.mem_singleton.mp isTool
    refine ⟨by decide, fun item isItem => ?_⟩
    cases List.mem_singleton.mp isItem
    exact inPlane.2.2

/-- The tool that is marked as catastrophic is marked for the governor, and not in the text. -/
theorem markedCatastrophic_unread :
    (compileManifests Unicode.ascii [sendEmail] (some markedCatastrophic) none).isOk = true ∧
      (governorKwargs Unicode.ascii consequenceNamed [sendEmail] (some markedCatastrophic)
        none).isOk = true ∧
      ¬ OneCompilation Unicode.ascii consequenceNamed [sendEmail] (some markedCatastrophic) := by
  refine ⟨rfl, rfl, ?_⟩
  rintro ⟨canon, text, config, compiled, written, isRead, isCompiled, _⟩
  have declared : (compileManifests Unicode.ascii [sendEmail] (some markedCatastrophic) none).map
      (fun canon => canon.consequenceOverrides.entries) =
        .ok [⟨"send_email", "CATASTROPHIC"⟩] := rfl
  rw [compiled] at declared
  have entries : canon.consequenceOverrides.entries = [⟨"send_email", "CATASTROPHIC"⟩] :=
    Except.ok.inj declared
  have unread : (governanceYaml Unicode.ascii [sendEmail] (some markedCatastrophic)).toOption.bind
      (fun text => (readBack text).map Config.consequenceOverrides) = some [] := by decide +kernel
  rw [written] at unread
  have configured : (readBack text).map Config.consequenceOverrides = some [] := unread
  rw [isRead] at configured
  have same := isCompiled.consequenceOverrides
  rw [Option.some.inj configured, sameEntries_nil, entries] at same
  exact List.cons_ne_nil _ _ same

end AxorWrap.Compile
