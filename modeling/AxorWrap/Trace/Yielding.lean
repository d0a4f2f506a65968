/-
This file says when a session yields its trace. The builder raises a `TraceBuildError` when calls
and verdicts do not line up, and means to raise nothing else. But it reads the payloads and the
manifests as if each field had the shape it expects, and hashes every argument and every untrusted
scalar of a result, although a float has no hash. So what is asked of a session is collected here,
field by field.
-/

import AxorWrap.Trace.Pairing
import AxorWrap.Python.Json

namespace AxorWrap.Trace

open Python Methods Checks

/-! ### What is asked of a session -/

/-- There is a float in the value. -/
inductive HoldsFloat : Value → Prop
  | float (number : PyFloat) : HoldsFloat (.float number)
  | item {items : List Value} {item : Value} (member : item ∈ items) (inside : HoldsFloat item) :
      HoldsFloat (.list items)
  | entry {entries : Entries} {entry : Key × Value} (member : entry ∈ entries)
      (inside : HoldsFloat entry.2) : HoldsFloat (.dict entries)

/-- `canonicalize` raises on every float. -/
def RejectsFloats (kernel : Kernel) : Prop :=
  ∀ value, HoldsFloat value → ∃ error, kernel.canonicalize value = .error error

/-- The value has a hash: there is no float in it, nor anything else without a canonical form. -/
structure Hashable (kernel : Kernel) (value : Value) : Prop where
  floatFree : ¬ HoldsFloat value
  canonical : ∃ canonical, kernel.canonicalize value = .ok canonical

/-- What is under the key can be iterated over, if anything is. -/
def Lists (entries : Entries) (key : PyStr) : Prop :=
  ∀ value, Entries.lookup entries key = some value → ∃ items, value.iterate = .ok items

/-- The payload of a verdict can be read. A denial has a category in it that a gate is of. -/
structure Legible (kernel : Kernel) (event : TraceEvent) : Prop where
  provenance : ∀ provenance, Entries.lookup event.payload "arg_provenance" = some provenance →
    ∃ refs, provenance.toDict = .ok refs
  driving : Lists event.payload "driving_args"
  category : event.denied = true → ∃ category gate,
    Entries.lookup event.payload "category" = some category ∧
      kernel.gateOf (category.toStr kernel.interpreter) = .ok gate

/-- An argument has a hash, and what the verdict has on where it came from can be read. -/
structure Argued (kernel : Kernel) (event : TraceEvent) (argument : PyStr × Value) : Prop where
  hashable : Hashable kernel argument.2
  ref : ∀ provenance refs ref, Entries.lookup event.payload "arg_provenance" = some provenance →
    provenance.toDict = .ok refs → Entries.lookup refs argument.1 = some ref →
    ∃ fields, ref = .dict fields ∧ Lists fields "sources"

/-- What is asked of an argument by the references that were copied out of the payload. -/
def Bindable (kernel : Kernel) (refs : Entries) (argument : PyStr × Value) : Prop :=
  (∀ ref, Entries.lookup refs argument.1 = some ref →
    ∃ fields, ref = .dict fields ∧ Lists fields "sources") ∧
  Hashable kernel argument.2

/-- The manifest of a call lists field paths, and what its result has at those that are not
trusted has a hash. -/
structure Reported (kernel : Kernel) (manifest : Entries) (call : RecordedCall Value) : Prop where
  sensitive : Lists manifest "sensitive_fields"
  untrusted : Lists manifest "untrusted_fields"
  hashable : ∀ result patterns, call.result = some result →
    listed kernel manifest "untrusted_fields" = .ok patterns → ∀ pattern ∈ patterns,
    ∀ found ∈ expand (Objects.json kernel) (headsOf (stripResult pattern)) result,
      Hashable kernel found.2

/-- The inputs and fixtures of a scenario, as they are hashed: empty where it has none. -/
def worldOf (scenario : Entries) : Value :=
  let part (key : PyStr) : Value :=
    let value := (Entries.lookup scenario key).getD .null
    if value.truthy then value else .dict []
  .dict [(.str "inputs", part "inputs"), (.str "fixtures", part "fixtures")]

/-- The calls and the verdicts that take one are as many. -/
def Material.Aligned {V : Type} (material : Material V) : Prop :=
  material.calls.length = (takers material.observes (verdictEvents material.traceEvents)).length

/-- Everything in a session that is read can be read, and everything that is hashed has a hash. -/
structure Buildable (kernel : Kernel) (material : Material Value) : Prop where
  verdicts : ∀ event ∈ verdictEvents material.traceEvents, Legible kernel event
  arguments : ∀ (place : Nat) call event, material.calls[place]? = some call →
    (takers material.observes (verdictEvents material.traceEvents))[place]? = some event →
    ∀ argument ∈ call.args, Argued kernel event argument
  results : ∀ call ∈ material.calls, call.executed = true →
    Reported kernel (manifestOf kernel material.manifests call.tool) call
  world : material.inputsDigest = none → ∀ scenario, material.scenario = some scenario →
    Hashable kernel (worldOf scenario)

/-- A session that lines up yields its trace, and only that it does not is ever raised. -/
structure YieldsTrace (kernel : Kernel) (material : Material Value) : Prop where
  yields : material.Aligned →
    ∃ document, buildTrace kernel (Objects.json kernel) material = .ok document
  raises : ∀ error, buildTrace kernel (Objects.json kernel) material = .error error →
    (∃ misalignment, error = .traceBuild misalignment) ∧ ¬ material.Aligned

/-! ### Reading fields -/

theorem lists_iff {entries : Entries} {key : PyStr} :
    (∃ items, ((Entries.lookup entries key).getD (.list [])).iterate = .ok items) ↔
      Lists entries key := by
  exact iff_forall_some (fun found : Option Value =>
      ∃ items, (found.getD (.list [])).iterate = .ok items)
    ⟨[], rfl⟩ (fun _ => .rfl) _

section Steps

variable {kernel : Kernel}

variable (kernel) in
theorem listed_returns_iff {manifest : Entries} {key : PyStr} :
    (∃ patterns, listed kernel manifest key = .ok patterns) ↔ Lists manifest key := by
  rw [← lists_iff]
  unfold listed
  simp only [bind_eq_ok]
  constructor
  · rintro ⟨_, items, iterates, _⟩
    exact ⟨items, iterates⟩
  · rintro ⟨items, iterates⟩
    exact ⟨_, items, iterates, rfl⟩

variable (kernel) in
/-- The taint sources of an argument are read off a `dict`, under one key. -/
theorem taintSources_returns_iff {ref : Value} :
    (∃ sources, taintSources kernel ref = .ok sources) ↔
      ∃ fields, ref = .dict fields ∧ Lists fields "sources" := by
  unfold taintSources
  simp only [bind_eq_ok]
  constructor
  · rintro ⟨_, sources, found, items, iterates, _⟩
    cases ref with
    | dict fields =>
      cases found
      exact ⟨fields, rfl, lists_iff.mp ⟨items, iterates⟩⟩
    | null | bool | int | float | str | list => cases found
  · rintro ⟨fields, rfl, lists⟩
    obtain ⟨items, iterates⟩ := lists_iff.mpr lists
    exact ⟨_, _, rfl, items, iterates, rfl⟩

/-- A decision can be told from the payload alone. -/
theorem decisionOf_returns_iff {event : TraceEvent} {argBindings : Bindings} {enforced : Bool} :
    (∃ decision, decisionOf kernel event argBindings enforced = .ok decision) ↔
      Lists event.payload "driving_args" ∧
        (event.denied = true → ∃ category gate,
          Entries.lookup event.payload "category" = some category ∧
            kernel.gateOf (category.toStr kernel.interpreter) = .ok gate) := by
  have gates : (∃ gate, decisionGate kernel event = .ok gate) ↔
      (event.denied = true → ∃ category gate,
        Entries.lookup event.payload "category" = some category ∧
          kernel.gateOf (category.toStr kernel.interpreter) = .ok gate) := by
    unfold decisionGate
    cases event.denied with
    | false => simp
    | true =>
      cases Entries.lookup event.payload "category" with
      | none => simp
      | some category => simp
  rw [← lists_iff, ← gates]
  unfold decisionOf
  simp only [bind_eq_ok]
  constructor
  · rintro ⟨_, items, iterates, gate, named, _⟩
    exact ⟨⟨items, iterates⟩, gate, named⟩
  · rintro ⟨⟨items, iterates⟩, gate, named⟩
    exact ⟨_, items, iterates, gate, named, rfl⟩

/-! ### Minting -/

variable (kernel) in
/-- A JSON value has a preview. -/
theorem exists_shownPreview (value : Value) (sensitive : Bool) :
    ∃ shown, shownPreview (Objects.json kernel) value sensitive = .ok shown := by
  cases sensitive with
  | true => exact ⟨_, rfl⟩
  | false => cases value <;> exact ⟨_, rfl⟩

section Hashing

variable (rejects : RejectsFloats kernel)

include rejects

theorem hashable_iff {value : Value} :
    (∃ canonical, kernel.canonicalize value = .ok canonical) ↔ Hashable kernel value := by
  refine ⟨fun canonical => ⟨fun holds => ?_, canonical⟩, Hashable.canonical⟩
  obtain ⟨bytes, taken⟩ := canonical
  obtain ⟨error, raised⟩ := rejects value holds
  cases taken.symm.trans raised

/-- A value can be minted exactly when it has a hash. -/
theorem succeeds_mint {value : Value} {hint : Hint} {labels : List Label} {sources : List Source}
    {sensitive : Bool} {transformations derivedFrom : List PyStr} {ledger : Ledger Value} :
    Succeeds (mint kernel (Objects.json kernel) value hint labels sources sensitive transformations
        derivedFrom) ledger ↔ Hashable kernel value := by
  obtain ⟨shown, shows⟩ := exists_shownPreview kernel value sensitive
  rw [← hashable_iff rejects]
  unfold mint
  rw [succeeds_seq, succeeds_get, succeeds_bind_always, succeeds_lift]
  · exact ⟨fun succeeds => succeeds.2, fun canonical => ⟨⟨_, rfl⟩, canonical⟩⟩
  · intro canonical left
    exact succeeds_bind.mpr ⟨shown, shows, _, rfl⟩

theorem succeeds_mintArgument {tool name : PyStr} {value ref : Value} {ledger : Ledger Value} :
    Succeeds (mintArgument kernel (Objects.json kernel) tool name value ref) ledger ↔
      (∃ fields, ref = .dict fields ∧ Lists fields "sources") ∧ Hashable kernel value := by
  rw [← taintSources_returns_iff kernel]
  unfold mintArgument
  rw [succeeds_bind]
  constructor
  · rintro ⟨sources, found, rest⟩
    refine ⟨⟨sources, found⟩, ?_⟩
    obtain ⟨flag, _, minted⟩ := succeeds_bind.mp rest
    split at minted
    · exact (succeeds_mint rejects).mp minted
    · exact (succeeds_mint rejects).mp (succeeds_get.mp minted)
  · rintro ⟨⟨sources, found⟩, hashable⟩
    refine ⟨sources, found, ?_⟩
    obtain ⟨fields, rfl, _⟩ := (taintSources_returns_iff kernel).mp ⟨sources, found⟩
    refine succeeds_bind.mpr ⟨_, rfl, ?_⟩
    split
    · exact (succeeds_mint rejects).mpr hashable
    · exact succeeds_get.mpr ((succeeds_mint rejects).mpr hashable)

/-- The arguments of a call can be bound exactly when each of them can be minted. -/
theorem succeeds_bindArguments {refs : Entries} {call : Option (RecordedCall Value)}
    {ledger : Ledger Value} :
    Succeeds (bindArguments kernel (Objects.json kernel) refs call) ledger ↔
      ∀ seen, call = some seen → ∀ argument ∈ seen.args, Bindable kernel refs argument := by
  refine iff_forall_some
    (fun call => Succeeds (bindArguments kernel (Objects.json kernel) refs call) ledger)
    (succeeds_pure _ _) (fun seen => ?_) call
  unfold bindArguments
  refine succeeds_mapM (fun argument ledger => ?_) seen.args ledger
  obtain ⟨name, value⟩ := argument
  dsimp only
  rw [succeeds_bind_always fun _ _ => ⟨_, rfl⟩, succeeds_mintArgument rejects]
  refine and_congr_left' ?_
  refine iff_forall_some (fun found : Option Value =>
      ∃ fields, found.getD (.dict []) = .dict fields ∧ Lists fields "sources")
    ⟨[], rfl, ?_⟩ (fun _ => .rfl) _
  rintro _ ⟨⟩

theorem succeeds_mintFields {tool pattern : PyStr} {result : Option Value}
    {sensitivePatterns : List PyStr} {ledger : Ledger Value} :
    Succeeds (mintFields kernel (Objects.json kernel) tool result sensitivePatterns pattern)
        ledger ↔
      ∀ value, result = some value →
        ∀ found ∈ expand (Objects.json kernel) (headsOf (stripResult pattern)) value,
          Hashable kernel found.2 := by
  have each : ∀ (found : PyStr × Value) (ledger : Ledger Value),
      Succeeds (mintRead kernel (Objects.json kernel) tool found.1 found.2
        (decide (normalize kernel.interpreter pattern ∈ sensitivePatterns))) ledger ↔
      Hashable kernel found.2 := fun _ _ => succeeds_mint rejects
  unfold mintFields
  dsimp only
  rw [succeeds_mapM each]
  exact iff_forall_some (fun result => ∀ found ∈
      (result.map (expand (Objects.json kernel) (headsOf (stripResult pattern)))).getD [],
      Hashable kernel found.2)
    (List.forall_mem_nil _) (fun _ => .rfl) result

/-- What a result has at the untrusted paths of a manifest can be minted exactly when the call can
be reported. -/
theorem succeeds_mintUntrustedFields {manifest : Entries} {tool : PyStr}
    {call : RecordedCall Value} {ledger : Ledger Value} :
    Succeeds (mintUntrustedFields kernel (Objects.json kernel) manifest tool call.result) ledger ↔
      Reported kernel manifest call := by
  unfold mintUntrustedFields
  rw [succeeds_bind]
  simp only [outcome_lift, final_lift]
  constructor
  · rintro ⟨sensitive, marked, rest⟩
    obtain ⟨untrusted, listing, rest⟩ := succeeds_bind.mp rest
    obtain ⟨_, minted, _⟩ := succeeds_bind.mp rest
    have each := (succeeds_mapM (fun _ _ => succeeds_mintFields rejects) untrusted _).mp
      ⟨_, minted⟩
    refine ⟨(listed_returns_iff kernel).mp ⟨sensitive, marked⟩,
      (listed_returns_iff kernel).mp ⟨untrusted, listing⟩, ?_⟩
    intro value patterns isResult same pattern member
    cases listing.symm.trans same
    exact each pattern member value isResult
  · intro reported
    obtain ⟨sensitive, marked⟩ := (listed_returns_iff kernel).mpr reported.sensitive
    obtain ⟨untrusted, listing⟩ := (listed_returns_iff kernel).mpr reported.untrusted
    refine ⟨sensitive, marked, succeeds_bind.mpr ⟨untrusted, listing, ?_⟩⟩
    rw [succeeds_bind_always fun _ _ => ⟨_, rfl⟩,
      succeeds_mapM fun _ _ => succeeds_mintFields rejects]
    exact fun pattern member value isResult =>
      reported.hashable value untrusted isResult listing pattern member

theorem succeeds_resultEvents {manifests : List Entries} {call : Option (RecordedCall Value)}
    {ledger : Ledger Value} :
    Succeeds (resultEvents kernel (Objects.json kernel) manifests call) ledger ↔
      ∀ seen, call = some seen → seen.executed = true →
        Reported kernel (manifestOf kernel manifests seen.tool) seen := by
  refine iff_forall_some
    (fun call => Succeeds (resultEvents kernel (Objects.json kernel) manifests call) ledger)
    (succeeds_pure _ _) (fun seen => ?_) call
  simp only [resultEvents]
  cases seen.executed with
  | false =>
    rw [if_neg Bool.false_ne_true]
    refine iff_of_true (succeeds_pure _ _) ?_
    rintro ⟨⟩
  | true =>
    rw [if_pos rfl, succeeds_bind_always fun _ _ => ⟨_, rfl⟩,
      succeeds_mintUntrustedFields rejects]
    exact ⟨fun reported _ => reported, fun reported => reported rfl⟩

end Hashing

/-! ### Pairs -/

variable (kernel) in
/-- What is asked of a verdict and the call beside it, if one is. -/
structure Joinable (manifests : List Entries)
    (pair : Option (RecordedCall Value) × TraceEvent) : Prop where
  verdict : Legible kernel pair.2
  arguments : ∀ call, pair.1 = some call → ∀ argument ∈ call.args, Argued kernel pair.2 argument
  result : ∀ call, pair.1 = some call → call.executed = true →
    Reported kernel (manifestOf kernel manifests call.tool) call

theorem provenance_iff {event : TraceEvent} :
    (∃ refs, ((Entries.lookup event.payload "arg_provenance").getD (.dict [])).toDict = .ok refs) ↔
      ∀ provenance, Entries.lookup event.payload "arg_provenance" = some provenance →
        ∃ refs, provenance.toDict = .ok refs := by
  exact iff_forall_some (fun found : Option Value =>
      ∃ refs, (found.getD (.dict [])).toDict = .ok refs)
    ⟨[], rfl⟩ (fun _ => .rfl) _

/-- What is asked of an argument is asked of the copy that is made of the provenance. -/
theorem argued_iff {event : TraceEvent} {refs : Entries}
    (copied : ((Entries.lookup event.payload "arg_provenance").getD (.dict [])).toDict = .ok refs)
    (argument : PyStr × Value) :
    Argued kernel event argument ↔ Bindable kernel refs argument := by
  constructor
  · intro argued
    refine ⟨fun ref found => ?_, argued.hashable⟩
    cases recorded : Entries.lookup event.payload "arg_provenance" with
    | none =>
      rw [recorded] at copied
      cases copied
      cases found
    | some provenance =>
      rw [recorded] at copied
      exact argued.ref provenance refs ref recorded copied found
  · rintro ⟨readable, hashable⟩
    refine ⟨hashable, fun provenance others ref recorded same found => ?_⟩
    rw [recorded] at copied
    cases copied.symm.trans same
    exact readable ref found

section Hashing

variable (rejects : RejectsFloats kernel)

include rejects

/-- A pair is built exactly when it can be read and hashed. -/
theorem succeeds_buildPair {manifests : List Entries} {enforced : Bool} {index : Nat}
    {call : Option (RecordedCall Value)} {event : TraceEvent} {ledger : Ledger Value} :
    Succeeds (buildPair kernel (Objects.json kernel) manifests enforced index call event) ledger ↔
      Joinable kernel manifests (call, event) := by
  unfold buildPair
  rw [succeeds_bind]
  simp only [outcome_lift, final_lift]
  have rest : ∀ refs left, Succeeds (do
      let argBindings ← bindArguments kernel (Objects.json kernel) refs call
      let decision ← liftM (decisionOf kernel event argBindings enforced)
      let results ← resultEvents kernel (Objects.json kernel) manifests call
      return .toolCallIntent (toolOf kernel call event) (callIdOf index) argBindings ::
        .gateDecision (callIdOf index) decision :: results) left ↔
      (∀ seen, call = some seen → ∀ argument ∈ seen.args, Bindable kernel refs argument) ∧
      (Lists event.payload "driving_args" ∧ (event.denied = true → ∃ category gate,
        Entries.lookup event.payload "category" = some category ∧
          kernel.gateOf (category.toStr kernel.interpreter) = .ok gate)) ∧
      ∀ seen, call = some seen → seen.executed = true →
        Reported kernel (manifestOf kernel manifests seen.tool) seen := by
    intro refs left
    rw [← succeeds_bindArguments rejects]
    refine succeeds_bind_iff fun argBindings left => ?_
    rw [← decisionOf_returns_iff, ← succeeds_lift]
    refine succeeds_bind_iff fun decision left => ?_
    rw [succeeds_bind_always fun _ _ => ⟨_, rfl⟩, succeeds_resultEvents rejects]
  simp only [rest]
  constructor
  · rintro ⟨refs, copied, arguments, ⟨driving, category⟩, result⟩
    refine ⟨⟨provenance_iff.mp ⟨refs, copied⟩, driving, category⟩, ?_, result⟩
    exact fun seen same argument member =>
      (argued_iff copied argument).mpr (arguments seen same argument member)
  · intro joinable
    obtain ⟨refs, copied⟩ := provenance_iff.mpr joinable.verdict.provenance
    refine ⟨refs, copied, ?_, ⟨joinable.verdict.driving, joinable.verdict.category⟩,
      joinable.result⟩
    exact fun seen same argument member =>
      (argued_iff copied argument).mp (joinable.arguments seen same argument member)

/-- The loop goes through when every pair can be built. -/
theorem succeeds_buildPairs {manifests : List Entries} {enforced : Bool} {index seq : Nat}
    {pairs : List (Option (RecordedCall Value) × TraceEvent)} {ledger : Ledger Value} :
    Succeeds (buildPairs kernel (Objects.json kernel) manifests enforced index seq pairs) ledger ↔
      ∀ pair ∈ pairs, Joinable kernel manifests pair := by
  induction pairs generalizing index seq ledger with
  | nil => exact iff_of_true ⟨[], rfl⟩ (List.forall_mem_nil _)
  | cons pair rest inductionHypothesis =>
    obtain ⟨call, event⟩ := pair
    unfold buildPairs
    rw [List.forall_mem_cons, succeeds_bind_iff, succeeds_buildPair rejects]
    intro bodies left
    rw [succeeds_bind_always fun _ _ => ⟨_, rfl⟩, inductionHypothesis]

/-! ### Sessions -/

theorem digestOf_returns_iff {material : Material Value} :
    (∃ digest, digestOf kernel material = .ok digest) ↔
      (material.inputsDigest = none → ∀ scenario, material.scenario = some scenario →
        Hashable kernel (worldOf scenario)) := by
  unfold digestOf
  cases material.inputsDigest with
  | some digest =>
    refine iff_of_true ⟨_, rfl⟩ ?_
    rintro ⟨⟩
  | none =>
    cases material.scenario with
    | none =>
      refine iff_of_true ⟨_, rfl⟩ ?_
      rintro _ _ ⟨⟩
    | some scenario =>
      have world : (∃ digest, worldDigest kernel ((Entries.lookup scenario "inputs").getD .null)
          ((Entries.lookup scenario "fixtures").getD .null) = .ok digest) ↔
          Hashable kernel (worldOf scenario) := by
        rw [← hashable_iff rejects]
        unfold worldDigest
        simp only [bind_eq_ok]
        constructor
        · rintro ⟨_, canonical, taken, _⟩
          exact ⟨canonical, taken⟩
        · rintro ⟨canonical, taken⟩
          exact ⟨_, canonical, taken, rfl⟩
      simp only [bind_eq_ok]
      constructor
      · rintro ⟨_, digest, weighed, _⟩ _ _ ⟨⟩
        exact world.mp ⟨digest, weighed⟩
      · intro hashable
        obtain ⟨digest, weighed⟩ := world.mpr (hashable trivial scenario rfl)
        exact ⟨_, digest, weighed, rfl⟩

theorem succeeds_assemble {material : Material Value}
    {pairs : List (Option (RecordedCall Value) × TraceEvent)} :
    Succeeds (assemble kernel (Objects.json kernel) material pairs) {} ↔
      (∀ pair ∈ pairs, Joinable kernel material.manifests pair) ∧
        (material.inputsDigest = none → ∀ scenario, material.scenario = some scenario →
          Hashable kernel (worldOf scenario)) := by
  unfold assemble
  dsimp only
  rw [succeeds_bind_iff, succeeds_buildPairs rejects]
  intro events left
  rw [succeeds_bind_always, succeeds_lift, digestOf_returns_iff rejects]
  exact fun digest left => succeeds_get.mpr ⟨_, rfl⟩

end Hashing

end Steps

/-! ### Sessions that line up -/

section Sessions

variable {kernel : Kernel} {material : Material Value}

/-- What is asked of the pairs is asked of the verdicts, of the calls, and of the two that have the
same place. -/
theorem joinable_iff {pairs : List (Option (RecordedCall Value) × TraceEvent)}
    (paired : material.pairs = .ok pairs) :
    (∀ pair ∈ pairs, Joinable kernel material.manifests pair) ∧
        (material.inputsDigest = none → ∀ scenario, material.scenario = some scenario →
          Hashable kernel (worldOf scenario)) ↔
      Buildable kernel material := by
  have linesUp := paired_eq_ok_iff.mp paired
  constructor
  · rintro ⟨joinable, world⟩
    refine ⟨fun event member => ?_, fun place call event called judged => ?_,
      fun call member => ?_, world⟩
    · rw [← linesUp.map_snd] at member
      obtain ⟨pair, inPairs, rfl⟩ := List.mem_map.mp member
      exact (joinable pair inPairs).verdict
    · exact (joinable _ (linesUp.mem_of_place called judged)).arguments call rfl
    · rw [← linesUp.filterMap_fst] at member
      obtain ⟨pair, inPairs, isCall⟩ := List.mem_filterMap.mp member
      exact (joinable pair inPairs).result call isCall
  · intro buildable
    refine ⟨?_, buildable.world⟩
    rintro ⟨call, event⟩ inPairs
    have isVerdict : event ∈ verdictEvents material.traceEvents := by
      rw [← linesUp.map_snd]
      exact List.mem_map_of_mem inPairs
    refine ⟨buildable.verdicts event isVerdict, ?_, ?_⟩
    · rintro seen rfl
      obtain ⟨place, called, judged⟩ := linesUp.place inPairs
      exact buildable.arguments place seen event called judged
    · rintro seen rfl
      refine buildable.results seen ?_
      rw [← linesUp.filterMap_fst]
      exact List.mem_filterMap.mpr ⟨_, inPairs, rfl⟩

/-- A session that lines up yields its trace when all in it can be read and hashed. -/
theorem exists_document_iff (rejects : RejectsFloats kernel) (aligned : material.Aligned) :
    (∃ document, buildTrace kernel (Objects.json kernel) material = .ok document) ↔
      Buildable kernel material := by
  obtain ⟨pairs, paired⟩ := exists_paired_iff.mpr aligned
  rw [← joinable_iff (show material.pairs = .ok pairs from paired), ← succeeds_assemble rejects,
    buildTrace_of_pairs paired]
  constructor
  · rintro ⟨document, returned⟩
    cases assembled : outcome (assemble kernel (Objects.json kernel) material pairs) {} with
    | error error =>
      rw [assembled] at returned
      cases returned
    | ok made => exact ⟨made, assembled⟩
  · rintro ⟨document, assembled⟩
    exact ⟨document, by rw [assembled]; rfl⟩

/-- **A session yields its trace, and raises nothing but that it does not line up,** exactly when
all that is read in it can be read and all that is hashed has a hash: no argument and no untrusted
scalar is a float, and every denial has a category. -/
theorem yieldsTrace_iff (rejects : RejectsFloats kernel) :
    YieldsTrace kernel material ↔ (material.Aligned → Buildable kernel material) := by
  constructor
  · exact fun yields aligned => (exists_document_iff rejects aligned).mp (yields.yields aligned)
  · intro buildable
    refine ⟨fun aligned => (exists_document_iff rejects aligned).mpr (buildable aligned), ?_⟩
    intro error raised
    by_cases aligned : material.Aligned
    · obtain ⟨document, returned⟩ :=
        (exists_document_iff rejects aligned).mpr (buildable aligned)
      cases returned.symm.trans raised
    · obtain ⟨misalignment, refused⟩ : ∃ misalignment,
          buildTrace kernel (Objects.json kernel) material = .error (.traceBuild misalignment) :=
        traceBuild_iff.mpr aligned
      cases refused.symm.trans raised
      exact ⟨⟨misalignment, rfl⟩, aligned⟩

end Sessions

/-! ### A payment -/

/-- A kernel that has a canonical form for texts only. -/
def Kernel.strict : Kernel :=
  { Kernel.trial with
    canonicalize := fun value =>
      match value with
      | .str text => .ok ((dumpsText text).map fun point => UInt8.ofNat point.val)
      | _ => .error .typeError }

theorem rejectsFloats_strict : RejectsFloats Kernel.strict := by
  intro value holds
  cases holds with
  | float number => exact ⟨_, rfl⟩
  | item member inside => exact ⟨_, rfl⟩
  | entry member inside => exact ⟨_, rfl⟩

theorem hashable_str (text : PyStr) : Hashable Kernel.strict (.str text) :=
  ⟨by rintro ⟨⟩, _, rfl⟩

/-- This amount was paid, with the approval of the kernel. -/
def payment (amount : Value) : Material Value where
  calls := [
    { tool := "pay", args := [("amount", amount)], executed := true
      result := some (.dict [(.str "receipt", .str "ok")]) }]
  traceEvents := [
    { nodeId := "n", sequence := 1
      payload := [(.str "driving_args", .list [.str "amount"])]
      class_ := .plain .intentApproved none }]
  manifests := [[(.str "id", .str "pay"), (.str "untrusted_fields", .list [.str "result.receipt"])]]
  enforcement := "on"
  trial := []

theorem yieldsTrace_payment : YieldsTrace Kernel.strict (payment (.str "5")) := by
  refine (yieldsTrace_iff rejectsFloats_strict).mpr fun _ => ⟨?_, ?_, ?_, ?_⟩
  · intro event member
    cases List.mem_singleton.mp member
    refine ⟨?_, ?_, ?_⟩
    · rintro _ ⟨⟩
    · rintro _ ⟨⟩
      exact ⟨_, rfl⟩
    · rintro ⟨⟩
  · intro place call event called judged argument member
    cases place with
    | succ place => cases called
    | zero =>
      cases called
      cases judged
      cases List.mem_singleton.mp member
      refine ⟨hashable_str _, ?_⟩
      rintro _ _ _ ⟨⟩
  · intro call member _
    cases List.mem_singleton.mp member
    refine ⟨?_, ?_, ?_⟩
    · rintro _ ⟨⟩
    · rintro _ ⟨⟩
      exact ⟨_, rfl⟩
    · rintro _ _ ⟨⟩ ⟨⟩ pattern listing found member
      cases List.mem_singleton.mp listing
      cases List.mem_singleton.mp member
      exact hashable_str _
  · rintro _ _ ⟨⟩

/-- A denial that is recorded without a category. -/
def uncategorized : Material Value where
  calls := [{ tool := "pay", args := [] }]
  traceEvents := [
    { nodeId := "n", sequence := 1, payload := [], class_ := .intentDenied "tool_call" "taint" }]
  manifests := []
  enforcement := "on"
  trial := []

/-- A float among the arguments, or a denial without a category, loses the whole trace. -/
theorem payment_lost : RejectsFloats Kernel.strict ∧
    ¬ YieldsTrace Kernel.strict (payment (.float (.finite false 3 (-1)))) ∧
    ¬ YieldsTrace Kernel.strict uncategorized := by
  refine ⟨rejectsFloats_strict, fun yields => ?_, fun yields => ?_⟩
  · obtain ⟨document, returned⟩ := yields.yields rfl
    have raised : buildTrace Kernel.strict (Objects.json Kernel.strict)
        (payment (.float (.finite false 3 (-1)))) = .error (.python .typeError) := rfl
    cases raised.symm.trans returned
  · obtain ⟨document, returned⟩ := yields.yields rfl
    have raised : buildTrace Kernel.strict (Objects.json Kernel.strict) uncategorized =
        .error (.python .keyError) := rfl
    cases raised.symm.trans returned

end AxorWrap.Trace
