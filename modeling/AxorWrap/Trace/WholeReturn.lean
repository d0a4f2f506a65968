/-
This file says when the taint of a whole return reaches the trace. The manifests that the package
makes declare the whole result untrusted, and the compilation lists their tools as untrusted
sources. But what they declare is a path, `result` or `result.*`, and the expansion reads such a
path as one key of the result.

So of a result a value is minted only if it is an object with a scalar at that key.
-/

import AxorWrap.Compile.Generate
import AxorWrap.Trace.Expansion
import AxorWrap.Trace.Redaction

namespace AxorWrap.Trace

open Python Methods Checks Compile

/-! ### The scalars of a result -/

mutual

/-- The scalars that a value is or contains, in document order. -/
def scalarsOf : Value → List Value
  | .null => []
  | .list items => scalarsOfItems items
  | .dict entries => scalarsOfEntries entries
  | .bool flag => [.bool flag]
  | .int number => [.int number]
  | .float number => [.float number]
  | .str text => [.str text]

def scalarsOfItems : List Value → List Value
  | [] => []
  | item :: rest => scalarsOf item ++ scalarsOfItems rest

def scalarsOfEntries : List (Key × Value) → List Value
  | [] => []
  | (_, value) :: rest => scalarsOf value ++ scalarsOfEntries rest

end

variable {kernel : Kernel}

theorem scalarsOf_scalar {value : Value} (scalar : (Objects.json kernel).isScalar value = true) :
    scalarsOf value = [value] := by
  cases value with
  | null | list | dict => cases scalar
  | _ => rw [scalarsOf]

/-- A scalar below a key is one of the scalars of the object. -/
theorem mem_scalarsOfEntries {entries : Entries} {key : PyStr} {value : Value}
    (found : Entries.lookup entries key = some value)
    (scalar : (Objects.json kernel).isScalar value = true) : value ∈ scalarsOfEntries entries := by
  induction entries with
  | nil => cases found
  | cons entry rest inductionHypothesis =>
    obtain ⟨name, here⟩ := entry
    rw [Entries.lookup_cons] at found
    rw [scalarsOfEntries, List.mem_append]
    split at found
    · cases found
      rw [scalarsOf_scalar scalar]
      exact .inl (List.mem_singleton_self _)
    · exact .inr (inductionHypothesis found)

/-! ### The manifests that are made -/

/-- A manifest that the package makes, and the path that it declares untrusted. -/
inductive MadeUntrusted (interpreter : LiteralInterpreter) : LiteralEntries → PyStr → Prop
  | harness {toolId effectClass : PyStr} {drivingArgs : List PyStr} {sensitive : Bool}
      {argsSchema : Option LiteralEntries} {manifest : LiteralEntries}
      (made : harnessManifest interpreter toolId effectClass drivingArgs true sensitive argsSchema =
        .ok manifest) : MadeUntrusted interpreter manifest "result"
  | built {tool : DetectedTool} (declares : (inferEffect interpreter tool).untrustedFields ≠ []) :
      MadeUntrusted interpreter (buildManifest tool (inferEffect interpreter tool))
        coarseUntrustedField

variable {interpreter : LiteralInterpreter} {manifest : LiteralEntries} {path : PyStr}

theorem MadeUntrusted.parts (made : MadeUntrusted interpreter manifest path) :
    ∃ parts : ManifestParts, manifest = parts.manifest ∧ parts.untrusted = [path] := by
  cases made with
  | harness made =>
    obtain ⟨_, rfl⟩ := harnessManifest_eq_ok.mp made
    exact ⟨_, rfl, rfl⟩
  | built declares =>
    refine ⟨_, buildManifest_eq _ _, ?_⟩
    exact (untrustedFields_inferEffect interpreter _).resolve_left declares

/-- The path is read as one key, and as no list. -/
theorem MadeUntrusted.heads (made : MadeUntrusted interpreter manifest path) :
    headsOf (stripResult path) = [stripResult path] ∧
      ¬ PyStr.ofString "[]" <:+ stripResult path := by
  cases made <;> decide +kernel

/-- A tool with such a manifest is an untrusted source. -/
theorem MadeUntrusted.listed (made : MadeUntrusted interpreter manifest path)
    {manifests : List Entries} {tool : PyStr}
    (governs : manifestOf kernel manifests tool = fieldsOf manifest) {unicode : Unicode}
    {policy inputs : Option Entries} {canon : Canon}
    (compiled : compileManifests unicode manifests policy inputs = .ok canon) :
    tool ∈ canon.untrustedSources := by
  obtain ⟨parts, rfl, declares⟩ := made.parts
  obtain ⟨tools, readAll, declared, _, resolved, _, rfl⟩ := compileManifests_eq_ok.mp compiled
  have nonempty : fieldsOf parts.manifest ≠ [] := by
    intro none
    have found := lookup_id parts
    rw [none] at found
    cases found
  have chosen : manifests.reverse.find? (fun manifest =>
      ((Entries.lookup manifest "id").getD .null).toStr kernel.interpreter = tool) =
        some (fieldsOf parts.manifest) := by
    unfold manifestOf at governs
    cases search : manifests.reverse.find? (fun manifest =>
      ((Entries.lookup manifest "id").getD .null).toStr kernel.interpreter = tool) with
    | none =>
      rw [search] at governs
      exact absurd governs.symm nonempty
    | some found =>
      rw [search] at governs
      exact congrArg some governs
  have named : parts.id = tool := by
    have same := List.find?_some chosen
    rw [lookup_id, decide_eq_true_eq] at same
    exact same
  have member := List.mem_reverse.mp (List.mem_of_find?_eq_some chosen)
  obtain ⟨facts, inTools, isRead⟩ := exists_of_mem_left (mapM_eq_ok.mp readAll) member
  rw [readManifest_parts] at isRead
  cases isRead
  refine mem_toolsWith.mpr ⟨_, inTools, ?_, named⟩
  rw [declares]
  rfl

/-! ### What is minted of a whole return -/

/-- The result is an object with this scalar at the key that the path is read as. -/
def ScalarAt (kernel : Kernel) (path : PyStr) (result scalar : Value) : Prop :=
  ∃ entries, result = .dict entries ∧ Entries.lookup entries (stripResult path) = some scalar ∧
    (Objects.json kernel).isScalar scalar = true

/-- The path is expanded to the scalar at its key, and to nothing if there is none. -/
theorem expand_eq_cons_iff (made : MadeUntrusted interpreter manifest path) {result : Value}
    {read : PyStr × Value} {rest : List (PyStr × Value)} :
    expand (Objects.json kernel) (headsOf (stripResult path)) result = read :: rest ↔
      read.1 = stripResult path ∧ ScalarAt kernel path result read.2 ∧ rest = [] := by
  obtain ⟨single, noList⟩ := made.heads
  rw [single, expand, if_neg noList]
  cases result with
  | dict entries =>
    have below : (Objects.json kernel).entry (.dict entries) (stripResult path) =
        Entries.lookup entries (stripResult path) := rfl
    rw [below]
    constructor
    · intro expanded
      cases found : Entries.lookup entries (stripResult path) with
      | none =>
        rw [found] at expanded
        cases expanded
      | some value =>
        rw [found] at expanded
        by_cases scalar : (Objects.json kernel).isScalar value = true
        · simp only [expand, if_pos scalar] at expanded
          cases expanded
          exact ⟨rfl, ⟨entries, rfl, found, scalar⟩, rfl⟩
        · simp only [expand, if_neg scalar] at expanded
          cases expanded
    · rintro ⟨same, ⟨_, isDict, found, scalar⟩, rfl⟩
      cases isDict
      rw [found]
      simp only [expand, if_pos scalar]
      exact congrArg (fun key => [(key, read.2)]) same.symm
  | _ =>
    refine iff_of_false (fun expanded => ?_) fun holds => ?_
    · cases expanded
    · obtain ⟨_, ⟨_, isDict, _⟩, _⟩ := holds
      cases isDict

/-- A value is minted of each pair that the path expands to, and the event produces these. -/
theorem returns_mintUntrustedFields_made (made : MadeUntrusted interpreter manifest path)
    {tool : PyStr} {result : Value} {produced : List PyStr} {ledger left : Ledger Value}
    (sound : ledger.Sound)
    (returned : Returns (mintUntrustedFields kernel (Objects.json kernel) (fieldsOf manifest) tool
      (some result)) ledger produced left) :
    ∃ entries sensitive, left.values = ledger.values ++ entries ∧
      produced = entries.map ValueEntry.valueId ∧
      List.Forall₂ (ReadFrom kernel (Objects.json kernel) tool sensitive)
        (expand (Objects.json kernel) (headsOf (stripResult path)) result) entries := by
  obtain ⟨_, minted, grown, rfl⟩ := returns_mintUntrustedFields sound returned
  obtain ⟨parts, rfl, declares⟩ := made.parts
  have listedUntrusted : listed kernel (fieldsOf parts.manifest) "untrusted_fields" =
      .ok [path] := by
    rw [listed, lookup_untrusted, declares]
    rfl
  have listedSensitive : listed kernel (fieldsOf parts.manifest) "sensitive_fields" =
      .ok parts.sensitive := by
    rw [listed, lookup_sensitive]
    exact congrArg Except.ok (map_toStr_texts kernel.interpreter parts.sensitive)
  obtain ⟨groups, rfl, reads⟩ :=
    returns_mintUntrustedFields_eq listedSensitive listedUntrusted returned
  obtain ⟨group, _, here, none, rfl⟩ := List.forall₂_cons_left_iff.mp reads
  cases none
  have same : group = minted := by
    rw [List.flatten_singleton, values_pushAll] at grown
    exact List.append_cancel_left grown
  subst same
  exact ⟨group, _, grown, rfl, here⟩

/-! ### The result of a call in a trace -/

section Places

variable {V : Type} {objects : Objects V}

/-- The call id of an intent. -/
def EventBody.intentId : EventBody → Option PyStr
  | .toolCallIntent _ callId _ => some callId
  | _ => none

/-- The loop builds the pair of every place, from a ledger that is sound, and only adds to it. -/
theorem returns_buildPairs_place {manifests : List Entries} {enforced : Bool}
    {index seq place : Nat} {pairs : List (Option (RecordedCall V) × TraceEvent)}
    {pair : Option (RecordedCall V) × TraceEvent} {ledger left : Ledger V} {events : List Event}
    (sound : ledger.Sound) (found : pairs[place]? = some pair)
    (built : Returns (buildPairs kernel objects manifests enforced index seq pairs) ledger events
      left) :
    ∃ before bodies after middle between ids,
      events.map Event.body = before ++ bodies ++ after ∧ middle.Sound ∧
      Returns (buildPair kernel objects manifests enforced (index + place) pair.1 pair.2) middle
        bodies between ∧
      Gained ids between left := by
  induction pairs generalizing index seq place ledger events with
  | nil => cases found
  | cons first pairs inductionHypothesis =>
    obtain ⟨bodies, next, later, here, tail, rfl⟩ := returns_buildPairs_cons built
    have soundNext := (returns_buildPair_values sound here).1
    rw [List.map_append, map_body_numbered]
    cases place with
    | zero =>
      cases found
      obtain ⟨_, _, _, gained, _, _⟩ := returns_buildPairs_values soundNext tail
      exact ⟨[], bodies, _, ledger, next, _, rfl, sound, here, gained⟩
    | succ place =>
      obtain ⟨before, found, after, middle, between, ids, split, soundMiddle, returned, gained⟩ :=
        inductionHypothesis soundNext found tail
      rw [Nat.add_right_comm] at returned
      refine ⟨bodies ++ before, found, after, middle, between, ids, ?_, soundMiddle, returned,
        gained⟩
      rw [split, List.append_assoc, List.append_assoc, List.append_assoc]

/-- No two intents of a trace name the same call. -/
theorem nodup_intentIds {manifests : List Entries} {enforced : Bool}
    {pairs : List (Option (RecordedCall V) × TraceEvent)} {ledger left : Ledger V}
    {events : List Event}
    (built : Returns (buildPairs kernel objects manifests enforced 0 0 pairs) ledger events left) :
    ((events.map Event.body).filterMap EventBody.intentId).Nodup := by
  obtain ⟨segments, rfl, yields⟩ := yields_buildPairs built
  have ids : (numbered 0 segments.flatten).filterMap Event.intentId =
      (List.range' 0 pairs.length).map callIdOf := intentIds_segments yields
  have same : (numbered 0 segments.flatten).filterMap (EventBody.intentId ∘ Event.body) =
      (numbered 0 segments.flatten).filterMap Event.intentId := rfl
  rw [List.filterMap_map, same, ids]
  exact List.Nodup.map (fun _ _ => callIdOf_injective) List.nodup_range'

/-- So a trace has one split at the intent of a call. -/
theorem split_unique {bodies before after others rest : List EventBody}
    {intent other : EventBody} {id : PyStr}
    (distinct : (bodies.filterMap EventBody.intentId).Nodup)
    (split : bodies = before ++ intent :: after) (named : intent.intentId = some id)
    (again : bodies = others ++ other :: rest) (namedOther : other.intentId = some id) :
    before = others ∧ intent = other ∧ after = rest := by
  rw [split, List.filterMap_append, List.filterMap_cons, named] at distinct
  have inBefore : other ∉ before := fun member =>
    (List.nodup_middle.mp distinct).notMem
      (List.mem_append_left _ (List.mem_filterMap.mpr ⟨other, member, namedOther⟩))
  have inAfter : other ∉ after := fun member =>
    (List.nodup_middle.mp distinct).notMem
      (List.mem_append_right _ (List.mem_filterMap.mpr ⟨other, member, namedOther⟩))
  exact (List.append_cons_inj_of_notMem inBefore inAfter).mp (split.symm.trans again)

end Places

/-- The entry stands for the scalar in the ledger. -/
structure StandsFor (kernel : Kernel) (scalar : Value) (entry : ValueEntry Value) : Prop where
  untrusted : entry.Untrusted
  hash : ∃ canonical, kernel.canonicalize scalar = .ok canonical ∧
    entry.canonicalValueHash = contentHash kernel canonical

/-- The result of the call of this place produces an untrusted value for every scalar in it, and an
argument bound later and found tainted derives from something. -/
def TaintReaches (kernel : Kernel) (document : Document Value) (place : Nat) (tool : PyStr)
    (result : Value) : Prop :=
  ∃ before name argBindings decision produced after,
    document.events.map Event.body = before ++ .toolCallIntent name (callIdOf place) argBindings ::
      .gateDecision (callIdOf place) decision :: .toolResult tool produced :: after ∧
    (∃ scalars entries, scalars.Perm (scalarsOf result) ∧ entries ⊆ document.values ∧
      produced = entries.map ValueEntry.valueId ∧
      List.Forall₂ (StandsFor kernel) scalars entries) ∧
    ∀ other callId laterBindings, .toolCallIntent other callId laterBindings ∈ after →
      ∀ entry ∈ document.values, entry.valueId ∈ laterBindings.map Prod.snd → entry.Untrusted →
        entry.derivedFrom ≠ []

/-- The call of this place was executed and gave this result. -/
structure ExecutedAt (material : Material Value) (place : Nat) (call : RecordedCall Value)
    (result : Value) : Prop where
  recorded : ∃ pairs event, material.pairs = .ok pairs ∧ pairs[place]? = some (some call, event)
  executed : call.executed = true
  got : call.result = some result

variable {material : Material Value} {document : Document Value} {place : Nat}
  {call : RecordedCall Value} {result : Value}

/-- What a trace holds of the result of a call whose tool has such a manifest. -/
theorem result_of_returned (made : MadeUntrusted interpreter manifest path)
    (governs : manifestOf kernel material.manifests call.tool = fieldsOf manifest)
    (executed : ExecutedAt material place call result)
    (returned : buildTrace kernel (Objects.json kernel) material = .ok document) :
    ((document.events.map Event.body).filterMap EventBody.intentId).Nodup ∧
    ∃ before name argBindings decision entries sensitive after,
      document.events.map Event.body = before ++
        .toolCallIntent name (callIdOf place) argBindings ::
        .gateDecision (callIdOf place) decision ::
        .toolResult call.tool (entries.map ValueEntry.valueId) :: after ∧
      entries ⊆ document.values ∧
      List.Forall₂ (ReadFrom kernel (Objects.json kernel) call.tool sensitive)
        (expand (Objects.json kernel) (headsOf (stripResult path)) result) entries := by
  obtain ⟨pairs, event, paired, found⟩ := executed.recorded
  obtain ⟨others, left, same, built, values⟩ := returns_buildTrace returned
  cases paired.symm.trans same
  refine ⟨nodup_intentIds built, ?_⟩
  obtain ⟨before, bodies, after, middle, between, _, split, sound, pairBuilt, gained⟩ :=
    returns_buildPairs_place Ledger.sound_start found built
  obtain ⟨refs, argBindings, bound, decision, results, copied, minted, _, yielded, rfl⟩ :=
    returns_buildPair.mp pairBuilt
  have soundBound := (returns_bindArguments copied sound minted).1
  rcases returns_resultEvents yielded with ⟨seen, produced, isCall, _, rfl, read⟩ | ⟨unseen, _⟩
  · cases isCall
    rw [governs, executed.got] at read
    obtain ⟨entries, sensitive, grown, rfl, reads⟩ :=
      returns_mintUntrustedFields_made made soundBound read
    refine ⟨before, toolOf kernel (some call) event, argBindings, decision, entries, sensitive,
      after, ?_, ?_, reads⟩
    · rw [split, Nat.zero_add, List.append_assoc]
      rfl
    · obtain ⟨later, grownLater, _⟩ := gained
      rw [values, grownLater, grown]
      exact List.Subset.trans (List.subset_append_right _ _) (List.subset_append_left _ _)
  · exact absurd (executed.executed.symm.trans (unseen call rfl)) (by decide)

theorem standsFor_of_readFrom {tool : PyStr} {sensitive : Bool} {read : PyStr × Value}
    {entry : ValueEntry Value}
    (minted : ReadFrom kernel (Objects.json kernel) tool sensitive read entry) :
    StandsFor kernel read.2 entry where
  untrusted := by
    rw [ValueEntry.Untrusted, minted.labels]
    exact List.mem_cons_self
  hash := minted.hash

/-- A result whose taint reaches the trace has one scalar, at the key that the manifest names. -/
theorem scalar_of_taintReaches (made : MadeUntrusted interpreter manifest path)
    (governs : manifestOf kernel material.manifests call.tool = fieldsOf manifest)
    (executed : ExecutedAt material place call result)
    (returned : buildTrace kernel (Objects.json kernel) material = .ok document)
    (nonempty : scalarsOf result ≠ [])
    (reached : TaintReaches kernel document place call.tool result) :
    ∃ scalar, ScalarAt kernel path result scalar ∧ scalarsOf result = [scalar] := by
  obtain ⟨distinct, _, _, _, _, entries, _, _, split, _, reads⟩ :=
    result_of_returned made governs executed returned
  obtain ⟨_, _, _, _, _, _, again, ⟨scalars, others, permuted, _, same, stand⟩, _⟩ := reached
  obtain ⟨_, _, rest⟩ := split_unique distinct split rfl again rfl
  cases rest
  -- There is an entry for every scalar, and the path is expanded to one pair at most.
  have counted : (scalarsOf result).length = entries.length := by
    have lengths := congrArg List.length same
    rw [List.length_map, List.length_map] at lengths
    rw [← permuted.length_eq, stand.length_eq, lengths]
  cases expanded : expand (Objects.json kernel) (headsOf (stripResult path)) result with
  | nil =>
    rw [expanded, List.forall₂_nil_left_iff] at reads
    rw [reads] at counted
    exact absurd (List.eq_nil_of_length_eq_zero counted) nonempty
  | cons read rest =>
    obtain ⟨_, ⟨fields, rfl, found, scalar⟩, rfl⟩ := (expand_eq_cons_iff made).mp expanded
    rw [expanded] at reads
    obtain ⟨only, whole⟩ := List.length_eq_one_iff.mp (counted.trans reads.length_eq.symm)
    rw [scalarsOf] at whole
    have member := mem_scalarsOfEntries found scalar
    rw [whole, List.mem_singleton] at member
    refine ⟨read.2, ⟨fields, rfl, found, scalar⟩, ?_⟩
    rw [scalarsOf, whole, member]

/-- The taint of the only scalar reaches the trace when it is at the key that the manifest
names. -/
theorem taintReaches_of_scalar (made : MadeUntrusted interpreter manifest path)
    (governs : manifestOf kernel material.manifests call.tool = fieldsOf manifest)
    (executed : ExecutedAt material place call result)
    (returned : buildTrace kernel (Objects.json kernel) material = .ok document) {scalar : Value}
    (there : ScalarAt kernel path result scalar) (only : scalarsOf result = [scalar]) :
    TaintReaches kernel document place call.tool result := by
  obtain ⟨_, before, name, argBindings, decision, entries, sensitive, after, split, inLedger,
    reads⟩ := result_of_returned made governs executed returned
  have expanded : expand (Objects.json kernel) (headsOf (stripResult path)) result =
      [(stripResult path, scalar)] := (expand_eq_cons_iff made).mpr ⟨rfl, there, rfl⟩
  rw [expanded] at reads
  obtain ⟨entry, _, minted, none, rfl⟩ := List.forall₂_cons_left_iff.mp reads
  cases none
  have stands := standsFor_of_readFrom minted
  refine ⟨before, name, argBindings, decision, _, after, split,
    ⟨[scalar], [entry], only ▸ List.Perm.refl _, inLedger, rfl, .cons stands .nil⟩, ?_⟩
  intro other callId laterBindings member later inValues bound untrusted empty
  obtain ⟨between, rest, rfl⟩ := List.append_of_mem member
  have splitLater : document.events.map Event.body =
      (before ++ .toolCallIntent name (callIdOf place) argBindings ::
        .gateDecision (callIdOf place) decision ::
        .toolResult call.tool [entry.valueId] :: between) ++
      .toolCallIntent other callId laterBindings :: rest := by
    rw [split, List.append_assoc]
    rfl
  have produced : entry.valueId ∈ (before ++ .toolCallIntent name (callIdOf place) argBindings ::
      .gateDecision (callIdOf place) decision ::
      .toolResult call.tool [entry.valueId] :: between).flatMap EventBody.mintedIds := by
    simp [EventBody.mintedIds]
  have derived := derives_of_returned returned splitLater inValues bound untrusted
    (inLedger List.mem_cons_self) stands.untrusted produced
  rw [empty] at derived
  cases derived

/-- **Whole-return taint reaches the trace** exactly when the result is an object whose only scalar
is at the key that the manifest names. The tool is an untrusted source in any case. -/
theorem taintReaches_iff (made : MadeUntrusted interpreter manifest path)
    (governs : manifestOf kernel material.manifests call.tool = fieldsOf manifest)
    (executed : ExecutedAt material place call result)
    (returned : buildTrace kernel (Objects.json kernel) material = .ok document)
    (nonempty : scalarsOf result ≠ []) :
    (∀ unicode policy inputs canon,
      compileManifests unicode material.manifests policy inputs = .ok canon →
        call.tool ∈ canon.untrustedSources) ∧
    (TaintReaches kernel document place call.tool result ↔
      ∃ scalar, ScalarAt kernel path result scalar ∧ scalarsOf result = [scalar]) := by
  refine ⟨fun _ _ _ _ compiled => made.listed governs compiled, ?_⟩
  constructor
  · exact scalar_of_taintReaches made governs executed returned nonempty
  · rintro ⟨scalar, there, only⟩
    exact taintReaches_of_scalar made governs executed returned there only

/-! ### A fetched text, sent on -/

/-- A harness manifest of a tool whose output is not trusted. -/
def fetchManifest : LiteralEntries :=
  (harnessParts "fetch" "READ" [] true false none).manifest

theorem made_fetchManifest : MadeUntrusted .trial fetchManifest "result" :=
  .harness (harnessManifest_eq_ok.mpr ⟨by decide, rfl⟩)

/-- Something is fetched, and a text is sent that the kernel finds to come from it. -/
def fetched (result : Value) : Material Value where
  calls := [
    { tool := "fetch", args := [], executed := true, result := some result },
    { tool := "send", args := [("body", .str "hi")] }]
  traceEvents := [
    { nodeId := "n", sequence := 1, payload := [], class_ := .plain .intentApproved none },
    { nodeId := "n", sequence := 2
      payload := [
        (.str "category", .str "taint_enforcement"),
        (.str "driving_args", .list [.str "body"]),
        (.str "arg_provenance", .dict [(.str "body", .dict [
          (.str "sources", .list [.str "fetch"])])])]
      class_ := .intentDenied "tool_call" "tainted" }]
  manifests := [fieldsOf fetchManifest]
  enforcement := "on"
  trial := []

theorem executedAt_fetched (result : Value) :
    ExecutedAt (fetched result) 0
      { tool := "fetch", args := [], executed := true, result := some result } result :=
  ⟨⟨_, _, rfl, rfl⟩, rfl, rfl⟩

theorem taintReaches_fetched :
    ∃ document, buildTrace Kernel.trial (Objects.json Kernel.trial)
        (fetched (.dict [(.str "result", .str "hi")])) = .ok document ∧
      TaintReaches Kernel.trial document 0 "fetch" (.dict [(.str "result", .str "hi")]) := by
  have returns : (buildTrace Kernel.trial (Objects.json Kernel.trial)
      (fetched (.dict [(.str "result", .str "hi")]))).isOk = true := by
    decide +kernel
  obtain ⟨document, returned⟩ := exists_of_isOk returns
  have reaches := (taintReaches_iff made_fetchManifest rfl (executedAt_fetched _) returned
    (List.cons_ne_nil _ _)).2
  exact ⟨document, returned, reaches.mpr ⟨.str "hi", ⟨_, rfl, rfl, rfl⟩, rfl⟩⟩

/-- The ids that a result produces. -/
def EventBody.producedIds : EventBody → List PyStr
  | .toolResult _ producesValueIds => producesValueIds
  | _ => []

/-- Of a result that is a text nothing is minted, and what is sent on derives from nothing. -/
theorem fetched_text_lost :
    ∃ document, buildTrace Kernel.trial (Objects.json Kernel.trial) (fetched (.str "hi")) =
        .ok document ∧
      MadeUntrusted .trial fetchManifest "result" ∧ scalarsOf (.str "hi") ≠ [] ∧
      ¬ TaintReaches Kernel.trial document 0 "fetch" (.str "hi") := by
  have silent : (buildTrace Kernel.trial (Objects.json Kernel.trial)
      (fetched (.str "hi"))).toOption.map (fun document =>
        (document.events.map Event.body).flatMap EventBody.producedIds) = some [] := by
    decide +kernel
  cases returned : buildTrace Kernel.trial (Objects.json Kernel.trial) (fetched (.str "hi")) with
  | error error =>
    rw [returned] at silent
    cases silent
  | ok document =>
    rw [returned] at silent
    have none := List.flatMap_eq_nil_iff.mp (Option.some_inj.mp silent)
    refine ⟨document, rfl, made_fetchManifest, List.cons_ne_nil _ _, ?_⟩
    rintro ⟨_, _, _, _, produced, _, split, ⟨scalars, entries, permuted, _, rfl, stand⟩, _⟩
    have member : .toolResult "fetch" (entries.map ValueEntry.valueId) ∈
        document.events.map Event.body := by
      rw [split]
      simp
    rw [List.map_eq_nil_iff.mp (none _ member), List.forall₂_nil_right_iff] at stand
    rw [stand] at permuted
    cases List.nil_perm.mp permuted

end AxorWrap.Trace
