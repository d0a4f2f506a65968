/-
This file proves the value ledger of a trace sound. Values are numbered as they
are minted, and the number is part of the id, so ids are distinct. The events of
a trace bring up the ids in the order of the ledger. A value derives from
untrusted values minted before it only, and an argument that the kernel found
tainted derives from all of them.

The invariant of the ledger holds at the start and is kept by minting; all else
that a build does to the ledger is minting.
-/

import AxorWrap.Trace.Pairing
import AxorWrap.Library.Lineage

namespace AxorWrap.Trace

open Python Methods Checks Lineages

variable {V : Type} {kernel : Kernel} {objects : Objects V}

/-! ### Ids -/

/-- What is left of an id from the underscore after its hint on. -/
theorem dropWhile_hint (hint : Hint) (number : Nat) :
    (hint.text ++ PyStr.ofString "_" ++ natText number).dropWhile (· ≠ 95) =
      95 :: natText number := by
  have noUnderscore : 95 ∉ hint.text := by cases hint <;> decide
  have passes : ∀ point ∈ hint.text, decide (point ≠ (95 : CodePoint)) = true :=
    fun point member => decide_eq_true fun same => noUnderscore (same ▸ member)
  rw [List.append_assoc, List.dropWhile_append_of_pos passes]
  rfl

theorem valueIdOf_injective {hint other : Hint} {first second : Nat}
    (same : valueIdOf hint first = valueIdOf other second) : first = second := by
  have tails := congrArg (List.dropWhile (· ≠ (95 : CodePoint))) (List.append_cancel_left same)
  rw [dropWhile_hint, dropWhile_hint] at tails
  exact natText_injective (List.cons.inj tails).2

/-! ### The invariant -/

abbrev ValueEntry.Untrusted (entry : ValueEntry V) : Prop := .untrustedDerived ∈ entry.labels

/-- The ids of the untrusted values. -/
def untrustedIn (values : List (ValueEntry V)) : List PyStr :=
  (values.filter fun entry => entry.Untrusted).map ValueEntry.valueId

/-- The counter counts the values and numbers them, the untrusted ones are remembered, and each
value derives from untrusted ones before it. -/
structure Ledger.Sound (ledger : Ledger V) : Prop where
  counted : ledger.counter = ledger.values.length
  numbered : ∀ place entry, ledger.values[place]? = some entry →
    ∃ hint, entry.valueId = valueIdOf hint (place + 1)
  remembered : ledger.untrustedIds = untrustedIn ledger.values
  lineage : ∀ earlier entry later, ledger.values = earlier ++ entry :: later →
    ∀ id ∈ entry.derivedFrom, id ∈ untrustedIn earlier

theorem Ledger.sound_start : ({} : Ledger V).Sound where
  counted := rfl
  numbered place entry found := by simp at found
  remembered := rfl
  lineage earlier entry later split := by simp at split

/-- The ledger with one more value. -/
def Ledger.push (ledger : Ledger V) (entry : ValueEntry V) : Ledger V :=
  ({ ledger with counter := ledger.counter + 1 } : Ledger V).append entry

theorem untrustedIn_snoc (values : List (ValueEntry V)) (entry : ValueEntry V) :
    untrustedIn (values ++ [entry]) =
      if entry.Untrusted then untrustedIn values ++ [entry.valueId] else untrustedIn values := by
  by_cases untrusted : entry.Untrusted <;> simp [untrustedIn, untrusted]

theorem Ledger.Sound.push {ledger : Ledger V} (sound : ledger.Sound) {entry : ValueEntry V}
    {hint : Hint} (id : entry.valueId = valueIdOf hint (ledger.counter + 1))
    (derived : ∀ source ∈ entry.derivedFrom, source ∈ ledger.untrustedIds) :
    (ledger.push entry).Sound where
  counted := by simp [Ledger.push, Ledger.append, sound.counted]
  numbered place other found := by
    unfold Ledger.push Ledger.append at found
    rcases Nat.lt_or_ge place ledger.values.length with inside | beyond
    · rw [List.getElem?_append_left inside] at found
      exact sound.numbered place other found
    · rw [List.getElem?_append_right beyond] at found
      obtain ⟨bound, rfl⟩ := List.getElem?_eq_some_iff.mp found
      have last : place = ledger.values.length := by
        rw [List.length_singleton] at bound
        omega
      refine ⟨hint, ?_⟩
      rw [List.getElem_singleton, id, sound.counted, last]
  remembered := by
    rw [Ledger.push, Ledger.append, untrustedIn_snoc, ← sound.remembered]
  lineage earlier other later split := by
    unfold Ledger.push Ledger.append at split
    rcases List.eq_nil_or_concat later with rfl | ⟨rest, last, rfl⟩
    · obtain ⟨rfl, same⟩ := List.append_inj' split rfl
      cases same
      rw [← sound.remembered]
      exact derived
    · rw [List.concat_eq_append, ← List.cons_append, ← List.append_assoc] at split
      exact sound.lineage earlier other rest (List.append_inj' split rfl).1

/-! ### Minting -/

/-- Minting appends one entry, numbered by the counter. -/
theorem returns_mint_eq {value : V} {hint : Hint} {labels : List Label} {sources : List Source}
    {sensitive : Bool} {transformations derivedFrom : List PyStr} {ledger left : Ledger V}
    {id : PyStr}
    (minted : Returns (mint kernel objects value hint labels sources sensitive transformations
      derivedFrom) ledger id left) :
    ∃ canonical shown, objects.canonicalize value = .ok canonical ∧
      shownPreview objects value sensitive = .ok shown ∧
      id = valueIdOf hint (ledger.counter + 1) ∧
      left = ledger.push {
        valueId := id
        canonicalValueHash := contentHash kernel canonical
        labels := labels
        sources := sources
        preview := shown
        decisionValue := if sensitive then none else some value
        transformations := transformations
        derivedFrom := derivedFrom } := by
  unfold mint at minted
  obtain ⟨_, _, counted, rest⟩ := returns_bind.mp minted
  obtain rfl := returns_modify.mp counted
  obtain ⟨_, _, read, rest⟩ := returns_bind.mp rest
  obtain ⟨rfl, rfl⟩ := returns_get.mp read
  obtain ⟨canonical, _, hashed, rest⟩ := returns_bind.mp rest
  obtain ⟨hashes, rfl⟩ := returns_lift.mp hashed
  obtain ⟨shown, _, previewed, rest⟩ := returns_bind.mp rest
  obtain ⟨shows, rfl⟩ := returns_lift.mp previewed
  obtain ⟨_, _, written, made⟩ := returns_bind.mp rest
  obtain rfl := returns_modify.mp written
  obtain ⟨rfl, rfl⟩ := returns_pure.mp made
  exact ⟨canonical, shown, hashes, shows, rfl, rfl⟩

theorem returns_mint {value : V} {hint : Hint} {labels : List Label} {sources : List Source}
    {sensitive : Bool} {transformations derivedFrom : List PyStr} {ledger left : Ledger V}
    {id : PyStr}
    (minted : Returns (mint kernel objects value hint labels sources sensitive transformations
      derivedFrom) ledger id left) :
    ∃ entry : ValueEntry V, left = ledger.push entry ∧ entry.valueId = id ∧
      id = valueIdOf hint (ledger.counter + 1) ∧ entry.labels = labels ∧
      entry.derivedFrom = derivedFrom := by
  obtain ⟨_, _, _, _, numbered, rfl⟩ := returns_mint_eq minted
  exact ⟨_, rfl, rfl, numbered, rfl, rfl⟩

/-- The ledger gained values of these ids. -/
def Gained (ids : List PyStr) (before after : Ledger V) : Prop :=
  ∃ minted, after.values = before.values ++ minted ∧ minted.map ValueEntry.valueId = ids

theorem gained_nothing (ledger : Ledger V) : Gained [] ledger ledger :=
  ⟨[], (List.append_nil _).symm, rfl⟩

theorem gained_joined (first second : List PyStr) (before between after : Ledger V)
    (one : Gained first before between) (two : Gained second between after) :
    Gained (first ++ second) before after := by
  obtain ⟨early, values, rfl⟩ := one
  obtain ⟨late, laterValues, rfl⟩ := two
  exact ⟨early ++ late, by rw [laterValues, values, List.append_assoc], List.map_append⟩

/-- What minting an argument or a read does: the new value is at the end of the ledger. -/
theorem gained_push (ledger : Ledger V) (entry : ValueEntry V) :
    Gained [entry.valueId] ledger (ledger.push entry) :=
  ⟨[entry], rfl, rfl⟩

/-- A value with this id is in the ledger. It is untrusted exactly when there are taint sources,
and then it derives from every untrusted value before it. -/
def Traced (sources : List PyStr) (id : PyStr) (values : List (ValueEntry V)) : Prop :=
  ∃ earlier entry later, values = earlier ++ entry :: later ∧ entry.valueId = id ∧
    (entry.Untrusted ↔ sources ≠ []) ∧
    (entry.Untrusted → entry.derivedFrom = untrustedIn earlier)

theorem Traced.gained {sources ids : List PyStr} {id : PyStr} {before after : Ledger V}
    (gained : Gained ids before after) (traced : Traced sources id before.values) :
    Traced sources id after.values := by
  obtain ⟨minted, values, _⟩ := gained
  obtain ⟨earlier, entry, later, split, properties⟩ := traced
  refine ⟨earlier, entry, later ++ minted, ?_, properties⟩
  rw [values, split, List.append_assoc, List.cons_append]

theorem returns_mintArgument {tool name id : PyStr} {value : V} {ref : Value}
    {ledger left : Ledger V} (sound : ledger.Sound)
    (minted : Returns (mintArgument kernel objects tool name value ref) ledger id left) :
    left.Sound ∧ Gained [id] ledger left ∧
      ∃ sources, taintSources kernel ref = .ok sources ∧ Traced sources id left.values := by
  unfold mintArgument at minted
  obtain ⟨sources, _, listed, rest⟩ := returns_bind.mp minted
  obtain ⟨found, rfl⟩ := returns_lift.mp listed
  obtain ⟨flag, _, read, rest⟩ := returns_bind.mp rest
  obtain ⟨_, rfl⟩ := returns_lift.mp read
  cases sources with
  | nil =>
    rw [List.isEmpty_nil, if_pos rfl] at rest
    obtain ⟨entry, rfl, rfl, numbered, labels, derived⟩ := returns_mint rest
    have trusted : ¬ entry.Untrusted := by
      rw [ValueEntry.Untrusted, labels]
      decide
    refine ⟨sound.push numbered (by simp [derived]), gained_push ledger entry, [], found,
      ledger.values, entry, [], rfl, rfl, by simpa using trusted, fun untrusted => ?_⟩
    exact absurd untrusted trusted
  | cons source sources =>
    rw [List.isEmpty_cons, if_neg Bool.false_ne_true] at rest
    obtain ⟨_, _, remembered, rest⟩ := returns_bind.mp rest
    obtain ⟨rfl, rfl⟩ := returns_get.mp remembered
    obtain ⟨entry, rfl, rfl, numbered, labels, derived⟩ := returns_mint rest
    have untrusted : entry.Untrusted := by
      rw [ValueEntry.Untrusted, labels]
      exact List.mem_cons_self
    refine ⟨sound.push numbered (by simp [derived]), gained_push ledger entry, _, found,
      ledger.values, entry, [], rfl, rfl, by simpa using untrusted, fun _ => ?_⟩
    rw [derived, sound.remembered]

theorem returns_mintRead {tool path id : PyStr} {value : V} {sensitive : Bool}
    {ledger left : Ledger V} (sound : ledger.Sound)
    (minted : Returns (mintRead kernel objects tool path value sensitive) ledger id left) :
    left.Sound ∧ Gained [id] ledger left := by
  obtain ⟨entry, rfl, rfl, numbered, labels, derived⟩ := returns_mint minted
  exact ⟨sound.push numbered (by simp [derived]), gained_push ledger entry⟩

/-! ### The values of a pair -/

/-- The arguments of the call of a pair. -/
def argumentsOf (call : Option (RecordedCall V)) : List (PyStr × V) :=
  call.elim [] RecordedCall.args

/-- The taint sources the kernel recorded for an argument of the call it judged. -/
def sourcesOf (kernel : Kernel) (event : TraceEvent) (name : PyStr) :
    Except PyError (List PyStr) := do
  let refs ← ((Entries.lookup event.payload "arg_provenance").getD (.dict [])).toDict
  taintSources kernel ((Entries.lookup refs name).getD (.dict []))

/-- The arguments of a call are bound in order, each to a value traced by its sources. -/
def Bound (kernel : Kernel) (event : TraceEvent) (values : List (ValueEntry V))
    (argument : PyStr × V) (binding : PyStr × PyStr) : Prop :=
  binding.1 = argument.1 ∧
    ∃ sources, sourcesOf kernel event argument.1 = .ok sources ∧ Traced sources binding.2 values

theorem Bound.gained {event : TraceEvent} {ids : List PyStr} {before after : Ledger V}
    (grown : Gained ids before after) {argument : PyStr × V} {binding : PyStr × PyStr}
    (bound : Bound kernel event before.values argument binding) :
    Bound kernel event after.values argument binding :=
  ⟨bound.1, bound.2.imp fun _ traced => ⟨traced.1, traced.2.gained grown⟩⟩

theorem returns_bindArguments {event : TraceEvent} {refs : Entries}
    {call : Option (RecordedCall V)} {argBindings : Bindings} {ledger left : Ledger V}
    (copied : ((Entries.lookup event.payload "arg_provenance").getD (.dict [])).toDict = .ok refs)
    (sound : ledger.Sound)
    (returned : Returns (bindArguments kernel objects refs call) ledger argBindings left) :
    left.Sound ∧ Gained (argBindings.map Prod.snd) ledger left ∧
      List.Forall₂ (Bound kernel event left.values) (argumentsOf call) argBindings := by
  cases call with
  | none =>
    obtain ⟨rfl, rfl⟩ := returns_pure.mp returned
    exact ⟨sound, gained_nothing ledger, .nil⟩
  | some call =>
    have each : ∀ (argument : PyStr × V) (state : Ledger V) (binding : PyStr × PyStr)
        (left : Ledger V), state.Sound → Returns (do
          let ref := (Entries.lookup refs argument.1).getD (.dict [])
          return (argument.1, ← mintArgument kernel objects call.tool argument.1 argument.2 ref))
            state binding left →
        left.Sound ∧ Gained [binding.2] state left ∧
          Bound kernel event left.values argument binding := by
      intro argument state binding left sound returned
      obtain ⟨id, _, minted, made⟩ := returns_bind.mp returned
      obtain ⟨rfl, rfl⟩ := returns_pure.mp made
      obtain ⟨soundLeft, gained, sources, found, traced⟩ := returns_mintArgument sound minted
      refine ⟨soundLeft, gained, rfl, sources, ?_, traced⟩
      rw [sourcesOf, copied]
      exact found
    obtain ⟨soundLeft, gained, bound⟩ := returns_mapM gained_nothing gained_joined each
      (fun _ _ _ _ _ grown bound => bound.gained grown) sound returned
    rw [← List.map_eq_flatMap] at gained
    exact ⟨soundLeft, gained, bound⟩

theorem returns_mintFields {tool pattern : PyStr} {result : Option V}
    {sensitivePatterns produced : List PyStr} {ledger left : Ledger V} (sound : ledger.Sound)
    (returned : Returns (mintFields kernel objects tool result sensitivePatterns pattern) ledger
      produced left) : left.Sound ∧ Gained produced ledger left := by
  have each : ∀ (found : PyStr × V) (state : Ledger V) (id : PyStr) (left : Ledger V),
      state.Sound → Returns (mintRead kernel objects tool found.1 found.2
        (decide (normalize kernel.interpreter pattern ∈ sensitivePatterns))) state id left →
      left.Sound ∧ Gained [id] state left ∧ True :=
    fun _ _ _ _ sound minted => (returns_mintRead sound minted).imp_right (⟨·, trivial⟩)
  obtain ⟨soundLeft, gained, _⟩ := returns_mapM gained_nothing gained_joined each
    (fun _ _ _ _ _ _ _ => trivial) sound returned
  rw [← List.map_eq_flatMap, List.map_id'] at gained
  exact ⟨soundLeft, gained⟩

theorem returns_mintUntrustedFields {manifest : Entries} {tool : PyStr} {result : Option V}
    {produced : List PyStr} {ledger left : Ledger V} (sound : ledger.Sound)
    (returned : Returns (mintUntrustedFields kernel objects manifest tool result) ledger produced
      left) : left.Sound ∧ Gained produced ledger left := by
  obtain ⟨sensitive, _, listed, rest⟩ := returns_bind.mp returned
  obtain ⟨_, rfl⟩ := returns_lift.mp listed
  obtain ⟨untrusted, _, read, rest⟩ := returns_bind.mp rest
  obtain ⟨_, rfl⟩ := returns_lift.mp read
  obtain ⟨lists, _, minted, made⟩ := returns_bind.mp rest
  obtain ⟨rfl, rfl⟩ := returns_pure.mp made
  have each : ∀ (pattern : PyStr) (state : Ledger V) (ids : List PyStr) (left : Ledger V),
      state.Sound → Returns (mintFields kernel objects tool result
        (sensitive.map (normalize kernel.interpreter)) pattern) state ids left →
      left.Sound ∧ Gained ids state left ∧ True :=
    fun _ _ _ _ sound minted => (returns_mintFields sound minted).imp_right (⟨·, trivial⟩)
  obtain ⟨soundLeft, gained, _⟩ := returns_mapM gained_nothing gained_joined each
    (fun _ _ _ _ _ _ _ => trivial) sound minted
  rw [List.flatMap_id'] at gained
  exact ⟨soundLeft, gained⟩

/-! ### The values of a trace -/

/-- The ids of the values an event brings up. -/
def EventBody.mintedIds : EventBody → List PyStr
  | .toolCallIntent _ _ argBindings => argBindings.map Prod.snd
  | .gateDecision _ _ => []
  | .toolResult _ producesValueIds => producesValueIds

/-- The id of the value that drove a decision. -/
def EventBody.drivingId : EventBody → Option PyStr
  | .gateDecision _ decision => decision.drivingValueId
  | _ => none

/-- The intent of a pair binds the arguments of its call, each traced by what the verdict of the
pair says of it. -/
def ArgumentsTraced (kernel : Kernel) (values : List (ValueEntry V))
    (pair : Option (RecordedCall V) × TraceEvent) (bodies : List EventBody) : Prop :=
  ∃ tool callId argBindings rest, bodies = .toolCallIntent tool callId argBindings :: rest ∧
    List.Forall₂ (Bound kernel pair.2 values) (argumentsOf pair.1) argBindings

theorem mem_of_lookup_bindings {argBindings : Bindings} {name id : PyStr}
    (found : argBindings.lookup name = some id) : id ∈ argBindings.map Prod.snd := by
  obtain ⟨earlier, later, rfl, _⟩ := List.lookup_eq_some_iff.mp found
  simp

/-- The value that drove a decision is one of those bound. -/
theorem mem_of_decisionOf {event : TraceEvent} {argBindings : Bindings} {enforced : Bool}
    {decision : Decision} (decided : decisionOf kernel event argBindings enforced = .ok decision)
    {id : PyStr} (driving : decision.drivingValueId = some id) :
    id ∈ argBindings.map Prod.snd := by
  obtain ⟨drivingArgs, _, rest⟩ := bind_eq_ok.mp decided
  obtain ⟨gate, _, made⟩ := bind_eq_ok.mp rest
  cases made
  obtain ⟨name, _, found⟩ := Option.bind_eq_some_iff.mp driving
  exact mem_of_lookup_bindings found

theorem returns_resultEvents_values {manifests : List Entries} {call : Option (RecordedCall V)}
    {ledger left : Ledger V} {results : List EventBody} (sound : ledger.Sound)
    (found : Returns (resultEvents kernel objects manifests call) ledger results left) :
    left.Sound ∧ Gained (results.flatMap EventBody.mintedIds) ledger left ∧
      ∀ body ∈ results, body.drivingId = none := by
  rcases returns_resultEvents found with ⟨seen, produced, _, _, rfl, minted⟩ | ⟨_, rfl, rfl⟩
  · obtain ⟨soundLeft, gained⟩ := returns_mintUntrustedFields sound minted
    rw [List.flatMap_singleton]
    exact ⟨soundLeft, gained, List.forall_mem_singleton.mpr rfl⟩
  · exact ⟨sound, gained_nothing ledger, List.forall_mem_nil _⟩

/-- What building a pair does to the ledger. The value that drove the decision is one it bound. -/
theorem returns_buildPair_values {manifests : List Entries} {enforced : Bool} {index : Nat}
    {call : Option (RecordedCall V)} {event : TraceEvent} {ledger left : Ledger V}
    {bodies : List EventBody} (sound : ledger.Sound)
    (built : Returns (buildPair kernel objects manifests enforced index call event) ledger bodies
      left) :
    left.Sound ∧ Gained (bodies.flatMap EventBody.mintedIds) ledger left ∧
      ArgumentsTraced kernel left.values (call, event) bodies ∧
      ∀ body ∈ bodies, ∀ id, body.drivingId = some id →
        id ∈ bodies.flatMap EventBody.mintedIds := by
  obtain ⟨refs, argBindings, middle, decision, results, copied, minted, decided, found, rfl⟩ :=
    returns_buildPair.mp built
  obtain ⟨soundMiddle, gained, bound⟩ := returns_bindArguments copied sound minted
  obtain ⟨soundLeft, gainedLater, undriven⟩ := returns_resultEvents_values soundMiddle found
  refine ⟨soundLeft, gained_joined _ _ _ _ _ gained gainedLater, ?_, ?_⟩
  · refine ⟨_, _, argBindings, _, rfl, bound.imp fun argument binding each => ?_⟩
    exact each.gained gainedLater
  · intro body member id driving
    rcases List.mem_cons.mp member with rfl | member
    · cases driving
    rcases List.mem_cons.mp member with rfl | member
    · exact List.mem_append_left _ (mem_of_decisionOf decided driving)
    · rw [undriven body member] at driving
      cases driving

theorem ArgumentsTraced.gained {ids : List PyStr} {before after : Ledger V}
    (grown : Gained ids before after) {pair : Option (RecordedCall V) × TraceEvent}
    {bodies : List EventBody} (traced : ArgumentsTraced kernel before.values pair bodies) :
    ArgumentsTraced kernel after.values pair bodies := by
  obtain ⟨tool, callId, argBindings, rest, shape, bound⟩ := traced
  exact ⟨tool, callId, argBindings, rest, shape, bound.imp fun _ _ each => each.gained grown⟩

/-- The events of a pair, with its arguments traced in the ledger. -/
structure Recounts (kernel : Kernel) (values : List (ValueEntry V)) (index : Nat)
    (pair : Option (RecordedCall V) × TraceEvent) (bodies : List EventBody) : Prop where
  yields : Yields kernel index pair bodies
  traced : ArgumentsTraced kernel values pair bodies

/-- The loop brings up the ids in the order of the ledger. -/
theorem returns_buildPairs_values {manifests : List Entries} {enforced : Bool} {index seq : Nat}
    {pairs : List (Option (RecordedCall V) × TraceEvent)} {ledger left : Ledger V}
    {events : List Event} (sound : ledger.Sound)
    (built : Returns (buildPairs kernel objects manifests enforced index seq pairs) ledger events
      left) :
    ∃ segments : List (List EventBody), events = numbered seq segments.flatten ∧
      left.Sound ∧ Gained (segments.flatten.flatMap EventBody.mintedIds) ledger left ∧
      List.Forall₂ (fun (pair, place) bodies => Recounts kernel left.values place pair bodies)
        (pairs.zipIdx index) segments ∧
      ∀ body ∈ segments.flatten, ∀ id, body.drivingId = some id →
        id ∈ segments.flatten.flatMap EventBody.mintedIds := by
  induction pairs generalizing index seq ledger events with
  | nil =>
    obtain ⟨rfl, rfl⟩ := returns_pure.mp built
    exact ⟨[], rfl, sound, gained_nothing _, .nil,
      List.forall_mem_nil _⟩
  | cons pair pairs inductionHypothesis =>
    obtain ⟨bodies, between, later, first, tail, rfl⟩ := returns_buildPairs_cons built
    obtain ⟨soundBetween, gained, traced, driven⟩ := returns_buildPair_values sound first
    obtain ⟨segments, rfl, soundLeft, gainedLater, recounts, drivenLater⟩ :=
      inductionHypothesis soundBetween tail
    refine ⟨bodies :: segments, ?_, soundLeft, ?_, ?_, ?_⟩
    · rw [List.flatten_cons, numbered_append]
    · rw [List.flatten_cons, List.flatMap_append]
      exact gained_joined _ _ _ _ _ gained gainedLater
    · rw [List.zipIdx_cons]
      exact .cons ⟨yields_buildPair first, traced.gained gainedLater⟩ recounts
    · intro body member id driving
      rw [List.flatten_cons, List.flatMap_append, List.mem_append]
      rcases List.mem_append.mp (List.flatten_cons ▸ member) with inFirst | inLater
      · exact .inl (driven body inFirst id driving)
      · exact .inr (drivenLater body inLater id driving)

/-! ### What the invariant gives -/

theorem mem_untrustedIn {values : List (ValueEntry V)} {id : PyStr} :
    id ∈ untrustedIn values ↔ ∃ entry ∈ values, entry.Untrusted ∧ entry.valueId = id := by
  simp [untrustedIn, and_assoc]

theorem Ledger.Sound.nodup {ledger : Ledger V} (sound : ledger.Sound) :
    (ledger.values.map ValueEntry.valueId).Nodup := by
  refine List.nodup_iff_getElem?_ne_getElem?.mpr fun first second below inside same => ?_
  rw [List.length_map] at inside
  rw [List.getElem?_map, List.getElem?_map, List.getElem?_eq_getElem inside,
    List.getElem?_eq_getElem (below.trans inside)] at same
  obtain ⟨hint, one⟩ := sound.numbered first _ (List.getElem?_eq_getElem (below.trans inside))
  obtain ⟨other, two⟩ := sound.numbered second _ (List.getElem?_eq_getElem inside)
  have numbers := valueIdOf_injective (one.symm.trans ((Option.some_inj.mp same).trans two))
  omega

theorem Ledger.Sound.ordered {ledger : Ledger V} (sound : ledger.Sound) :
    Ordered ValueEntry.valueId ValueEntry.derivedFrom ledger.values := by
  intro earlier entry later split id member
  obtain ⟨source, inEarlier, _, rfl⟩ := mem_untrustedIn.mp (sound.lineage _ _ _ split id member)
  exact List.mem_map_of_mem inEarlier

/-- Each id an intent binds is that of a traced value. -/
theorem traced_of_recounts {values : List (ValueEntry V)} {index : Nat}
    {pairs : List (Option (RecordedCall V) × TraceEvent)} {segments : List (List EventBody)}
    (recounts : List.Forall₂ (fun (pair, place) bodies => Recounts kernel values place pair bodies)
      (pairs.zipIdx index) segments) {tool callId : PyStr} {argBindings : Bindings}
    (member : .toolCallIntent tool callId argBindings ∈ segments.flatten) {id : PyStr}
    (bound : id ∈ argBindings.map Prod.snd) : ∃ sources, Traced sources id values := by
  obtain ⟨bodies, inSegments, inBodies⟩ := List.mem_flatten.mp member
  obtain ⟨⟨pair, place⟩, _, yields, traced⟩ := exists_of_mem_right recounts inSegments
  obtain ⟨boundHere, _, results, rfl, _, noIntent⟩ := yields
  have isHead : argBindings = boundHere := by
    rcases List.mem_cons.mp inBodies with same | inBodies
    · cases same
      rfl
    rcases List.mem_cons.mp inBodies with same | inBodies
    · cases same
    · rcases noIntent with ⟨_, _, _, _, rfl⟩ | ⟨_, rfl⟩ <;> simp at inBodies
  subst isHead
  obtain ⟨_, _, _, _, shape, each⟩ := traced
  cases shape
  obtain ⟨binding, inBindings, rfl⟩ := List.mem_map.mp bound
  obtain ⟨argument, _, _, sources, _, traced⟩ := exists_of_mem_right each inBindings
  exact ⟨sources, traced⟩

/-- A traced value that is untrusted derives from every untrusted value whose id comes up before
its own. -/
theorem Traced.derives {values : List (ValueEntry V)} {sources : List PyStr}
    {entry source : ValueEntry V} (distinct : (values.map ValueEntry.valueId).Nodup)
    (traced : Traced sources entry.valueId values) (inValues : entry ∈ values)
    (untrusted : entry.Untrusted) (sourceIn : source ∈ values)
    (sourceUntrusted : source.Untrusted) {first second : List PyStr}
    (parts : values.map ValueEntry.valueId = first ++ second)
    (inFirst : source.valueId ∈ first) (inSecond : entry.valueId ∈ second) :
    source.valueId ∈ entry.derivedFrom := by
  obtain ⟨earlier, same, later, split, sameId, _, derives⟩ := traced
  have isEntry : same = entry :=
    List.inj_on_of_nodup_map distinct (split ▸ by simp) inValues sameId
  subst isEntry
  have before : source.valueId ∈ earlier.map ValueEntry.valueId :=
    mem_before_of_mem_first distinct parts (by rw [split, List.map_append, List.map_cons])
      inSecond inFirst
  obtain ⟨other, inEarlier, otherId⟩ := List.mem_map.mp before
  have isSource : other = source := List.inj_on_of_nodup_map distinct
    (split ▸ List.mem_append_left _ inEarlier) sourceIn otherId
  subst isSource
  rw [derives untrusted]
  exact mem_untrustedIn.mpr ⟨other, inEarlier, sourceUntrusted, rfl⟩

/-- What the ledger and the events of a trace guarantee. -/
structure Document.Traceable (kernel : Kernel) (material : Material V) (document : Document V) :
    Prop where
  distinct : (document.values.map ValueEntry.valueId).Nodup
  /-- The arguments that the intents bind and the values that the results produce are the values of
  the ledger, in this order. -/
  ordered : (document.events.map Event.body).flatMap EventBody.mintedIds =
    document.values.map ValueEntry.valueId
  driving : ∀ event ∈ document.events, ∀ id, event.body.drivingId = some id →
    id ∈ document.values.map ValueEntry.valueId
  earlier : ∀ earlier entry later, document.values = earlier ++ entry :: later →
    ∀ id ∈ entry.derivedFrom, ∃ source ∈ earlier, source.Untrusted ∧ source.valueId = id
  acyclic : ∀ id, ¬ Relation.TransGen
    (Descends ValueEntry.valueId ValueEntry.derivedFrom document.values) id id
  /-- The arguments of a recorded call are labelled by what the kernel found. -/
  recounts : ∃ pairs segments, material.pairs = .ok pairs ∧
    document.events.map Event.body = segments.flatten ∧
    List.Forall₂ (fun (pair, place) bodies => Recounts kernel document.values place pair bodies)
      pairs.zipIdx segments
  /-- An untrusted argument derives from all untrusted values that an earlier event bound or
  produced. -/
  complete : ∀ before after tool callId argBindings, document.events.map Event.body =
      before ++ .toolCallIntent tool callId argBindings :: after →
    ∀ entry ∈ document.values, entry.valueId ∈ argBindings.map Prod.snd → entry.Untrusted →
    ∀ source ∈ document.values, source.Untrusted →
      source.valueId ∈ before.flatMap EventBody.mintedIds → source.valueId ∈ entry.derivedFrom

/-- What is known of a trace that is built: the ledger that it holds, and the events that each pair
yields. -/
theorem returns_buildTrace_values {material : Material V} {document : Document V}
    (returned : buildTrace kernel objects material = .ok document) :
    ∃ pairs segments, ∃ left : Ledger V, material.pairs = .ok pairs ∧ left.Sound ∧
      document.values = left.values ∧ document.events.map Event.body = segments.flatten ∧
      segments.flatten.flatMap EventBody.mintedIds = document.values.map ValueEntry.valueId ∧
      List.Forall₂ (fun (pair, place) bodies => Recounts kernel document.values place pair bodies)
        pairs.zipIdx segments ∧
      ∀ body ∈ segments.flatten, ∀ id, body.drivingId = some id →
        id ∈ segments.flatten.flatMap EventBody.mintedIds := by
  obtain ⟨pairs, left, paired, built, sameValues⟩ := returns_buildTrace returned
  obtain ⟨segments, events, sound, gained, recounts, driven⟩ :=
    returns_buildPairs_values Ledger.sound_start built
  refine ⟨pairs, segments, left, paired, sound, sameValues, ?_, ?_, sameValues ▸ recounts, driven⟩
  · rw [events, map_body_numbered]
  · obtain ⟨minted, grown, same⟩ := gained
    rw [← same, sameValues, grown]
    rfl

/-- An untrusted argument derives from all untrusted values that an earlier event bound or
produced. -/
theorem derives_of_returned {material : Material V} {document : Document V}
    (returned : buildTrace kernel objects material = .ok document) {before after : List EventBody}
    {tool callId : PyStr} {argBindings : Bindings}
    (split : document.events.map Event.body =
      before ++ .toolCallIntent tool callId argBindings :: after)
    {entry source : ValueEntry V} (inValues : entry ∈ document.values)
    (bound : entry.valueId ∈ argBindings.map Prod.snd) (untrusted : entry.Untrusted)
    (sourceIn : source ∈ document.values) (sourceUntrusted : source.Untrusted)
    (mintedBefore : source.valueId ∈ before.flatMap EventBody.mintedIds) :
    source.valueId ∈ entry.derivedFrom := by
  obtain ⟨_, segments, _, _, sound, sameValues, bodies, ids, recounts, _⟩ :=
    returns_buildTrace_values returned
  rw [bodies] at split
  have intent : .toolCallIntent tool callId argBindings ∈ segments.flatten := by
    rw [split]
    exact List.mem_append_right _ List.mem_cons_self
  obtain ⟨_, traced⟩ := traced_of_recounts recounts intent bound
  have parts : document.values.map ValueEntry.valueId = before.flatMap EventBody.mintedIds ++
      (argBindings.map Prod.snd ++ after.flatMap EventBody.mintedIds) := by
    rw [← ids, split, List.flatMap_append, List.flatMap_cons]
    rfl
  exact traced.derives (sameValues ▸ sound.nodup) inValues untrusted sourceIn sourceUntrusted parts
    mintedBefore (List.mem_append_left _ bound)

/-- The ledger of every trace that is built is referentially sound, and its lineage complete. -/
theorem buildTrace_traceable (kernel : Kernel) (objects : Objects V) (material : Material V)
    (document : Document V) (returned : buildTrace kernel objects material = .ok document) :
    document.Traceable kernel material := by
  obtain ⟨pairs, segments, _, paired, sound, sameValues, bodies, ids, recounts, driven⟩ :=
    returns_buildTrace_values returned
  have distinct : (document.values.map ValueEntry.valueId).Nodup := sameValues ▸ sound.nodup
  refine ⟨distinct, bodies ▸ ids, ?_, ?_, ?_, ⟨pairs, segments, paired, bodies, recounts⟩, ?_⟩
  · intro event member id driving
    rw [← ids]
    exact driven _ (bodies ▸ List.mem_map_of_mem member) id driving
  · intro earlier entry later split id member
    exact mem_untrustedIn.mp (sound.lineage earlier entry later (sameValues ▸ split) id member)
  · exact not_transGen_descends distinct (sameValues ▸ sound.ordered)
  · intro before after tool callId argBindings split entry inValues bound untrusted source
      sourceIn sourceUntrusted mintedBefore
    exact derives_of_returned returned split inValues bound untrusted sourceIn sourceUntrusted
      mintedBefore

/-- An inbox is read, and what came from it is sent on. -/
def forwarded : Material Value where
  calls := [
    { tool := "read", args := [], executed := true
      result := some (.dict [(.str "body", .str "hi")]) },
    { tool := "send", args := [("body", .str "hi")] }]
  traceEvents := [
    { nodeId := "n", sequence := 1, payload := [], class_ := .plain .intentApproved none },
    { nodeId := "n", sequence := 2
      payload := [
        (.str "category", .str "taint_enforcement"),
        (.str "driving_args", .list [.str "body"]),
        (.str "arg_provenance", .dict [(.str "body", .dict [
          (.str "sources", .list [.str "read"])])])]
      class_ := .intentDenied "tool_call" "tainted" }]
  manifests := [[(.str "id", .str "read"), (.str "untrusted_fields", .list [.str "result.body"])]]
  enforcement := "on"
  trial := []

theorem buildTrace_traceable_forwarded :
    ∃ document, buildTrace Kernel.trial (Objects.json Kernel.trial) forwarded = .ok document ∧
      document.Traceable Kernel.trial forwarded := by
  have returns : (buildTrace Kernel.trial (Objects.json Kernel.trial) forwarded).isOk = true := by
    decide +kernel
  obtain ⟨document, returned⟩ := exists_of_isOk returns
  exact ⟨document, returned, buildTrace_traceable _ _ _ document returned⟩

end AxorWrap.Trace
