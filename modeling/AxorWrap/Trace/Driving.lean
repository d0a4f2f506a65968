/-
This file says when a decision names a value that it turns on. A verdict lists the driving
arguments of its tool; a call may leave some of them out, and only some may be tainted.

The builder asks for the first argument of the list and for no other. So it names no value where
only a later argument is in the call, and it names a clean value for a denial where only a later
argument is tainted.
-/

import AxorWrap.Trace.WholeReturn

namespace AxorWrap.Trace

open Python Methods Checks

variable {V : Type} {kernel : Kernel} {objects : Objects V}

/-! ### The driving value -/

/-- The driving arguments that a verdict lists. -/
def listedDriving (kernel : Kernel) (event : TraceEvent) : Except PyError (List PyStr) := do
  let driving ← ((Entries.lookup event.payload "driving_args").getD (.list [])).iterate
  return driving.map (Value.toStr kernel.interpreter)

/-- The argument is in the call. -/
def RecordedCall.Binds (call : RecordedCall V) (arg : PyStr) : Prop := arg ∈ call.args.map Prod.fst

/-- The verdict reports taint sources of the argument. -/
def ReportsTaint (kernel : Kernel) (event : TraceEvent) (arg : PyStr) : Prop :=
  ∃ sources, sourcesOf kernel event arg = .ok sources ∧ sources ≠ []

/-- The decision names no value only if no driving argument is in the call, and for the denial of a
call with a tainted one it names an untrusted value. -/
structure TurnsOn (kernel : Kernel) (values : List (ValueEntry V)) (call : RecordedCall V)
    (event : TraceEvent) (driving : List PyStr) (decision : Decision) : Prop where
  named : decision.drivingValueId = none → ∀ arg ∈ driving, ¬ call.Binds arg
  tainted : event.denied = true →
    (∃ arg ∈ driving, call.Binds arg ∧ ReportsTaint kernel event arg) →
      ∃ id, decision.drivingValueId = some id ∧
        ∃ entry ∈ values, entry.valueId = id ∧ entry.Untrusted

/-- The decision names a value, or says why it names none. -/
def Decision.NamesOrExplains (decision : Decision) : Prop :=
  (decision.drivingValueId.isSome = true ∧ decision.drivingUnresolved = none) ∨
    (decision.drivingValueId = none ∧ decision.drivingUnresolved.isSome = true)

/-- This is the decision of the pair of this place. -/
def DecidedAt (document : Document V) (place : Nat) (decision : Decision) : Prop :=
  ∃ before tool argBindings after, document.events.map Event.body = before ++
    .toolCallIntent tool (callIdOf place) argBindings ::
      .gateDecision (callIdOf place) decision :: after

/-- The decisions of a trace name values that they turn on. -/
def DrivenRightly (kernel : Kernel) (material : Material V) (document : Document V) : Prop :=
  ∀ pairs, material.pairs = .ok pairs → ∀ place call event, pairs[place]? = some (call, event) →
    ∃ decision, DecidedAt document place decision ∧ decision.NamesOrExplains ∧
      ∀ seen, call = some seen → ∀ driving, listedDriving kernel event = .ok driving →
        TurnsOn kernel document.values seen event driving decision

/-- The first driving argument is in the call if any of them is, and in a denial it is tainted if
any of those in the call is. -/
def FirstSpeaks (kernel : Kernel) (call : RecordedCall V) (event : TraceEvent)
    (driving : List PyStr) : Prop :=
  ∀ first ∈ driving.head?, ∀ arg ∈ driving, call.Binds arg →
    call.Binds first ∧
      (event.denied = true → ReportsTaint kernel event arg → ReportsTaint kernel event first)

/-! ### One decision -/

/-- What a decision says of its driving value. -/
theorem driving_decisionOf {event : TraceEvent} {argBindings : Bindings} {enforced : Bool}
    {decision : Decision} {driving : List PyStr} (lists : listedDriving kernel event = .ok driving)
    (decided : decisionOf kernel event argBindings enforced = .ok decision) :
    decision.drivingValueId = driving.head?.bind fun name => argBindings.lookup name := by
  obtain ⟨items, iterated, rest⟩ := bind_eq_ok.mp decided
  obtain ⟨again, same, lists⟩ := bind_eq_ok.mp lists
  cases iterated.symm.trans same
  cases lists
  obtain ⟨gate, _, made⟩ := bind_eq_ok.mp rest
  cases made
  rfl

theorem namesOrExplains_decisionOf {event : TraceEvent} {argBindings : Bindings}
    {enforced : Bool} {decision : Decision}
    (decided : decisionOf kernel event argBindings enforced = .ok decision) :
    decision.NamesOrExplains := by
  obtain ⟨items, _, rest⟩ := bind_eq_ok.mp decided
  obtain ⟨gate, _, made⟩ := bind_eq_ok.mp rest
  cases made
  unfold Decision.NamesOrExplains
  dsimp only
  cases (items.map (Value.toStr kernel.interpreter)).head?.bind
      fun name => argBindings.lookup name with
  | some id => exact .inl ⟨rfl, rfl⟩
  | none =>
    cases items.map (Value.toStr kernel.interpreter) with
    | nil => exact .inr ⟨rfl, rfl⟩
    | cons arg rest => exact .inr ⟨rfl, rfl⟩

section Bindings

variable {event : TraceEvent} {values : List (ValueEntry V)} {call : RecordedCall V}
  {argBindings : Bindings}

/-- Each argument is bound, to a value traced by its sources. -/
theorem lookup_bindings {arguments : List (PyStr × V)}
    (each : List.Forall₂ (Bound kernel event values) arguments argBindings)
    {arg : PyStr} (member : arg ∈ arguments.map Prod.fst) :
    ∃ id sources, argBindings.lookup arg = some id ∧
      sourcesOf kernel event arg = .ok sources ∧ Traced sources id values := by
  induction each with
  | nil => cases member
  | @cons argument binding _ _ first _ inductionHypothesis =>
    obtain ⟨name, id⟩ := binding
    obtain ⟨rfl, sources, sourced, traced⟩ := first
    rw [List.lookup_cons]
    by_cases here : arg = argument.1
    · subst here
      rw [beq_self_eq_true]
      exact ⟨id, sources, rfl, sourced, traced⟩
    · rw [beq_eq_false_iff_ne.mpr here]
      exact inductionHypothesis ((List.mem_cons.mp member).resolve_left here)

/-- No other argument is. -/
theorem binds_of_lookup (each : List.Forall₂ (Bound kernel event values) call.args argBindings)
    {arg id : PyStr} (found : argBindings.lookup arg = some id) : call.Binds arg := by
  obtain ⟨earlier, later, rfl, _⟩ := List.lookup_eq_some_iff.mp found
  obtain ⟨argument, member, bound⟩ := exists_of_mem_right each
    (List.mem_append_right earlier List.mem_cons_self)
  exact List.mem_map.mpr ⟨argument, member, bound.1.symm⟩

/-- A traced value is untrusted exactly when there are sources. -/
theorem untrusted_iff_of_traced (distinct : (values.map ValueEntry.valueId).Nodup)
    {sources : List PyStr} {id : PyStr} (traced : Traced sources id values) :
    (∃ entry ∈ values, entry.valueId = id ∧ entry.Untrusted) ↔ sources ≠ [] := by
  obtain ⟨earlier, entry, later, rfl, rfl, untrusted, _⟩ := traced
  have member : entry ∈ earlier ++ entry :: later := by simp
  rw [← untrusted]
  constructor
  · rintro ⟨other, inValues, same, isUntrusted⟩
    cases List.inj_on_of_nodup_map distinct inValues member same
    exact isUntrusted
  · exact fun isUntrusted => ⟨entry, member, rfl, isUntrusted⟩

/-- The decision of a call turns on its value exactly when the first argument speaks for all. -/
theorem turnsOn_iff (each : List.Forall₂ (Bound kernel event values) call.args argBindings)
    (distinct : (values.map ValueEntry.valueId).Nodup) {driving : List PyStr}
    {decision : Decision} (drives : decision.drivingValueId =
      driving.head?.bind fun name => argBindings.lookup name) :
    TurnsOn kernel values call event driving decision ↔ FirstSpeaks kernel call event driving := by
  cases driving with
  | nil =>
    refine iff_of_true ⟨fun _ arg member => ?_, ?_⟩ fun first isFirst => ?_
    · cases member
    · rintro _ ⟨_, member, _⟩
      cases member
    · cases isFirst
  | cons first rest =>
    change decision.drivingValueId = argBindings.lookup first at drives
    constructor
    · rintro turns _ ⟨⟩ arg isArg binds
      have firstBinds : call.Binds first := by_contra fun absent => by
        cases found : argBindings.lookup first with
        | none => exact turns.named (drives.trans found) arg isArg binds
        | some id => exact absent (binds_of_lookup each found)
      refine ⟨firstBinds, fun denied taint => ?_⟩
      obtain ⟨id, sources, found, sourced, traced⟩ := lookup_bindings each firstBinds
      obtain ⟨other, names, untrusted⟩ := turns.tainted denied ⟨arg, isArg, binds, taint⟩
      cases names.symm.trans (drives.trans found)
      exact ⟨sources, sourced, (untrusted_iff_of_traced distinct traced).mp untrusted⟩
    · intro speaks
      constructor
      · intro unnamed arg isArg binds
        obtain ⟨id, _, found, _⟩ := lookup_bindings each (speaks first rfl arg isArg binds).1
        cases unnamed.symm.trans (drives.trans found)
      · rintro denied ⟨arg, isArg, binds, taint⟩
        obtain ⟨firstBinds, carries⟩ := speaks first rfl arg isArg binds
        obtain ⟨id, sources, found, sourced, traced⟩ := lookup_bindings each firstBinds
        obtain ⟨_, same, nonempty⟩ := carries denied taint
        cases sourced.symm.trans same
        exact ⟨id, drives.trans found, (untrusted_iff_of_traced distinct traced).mpr nonempty⟩

end Bindings

/-! ### The decisions of a trace -/

/-- The decision of a place is one: the events have one intent of each call. -/
theorem DecidedAt.unique {document : Document V} {place : Nat} {one other : Decision}
    (distinct : ((document.events.map Event.body).filterMap EventBody.intentId).Nodup)
    (first : DecidedAt document place one) (second : DecidedAt document place other) :
    one = other := by
  obtain ⟨_, _, _, _, split⟩ := first
  obtain ⟨_, _, _, _, again⟩ := second
  obtain ⟨_, _, rest⟩ := split_unique distinct split rfl again rfl
  cases rest
  rfl

/-- What is known of the pair of a place of a trace. -/
theorem decided_of_returned {material : Material V} {document : Document V}
    (returned : buildTrace kernel objects material = .ok document)
    {pairs : List (Option (RecordedCall V) × TraceEvent)} (paired : material.pairs = .ok pairs)
    {place : Nat} {call : Option (RecordedCall V)} {event : TraceEvent}
    (found : pairs[place]? = some (call, event)) :
    ∃ argBindings decision enforced, DecidedAt document place decision ∧
      decisionOf kernel event argBindings enforced = .ok decision ∧
      List.Forall₂ (Bound kernel event document.values) (argumentsOf call) argBindings := by
  obtain ⟨others, left, same, built, values⟩ := returns_buildTrace returned
  cases paired.symm.trans same
  obtain ⟨before, bodies, after, middle, between, ids, split, sound, pairBuilt, gained⟩ :=
    returns_buildPairs_place Ledger.sound_start found built
  obtain ⟨refs, argBindings, bound, decision, results, copied, minted, decided, yielded, rfl⟩ :=
    returns_buildPair.mp pairBuilt
  obtain ⟨soundBound, _, each⟩ := returns_bindArguments copied sound minted
  obtain ⟨_, gainedResults, _⟩ := returns_resultEvents_values soundBound yielded
  refine ⟨argBindings, decision, _,
    ⟨before, toolOf kernel call event, argBindings, results ++ after, ?_⟩, decided, ?_⟩
  · rw [split, Nat.zero_add, List.append_assoc]
    rfl
  · rw [values]
    exact each.imp fun _ _ bound => (bound.gained gainedResults).gained gained

theorem distinct_of_returned {material : Material V} {document : Document V}
    (returned : buildTrace kernel objects material = .ok document) :
    (document.values.map ValueEntry.valueId).Nodup := by
  obtain ⟨_, _, _, _, sound, values, _⟩ := returns_buildTrace_values returned
  exact values ▸ sound.nodup

theorem firstSpeaks_of_drivenRightly {material : Material V} {document : Document V}
    (returned : buildTrace kernel objects material = .ok document)
    (drivenRightly : DrivenRightly kernel material document)
    {pairs : List (Option (RecordedCall V) × TraceEvent)} (paired : material.pairs = .ok pairs)
    {call : RecordedCall V} {event : TraceEvent} (member : (some call, event) ∈ pairs)
    {driving : List PyStr} (lists : listedDriving kernel event = .ok driving) :
    FirstSpeaks kernel call event driving := by
  obtain ⟨_, _, _, built, _⟩ := returns_buildTrace returned
  obtain ⟨place, found⟩ := List.getElem?_of_mem member
  obtain ⟨argBindings, decision, _, here, decided, each⟩ :=
    decided_of_returned returned paired found
  obtain ⟨other, there, _, turns⟩ := drivenRightly pairs paired place _ event found
  cases here.unique (nodup_intentIds built) there
  exact (turnsOn_iff each (distinct_of_returned returned) (driving_decisionOf lists decided)).mp
    (turns call rfl driving lists)

/-- **The decisions of a trace name values that they turn on** exactly when in each call the first
driving argument speaks for all. -/
theorem drivenRightly_iff {material : Material V} {document : Document V}
    (returned : buildTrace kernel objects material = .ok document) :
    DrivenRightly kernel material document ↔
      ∀ pairs, material.pairs = .ok pairs → ∀ call event, (some call, event) ∈ pairs →
        ∀ driving, listedDriving kernel event = .ok driving →
          FirstSpeaks kernel call event driving := by
  constructor
  · intro drivenRightly pairs paired call event member driving lists
    exact firstSpeaks_of_drivenRightly returned drivenRightly paired member lists
  · intro speaks pairs paired place call event found
    obtain ⟨argBindings, decision, _, here, decided, each⟩ :=
      decided_of_returned returned paired found
    refine ⟨decision, here, namesOrExplains_decisionOf decided, ?_⟩
    rintro seen rfl driving lists
    exact (turnsOn_iff each (distinct_of_returned returned)
      (driving_decisionOf lists decided)).mpr
        (speaks pairs paired seen event (List.mem_of_getElem? found) driving lists)

/-- What was read is sent on, and only the second driving argument carries it. -/
def sentOn (driving : List Value) : Material Value where
  calls := [{ tool := "send", args := [("to", .str "bob"), ("url", .str "http://evil")] }]
  traceEvents := [
    { nodeId := "n", sequence := 1
      payload := [
        (.str "category", .str "taint_enforcement"),
        (.str "driving_args", .list driving),
        (.str "arg_provenance", .dict [(.str "url", .dict [
          (.str "sources", .list [.str "read"])])])]
      class_ := .intentDenied "tool_call" "tainted" }]
  manifests := []
  enforcement := "on"
  trial := []

theorem drivenRightly_url_first :
    ∃ document, buildTrace Kernel.trial (Objects.json Kernel.trial)
        (sentOn [.str "url", .str "to"]) = .ok document ∧
      DrivenRightly Kernel.trial (sentOn [.str "url", .str "to"]) document := by
  have returns : (buildTrace Kernel.trial (Objects.json Kernel.trial)
      (sentOn [.str "url", .str "to"])).isOk = true := by decide +kernel
  obtain ⟨document, returned⟩ := exists_of_isOk returns
  refine ⟨document, returned, (drivenRightly_iff returned).mpr ?_⟩
  rintro pairs ⟨⟩ call event member driving lists
  cases List.mem_singleton.mp member
  cases lists
  rintro _ ⟨⟩ arg isArg binds
  exact ⟨List.mem_cons_of_mem _ List.mem_cons_self,
    fun _ _ => ⟨["read"], rfl, List.cons_ne_nil _ _⟩⟩

/-- A denial is put on a clean value. -/
theorem clean_value_named :
    ∃ document, buildTrace Kernel.trial (Objects.json Kernel.trial)
        (sentOn [.str "to", .str "url"]) = .ok document ∧
      ¬ DrivenRightly Kernel.trial (sentOn [.str "to", .str "url"]) document := by
  have returns : (buildTrace Kernel.trial (Objects.json Kernel.trial)
      (sentOn [.str "to", .str "url"])).isOk = true := by decide +kernel
  obtain ⟨document, returned⟩ := exists_of_isOk returns
  refine ⟨document, returned, fun drivenRightly => ?_⟩
  have speaks := firstSpeaks_of_drivenRightly returned drivenRightly rfl List.mem_cons_self rfl
  obtain ⟨_, sourced, nonempty⟩ := (speaks "to" rfl "url"
    (List.mem_cons_of_mem _ List.mem_cons_self) (List.mem_cons_of_mem _ List.mem_cons_self)).2 rfl
      ⟨["read"], rfl, List.cons_ne_nil _ _⟩
  cases sourced
  exact nonempty rfl

end AxorWrap.Trace
