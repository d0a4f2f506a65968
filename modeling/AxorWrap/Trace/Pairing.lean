/-
This file says how the recorder's calls and the kernel's verdicts are lined up,
and what the trace makes of each pair. Lining up compares counts: it succeeds
exactly when there is one call for every verdict that takes one, and then every
call and every verdict is used once, in order.

Nothing else is compared. A verdict is paired with the call that has its place
in the list, whatever tool the verdict was about, so the two agree exactly when
the two lists do, place by place.
-/

import AxorWrap.Trace.Build
import AxorWrap.Library.Check

namespace AxorWrap.Trace

open Python Methods Checks

/-! ### Which verdicts take a call -/

/-- Whether a verdict is paired with a call: all are where every intent was seen, and those that
were not denied where executions were. -/
def takesCall (observes : Observes) (event : TraceEvent) : Bool :=
  match observes with
  | .everyIntent => true
  | .executionsOnly => !event.denied

/-- The verdicts that take a call. -/
def takers (observes : Observes) (events : List TraceEvent) : List TraceEvent :=
  events.filter (takesCall observes)

theorem takers_everyIntent (events : List TraceEvent) : takers .everyIntent events = events :=
  List.filter_eq_self.mpr fun _ _ => rfl

section Pairing

variable {C : Type} {observes : Observes} {calls : List C} {events : List TraceEvent}
  {pairs : List (Option C × TraceEvent)}

/-- The pairs are the events in order, with the next call beside each that takes one. -/
inductive LinesUp (observes : Observes) :
    List C → List TraceEvent → List (Option C × TraceEvent) → Prop
  | nil : LinesUp observes [] [] []
  | taken {call : C} {event : TraceEvent} {calls events pairs}
      (takes : takesCall observes event = true) (rest : LinesUp observes calls events pairs) :
      LinesUp observes (call :: calls) (event :: events) ((some call, event) :: pairs)
  | alone {event : TraceEvent} {calls events pairs}
      (takes : takesCall observes event = false) (rest : LinesUp observes calls events pairs) :
      LinesUp observes calls (event :: events) ((none, event) :: pairs)

theorem LinesUp.map_snd (linesUp : LinesUp observes calls events pairs) :
    pairs.map Prod.snd = events := by
  induction linesUp with
  | nil => rfl
  | taken _ _ inductionHypothesis => rw [List.map_cons, inductionHypothesis]
  | alone _ _ inductionHypothesis => rw [List.map_cons, inductionHypothesis]

theorem LinesUp.filterMap_fst (linesUp : LinesUp observes calls events pairs) :
    pairs.filterMap Prod.fst = calls := by
  induction linesUp with
  | nil => rfl
  | taken _ _ inductionHypothesis => simp [inductionHypothesis]
  | alone _ _ inductionHypothesis => simp [inductionHypothesis]

theorem LinesUp.isSome_fst (linesUp : LinesUp observes calls events pairs) :
    ∀ pair ∈ pairs, pair.1.isSome = takesCall observes pair.2 := by
  induction linesUp with
  | nil => exact List.forall_mem_nil _
  | taken takes _ inductionHypothesis =>
    exact List.forall_mem_cons.mpr ⟨takes.symm, inductionHypothesis⟩
  | alone takes _ inductionHypothesis =>
    exact List.forall_mem_cons.mpr ⟨takes.symm, inductionHypothesis⟩

theorem LinesUp.length_calls (linesUp : LinesUp observes calls events pairs) :
    calls.length = (takers observes events).length := by
  induction linesUp with
  | nil => rfl
  | taken takes _ inductionHypothesis =>
    rw [takers, List.filter_cons_of_pos takes, List.length_cons, List.length_cons,
      inductionHypothesis, takers]
  | alone takes _ inductionHypothesis =>
    rw [inductionHypothesis, takers, takers, List.filter_cons_of_neg (by simp [takes])]

/-- Two lists of pairs lined up from the same lists are the same. -/
theorem LinesUp.unique {others : List (Option C × TraceEvent)}
    (linesUp : LinesUp observes calls events pairs)
    (other : LinesUp observes calls events others) : pairs = others := by
  induction linesUp generalizing others with
  | nil => cases other; rfl
  | taken takes _ inductionHypothesis =>
    cases other with
    | taken _ rest => rw [inductionHypothesis rest]
    | alone notTakes _ => rw [takes] at notTakes; cases notTakes
  | alone takes _ inductionHypothesis =>
    cases other with
    | taken notTakes _ => rw [takes] at notTakes; cases notTakes
    | alone _ rest => rw [inductionHypothesis rest]

theorem LinesUp.append {laterCalls : List C} {laterEvents : List TraceEvent}
    {laterPairs : List (Option C × TraceEvent)} (linesUp : LinesUp observes calls events pairs)
    (later : LinesUp observes laterCalls laterEvents laterPairs) :
    LinesUp observes (calls ++ laterCalls) (events ++ laterEvents) (pairs ++ laterPairs) := by
  induction linesUp with
  | nil => exact later
  | taken takes _ inductionHypothesis => exact .taken takes inductionHypothesis
  | alone takes _ inductionHypothesis => exact .alone takes inductionHypothesis

/-- With one call for every verdict that takes one, the calls and the verdicts line up. -/
theorem exists_linesUp (same : calls.length = (takers observes events).length) :
    ∃ pairs, LinesUp observes calls events pairs := by
  induction events generalizing calls with
  | nil =>
    rw [List.eq_nil_of_length_eq_zero same]
    exact ⟨[], .nil⟩
  | cons event events inductionHypothesis =>
    cases takes : takesCall observes event with
    | false =>
      rw [takers, List.filter_cons_of_neg (by simp [takes])] at same
      obtain ⟨pairs, rest⟩ := inductionHypothesis same
      exact ⟨_, .alone takes rest⟩
    | true =>
      rw [takers, List.filter_cons_of_pos takes] at same
      cases calls with
      | nil => cases same
      | cons call calls =>
        obtain ⟨pairs, rest⟩ := inductionHypothesis (Nat.succ_inj.mp same)
        exact ⟨_, .taken takes rest⟩

theorem linesUp_zip (same : calls.length = events.length) :
    LinesUp .everyIntent calls events ((calls.map some).zip events) := by
  induction calls generalizing events with
  | nil =>
    rw [List.eq_nil_of_length_eq_zero same.symm]
    exact .nil
  | cons call calls inductionHypothesis =>
    cases events with
    | nil => cases same
    | cons event events => exact .taken rfl (inductionHypothesis (Nat.succ_inj.mp same))

theorem linesUp_of_pairExecutions (returned : pairExecutions calls events = .ok pairs) :
    LinesUp .executionsOnly calls events pairs := by
  induction events generalizing calls pairs with
  | nil =>
    cases calls with
    | nil =>
      cases returned
      exact .nil
    | cons call calls => cases returned
  | cons event events inductionHypothesis =>
    unfold pairExecutions at returned
    cases denied : event.denied with
    | true =>
      rw [denied, if_pos rfl, bind_eq_ok] at returned
      obtain ⟨rest, paired, joined⟩ := returned
      cases joined
      exact .alone (by simp [takesCall, denied]) (inductionHypothesis paired)
    | false =>
      rw [denied, if_neg Bool.false_ne_true] at returned
      cases calls with
      | nil => cases returned
      | cons call calls =>
        obtain ⟨rest, paired, joined⟩ := bind_eq_ok.mp returned
        cases joined
        exact .taken (by simp [takesCall, denied]) (inductionHypothesis paired)

theorem pairExecutions_of_linesUp (linesUp : LinesUp .executionsOnly calls events pairs) :
    pairExecutions calls events = .ok pairs := by
  induction linesUp with
  | nil => rfl
  | taken takes _ inductionHypothesis =>
    rw [pairExecutions, if_neg (by simpa [takesCall] using takes), inductionHypothesis]
    rfl
  | alone takes _ inductionHypothesis =>
    unfold pairExecutions
    rw [if_pos (by simpa [takesCall] using takes), inductionHypothesis]
    rfl

/-- Pairing succeeds exactly with the calls and verdicts lined up. -/
theorem paired_eq_ok_iff :
    paired calls events observes = .ok pairs ↔ LinesUp observes calls events pairs := by
  cases observes with
  | executionsOnly => exact ⟨linesUp_of_pairExecutions, pairExecutions_of_linesUp⟩
  | everyIntent =>
    constructor
    · intro returned
      rw [paired] at returned
      split at returned
      case isTrue same =>
        cases returned
        exact linesUp_zip same
      case isFalse => cases returned
    · intro linesUp
      have same : calls.length = events.length := by
        rw [linesUp.length_calls, takers_everyIntent]
      rw [paired, if_pos same, (linesUp_zip same).unique linesUp]

/-- And it succeeds exactly when there is one call for every verdict that takes one. -/
theorem exists_paired_iff :
    (∃ pairs, paired calls events observes = .ok pairs) ↔
      calls.length = (takers observes events).length := by
  simp only [paired_eq_ok_iff]
  exact ⟨fun ⟨_, linesUp⟩ => linesUp.length_calls, exists_linesUp⟩

end Pairing

/-! ### What a pair yields -/

section Building

variable {V : Type} {kernel : Kernel} {objects : Objects V}

variable (kernel) in
/-- The events a pair yields: an intent, its decision, and a result exactly when the call of the
pair was executed. -/
def Yields (index : Nat) (pair : Option (RecordedCall V) × TraceEvent)
    (bodies : List EventBody) : Prop :=
  ∃ argBindings decision results,
    bodies = .toolCallIntent (toolOf kernel pair.1 pair.2) (callIdOf index) argBindings ::
      .gateDecision (callIdOf index) decision :: results ∧
    decision.verdict = (if pair.2.denied then .deny else .allow) ∧
    ((∃ call produced, pair.1 = some call ∧ call.executed = true ∧
        results = [.toolResult call.tool produced]) ∨
      (∀ call, pair.1 = some call → call.executed = false) ∧ results = [])

theorem verdict_decisionOf {event : TraceEvent} {argBindings : Bindings} {enforced : Bool}
    {decision : Decision} (decided : decisionOf kernel event argBindings enforced = .ok decision) :
    decision.verdict = if event.denied then .deny else .allow := by
  obtain ⟨driving, _, rest⟩ := bind_eq_ok.mp decided
  obtain ⟨gate, _, made⟩ := bind_eq_ok.mp rest
  cases made
  rfl

/-- What a pair that is built goes through. -/
theorem returns_buildPair {manifests : List Entries} {enforced : Bool} {index : Nat}
    {call : Option (RecordedCall V)} {event : TraceEvent} {ledger left : Ledger V}
    {bodies : List EventBody} :
    Returns (buildPair kernel objects manifests enforced index call event) ledger bodies left ↔
      ∃ refs argBindings middle decision results,
        ((Entries.lookup event.payload "arg_provenance").getD (.dict [])).toDict = .ok refs ∧
        Returns (bindArguments kernel objects refs call) ledger argBindings middle ∧
        decisionOf kernel event argBindings enforced = .ok decision ∧
        Returns (resultEvents kernel objects manifests call) middle results left ∧
        bodies = .toolCallIntent (toolOf kernel call event) (callIdOf index) argBindings ::
          .gateDecision (callIdOf index) decision :: results := by
  unfold buildPair
  simp only [returns_bind, returns_lift, returns_pure]
  constructor
  · rintro ⟨refs, _, ⟨copied, rfl⟩, argBindings, middle, bound, decision, _, ⟨decided, rfl⟩,
      results, _, found, made, rfl⟩
    exact ⟨refs, argBindings, _, decision, results, copied, bound, decided, found, made.symm⟩
  · rintro ⟨refs, argBindings, middle, decision, results, copied, bound, decided, found, rfl⟩
    exact ⟨refs, ledger, ⟨copied, rfl⟩, argBindings, middle, bound, decision, middle,
      ⟨decided, rfl⟩, results, left, found, rfl, rfl⟩

/-- A call that was executed yields its result, and nothing else does. -/
theorem returns_resultEvents {manifests : List Entries} {call : Option (RecordedCall V)}
    {ledger left : Ledger V} {results : List EventBody}
    (found : Returns (resultEvents kernel objects manifests call) ledger results left) :
    (∃ seen produced, call = some seen ∧ seen.executed = true ∧
        results = [.toolResult seen.tool produced] ∧
        Returns (mintUntrustedFields kernel objects (manifestOf kernel manifests seen.tool)
          seen.tool seen.result) ledger produced left) ∨
      (∀ seen, call = some seen → seen.executed = false) ∧ results = [] ∧ ledger = left := by
  cases call with
  | none =>
    obtain ⟨rfl, rfl⟩ := returns_pure.mp found
    refine .inr ⟨fun seen absent => ?_, rfl, rfl⟩
    cases absent
  | some seen =>
    simp only [resultEvents] at found
    cases executed : seen.executed with
    | false =>
      rw [executed, if_neg Bool.false_ne_true] at found
      obtain ⟨rfl, rfl⟩ := returns_pure.mp found
      refine .inr ⟨fun other same => ?_, rfl, rfl⟩
      cases same
      exact executed
    | true =>
      rw [executed, if_pos rfl] at found
      obtain ⟨produced, _, minted, made⟩ := returns_bind.mp found
      obtain ⟨rfl, rfl⟩ := returns_pure.mp made
      exact .inl ⟨seen, produced, rfl, executed, rfl, minted⟩

theorem yields_buildPair {manifests : List Entries} {enforced : Bool} {index : Nat}
    {call : Option (RecordedCall V)} {event : TraceEvent} {ledger left : Ledger V}
    {bodies : List EventBody}
    (built : Returns (buildPair kernel objects manifests enforced index call event) ledger bodies
      left) : Yields kernel index (call, event) bodies := by
  obtain ⟨_, argBindings, _, decision, results, _, _, decided, found, rfl⟩ :=
    returns_buildPair.mp built
  refine ⟨argBindings, decision, results, rfl, verdict_decisionOf decided, ?_⟩
  rcases returns_resultEvents found with ⟨seen, produced, rfl, executed, rfl, _⟩ | ⟨unseen, rfl, _⟩
  · exact .inl ⟨seen, produced, rfl, executed, rfl⟩
  · exact .inr ⟨unseen, rfl⟩

/-! ### The loop -/

theorem numbered_append (seq : Nat) (first second : List EventBody) :
    numbered seq (first ++ second) =
      numbered seq first ++ numbered (seq + first.length) second := by
  simp [numbered, List.zipIdx_append]

@[simp] theorem map_body_numbered (seq : Nat) (bodies : List EventBody) :
    (numbered seq bodies).map Event.body = bodies := by
  simp [numbered, Function.comp_def]

@[simp] theorem map_seq_numbered (seq : Nat) (bodies : List EventBody) :
    (numbered seq bodies).map Event.seq = List.range' seq bodies.length := by
  simp [numbered, Function.comp_def]

/-- One turn of the loop builds a pair, and the rest of the loop follows. -/
theorem returns_buildPairs_cons {manifests : List Entries} {enforced : Bool} {index seq : Nat}
    {pair : Option (RecordedCall V) × TraceEvent}
    {pairs : List (Option (RecordedCall V) × TraceEvent)} {ledger left : Ledger V}
    {events : List Event}
    (built : Returns (buildPairs kernel objects manifests enforced index seq (pair :: pairs)) ledger
      events left) :
    ∃ bodies between later,
      Returns (buildPair kernel objects manifests enforced index pair.1 pair.2) ledger bodies
        between ∧
      Returns (buildPairs kernel objects manifests enforced (index + 1) (seq + bodies.length) pairs)
        between later left ∧
      events = numbered seq bodies ++ later := by
  unfold buildPairs at built
  obtain ⟨bodies, between, first, rest⟩ := returns_bind.mp built
  obtain ⟨later, _, tail, made⟩ := returns_bind.mp rest
  obtain ⟨rfl, rfl⟩ := returns_pure.mp made
  exact ⟨bodies, between, later, first, tail, rfl⟩

/-- The loop numbers the events through and yields those of each pair in turn. -/
theorem yields_buildPairs {manifests : List Entries} {enforced : Bool} {index seq : Nat}
    {pairs : List (Option (RecordedCall V) × TraceEvent)} {ledger left : Ledger V}
    {events : List Event}
    (built : Returns (buildPairs kernel objects manifests enforced index seq pairs) ledger events
      left) :
    ∃ segments : List (List EventBody), events = numbered seq segments.flatten ∧
      List.Forall₂ (fun (pair, place) bodies => Yields kernel place pair bodies)
        (pairs.zipIdx index) segments := by
  induction pairs generalizing index seq ledger events with
  | nil =>
    obtain ⟨rfl, _⟩ := returns_pure.mp built
    exact ⟨[], rfl, .nil⟩
  | cons pair pairs inductionHypothesis =>
    obtain ⟨bodies, _, later, first, tail, rfl⟩ := returns_buildPairs_cons built
    obtain ⟨segments, rfl, yields⟩ := inductionHypothesis tail
    refine ⟨bodies :: segments, ?_, ?_⟩
    · rw [List.flatten_cons, numbered_append]
    · rw [List.zipIdx_cons]
      exact .cons (yields_buildPair first) yields

theorem returns_assemble {material : Material V}
    {pairs : List (Option (RecordedCall V) × TraceEvent)} {document : Document V}
    (assembled : outcome (assemble kernel objects material pairs) {} = .ok document) :
    ∃ left, Returns (buildPairs kernel objects material.manifests
        (material.enforcement ≠ PyStr.ofString "off") 0 0 pairs) {} document.events left ∧
      document.values = left.values := by
  obtain ⟨events, left, built, rest⟩ := returns_bind.mp ⟨assembled, rfl⟩
  obtain ⟨digest, _, weighed, last⟩ := returns_bind.mp rest
  obtain ⟨_, rfl⟩ := returns_lift.mp weighed
  obtain ⟨ledger, _, read, made⟩ := returns_bind.mp last
  obtain ⟨rfl, rfl⟩ := returns_get.mp read
  obtain ⟨rfl, _⟩ := returns_pure.mp made
  exact ⟨left, built, rfl⟩

theorem buildTrace_of_pairs {material : Material V}
    {pairs : List (Option (RecordedCall V) × TraceEvent)} (paired : material.pairs = .ok pairs) :
    buildTrace kernel objects material =
      (outcome (assemble kernel objects material pairs) {}).mapError .python := by
  unfold buildTrace
  rw [paired]

/-- A document that is returned was assembled of the pairs. -/
theorem assembled_of_returned {material : Material V} {document : Document V}
    (returned : buildTrace kernel objects material = .ok document) :
    ∃ pairs, material.pairs = .ok pairs ∧
      outcome (assemble kernel objects material pairs) {} = .ok document := by
  cases paired : material.pairs with
  | error misalignment =>
    rw [buildTrace, paired] at returned
    cases returned
  | ok pairs =>
    rw [buildTrace_of_pairs paired] at returned
    cases assembled : outcome (assemble kernel objects material pairs) {} with
    | error error =>
      rw [assembled] at returned
      cases returned
    | ok made =>
      rw [assembled] at returned
      cases returned
      exact ⟨pairs, rfl, assembled⟩

/-- What `build_trace` goes through when it returns. -/
theorem returns_buildTrace {material : Material V} {document : Document V}
    (returned : buildTrace kernel objects material = .ok document) :
    ∃ pairs left, material.pairs = .ok pairs ∧
      Returns (buildPairs kernel objects material.manifests
        (material.enforcement ≠ PyStr.ofString "off") 0 0 pairs) {} document.events left ∧
      document.values = left.values := by
  obtain ⟨pairs, paired, assembled⟩ := assembled_of_returned returned
  obtain ⟨left, built, values⟩ := returns_assemble assembled
  exact ⟨pairs, left, paired, built, values⟩

theorem traceBuild_iff {material : Material V} :
    (∃ misalignment, buildTrace kernel objects material = .error (.traceBuild misalignment)) ↔
      material.calls.length ≠
        (takers material.observes (verdictEvents material.traceEvents)).length := by
  rw [Ne, ← exists_paired_iff]
  show _ ↔ ¬ ∃ pairs, material.pairs = .ok pairs
  cases paired : material.pairs with
  | error misalignment => simp [buildTrace, paired]
  | ok pairs =>
    rw [buildTrace_of_pairs paired]
    cases outcome (assemble kernel objects material pairs) {} <;> simp [Except.mapError]

/-! ### The trace mirrors the verdicts -/

/-- The call id of an intent. -/
def Event.intentId (event : Event) : Option PyStr :=
  match event.body with
  | .toolCallIntent _ callId _ => some callId
  | _ => none

theorem callIdOf_injective {first second : Nat} (same : callIdOf first = callIdOf second) :
    first = second :=
  natText_injective (List.append_cancel_left same)

theorem Yields.intentIds {index : Nat} {pair : Option (RecordedCall V) × TraceEvent}
    {bodies : List EventBody} (yields : Yields kernel index pair bodies) (seq : Nat) :
    (numbered seq bodies).filterMap Event.intentId = [callIdOf index] := by
  obtain ⟨argBindings, decision, results, rfl, _, executed | ⟨_, rfl⟩⟩ := yields
  · obtain ⟨call, produced, _, _, rfl⟩ := executed
    rfl
  · rfl

/-- The ids of the intents are those of the places of the pairs. -/
theorem intentIds_segments {index seq : Nat}
    {pairs : List (Option (RecordedCall V) × TraceEvent)} {segments : List (List EventBody)}
    (yields : List.Forall₂ (fun (pair, place) bodies => Yields kernel place pair bodies)
      (pairs.zipIdx index) segments) :
    (numbered seq segments.flatten).filterMap Event.intentId =
      (List.range' index pairs.length).map callIdOf := by
  induction pairs generalizing index seq segments with
  | nil =>
    cases yields
    rfl
  | cons pair pairs inductionHypothesis =>
    cases yields with
    | cons first rest =>
      rw [List.flatten_cons, numbered_append, List.filterMap_append, first.intentIds seq,
        inductionHypothesis rest, List.length_cons, List.range'_succ, List.map_cons]
      rfl

/-- Building gets past pairing exactly when there is one call for every verdict that takes one, and
raises a `TraceBuildError` otherwise. A trace that is built numbers its events through, and the
verdicts in order yield the events: each an intent, its decision, and a result where the call that
the verdict takes was executed. Every call and every verdict has its place in one pair. -/
theorem trace_mirrors_verdicts (kernel : Kernel) (objects : Objects V) (material : Material V) :
    ((∃ pairs, material.pairs = .ok pairs) ↔ material.calls.length =
      (takers material.observes (verdictEvents material.traceEvents)).length) ∧
    ((∃ misalignment, buildTrace kernel objects material = .error (.traceBuild misalignment)) ↔
      material.calls.length ≠
        (takers material.observes (verdictEvents material.traceEvents)).length) ∧
    ∀ document, buildTrace kernel objects material = .ok document →
      document.events.map Event.seq = List.range document.events.length ∧
      (document.events.filterMap Event.intentId).Nodup ∧
      ∃ pairs segments, material.pairs = .ok pairs ∧
        pairs.map Prod.snd = verdictEvents material.traceEvents ∧
        pairs.filterMap Prod.fst = material.calls ∧
        (∀ pair ∈ pairs, pair.1.isSome = takesCall material.observes pair.2) ∧
        document.events.map Event.body = segments.flatten ∧
        List.Forall₂ (fun (pair, place) bodies => Yields kernel place pair bodies) pairs.zipIdx
          segments := by
  refine ⟨exists_paired_iff, traceBuild_iff, fun document returned => ?_⟩
  obtain ⟨pairs, left, paired, built, _⟩ := returns_buildTrace returned
  have linesUp := paired_eq_ok_iff.mp paired
  obtain ⟨segments, events, yields⟩ := yields_buildPairs built
  refine ⟨?_, ?_, pairs, segments, paired, linesUp.map_snd, linesUp.filterMap_fst,
    linesUp.isSome_fst, ?_, yields⟩
  · rw [events, map_seq_numbered, List.range_eq_range', numbered, List.length_map,
      List.length_zipIdx]
  · rw [events, intentIds_segments yields]
    exact List.Nodup.map (fun _ _ => callIdOf_injective) List.nodup_range'
  · rw [events, map_body_numbered]

/-! ### Calls and the verdicts of other calls -/

/-- The verdict names a tool that is not the call's. -/
def NamesOther (call : RecordedCall V) (event : TraceEvent) : Prop :=
  ∃ named, Entries.lookup event.payload "tool" = some named ∧ named ≠ .str call.tool

/-- Somewhere the call and the verdict that have the same place are of different tools. -/
def Slipped (material : Material V) : Prop :=
  ∃ (place : Nat) (call : RecordedCall V) (event : TraceEvent),
    material.calls[place]? = some call ∧
    (takers material.observes (verdictEvents material.traceEvents))[place]? = some event ∧
    NamesOther call event

/-- No verdict gets into a trace with a call of another tool, and material that has slipped is
refused. -/
structure NeverMispairs (kernel : Kernel) (objects : Objects V) (material : Material V) : Prop where
  pairs : ∀ document pairs, buildTrace kernel objects material = .ok document →
    material.pairs = .ok pairs → ∀ call event, (some call, event) ∈ pairs → ¬ NamesOther call event
  refuses : Slipped material →
    ∃ misalignment, buildTrace kernel objects material = .error (.traceBuild misalignment)

/-- The calls and the verdicts beside them have the same places in their lists. -/
theorem LinesUp.place {C : Type} {observes : Observes} {calls : List C} {events : List TraceEvent}
    {pairs : List (Option C × TraceEvent)} (linesUp : LinesUp observes calls events pairs)
    {call : C} {event : TraceEvent} (member : (some call, event) ∈ pairs) :
    ∃ place : Nat, calls[place]? = some call ∧ (takers observes events)[place]? = some event := by
  induction linesUp with
  | nil => exact absurd member List.not_mem_nil
  | taken takes _ inductionHypothesis =>
    rw [takers, List.filter_cons_of_pos takes]
    rcases List.mem_cons.mp member with same | later
    · cases same
      exact ⟨0, rfl, rfl⟩
    · obtain ⟨place, called, judged⟩ := inductionHypothesis later
      exact ⟨place + 1, called, judged⟩
  | alone takes _ inductionHypothesis =>
    rw [takers, List.filter_cons_of_neg (by simp [takes])]
    rcases List.mem_cons.mp member with same | later
    · cases same
    · exact inductionHypothesis later

/-- Calls and verdicts that have the same place are lined up. -/
theorem LinesUp.mem_of_place {C : Type} {observes : Observes} {calls : List C}
    {events : List TraceEvent} {pairs : List (Option C × TraceEvent)}
    (linesUp : LinesUp observes calls events pairs) {place : Nat} {call : C} {event : TraceEvent}
    (called : calls[place]? = some call) (judged : (takers observes events)[place]? = some event) :
    (some call, event) ∈ pairs := by
  induction linesUp generalizing place with
  | nil => cases called
  | taken takes _ inductionHypothesis =>
    rw [takers, List.filter_cons_of_pos takes] at judged
    cases place with
    | zero =>
      cases called
      cases judged
      exact List.mem_cons_self
    | succ place => exact List.mem_cons_of_mem _ (inductionHypothesis called judged)
  | alone takes _ inductionHypothesis =>
    rw [takers, List.filter_cons_of_neg (by simp [takes])] at judged
    exact List.mem_cons_of_mem _ (inductionHypothesis called judged)

/-- Pairing compares counts only. So building keeps every verdict to its own call exactly when the
counts differ, or the calls and the verdicts that take them are of the same tools place by
place. -/
theorem neverMispairs_iff (kernel : Kernel) (objects : Objects V) (material : Material V) :
    NeverMispairs kernel objects material ↔
      material.calls.length ≠
        (takers material.observes (verdictEvents material.traceEvents)).length ∨
      ¬ Slipped material := by
  constructor
  · intro never
    by_cases slipped : Slipped material
    · exact .inl (traceBuild_iff.mp (never.refuses slipped))
    · exact .inr slipped
  · intro condition
    constructor
    · intro document pairs returned paired call event member named
      have linesUp := paired_eq_ok_iff.mp paired
      obtain ⟨place, called, judged⟩ := linesUp.place member
      rcases condition with differ | sound
      · exact differ linesUp.length_calls
      · exact sound ⟨place, call, event, called, judged, named⟩
    · intro slipped
      rcases condition with differ | sound
      · exact traceBuild_iff.mpr differ
      · exact absurd slipped sound

end Building

/-- The approval of a call of this tool, on this node at this place of the session. -/
def approval (node : PyStr) (sequence : Int) (tool : PyStr) : TraceEvent where
  nodeId := node
  sequence := sequence
  payload := [(.str "tool", .str tool)]
  class_ := .plain .intentApproved none

/-- Two tools of two nodes, approved in one order and recorded as they ran in the other. -/
def crossed : Material Value where
  calls := [{ tool := "send_email", args := [] }, { tool := "read_inbox", args := [] }]
  traceEvents := verdictsOf [[approval "root" 1 "read_inbox"], [approval "child" 2 "send_email"]]
  manifests := []
  enforcement := "on"
  trial := []
  observes := .executionsOnly

theorem neverMispairs_not_always :
    ¬ NeverMispairs Kernel.trial (Objects.json Kernel.trial) crossed := by
  intro never
  have slipped : Slipped crossed := by
    refine ⟨0, _, approval "root" 1 "read_inbox", rfl, rfl, .str "read_inbox", rfl, ?_⟩
    simp only [ne_eq, Value.str.injEq]
    decide
  exact traceBuild_iff.mp (never.refuses slipped) rfl

end AxorWrap.Trace
