/-
This file models the trace bridge (`axor_wrap/plane/bridge.py`), the second
reader of the events a kernel records, and compares it with the first. The trace
builder takes the kind of an event and the gate of the category in its payload.
The bridge takes the class of an event and what it intended, and reads the gate
off the reason where the payload has no category.

Both read the same verdicts exactly when every denial is one of a tool call, the
call beside a verdict is of the tool its payload names, and no denial is without
a category, unless its reason happens to tell the same gate.
-/

import AxorWrap.Trace.Pairing

namespace AxorWrap.Trace

open Python Methods Checks

/-! ### Kernel events -/

/-- The members of `axor_core.kernel.events.EventKind` a bridged event is of. -/
inductive EventKind
  | toolCall
  | denial
  | fact
  | toolResult
  | gateEval
  | nodeSpawned
  | messageReceived
  | operatorIntervention
deriving DecidableEq, Repr

inductive KernelVerdict
  | deny
  | pass
deriving DecidableEq, Repr

/-- `axor_core.kernel.events.Event`. -/
structure KernelEvent where
  seq : Int
  nodeId : PyStr
  kind : EventKind
  ts : PyStr
  gate : Option PyStr := none
  verdict : Option KernelVerdict := none
  causalRoot : Value := .null
  payload : Entries

/-! ### The bridge -/

section Bridge

variable (kernel : Kernel)

/-- `_LEVEL_SEVERITY`. -/
def levelSeverity : List (PyStr × Int) :=
  [("NORMAL", 0), ("CAUTIOUS", 1), ("RESTRICTED", 2), ("LOCKED", 3), ("TERMINAL", 4)]

/-- `_LEVEL_SEVERITY.get(name, 0)`. -/
def severityOf (name : PyStr) : Int := (levelSeverity.lookup name).getD 0

/-- `_level_name`. -/
def levelName : Level → PyStr
  | .member name => name
  | .value value => if value.truthy then value.toStr kernel.interpreter else "NORMAL"

/-- `_ts`. -/
def ts (index : Int) : PyStr := PyStr.ofString "seq:" ++ intText index

/-- What `_category_of` looks for in a reason, and the category it takes it for. -/
def categoryNeedles : List (PyStr × PyStr) :=
  [("taint", "taint_enforcement"), ("carrier", "carrier_gate"),
    ("consequence", "consequence_gate"), ("ssrf", "ssrf_gate"),
    ("value policy", "value_policy"), ("capability", "capability"),
    ("budget", "budget"), ("degradation", "degradation"),
    ("unclassified", "unclassified_tool"), ("positional", "positional_gate")]

/-- `_category_of`. -/
def categoryOf (reason : PyStr) : PyStr :=
  let lowered := kernel.lower reason
  ((categoryNeedles.find? fun entry => entry.1 <:+: lowered).map Prod.snd).getD "denial"

/-- `_gate_of`. -/
def bridgeGateOf (category : PyStr) : PyStr :=
  (kernel.gateOfCategory category).getD
    (if category.isEmpty then PyStr.ofString "denial" else category)

/-- `str(event.payload.get("category") or "")`. -/
def statedCategory (payload : Entries) : PyStr :=
  match Entries.lookup payload "category" with
  | some category => if category.truthy then category.toStr kernel.interpreter else []
  | none => []

/-- The category of a denial: the one stated, or the one its reason suggests. -/
def denialCategory (payload : Entries) (reason : PyStr) : PyStr :=
  let stated := statedCategory kernel payload
  if stated.isEmpty then categoryOf kernel reason else stated

/-- `asdict(event).get("child_node_id")`. -/
def EventClass.childNodeId : EventClass → Option Value
  | .childSpawned child _ | .childStale child => some child
  | _ => none

/-- `asdict(event).get("child_depth")`. -/
def EventClass.childDepth : EventClass → Option Value
  | .childSpawned _ depth => some depth
  | _ => none

/-- `d.get("child_node_id") or event.payload.get("child_node_id", "")`. -/
def childId (event : TraceEvent) : Value :=
  let own := event.class_.childNodeId.getD .null
  if own.truthy then own else (Entries.lookup event.payload "child_node_id").getD (.str [])

/-- `trace_event_to_kernel`. -/
def traceEventToKernel (nodeId : Option PyStr) (event : TraceEvent) : Option KernelEvent :=
  let nid := (given nodeId).getD event.nodeId
  let seq := event.sequence
  let numberedId (label : String) : Value := .str (PyStr.ofString label ++ intText seq)
  let fallback (key : PyStr) (value : Value) : Value :=
    (Entries.lookup event.payload key).getD value
  match event.class_ with
  | .intentDenied intentKind reason =>
    let category := denialCategory kernel event.payload reason
    let gate := bridgeGateOf kernel category
    let explained := Entries.insert event.payload (.str "reason") (.str reason)
    if intentKind = PyStr.ofString "tool_call" then
      some {
        seq := seq, nodeId := nid, kind := .toolCall, ts := ts seq
        gate := some gate, verdict := some .deny
        payload := explained }
    else
      some {
        seq := seq, nodeId := nid, kind := .denial, ts := ts seq
        gate := some gate, verdict := some .deny
        payload := Entries.insert (Entries.insert explained (.str "category") (.str category))
          (.str "intent_kind") (.str intentKind) }
  | .degradationTransition previousLevel newLevel triggerSourceId reason =>
    some {
      seq := seq, nodeId := nid, kind := .fact, ts := ts seq
      causalRoot := triggerSourceId
      payload := [
        (.str "fact_id", numberedId "deg_"),
        (.str "fact_type", .str "degradation_transition"),
        (.str "severity", .int (severityOf (levelName kernel newLevel))),
        (.str "reason", reason),
        (.str "new_level", .str (levelName kernel newLevel)),
        (.str "previous_level", .str (levelName kernel previousLevel))] }
  | .sourceQuarantined sourceId reason =>
    some {
      seq := seq, nodeId := nid, kind := .fact, ts := ts seq
      causalRoot := sourceId
      payload := [
        (.str "fact_id", numberedId "quar_"),
        (.str "fact_type", .str "source_quarantined"),
        (.str "severity", .int (severityOf "RESTRICTED")),
        (.str "reason", reason)] }
  | .taintPropagated =>
    some {
      seq := seq, nodeId := nid, kind := .toolResult, ts := ts seq
      causalRoot := fallback "value_ref" .null
      payload := event.payload }
  | .suspiciousIntent policyAction tool score reasons =>
    let denied := policyAction = PyStr.ofString "denied"
    some {
      seq := seq, nodeId := nid, kind := if denied then .denial else .gateEval, ts := ts seq
      gate := some "anomaly", verdict := some (if denied then .deny else .pass)
      payload := [(.str "tool", tool), (.str "score", score), (.str "reasons", .list reasons)] }
  | .plain _ _ | .childSpawned _ _ | .childStale _ | .cancelled _ _ =>
    match event.kind with
    | .childSpawned =>
      some {
        seq := seq, nodeId := nid, kind := .nodeSpawned, ts := ts seq
        payload := [
          (.str "child_id", childId event),
          (.str "parent_id", .str nid),
          (.str "depth", event.class_.childDepth.getD (fallback "child_depth" (.int 0))),
          (.str "edge_kind", .str "delegation")] }
    | .childStale =>
      some {
        seq := seq, nodeId := nid, kind := .fact, ts := ts seq
        payload := [
          (.str "fact_id", numberedId "stale_"),
          (.str "fact_type", .str "node_stale"),
          (.str "severity", .int (severityOf "CAUTIOUS")),
          (.str "reason", fallback "error" (.str "child died without returning")),
          (.str "child_id", childId event)] }
    | .childCompleted =>
      some {
        seq := seq, nodeId := nid, kind := .messageReceived, ts := ts seq
        causalRoot := fallback "value_ref" .null
        payload := [
          (.str "from", fallback "child_node_id" (.str [])),
          (.str "edge_kind", .str "delegation"),
          (.str "msg_id", numberedId "ret_"),
          (.str "value_ref", fallback "value_ref" .null),
          (.str "carried", fallback "carried" (.dict []))] }
    | .intentApproved | .intentTransformed =>
      some {
        seq := seq, nodeId := nid, kind := .toolCall, ts := ts seq
        verdict := some .pass
        payload := event.payload }
    | .intentDenied | .other _ =>
      match event.class_ with
      | .cancelled reason detail =>
        if PyStr.ofString "control plane" <:+: detail then
          some {
            seq := seq, nodeId := nid, kind := .operatorIntervention, ts := ts seq
            payload := [(.str "reason", .str reason), (.str "detail", .str detail)] }
        else none
      | _ => none

/-- `trace_to_kernel`. -/
def traceToKernel (events : List TraceEvent) (nodeId : Option PyStr) : List KernelEvent :=
  events.filterMap (traceEventToKernel kernel nodeId)

end Bridge

/-! ### The verdicts that the two read -/

/-- One verdict on a tool call, with the gate of a denial. -/
structure Judgement where
  tool : PyStr
  denied : Bool
  gate : Option PyStr
deriving DecidableEq, Repr

/-- The verdicts of a trace: each decision with the tool of the intent it follows. -/
def judgementsOf : List EventBody → List Judgement
  | .toolCallIntent tool _ _ :: .gateDecision _ decision :: rest =>
    { tool := tool
      denied := decision.verdict = .deny
      gate := if decision.verdict = .deny then some decision.gate else none } ::
      judgementsOf rest
  | _ :: rest => judgementsOf rest
  | [] => []

section Comparison

variable (kernel : Kernel)

/-- The tool a payload names, as a text. -/
def payloadTool (payload : Entries) : PyStr :=
  ((Entries.lookup payload "tool").getD (.str [])).toStr kernel.interpreter

/-- The verdict of a bridged tool call. -/
def KernelEvent.judgement (event : KernelEvent) : Option Judgement :=
  if event.kind = .toolCall then
    some {
      tool := payloadTool kernel event.payload
      denied := event.verdict = some .deny
      gate := if event.verdict = some .deny then event.gate else none }
  else none

/-- The verdict the bridge makes of an event. -/
def bridgedJudgement (nodeId : Option PyStr) (event : TraceEvent) : Option Judgement :=
  (traceEventToKernel kernel nodeId event).bind (KernelEvent.judgement kernel)

/-- The verdict the trace builder makes of a pair. -/
def pairJudgement {V : Type} (pair : Option (RecordedCall V) × TraceEvent) (gate : PyStr) :
    Judgement where
  tool := toolOf kernel pair.1 pair.2
  denied := pair.2.denied
  gate := if pair.2.denied then some gate else none

variable {kernel}

/-! ### What the bridge makes of a verdict -/

theorem payloadTool_insert {payload : Entries} {key : PyStr} {value : Value}
    (other : key ≠ PyStr.ofString "tool") :
    payloadTool kernel (Entries.insert payload (.str key) value) = payloadTool kernel payload := by
  unfold payloadTool
  rw [Entries.lookup_insert_of_ne other]

/-- The bridge makes a tool call of a denial by what the denied intent was, and of an approval or a
transformation. -/
theorem bridgedJudgement_eq (nodeId : Option PyStr) (event : TraceEvent) :
    bridgedJudgement kernel nodeId event =
      match event.class_ with
      | .intentDenied intentKind reason =>
        if intentKind = PyStr.ofString "tool_call" then
          some {
            tool := payloadTool kernel event.payload
            denied := true
            gate := some (bridgeGateOf kernel (denialCategory kernel event.payload reason)) }
        else none
      | .plain kind _ =>
        if kind = .intentApproved ∨ kind = .intentTransformed then
          some { tool := payloadTool kernel event.payload, denied := false, gate := none }
        else none
      | _ => none := by
  obtain ⟨id, sequence, payload, class_⟩ := event
  unfold bridgedJudgement
  cases class_ with
  | intentDenied intentKind reason =>
    by_cases toolCall : intentKind = PyStr.ofString "tool_call"
    · have other : PyStr.ofString "reason" ≠ PyStr.ofString "tool" := by decide
      simp [traceEventToKernel, KernelEvent.judgement, toolCall, payloadTool_insert other]
    · simp [traceEventToKernel, KernelEvent.judgement, toolCall]
  | plain kind reason =>
    cases kind <;> simp [traceEventToKernel, KernelEvent.judgement, TraceEvent.kind]
  | suspiciousIntent policyAction tool score reasons =>
    by_cases denied : policyAction = PyStr.ofString "denied" <;>
      simp [traceEventToKernel, KernelEvent.judgement, denied]
  | cancelled reason detail =>
    by_cases operator : PyStr.ofString "control plane" <:+: detail <;>
      simp [traceEventToKernel, KernelEvent.judgement, TraceEvent.kind, operator]
  | degradationTransition _ _ _ _ => rfl
  | sourceQuarantined _ _ => rfl
  | taintPropagated => rfl
  | childSpawned _ _ => rfl
  | childStale _ => rfl

/-- An event whose kind is no verdict is no tool call to the bridge. -/
theorem bridgedJudgement_of_other {nodeId : Option PyStr} {event : TraceEvent}
    (other : event.isVerdict = false) : bridgedJudgement kernel nodeId event = none := by
  obtain ⟨id, sequence, payload, class_⟩ := event
  rw [bridgedJudgement_eq]
  cases class_ with
  | plain kind reason => cases kind <;> first | rfl | cases other
  | intentDenied intentKind reason => cases other
  | _ => rfl

/-- The tool calls of the bridged trace are those it makes of the verdicts. -/
theorem judgements_traceToKernel (nodeId : Option PyStr) (events : List TraceEvent) :
    (traceToKernel kernel events nodeId).filterMap (KernelEvent.judgement kernel) =
      (verdictEvents events).filterMap (bridgedJudgement kernel nodeId) := by
  rw [traceToKernel, List.filterMap_filterMap, verdictEvents, List.filterMap_filter]
  congr 1
  funext event
  cases verdict : event.isVerdict with
  | true => rfl
  | false => exact bridgedJudgement_of_other verdict

/-! ### What the builder makes of a verdict -/

section Built

variable {V : Type} {objects : Objects V}

theorem gate_decisionOf {event : TraceEvent} {argBindings : Bindings} {enforced : Bool}
    {decision : Decision} (decided : decisionOf kernel event argBindings enforced = .ok decision) :
    decisionGate kernel event = .ok decision.gate := by
  obtain ⟨driving, _, rest⟩ := bind_eq_ok.mp decided
  obtain ⟨gate, found, made⟩ := bind_eq_ok.mp rest
  cases made
  exact found

/-- The verdict is the one of this pair, with the gate the builder looks up. -/
def Judges (kernel : Kernel) (pair : Option (RecordedCall V) × TraceEvent)
    (judgement : Judgement) : Prop :=
  ∃ gate, decisionGate kernel pair.2 = .ok gate ∧ judgement = pairJudgement kernel pair gate

theorem judgementsOf_buildPair {manifests : List Entries} {enforced : Bool} {index : Nat}
    {call : Option (RecordedCall V)} {event : TraceEvent} {ledger left : Ledger V}
    {bodies : List EventBody}
    (built : Returns (buildPair kernel objects manifests enforced index call event) ledger bodies
      left) (rest : List EventBody) :
    ∃ judgement, judgementsOf (bodies ++ rest) = judgement :: judgementsOf rest ∧
      Judges kernel (call, event) judgement := by
  obtain ⟨_, argBindings, _, decision, results, _, _, decided, found, rfl⟩ :=
    returns_buildPair.mp built
  have verdict := verdict_decisionOf decided
  refine ⟨_, ?_, decision.gate, gate_decisionOf decided, rfl⟩
  have later : judgementsOf (results ++ rest) = judgementsOf rest := by
    rcases returns_resultEvents found with ⟨_, _, _, _, rfl, _⟩ | ⟨_, rfl, _⟩ <;> rfl
  cases denied : event.denied <;>
    simp [judgementsOf, pairJudgement, later, verdict, denied]

/-- Each pair is judged once, in order. -/
theorem judgementsOf_buildPairs {manifests : List Entries} {enforced : Bool} {index seq : Nat}
    {pairs : List (Option (RecordedCall V) × TraceEvent)} {ledger left : Ledger V}
    {events : List Event}
    (built : Returns (buildPairs kernel objects manifests enforced index seq pairs) ledger events
      left) :
    List.Forall₂ (Judges kernel) pairs (judgementsOf (events.map Event.body)) := by
  induction pairs generalizing index seq ledger events with
  | nil =>
    obtain ⟨rfl, _⟩ := returns_pure.mp built
    exact .nil
  | cons pair pairs inductionHypothesis =>
    obtain ⟨bodies, _, later, first, tail, rfl⟩ := returns_buildPairs_cons built
    rw [List.map_append, map_body_numbered]
    obtain ⟨judgement, split, judges⟩ := judgementsOf_buildPair first (later.map Event.body)
    rw [split]
    exact .cons judges (inductionHypothesis tail)

/-! ### Where the two agree -/

/-- `GATE_OF_CATEGORY.get(category, category)`. -/
def tableGate (kernel : Kernel) (category : PyStr) : PyStr :=
  (kernel.gateOfCategory category).getD category

/-- The denial is of a tool call. -/
def TraceEvent.DeniesToolCall (event : TraceEvent) : Prop :=
  ∃ reason, event.class_ = .intentDenied "tool_call" reason

/-- The payload states a category, or what it has in place of one names the gate that the reason
suggests. -/
def CategoryTold (kernel : Kernel) (event : TraceEvent) : Prop :=
  statedCategory kernel event.payload ≠ [] ∨
    ∃ category, Entries.lookup event.payload "category" = some category ∧
      tableGate kernel (category.toStr kernel.interpreter) =
        tableGate kernel (categoryOf kernel (event.reason.getD []))

theorem categoryOf_ne_nil (reason : PyStr) : categoryOf kernel reason ≠ [] := by
  have named : ∀ entry ∈ categoryNeedles, entry.2 ≠ [] := by decide
  show ((categoryNeedles.find? fun entry => entry.1 <:+: kernel.lower reason).map Prod.snd).getD
    (PyStr.ofString "denial") ≠ []
  cases found : categoryNeedles.find? fun entry => entry.1 <:+: kernel.lower reason with
  | none => exact List.cons_ne_nil _ _
  | some entry => exact named entry (List.mem_of_find?_eq_some found)

theorem bridgeGateOf_eq {category : PyStr} (named : category ≠ []) :
    bridgeGateOf kernel category = tableGate kernel category := by
  unfold bridgeGateOf tableGate
  rw [if_neg (by simpa using named)]

/-- The two look a gate up alike exactly when the category is told. -/
theorem gates_agree_iff {event : TraceEvent} {reason gate : PyStr}
    (table : ∀ category, kernel.gateOf category = .ok (tableGate kernel category))
    (denial : event.class_ = .intentDenied "tool_call" reason)
    (found : decisionGate kernel event = .ok gate) :
    bridgeGateOf kernel (denialCategory kernel event.payload reason) = gate ↔
      CategoryTold kernel event := by
  have denied : event.denied = true := by simp [TraceEvent.denied, TraceEvent.kind, denial]
  have sameReason : event.reason.getD [] = reason := by simp [TraceEvent.reason, denial]
  unfold decisionGate at found
  rw [denied, if_pos rfl] at found
  unfold CategoryTold
  rw [sameReason]
  cases present : Entries.lookup event.payload "category" with
  | none =>
    rw [present] at found
    cases found
  | some category =>
    simp only [present, table] at found
    cases found
    by_cases stated : statedCategory kernel event.payload = []
    · have guessed : denialCategory kernel event.payload reason = categoryOf kernel reason := by
        simp [denialCategory, stated]
      rw [guessed, bridgeGateOf_eq (categoryOf_ne_nil reason)]
      constructor
      · exact fun same => .inr ⟨category, rfl, same.symm⟩
      · rintro (named | ⟨_, sameCategory, same⟩)
        · exact absurd stated named
        · cases sameCategory
          exact same.symm
    · have taken : denialCategory kernel event.payload reason =
          statedCategory kernel event.payload := by
        simp [denialCategory, stated]
      have text : statedCategory kernel event.payload = category.toStr kernel.interpreter := by
        unfold statedCategory at stated ⊢
        rw [present] at stated ⊢
        by_cases truthy : category.truthy = true
        · simp [truthy]
        · simp [truthy] at stated
      rw [taken, bridgeGateOf_eq stated, text]
      exact ⟨fun _ => .inl (text ▸ stated), fun _ => rfl⟩

/-- The builder and the bridge make the same of this pair. -/
def ReadAlike (kernel : Kernel) (pair : Option (RecordedCall V) × TraceEvent) : Prop :=
  toolOf kernel pair.1 pair.2 = payloadTool kernel pair.2.payload ∧
    (pair.2.denied = true → pair.2.DeniesToolCall ∧ CategoryTold kernel pair.2)

theorem bridgedJudgement_iff {nodeId : Option PyStr}
    {pair : Option (RecordedCall V) × TraceEvent} {judgement : Judgement}
    (table : ∀ category, kernel.gateOf category = .ok (tableGate kernel category))
    (verdict : pair.2.isVerdict = true) (judges : Judges kernel pair judgement) :
    bridgedJudgement kernel nodeId pair.2 = some judgement ↔ ReadAlike kernel pair := by
  obtain ⟨gate, found, rfl⟩ := judges
  obtain ⟨call, event⟩ := pair
  rw [bridgedJudgement_eq, ReadAlike, pairJudgement]
  cases class_ : event.class_ with
  | plain kind reason =>
    have kindIs : event.kind = kind := by simp [TraceEvent.kind, class_]
    have noToolCall : ¬ event.DeniesToolCall := by simp [TraceEvent.DeniesToolCall, class_]
    cases kind <;> simp_all [TraceEvent.denied, TraceEvent.isVerdict, eq_comm]
  | intentDenied intentKind reason =>
    have denied : event.denied = true := by simp [TraceEvent.denied, TraceEvent.kind, class_]
    by_cases toolCall : intentKind = PyStr.ofString "tool_call"
    · subst toolCall
      have denies : event.DeniesToolCall := ⟨reason, class_⟩
      simp [denied, denies, ← gates_agree_iff table class_ found, eq_comm]
    · have noToolCall : ¬ event.DeniesToolCall := by
        rintro ⟨_, other⟩
        rw [class_] at other
        cases other
        exact toolCall rfl
      simp [denied, noToolCall, toolCall]
  | _ => simp [TraceEvent.isVerdict, TraceEvent.kind, class_] at verdict

theorem filterMap_eq_iff {α β : Type} {f : α → Option β} {items : List α} {values : List β}
    (same : items.length = values.length) :
    items.filterMap f = values ↔
      List.Forall₂ (fun item value => f item = some value) items values := by
  induction items generalizing values with
  | nil =>
    rw [List.eq_nil_of_length_eq_zero same.symm]
    exact ⟨fun _ => .nil, fun _ => rfl⟩
  | cons item items inductionHypothesis =>
    cases values with
    | nil => cases same
    | cons value values =>
      rw [List.forall₂_cons, ← inductionHypothesis (Nat.succ_inj.mp same)]
      cases found : f item with
      | some other => simp [found]
      | none =>
        refine ⟨fun all => ?_, fun both => nomatch both.1⟩
        have shorter := List.length_filterMap_le f items
        rw [List.filterMap_cons_none found] at all
        rw [all] at shorter
        simp only [List.length_cons] at same shorter
        omega

theorem forall₂_iff_forall {α β : Type} {R S : α → β → Prop} {holds : α → Prop} {items : List α}
    {values : List β} (related : List.Forall₂ R items values)
    (each : ∀ item ∈ items, ∀ value, R item value → (S item value ↔ holds item)) :
    List.Forall₂ S items values ↔ ∀ item ∈ items, holds item := by
  induction related with
  | nil => simp
  | cons first _ inductionHypothesis =>
    rw [List.forall₂_cons, List.forall_mem_cons, each _ List.mem_cons_self _ first,
      inductionHypothesis fun item member => each item (List.mem_cons_of_mem _ member)]

/-- Every verdict is read alike: it denies tool calls only and tells its category, and the call that
has its place is of the tool its payload names. -/
structure VerdictsReadAlike (kernel : Kernel) (material : Material V) : Prop where
  denials : ∀ event ∈ verdictEvents material.traceEvents, event.denied = true →
    event.DeniesToolCall ∧ CategoryTold kernel event
  tools : ∀ (place : Nat) (call : RecordedCall V) (event : TraceEvent),
    material.calls[place]? = some call →
    (takers material.observes (verdictEvents material.traceEvents))[place]? = some event →
    call.tool = payloadTool kernel event.payload

theorem readAlike_iff {material : Material V}
    {pairs : List (Option (RecordedCall V) × TraceEvent)}
    (linesUp :
      LinesUp material.observes material.calls (verdictEvents material.traceEvents) pairs) :
    (∀ pair ∈ pairs, ReadAlike kernel pair) ↔ VerdictsReadAlike kernel material := by
  constructor
  · intro alike
    constructor
    · intro event member
      rw [← linesUp.map_snd] at member
      obtain ⟨pair, inPairs, rfl⟩ := List.mem_map.mp member
      exact (alike pair inPairs).2
    · intro place call event called judged
      exact (alike _ (linesUp.mem_of_place called judged)).1
  · intro alike pair member
    obtain ⟨call, event⟩ := pair
    constructor
    · cases call with
      | none => rfl
      | some call =>
        obtain ⟨place, called, judged⟩ := linesUp.place member
        exact alike.tools place call event called judged
    · refine alike.denials event ?_
      rw [← linesUp.map_snd]
      exact List.mem_map_of_mem member

/-- The trace and the bridge tell the same verdicts on the same tools, with the same gate for each
denial, exactly when every denial is one of a tool call and tells its category, and every call is of
the tool that the verdict beside it names. -/
theorem same_verdicts_iff (kernel : Kernel) (objects : Objects V) (material : Material V)
    (nodeId : Option PyStr) (document : Document V)
    (table : ∀ category, kernel.gateOf category = .ok (tableGate kernel category))
    (returned : buildTrace kernel objects material = .ok document) :
    judgementsOf (document.events.map Event.body) =
        (traceToKernel kernel material.traceEvents nodeId).filterMap
          (KernelEvent.judgement kernel) ↔
      VerdictsReadAlike kernel material := by
  obtain ⟨pairs, left, paired, built, _⟩ := returns_buildTrace returned
  have linesUp := paired_eq_ok_iff.mp paired
  have judges := judgementsOf_buildPairs built
  rw [judgements_traceToKernel, ← linesUp.map_snd, List.filterMap_map, eq_comm,
    filterMap_eq_iff judges.length_eq, ← readAlike_iff linesUp]
  have verdicts : ∀ pair ∈ pairs, pair.2.isVerdict = true := by
    intro pair member
    have inEvents := linesUp.map_snd ▸ List.mem_map_of_mem member
    exact (List.mem_filter.mp inEvents).2
  exact forall₂_iff_forall judges fun pair member judgement judged =>
    bridgedJudgement_iff table (verdicts pair member) judged

end Built

end Comparison

/-- One denied verdict of this class, with the call it takes, if any. -/
def oneDenial (calls : List (RecordedCall Value)) (payload : Entries) (class_ : EventClass) :
    Material Value where
  calls := calls
  traceEvents := [{ nodeId := "n", sequence := 1, payload := payload, class_ := class_ }]
  manifests := []
  enforcement := "on"
  trial := []
  observes := if calls.isEmpty then .executionsOnly else .everyIntent

/-- A kernel for which a category it does not know is its own gate. -/
def Kernel.lenient : Kernel :=
  { Kernel.trial with gateOf := fun category => .ok (tableGate Kernel.trial category) }

/-- A tool call is refused, as its caller recorded it. -/
def sendRefused : Material Value :=
  oneDenial [{ tool := "send", args := [] }]
    [(.str "tool", .str "send"), (.str "category", .str "budget")]
    (.intentDenied "tool_call" "over budget")

theorem same_verdicts_iff_sendRefused :
    ∃ document,
      buildTrace Kernel.lenient (Objects.json Kernel.lenient) sendRefused = .ok document ∧
      judgementsOf (document.events.map Event.body) =
        (traceToKernel Kernel.lenient sendRefused.traceEvents none).filterMap
          (KernelEvent.judgement Kernel.lenient) := by
  have returns :
      (buildTrace Kernel.lenient (Objects.json Kernel.lenient) sendRefused).isOk = true := by
    decide +kernel
  obtain ⟨document, returned⟩ := exists_of_isOk returns
  refine ⟨document, returned,
    (same_verdicts_iff _ _ _ none document (fun _ => rfl) returned).mpr ⟨?_, ?_⟩⟩
  · intro event member _
    cases List.mem_singleton.mp member
    exact ⟨⟨_, rfl⟩, .inl (List.cons_ne_nil _ _)⟩
  · intro place call event called judged
    cases place with
    | zero =>
      cases called
      cases judged
      rfl
    | succ place => cases called

/-- A child is refused. No tool call was. -/
def spawnRefused : Material Value :=
  oneDenial [] [(.str "category", .str "carrier_gate")] (.intentDenied "spawn_child" "carrier gate")

theorem same_verdicts_not_always :
    ∃ document,
      buildTrace Kernel.lenient (Objects.json Kernel.lenient) spawnRefused = .ok document ∧
      judgementsOf (document.events.map Event.body) ≠
        (traceToKernel Kernel.lenient spawnRefused.traceEvents none).filterMap
          (KernelEvent.judgement Kernel.lenient) := by
  have returns :
      (buildTrace Kernel.lenient (Objects.json Kernel.lenient) spawnRefused).isOk = true := by
    decide +kernel
  obtain ⟨document, returned⟩ := exists_of_isOk returns
  refine ⟨document, returned, fun same => ?_⟩
  obtain ⟨pairs, left, paired, built, _⟩ := returns_buildTrace returned
  have judged := (judgementsOf_buildPairs built).length_eq
  cases paired
  rw [same] at judged
  cases judged

end AxorWrap.Trace
