/-
This file says when bridged facts keep their identity. An event is identified by its node and its
sequence number together, and the bridge makes the id of a fact, and that of a returned message,
of the number alone.

The label in front of the number says what the event was, so facts of different kinds are told
apart. Two nodes that count alike are not: a degradation of one has the id of a degradation of the
other.
-/

import AxorWrap.Trace.Bridge

namespace AxorWrap.Trace

open Python

/-! ### What is told of an event -/

/-- What an event is told as, where it is given an id of its own. -/
inductive Told
  | degradation
  | quarantine
  | stale
  | returned
deriving DecidableEq, Repr

/-- The label in front of the sequence number. -/
def Told.label : Told → PyStr
  | .degradation => "deg_"
  | .quarantine => "quar_"
  | .stale => "stale_"
  | .returned => "ret_"

/-- What it is told in. -/
def Told.kind : Told → EventKind
  | .degradation | .quarantine | .stale => .fact
  | .returned => .messageReceived

def TraceEvent.told (event : TraceEvent) : Option Told :=
  match event.class_ with
  | .degradationTransition _ _ _ _ => some .degradation
  | .sourceQuarantined _ _ => some .quarantine
  | .childStale _ | .plain .childStale _ => some .stale
  | .plain .childCompleted _ => some .returned
  | _ => none

/-- The id of an event that is told in this kind. -/
def toldId (kind : EventKind) (event : TraceEvent) : Option PyStr :=
  (event.told.filter fun told => told.kind = kind).map fun told =>
    told.label ++ intText event.sequence

/-- The events of this kind carry an id under the key, each its own. -/
def CarryIds (kind : EventKind) (key : PyStr) (bridged : List KernelEvent) : Prop :=
  ∃ ids : List Value,
    (bridged.filter fun event => event.kind = kind).map (fun event =>
      Entries.lookup event.payload key) = ids.map some ∧ ids.Nodup

/-- The facts carry their own ids, and the messages theirs. -/
structure KeepIdentity (bridged : List KernelEvent) : Prop where
  facts : CarryIds .fact "fact_id" bridged
  messages : CarryIds .messageReceived "msg_id" bridged

/-- No two events share both the node and the sequence number. -/
def Identified (events : List TraceEvent) : Prop :=
  events.Pairwise fun one other =>
    ¬ (one.nodeId = other.nodeId ∧ one.sequence = other.sequence)

/-- Two events of different nodes have one number and are told alike. -/
structure Confused (one other : TraceEvent) : Prop where
  nodes : one.nodeId ≠ other.nodeId
  sequence : one.sequence = other.sequence
  told : one.told = other.told
  isTold : one.told ≠ none

/-! ### Ids -/

/-- The label and the number can be read off an id. -/
theorem label_append_inj {one other : Told} {first second : Int}
    (same : one.label ++ intText first = other.label ++ intText second) :
    one = other ∧ first = second := by
  have begins : ∀ (told : Told) (text : PyStr), (told.label ++ text).head? = told.label.head? := by
    intro told text
    cases told <;> rfl
  have letters : one.label.head? = other.label.head? := by
    rw [← begins one, ← begins other, same]
  have alike : one = other := by
    revert letters
    cases one <;> cases other <;> decide
  subst alike
  exact ⟨rfl, intText_injective (List.append_cancel_left same)⟩

theorem toldId_eq_some {kind : EventKind} {event : TraceEvent} {id : PyStr} :
    toldId kind event = some id ↔ ∃ told, event.told = some told ∧ told.kind = kind ∧
      told.label ++ intText event.sequence = id := by
  simp [toldId, and_assoc]

/-- Two events have one id exactly when they are told alike and have one number. -/
theorem toldId_eq_iff {kind : EventKind} {one other : TraceEvent} {id : PyStr}
    (isId : toldId kind one = some id) :
    toldId kind other = some id ↔ one.told = other.told ∧ one.sequence = other.sequence := by
  obtain ⟨told, isTold, isKind, rfl⟩ := toldId_eq_some.mp isId
  rw [toldId_eq_some]
  constructor
  · rintro ⟨toldOther, isToldOther, _, same⟩
    obtain ⟨rfl, numbers⟩ := label_append_inj same
    exact ⟨isTold.trans isToldOther.symm, numbers.symm⟩
  · rintro ⟨same, numbers⟩
    exact ⟨told, same.symm.trans isTold, isKind, by rw [numbers]⟩

section Bridge

variable (kernel : Kernel) (nodeId : Option PyStr)

/-- The key that the ids of a kind are under. -/
def idKey : EventKind → PyStr
  | .messageReceived => "msg_id"
  | _ => "fact_id"

/-- The id that the bridge makes of an event. -/
def bridgedId (kind : EventKind) (event : TraceEvent) : Option (Option Value) :=
  ((traceEventToKernel kernel nodeId event).filter fun bridged => bridged.kind = kind).map
    fun bridged => Entries.lookup bridged.payload (idKey kind)

/-- The bridge gives each event the id it is told under. -/
theorem bridgedId_eq {kind : EventKind} (told : kind = .fact ∨ kind = .messageReceived)
    (event : TraceEvent) :
    bridgedId kernel nodeId kind event = (toldId kind event).map fun id => some (.str id) := by
  obtain ⟨id, sequence, payload, class_⟩ := event
  unfold bridgedId
  cases class_ with
  | plain eventKind reason =>
    rcases told with rfl | rfl <;> cases eventKind <;> rfl
  | intentDenied intentKind reason =>
    by_cases toolCall : intentKind = PyStr.ofString "tool_call" <;>
      rcases told with rfl | rfl <;>
      simp [traceEventToKernel, toolCall, toldId, TraceEvent.told]
  | suspiciousIntent policyAction tool score reasons =>
    by_cases denied : policyAction = PyStr.ofString "denied" <;>
      rcases told with rfl | rfl <;>
      simp [traceEventToKernel, denied, toldId, TraceEvent.told]
  | cancelled reason detail =>
    by_cases operator : PyStr.ofString "control plane" <:+: detail <;>
      rcases told with rfl | rfl <;>
      simp [traceEventToKernel, operator, toldId, TraceEvent.told, TraceEvent.kind]
  | degradationTransition _ _ _ _ => rcases told with rfl | rfl <;> rfl
  | sourceQuarantined _ _ => rcases told with rfl | rfl <;> rfl
  | taintPropagated => rcases told with rfl | rfl <;> rfl
  | childSpawned _ _ => rcases told with rfl | rfl <;> rfl
  | childStale _ => rcases told with rfl | rfl <;> rfl

/-- The ids of a kind are apart exactly when no two events of it have one. -/
theorem carryIds_iff {kind : EventKind} (told : kind = .fact ∨ kind = .messageReceived)
    (events : List TraceEvent) :
    CarryIds kind (idKey kind) (traceToKernel kernel events nodeId) ↔
      events.Pairwise fun one other =>
        ∀ id, toldId kind one = some id → toldId kind other ≠ some id := by
  have ids : ((traceToKernel kernel events nodeId).filter fun event => event.kind = kind).map
      (fun event => Entries.lookup event.payload (idKey kind)) =
      ((events.filterMap (toldId kind)).map Value.str).map some := by
    rw [traceToKernel, List.filter_filterMap, List.map_filterMap, List.map_map,
      List.map_filterMap]
    exact List.filterMap_congr fun event _ => bridgedId_eq kernel nodeId told event
  have apart : ((events.filterMap (toldId kind)).map Value.str).Nodup ↔
      (events.filterMap (toldId kind)).Nodup :=
    List.nodup_map_iff fun _ _ same => Value.str.inj same
  have own : CarryIds kind (idKey kind) (traceToKernel kernel events nodeId) ↔
      (events.filterMap (toldId kind)).Nodup := by
    rw [CarryIds, ids, ← apart]
    constructor
    · rintro ⟨others, same, distinct⟩
      rw [List.map_injective_iff.mpr (Option.some_injective _) same]
      exact distinct
    · exact fun distinct => ⟨_, rfl, distinct⟩
  rw [own, List.Nodup, List.pairwise_filterMap]
  refine List.Pairwise.iff fun one other => ?_
  constructor
  · intro differ id first second
    exact differ id first id second rfl
  · rintro differ id first _ second rfl
    exact differ id first second

/-- Events that are not the same are confused exactly when an id of theirs is the same. -/
theorem confused_iff {one other : TraceEvent}
    (identified : ¬ (one.nodeId = other.nodeId ∧ one.sequence = other.sequence)) :
    Confused one other ↔
      ∃ kind, (kind = .fact ∨ kind = .messageReceived) ∧
        ∃ id, toldId kind one = some id ∧ toldId kind other = some id := by
  constructor
  · intro confused
    obtain ⟨told, isTold⟩ := Option.ne_none_iff_exists'.mp confused.isTold
    have id : toldId told.kind one = some (told.label ++ intText one.sequence) :=
      toldId_eq_some.mpr ⟨told, isTold, rfl, rfl⟩
    refine ⟨told.kind, by cases told <;> decide, _, id, ?_⟩
    exact (toldId_eq_iff id).mpr ⟨confused.told, confused.sequence⟩
  · rintro ⟨kind, _, id, isId, isOther⟩
    obtain ⟨told, numbers⟩ := (toldId_eq_iff isId).mp isOther
    obtain ⟨label, isTold, _⟩ := toldId_eq_some.mp isId
    refine ⟨fun nodes => identified ⟨nodes, numbers⟩, numbers, told, ?_⟩
    rw [isTold]
    exact Option.some_ne_none label

/-- **The facts and the messages of a bridged trace have ids of their own exactly when no two
events of different nodes, that are told alike, have one sequence number.** -/
theorem keepIdentity_iff (events : List TraceEvent) (identified : Identified events) :
    KeepIdentity (traceToKernel kernel events nodeId) ↔
      events.Pairwise fun one other => ¬ Confused one other := by
  have both : KeepIdentity (traceToKernel kernel events nodeId) ↔
      events.Pairwise fun one other =>
        (∀ id, toldId .fact one = some id → toldId .fact other ≠ some id) ∧
        ∀ id, toldId .messageReceived one = some id → toldId .messageReceived other ≠ some id := by
    rw [List.pairwise_and_iff, ← carryIds_iff kernel nodeId (.inl rfl),
      ← carryIds_iff kernel nodeId (.inr rfl)]
    exact ⟨fun keep => ⟨keep.facts, keep.messages⟩, fun carry => ⟨carry.1, carry.2⟩⟩
  rw [both]
  constructor
  · intro apart
    refine apart.imp₂ (fun one other differ same => ?_) identified
    intro confused
    obtain ⟨kind, rfl | rfl, id, isId, isOther⟩ := (confused_iff same).mp confused
    · exact differ.1 id isId isOther
    · exact differ.2 id isId isOther
  · intro clear
    refine clear.imp₂ (fun one other unconfused same => ⟨?_, ?_⟩) identified
    · exact fun id isId isOther =>
        unconfused ((confused_iff same).mpr ⟨.fact, .inl rfl, id, isId, isOther⟩)
    · exact fun id isId isOther =>
        unconfused ((confused_iff same).mpr ⟨.messageReceived, .inr rfl, id, isId, isOther⟩)

end Bridge

/-- The node is quarantined, as its seventh event. -/
def quarantineOf (nodeId : PyStr) : TraceEvent where
  nodeId := nodeId
  sequence := 7
  payload := []
  class_ := .sourceQuarantined (.str "page") (.str "tainted")

/-- The node has lost a child, as its seventh event. -/
def staleOf (nodeId : PyStr) : TraceEvent where
  nodeId := nodeId
  sequence := 7
  payload := []
  class_ := .childStale (.str "worker")

/-- Two nodes that count alike are kept apart where they tell of different things. -/
theorem keepIdentity_different :
    KeepIdentity (traceToKernel Kernel.trial [quarantineOf "n0", staleOf "n1"] none) := by
  refine (keepIdentity_iff Kernel.trial none _ ?_).mpr ?_
  · refine List.pairwise_pair.mpr ?_
    decide
  · refine List.pairwise_pair.mpr fun confused => ?_
    exact absurd confused.told (by decide)

/-- The quarantine of one node is taken for that of another. -/
theorem quarantine_confused :
    Identified [quarantineOf "n0", quarantineOf "n1"] ∧
      ¬ KeepIdentity (traceToKernel Kernel.trial [quarantineOf "n0", quarantineOf "n1"] none) := by
  constructor
  · refine List.pairwise_pair.mpr ?_
    decide
  · intro keep
    obtain ⟨ids, same, distinct⟩ := keep.facts
    have twice : [some (Value.str "quar_7"), some (Value.str "quar_7")] = ids.map some := same
    obtain ⟨first, rest, rfl, one, others⟩ := List.map_eq_cons_iff.mp twice.symm
    obtain ⟨second, rest, rfl, other, _⟩ := List.map_eq_cons_iff.mp others
    rw [← Option.some.inj (other.trans one.symm)] at distinct
    exact (List.nodup_cons.mp distinct).1 List.mem_cons_self

end AxorWrap.Trace
