/-
This file is about a session whose kernel has its gate elsewhere. The loops of the nodes of a
session record what they judge in traces of their own, and hand over the tools they approve, which
`record_tools` has wrapped. Loops and coroutines take turns in any order.

When a loop hands a tool over in the turn it approves it, the recorder has one record for every
approval, in the order of the approvals of all nodes. So the verdicts, merged by their sequence
numbers, line up with the records, and each approval is beside the record of the call it was about.
-/

import AxorWrap.Library.Sorting
import AxorWrap.Runtime.Tame
import AxorWrap.Trace.Growing

namespace AxorWrap.Runtime

open Python Methods Scripts Journals Machines
open Trace (TraceEvent verdictEvents verdictsOf takesCall LinesUp)

variable {S : Setting}

/-! ### The traces of the nodes -/

/-- Append an event to the trace of a node, or begin the trace of a new one. -/
def appendTo (node : Nat) (event : TraceEvent) (traces : List (List TraceEvent)) :
    List (List TraceEvent) :=
  if node < traces.length then traces.modify node (· ++ [event]) else traces ++ [[event]]

/-- Where the world keeps the traces, one a node, and how a loop records an event. -/
structure Tree (S : Setting) where
  traces : S.World → List (List TraceEvent)
  emit : Nat → TraceEvent → S.World → S.World
  traces_emit : ∀ node event world, traces (emit node event world) =
    appendTo node event (traces world)

/-- An event that is recorded is somewhere among those there were. -/
theorem exists_flatMap_appendTo (select : List TraceEvent → List TraceEvent)
    (selects : ∀ trace event, select (trace ++ [event]) = select trace ++ select [event])
    (node : Nat) (event : TraceEvent) (traces : List (List TraceEvent)) :
    ∃ before after, traces.flatMap select = before ++ after ∧
      (appendTo node event traces).flatMap select = before ++ (select [event] ++ after) := by
  unfold appendTo
  split
  · next inside =>
    refine ⟨(traces.take (node + 1)).flatMap select, (traces.drop (node + 1)).flatMap select,
      ?_, ?_⟩
    · rw [← List.flatMap_append, List.take_append_drop]
    · rw [List.modify_eq_take_cons_drop inside, List.take_succ_eq_append_getElem inside,
        List.flatMap_append, List.flatMap_append, List.flatMap_cons, List.flatMap_singleton,
        selects]
      simp only [List.append_assoc]
  · refine ⟨traces.flatMap select, [], (List.append_nil _).symm, ?_⟩
    rw [List.flatMap_append, List.flatMap_singleton, List.append_nil]

/-- An event is later than all there are. -/
def Later (traces : List (List TraceEvent)) (event : TraceEvent) : Prop :=
  ∀ other ∈ traces.flatten, other.sequence < event.sequence

/-- An event that is later than all others is the last of the merged verdicts, if it is one. -/
theorem verdictsOf_appendTo (node : Nat) {event : TraceEvent} {traces : List (List TraceEvent)}
    (later : Later traces event) :
    verdictsOf (appendTo node event traces) = verdictsOf traces ++ verdictEvents [event] := by
  obtain ⟨before, after, split, joined⟩ := exists_flatMap_appendTo verdictEvents
    (fun trace event => Trace.verdictEvents_append trace [event]) node event traces
  unfold verdictsOf
  rw [joined, split]
  cases verdict : event.isVerdict with
  | false =>
    rw [verdictEvents, List.filter_cons_of_neg (by simp [verdict]), List.filter_nil,
      List.nil_append, List.append_nil]
  | true =>
    rw [verdictEvents, List.filter_cons_of_pos verdict, List.filter_nil, List.singleton_append]
    refine Sorting.insertionSort_insert_last TraceEvent.sequence fun other member => ?_
    rw [← split, List.mem_flatMap] at member
    obtain ⟨trace, isTrace, inTrace⟩ := member
    exact later other (List.mem_flatten.mpr ⟨trace, isTrace, List.mem_of_mem_filter inTrace⟩)

theorem mem_flatten_appendTo {node : Nat} {event other : TraceEvent}
    {traces : List (List TraceEvent)} (member : other ∈ (appendTo node event traces).flatten) :
    other = event ∨ other ∈ traces.flatten := by
  obtain ⟨before, after, split, joined⟩ := exists_flatMap_appendTo id (fun _ _ => rfl) node event
    traces
  rw [List.flatMap_id] at split joined
  rw [joined] at member
  rw [split]
  simp only [id_eq, List.mem_append, List.mem_singleton] at member ⊢
  tauto

/-! ### Loops and coroutines in turn -/

/-- What happens next in a session: a loop records an event and hands nothing over; a loop approves
a call and hands its tool over; a coroutine function is called or awaited, or the like; and the
world may change besides. -/
inductive Turn (S : Setting)
  | emit (node : Nat) (event : TraceEvent)
  | approve (node : Nat) (event : TraceEvent) (name : PyStr) (args : Args S)
  | act (request : Request S)
  | environment (change : S.World → S.World)

/-- The request is for a tool. -/
def Request.IsCall : Request S → Prop
  | .call _ _ | .callable _ _ => True
  | _ => False

namespace Turn

/-- What is recorded in this turn. -/
def event : Turn S → Option TraceEvent
  | .emit _ event | .approve _ event _ _ => some event
  | _ => none

/-- The verdict among it. -/
def verdict (turn : Turn S) : Option TraceEvent := turn.event.filter TraceEvent.isVerdict

section

variable (tree : Tree S) (tools : List (PyStr × Tool S)) (surface : Surface S) (limit : Nat)

def record (node : Nat) (event : TraceEvent) : ToolMethod S Unit :=
  modify fun state => { state with world := tree.emit node event state.world }

def method : Turn S → ToolMethod S (Option (Object S))
  | .emit node event => do
    record tree node event
    return none
  | .approve node event name args => do
    record tree node event
    surface.serve limit (.callable name args)
  | .act request => surface.serve limit request
  | .environment change => do
    modify fun state => { state with world := change state.world }
    return none

/-- A tool is handed over with its approval and not otherwise, and only loops write traces. -/
def Proper : Turn S → Prop
  | .emit _ event => event.isVerdict = true → event.denied = true
  | .approve _ event name _ =>
    event.isVerdict = true ∧ event.denied = false ∧ (tools.lookup name).isSome
  | .act request => ¬ request.IsCall
  | .environment change => ∀ world, tree.traces (change world) = tree.traces world

end

end Turn

/-- The machine of the loops of a session and its coroutines. -/
def turnMachine (tree : Tree S) (surface : Surface S) (limit : Nat) :
    Machine (State S) (Turn S) (Except (Raised S) (Option (Object S))) where
  answer state turn := outcome (turn.method tree surface limit) state
  next state turn := final (turn.method tree surface limit) state

/-- The record of a call that came to this. -/
def recordOf (name : PyStr) (args : Args S) (result : Except (Raised S) (Object S)) :
    RecordedCall S where
  tool := name
  args := args
  executed := result.isOk
  result := result.toOption

/-- The record of what was handed over in a transition. -/
def handedOver (step : Transition (State S) (Turn S) (Except (Raised S) (Option (Object S)))) :
    Option (RecordedCall S) :=
  match step.operation with
  | .approve _ _ name args => some {
      tool := name
      args := args
      executed := step.answer.isOk
      result := step.answer.toOption.join }
  | _ => none

/-! ### What other code does -/

/-- The other code leaves the traces to the loops, and calls no tools itself. -/
structure Delegates (tree : Tree S) (tools : List (PyStr × Tool S))
    (programs : S.Program → Code S (Object S)) : Prop where
  tools : ∀ entry ∈ tools, entry.2.Tame tree.traces fun request => ¬ request.IsCall
  programs : ∀ program, Tame tree.traces (fun request => ¬ request.IsCall) (programs program)

/-- No trace is longer, and no record is made or written in. -/
structure Silent (tree : Tree S) (before after : State S) : Prop where
  traces : tree.traces after.world = tree.traces before.world
  calls : after.calls = before.calls

instance (tree : Tree S) : Std.Refl (Silent tree) where
  refl _ := ⟨rfl, rfl⟩

instance (tree : Tree S) : IsTrans (State S) (Silent tree) where
  trans _ _ _ one two := ⟨two.traces.trans one.traces, two.calls.trans one.calls⟩

/-- The coroutines that are still to run leave the traces and the tools alone. -/
abbrev Delegated (tree : Tree S) (state : State S) : Prop :=
  Tamed tree.traces (fun request => ¬ request.IsCall) (fun _ => True) state

abbrev WithinSilence (tree : Tree S) (before after : State S) : Prop :=
  Within tree.traces (fun request => ¬ request.IsCall) (fun _ => True) (Silent tree) before after

section Turning

variable {tree : Tree S}

theorem silent_quietly : QuietWithin tree.traces (fun _ => True) (Silent tree) :=
  fun _ _ sameTraces _ sameCalls _ _ => ⟨trivial, sameTraces, sameCalls⟩

/-- Entering and leaving a frame is silent. -/
theorem silent_call {α : Type} {entered : Happening S}
    {left : Except (Raised S) α → Happening S} {body : Nat → ToolMethod S α}
    (keeps : ∀ frame state, WithinSilence tree state (final (body frame) state))
    (state : State S) :
    WithinSilence tree state (final (journal.call entered left body) state) :=
  within_call (fun _ _ => ⟨trivial, rfl, rfl⟩) (fun _ _ _ _ => ⟨trivial, rfl, rfl⟩) keeps state

theorem silent_serve {tools : List (PyStr × Tool S)} {programs : S.Program → Code S (Object S)}
    (delegates : Delegates tree tools programs) (limit : Nat) :
    ServesWithin tree.traces (fun request => ¬ request.IsCall) (fun _ => True) (Silent tree)
      ((streaming tools programs).serve limit) := by
  refine within_serve silent_quietly (fun _ _ _ _ allowed => absurd trivial allowed)
    (fun _ _ _ _ _ allowed => absurd trivial allowed) (fun predicate _ state => ?_)
    delegates.programs (fun target body keeps state => ?_) limit
  · exact within_of_related rfl fun _ => ⟨trivial, rfl, rfl⟩
  · exact silent_call (fun _ => keeps) state

/-! ### A tool is handed over -/

/-- The last record, with what its call kept. -/
theorem modify_length_append (calls : List (RecordedCall S)) (call : RecordedCall S)
    (change : RecordedCall S → RecordedCall S) :
    (calls ++ [call]).modify calls.length change = calls ++ [change call] := by
  induction calls with
  | nil => rfl
  | cons first rest inductionHypothesis => exact congrArg (first :: ·) inductionHypothesis

/-- A recorded tool makes one record, of what it came to. -/
theorem calls_recordedBody {serve : Service S}
    (serves : ServesWithin tree.traces (fun request => ¬ request.IsCall) (fun _ => True)
      (Silent tree) serve) {tool : Tool S}
    (tame : tool.Tame tree.traces fun request => ¬ request.IsCall) (name : PyStr)
    (kwargs : Args S) (frame : Nat) {state : State S} (delegated : Delegated tree state) :
    let left := final (recordedBody serve name tool kwargs frame) state
    Delegated tree left ∧ tree.traces left.world = tree.traces state.world ∧
      left.calls = state.calls ++
        [recordOf name kwargs (outcome (recordedBody serve name tool kwargs frame) state)] := by
  dsimp only
  rw [recordedBody_eq]
  let opened : State S :=
    { state with
      calls := state.calls ++ [{ tool := name, args := kwargs }]
      log := (state.log.add frame (.recorded state.calls.length name kwargs)).add frame
        (.invoked name kwargs) }
  obtain ⟨after, silent⟩ := within_toolRun silent_quietly serves tame kwargs opened
    ⟨delegated.pending, trivial⟩
  let rest (result : Object S) : ToolMethod S (Object S) := do
    journal.note frame (.produced result)
    keepResult frame state.calls.length result
    return result
  show Delegated tree (final (tool.run serve kwargs >>= rest) opened) ∧
    tree.traces (final (tool.run serve kwargs >>= rest) opened).world = _ ∧
      (final (tool.run serve kwargs >>= rest) opened).calls = state.calls ++
        [recordOf name kwargs (outcome (tool.run serve kwargs >>= rest) opened)]
  rw [final_bind, outcome_bind]
  cases outcome (tool.run serve kwargs) opened with
  | error error => exact ⟨after, silent.traces, silent.calls⟩
  | ok result =>
    refine ⟨⟨after.pending, trivial⟩, silent.traces, ?_⟩
    show (final (tool.run serve kwargs) opened).calls.modify state.calls.length
      (RecordedCall.execute result) = _
    rw [silent.calls]
    exact modify_length_append _ _ _

/-- What a wrapped tool is found under. -/
theorem lookup_recordTools (tools : List (PyStr × Tool S)) (serve : Service S) (name : PyStr) :
    (recordTools tools serve).lookup name = (tools.lookup name).map fun tool kwargs =>
      journal.call (.entered name kwargs) .left (recordedBody serve name tool kwargs) := by
  unfold recordTools
  induction tools with
  | nil => rfl
  | cons entry rest inductionHypothesis =>
    rw [List.map_cons, List.lookup_cons, List.lookup_cons]
    cases same : name == entry.1 with
    | true =>
      rw [eq_of_beq same]
      rfl
    | false => exact inductionHypothesis

/-- Whether the call returned or raised, there is one record more, and it says so. -/
theorem calls_serve {tools : List (PyStr × Tool S)} {programs : S.Program → Code S (Object S)}
    (delegates : Delegates tree tools programs) (limit : Nat) {name : PyStr}
    (listed : (tools.lookup name).isSome) (args : Args S) {state : State S}
    (delegated : Delegated tree state) :
    let served := (streaming tools programs).serve (limit + 1) (.callable name args)
    Delegated tree (final served state) ∧
      tree.traces (final served state).world = tree.traces state.world ∧
      (final served state).calls = state.calls ++ [{
        tool := name
        args := args
        executed := (outcome served state).isOk
        result := (outcome served state).toOption.join }] := by
  intro served
  obtain ⟨tool, found⟩ := Option.isSome_iff_exists.mp listed
  generalize serving : (streaming tools programs).serve limit = serve
  have serves := silent_serve delegates limit
  rw [serving] at serves
  have same : served = some <$> journal.call (.entered name args) .left
      (recordedBody serve name tool args) := by
    show (streaming tools programs).answer _ (.callable name args) = _
    rw [serving]
    simp only [Surface.answer, streaming, lookup_recordTools, found, Option.map_some]
  have entered : Delegated tree (journal.entering (.entered name args) state) :=
    ⟨delegated.pending, trivial⟩
  obtain ⟨after, traces, calls⟩ := calls_recordedBody serves
    (delegates.tools _ (mem_of_lookup found)) name args (journal.log state).frames entered
  rw [same, final_map, outcome_map, Journal.final_call, Journal.outcome_call]
  refine ⟨⟨after.pending, trivial⟩, traces, calls.trans ?_⟩
  cases outcome (recordedBody serve name tool args (journal.log state).frames)
    (journal.entering (.entered name args) state) <;> rfl

end Turning

/-! ### A run -/

section Running

variable (limit : Nat) {tree : Tree S} {tools : List (PyStr × Tool S)}
  {programs : S.Program → Code S (Object S)}

/-- A turn adds its event to the traces, and a record if it hands a tool over. -/
theorem turn_step (delegates : Delegates tree tools programs) {turn : Turn S}
    (proper : turn.Proper tree tools) {state : State S} (delegated : Delegated tree state) :
    let machine := turnMachine tree (streaming tools programs) (limit + 1)
    let left := machine.next state turn
    Delegated tree left ∧
      left.calls = state.calls ++ (handedOver (machine.transition state turn)).toList ∧
      (turn.event = none → tree.traces left.world = tree.traces state.world) ∧
      ∀ event, turn.event = some event → ∃ node,
        tree.traces left.world = appendTo node event (tree.traces state.world) := by
  intro machine left
  cases turn with
  | emit node event =>
    refine ⟨⟨delegated.pending, trivial⟩, (List.append_nil _).symm, ?_, fun _ same => ?_⟩
    · intro none
      cases none
    · cases same
      exact ⟨node, tree.traces_emit node event state.world⟩
  | approve node event name args =>
    obtain ⟨_, _, listed⟩ := proper
    let recorded : State S := { state with world := tree.emit node event state.world }
    have kept : Delegated tree recorded := ⟨delegated.pending, trivial⟩
    obtain ⟨after, traces, calls⟩ := calls_serve delegates limit listed args kept
    refine ⟨after, calls, ?_, fun _ same => ?_⟩
    · intro none
      cases none
    · cases same
      exact ⟨node, traces.trans (tree.traces_emit node event state.world)⟩
  | act request =>
    obtain ⟨after, silent⟩ := silent_serve delegates (limit + 1) request proper state delegated
    refine ⟨after, silent.calls.trans (List.append_nil _).symm, fun _ => silent.traces, ?_⟩
    intro event none
    cases none
  | environment change =>
    refine ⟨⟨delegated.pending, trivial⟩, (List.append_nil _).symm, fun _ => ?_, ?_⟩
    · exact proper state.world
    · intro event none
      cases none

/-- And a verdict to the merged verdicts, if its event is later than all others. -/
theorem verdictsOf_step (delegates : Delegates tree tools programs) {turn : Turn S}
    (proper : turn.Proper tree tools) {state : State S} (delegated : Delegated tree state)
    (later : ∀ event, turn.event = some event → Later (tree.traces state.world) event) :
    let left := (turnMachine tree (streaming tools programs) (limit + 1)).next state turn
    verdictsOf (tree.traces left.world) =
        verdictsOf (tree.traces state.world) ++ turn.verdict.toList ∧
      ∀ other ∈ (tree.traces left.world).flatten,
        turn.event = some other ∨ other ∈ (tree.traces state.world).flatten := by
  intro left
  obtain ⟨_, _, same, longer⟩ := turn_step limit delegates proper delegated
  unfold Turn.verdict
  cases recorded : turn.event with
  | none =>
    rw [same recorded]
    exact ⟨(List.append_nil _).symm, fun other member => .inr member⟩
  | some event =>
    obtain ⟨node, traces⟩ := longer event recorded
    rw [traces, verdictsOf_appendTo node (later event recorded)]
    refine ⟨congrArg _ ?_, fun other member => ?_⟩
    · cases verdict : event.isVerdict <;> simp [verdictEvents, Option.filter, verdict]
    · rcases mem_flatten_appendTo member with rfl | old
      · exact .inl rfl
      · exact .inr old

theorem toList_append_filterMap {α β : Type} (select : α → Option β) (first : α) (rest : List α) :
    (select first).toList ++ rest.filterMap select = (first :: rest).filterMap select := by
  cases given : select first with
  | none => rw [List.filterMap_cons_none given]; rfl
  | some item => rw [List.filterMap_cons_some given]; rfl

/-- What a transition of a loop brings into the trace of the session. -/
def pairOf (step : Transition (State S) (Turn S) (Except (Raised S) (Option (Object S)))) :
    Option (Option (RecordedCall S) × TraceEvent) :=
  step.operation.verdict.map fun event => (handedOver step, event)

/-- The records and the verdicts of a run, in order. The induction is on the rest of the run: what
it is still to record is later than what is there. -/
theorem turn_run (delegates : Delegates tree tools programs) {turns : List (Turn S)}
    (proper : ∀ turn ∈ turns, turn.Proper tree tools)
    (increasing : ((turns.filterMap Turn.event).map TraceEvent.sequence).Pairwise (· < ·))
    {state : State S} (delegated : Delegated tree state)
    (later : ∀ event ∈ turns.filterMap Turn.event, Later (tree.traces state.world) event) :
    let machine := turnMachine tree (streaming tools programs) (limit + 1)
    let left := machine.run state turns
    left.calls = state.calls ++ (machine.history state turns).filterMap handedOver ∧
      verdictsOf (tree.traces left.world) =
        verdictsOf (tree.traces state.world) ++ turns.filterMap Turn.verdict := by
  intro machine
  induction turns generalizing state with
  | nil => exact ⟨(List.append_nil _).symm, (List.append_nil _).symm⟩
  | cons turn rest inductionHypothesis =>
    rw [List.forall_mem_cons] at proper
    have soon : ∀ event, turn.event = some event →
        event ∈ (turn :: rest).filterMap Turn.event := fun event recorded =>
      List.mem_filterMap.mpr ⟨turn, List.mem_cons_self, recorded⟩
    obtain ⟨after, calls, _, _⟩ := turn_step limit delegates proper.1 delegated
    obtain ⟨verdicts, there⟩ := verdictsOf_step limit delegates proper.1 delegated
      fun event recorded => later event (soon event recorded)
    have still : ((rest.filterMap Turn.event).map TraceEvent.sequence).Pairwise (· < ·) := by
      refine increasing.sublist (List.Sublist.map _ ?_)
      exact (List.sublist_cons_self turn rest).filterMap Turn.event
    obtain ⟨laterCalls, laterVerdicts⟩ := inductionHypothesis proper.2 still after
      fun event member other inTraces => by
        rcases there other inTraces with recorded | old
        · rw [List.filterMap_cons_some recorded, List.map_cons, List.pairwise_cons] at increasing
          exact increasing.1 _ (List.mem_map_of_mem member)
        · refine later event ?_ other old
          obtain ⟨source, isLater, recorded⟩ := List.mem_filterMap.mp member
          exact List.mem_filterMap.mpr ⟨source, List.mem_cons_of_mem _ isLater, recorded⟩
    refine ⟨laterCalls.trans ?_, laterVerdicts.trans ?_⟩
    · rw [calls, List.append_assoc, toList_append_filterMap]
      rfl
    · rw [verdicts, List.append_assoc, toList_append_filterMap]

/-- What a turn brings lines up: its record, if it hands a tool over, with its verdict. -/
theorem linesUp_turn (surface : Surface S) {turn : Turn S} (proper : turn.Proper tree tools)
    (state : State S) :
    let step := (turnMachine tree surface limit).transition state turn
    LinesUp .executionsOnly (handedOver step).toList turn.verdict.toList (pairOf step).toList := by
  intro step
  cases turn with
  | act request => exact .nil
  | environment change => exact .nil
  | approve node event name args =>
    obtain ⟨isVerdict, approved, _⟩ := proper
    have judged : (Turn.approve node event name args : Turn S).verdict = some event := by
      simp [Turn.verdict, Turn.event, isVerdict]
    have paired : pairOf step = some (handedOver step, event) := congrArg (Option.map _) judged
    rw [judged, paired]
    exact .taken (by simp [takesCall, approved]) .nil
  | emit node event =>
    cases isVerdict : event.isVerdict with
    | false =>
      have unjudged : (Turn.emit node event : Turn S).verdict = none := by
        simp [Turn.verdict, Turn.event, isVerdict]
      have unpaired : pairOf step = none := congrArg (Option.map _) unjudged
      rw [unjudged, unpaired]
      exact .nil
    | true =>
      have judged : (Turn.emit node event : Turn S).verdict = some event := by
        simp [Turn.verdict, Turn.event, isVerdict]
      have paired : pairOf step = some (handedOver step, event) := congrArg (Option.map _) judged
      rw [judged, paired]
      exact .alone (by simp [takesCall, proper isVerdict]) .nil

theorem linesUp_history (surface : Surface S) {turns : List (Turn S)}
    (proper : ∀ turn ∈ turns, turn.Proper tree tools) (state : State S) :
    let history := (turnMachine tree surface limit).history state turns
    LinesUp .executionsOnly (history.filterMap handedOver) (turns.filterMap Turn.verdict)
      (history.filterMap pairOf) := by
  intro history
  induction turns generalizing state with
  | nil => exact .nil
  | cons turn rest inductionHypothesis =>
    rw [List.forall_mem_cons] at proper
    have joined := (linesUp_turn limit surface proper.1 state).append
      (inductionHypothesis proper.2 ((turnMachine tree surface limit).next state turn))
    rw [toList_append_filterMap, toList_append_filterMap, toList_append_filterMap] at joined
    exact joined

/-- What a run leaves of a session that had recorded nothing. -/
theorem streamed_run (delegates : Delegates tree tools programs) {world : S.World}
    (fresh : (tree.traces world).flatten = []) (admission : Option S.Predicate)
    {turns : List (Turn S)} (proper : ∀ turn ∈ turns, turn.Proper tree tools)
    (increasing : ((turns.filterMap Turn.event).map TraceEvent.sequence).Pairwise (· < ·)) :
    let machine := turnMachine tree (streaming tools programs) (limit + 1)
    let start : State S := { world := world, admission := admission }
    let left := machine.run start turns
    left.calls = (machine.history start turns).filterMap handedOver ∧
      verdictsOf (tree.traces left.world) = turns.filterMap Turn.verdict := by
  intro machine start left
  have delegated : Delegated tree start := ⟨fun _ member => absurd member List.not_mem_nil, trivial⟩
  obtain ⟨calls, verdicts⟩ := turn_run limit delegates proper increasing delegated
    fun _ _ other member => by
      rw [fresh] at member
      exact absurd member List.not_mem_nil
  have none : verdictsOf (tree.traces world) = [] := by
    have empty := List.flatten_eq_nil_iff.mp fresh
    unfold verdictsOf
    rw [List.flatMap_eq_nil_iff.mpr fun trace member => by rw [empty trace member]; rfl]
    rfl
  rw [none, List.nil_append] at verdicts
  exact ⟨calls, verdicts⟩

/-! ### The trace of the session -/

/-- The record, as the builder of a trace takes it. -/
def sessionTrace (tree : Tree S) (kernel : Trace.Kernel) (objects : Trace.Objects (Object S))
    (given : Trace.Material (Object S)) (state : State S) :
    Except Trace.BuildError (Trace.Document (Object S)) :=
  Trace.traceOfSession kernel objects (tree.traces state.world)
    { given with calls := state.calls.map RecordedCall.traced }

/-- What the builder goes through. -/
def sessionMaterial (tree : Tree S) (given : Trace.Material (Object S)) (state : State S) :
    Trace.Material (Object S) :=
  { given with
    calls := state.calls.map RecordedCall.traced
    traceEvents := verdictsOf (tree.traces state.world)
    observes := .executionsOnly }

theorem verdictEvents_verdicts (turns : List (Turn S)) :
    verdictEvents (turns.filterMap Turn.verdict) = turns.filterMap Turn.verdict := by
  refine List.filter_eq_self.mpr fun event member => ?_
  obtain ⟨turn, _, among⟩ := List.mem_filterMap.mp member
  exact (Option.filter_eq_some_iff.mp among).2

/-- The pairs of a run are those its turns bring. -/
theorem pairs_sessionMaterial (delegates : Delegates tree tools programs) {world : S.World}
    (fresh : (tree.traces world).flatten = []) (admission : Option S.Predicate)
    {turns : List (Turn S)} (proper : ∀ turn ∈ turns, turn.Proper tree tools)
    (increasing : ((turns.filterMap Turn.event).map TraceEvent.sequence).Pairwise (· < ·))
    (given : Trace.Material (Object S)) :
    let machine := turnMachine tree (streaming tools programs) (limit + 1)
    let start : State S := { world := world, admission := admission }
    (sessionMaterial tree given (machine.run start turns)).pairs =
      .ok (((machine.history start turns).filterMap pairOf).map fun pair =>
        (pair.1.map RecordedCall.traced, pair.2)) := by
  intro machine start
  obtain ⟨calls, verdicts⟩ := streamed_run limit delegates fresh admission proper increasing
  have linesUp := linesUp_history (limit + 1) (streaming tools programs) proper start
  unfold Trace.Material.pairs sessionMaterial
  rw [Trace.paired_eq_ok_iff, calls, verdicts, verdictEvents_verdicts]
  exact linesUp.map RecordedCall.traced

/-- **A streaming session traces what it approved.** Over any run in which the loops of all nodes
hand tools over in the turns they approve them, nothing else calls them, and the kernel numbers its
events through over the nodes, the recorder has one record for each, in that order, of what the call
came to; the verdicts of all traces merge to the order they were given in; and pairing puts each
approval beside the record of the call that was handed over with it, and each denial beside none. So
no trace is refused for a misalignment. Were each node's events numbered by themselves, the merge
would not give the order of the session. -/
theorem streamed_traceable (delegates : Delegates tree tools programs) {world : S.World}
    (fresh : (tree.traces world).flatten = []) (admission : Option S.Predicate)
    {turns : List (Turn S)} (proper : ∀ turn ∈ turns, turn.Proper tree tools)
    (increasing : ((turns.filterMap Turn.event).map TraceEvent.sequence).Pairwise (· < ·)) :
    let machine := turnMachine tree (streaming tools programs) (limit + 1)
    let start : State S := { world := world, admission := admission }
    let history := machine.history start turns
    let left := machine.run start turns
    left.calls = history.filterMap handedOver ∧
      verdictsOf (tree.traces left.world) = turns.filterMap Turn.verdict ∧
      Trace.paired left.calls (verdictsOf (tree.traces left.world)) .executionsOnly =
        .ok (history.filterMap pairOf) ∧
      ∀ kernel objects given misalignment,
        sessionTrace tree kernel objects given left ≠ .error (.traceBuild misalignment) := by
  intro machine start history left
  obtain ⟨calls, verdicts⟩ := streamed_run limit delegates fresh admission proper increasing
  refine ⟨calls, verdicts, ?_, fun kernel objects given misalignment raised => ?_⟩
  · rw [calls, verdicts, Trace.paired_eq_ok_iff]
    exact linesUp_history (limit + 1) (streaming tools programs) proper start
  · have paired := pairs_sessionMaterial limit delegates fresh admission proper increasing given
    exact Trace.buildTrace_ne_traceBuild paired misalignment raised

/-- **The trace of a session only grows.** When a session whose events are numbered through goes on
and has a trace in the end, it had one at every moment before, as far as what it recorded still
reads as it did then. That one has the same events and values, under the same numbers and ids, as
far as it goes, and differs in nothing else. -/
theorem session_trace_grows (delegates : Delegates tree tools programs) {world : S.World}
    (fresh : (tree.traces world).flatten = []) (admission : Option S.Predicate)
    {earlier later : List (Turn S)} (proper : ∀ turn ∈ earlier ++ later, turn.Proper tree tools)
    (increasing :
      (((earlier ++ later).filterMap Turn.event).map TraceEvent.sequence).Pairwise (· < ·))
    (kernel : Trace.Kernel) (objects : Trace.Objects (Object S))
    (given : Trace.Material (Object S)) {document : Trace.Document (Object S)} :
    let machine := turnMachine tree (streaming tools programs) (limit + 1)
    let start : State S := { world := world, admission := admission }
    sessionTrace tree kernel objects given (machine.run start (earlier ++ later)) = .ok document →
    ∃ before, sessionTrace tree kernel objects given (machine.run start earlier) = .ok before ∧
      document.GoesOn before := by
  intro machine start returned
  have properEarlier := (List.forall_mem_append.mp proper).1
  have increasingEarlier :
      ((earlier.filterMap Turn.event).map TraceEvent.sequence).Pairwise (· < ·) := by
    rw [List.filterMap_append, List.map_append] at increasing
    exact (List.pairwise_append.mp increasing).1
  have first := pairs_sessionMaterial limit delegates fresh admission properEarlier
    increasingEarlier given
  have all := pairs_sessionMaterial limit delegates fresh admission proper increasing given
  simp only [Machine.history_append, List.filterMap_append, List.map_append] at all
  exact Trace.buildTrace_append first all returned

end Running

/-! ### A session of two nodes -/

/-- A world in which there are only traces. -/
abbrev tracedSetting : Setting where
  World := List (List TraceEvent)
  Predicate := Unit
  Program := Unit
  Plain := Nat
  Verdict := Unit
  Foreign := Unit

def bareTree : Tree tracedSetting where
  traces := id
  emit := appendTo
  traces_emit _ _ _ := rfl

/-- One tool returns a number, and the other raises. -/
def mailTools : List (PyStr × Tool tracedSetting) :=
  [("read_inbox", .function fun _ => .done (.plain 1)),
    ("send_email", .function fun _ => .raise .runtimeError)]

def noOtherPrograms (_ : Unit) : Code tracedSetting (Object tracedSetting) := .done (.plain 0)

def judged (sequence : Int) (kind : Trace.TraceEventKind) : TraceEvent where
  nodeId := "node"
  sequence := sequence
  payload := [(.str "category", .str "budget")]
  class_ := .plain kind none

theorem mailDelegates : Delegates bareTree mailTools noOtherPrograms where
  tools entry member := by
    simp only [mailTools, List.mem_cons, List.not_mem_nil, or_false] at member
    rcases member with rfl | rfl
    · exact fun _ => ⟨fun _ => trivial, trivial⟩
    · exact fun _ => ⟨fun _ => trivial, trivial⟩
  programs _ := ⟨fun _ => trivial, trivial⟩

/-- The parent reads, and its child is denied something. -/
def untilDenied : List (Turn tracedSetting) :=
  [.approve 0 (judged 1 .intentApproved) "read_inbox" [], .emit 1 (judged 2 .childSpawned),
    .emit 1 (judged 3 .intentDenied)]

/-- Then the child sends, while the parent goes on. -/
def thenSends : List (Turn tracedSetting) :=
  [.approve 1 (judged 4 .intentApproved) "send_email" [], .emit 0 (judged 5 .childCompleted)]

theorem untilDenied_proper :
    ∀ turn ∈ untilDenied ++ thenSends, turn.Proper bareTree mailTools := by
  intro turn member
  simp only [untilDenied, thenSends, List.cons_append, List.nil_append, List.mem_cons,
    List.not_mem_nil, or_false] at member
  rcases member with rfl | rfl | rfl | rfl | rfl
  · exact ⟨by decide, by decide, by decide⟩
  · exact fun isVerdict => absurd isVerdict (by decide)
  · exact fun _ => by decide
  · exact ⟨by decide, by decide, by decide⟩
  · exact fun isVerdict => absurd isVerdict (by decide)

theorem bareTree_fresh : (bareTree.traces []).flatten = [] := rfl

theorem untilDenied_increasing :
    (((untilDenied ++ thenSends).filterMap Turn.event).map TraceEvent.sequence).Pairwise
      (· < ·) := by
  decide

theorem streamed_traceable_child :
    let machine := turnMachine bareTree (streaming mailTools noOtherPrograms) 2
    let start : State tracedSetting := { world := [], admission := none }
    let left := machine.run start (untilDenied ++ thenSends)
    left.calls.map RecordedCall.executed = [true, false] ∧
      verdictsOf left.world = [judged 1 .intentApproved, judged 3 .intentDenied,
        judged 4 .intentApproved] ∧
      ∃ pairs, Trace.paired left.calls (verdictsOf left.world) .executionsOnly = .ok pairs ∧
        pairs.map (fun pair => pair.1.map RecordedCall.tool) =
          [some (PyStr.ofString "read_inbox"), none, some (PyStr.ofString "send_email")] := by
  intro machine start left
  obtain ⟨calls, verdicts, paired, _⟩ := streamed_traceable 1 mailDelegates bareTree_fresh none
    untilDenied_proper untilDenied_increasing
  refine ⟨?_, verdicts, _, paired, ?_⟩
  · rw [calls]
    rfl
  · rfl

/-- Objects that nothing is seen of. -/
theorem session_trace_grows_child :
    let machine := turnMachine bareTree (streaming mailTools noOtherPrograms) 2
    let start : State tracedSetting := { world := [], admission := none }
    ∃ before document,
      sessionTrace bareTree Trace.Kernel.trial Trace.Objects.trial Trace.Material.empty
        (machine.run start untilDenied) = .ok before ∧
      sessionTrace bareTree Trace.Kernel.trial Trace.Objects.trial Trace.Material.empty
        (machine.run start (untilDenied ++ thenSends)) = .ok document ∧
      document.GoesOn before := by
  intro machine start
  have returns : (sessionTrace bareTree Trace.Kernel.trial Trace.Objects.trial Trace.Material.empty
      (machine.run start (untilDenied ++ thenSends))).isOk = true := by
    decide +kernel
  obtain ⟨document, returned⟩ := Checks.exists_of_isOk returns
  obtain ⟨before, there, goesOn⟩ := session_trace_grows 1 mailDelegates bareTree_fresh none
    untilDenied_proper untilDenied_increasing Trace.Kernel.trial Trace.Objects.trial
    Trace.Material.empty returned
  exact ⟨before, document, there, returned, goesOn⟩

end AxorWrap.Runtime
