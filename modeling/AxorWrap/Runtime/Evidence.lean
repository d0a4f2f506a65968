/-
This file proves that the trace of a recording toolset says what happened. Three
parties keep an account of a session: the governor reports verdicts, the recorder
makes records, and the calls are what they are. The trace is put together from the
first two by place alone, so it is right only if they went along with the third.

The governor is one that reports what it answers, and all other code leaves its
verdicts alone. Then the trace has a segment for each call that asked the governor,
in order, with its tool and the answer that this very call was given. Under
enforcement a denial in the trace is of a tool that was never invoked, and every
tool that was invoked is in it.
-/

import AxorWrap.Runtime.Tame

namespace AxorWrap.Runtime

open Python Methods Scripts Journals Machines
open Trace (TraceEvent verdictEvents_append verdictEvents Kernel Objects Material EventBody
  Document)

variable {S : Setting}

/-! ### Answers and verdicts -/

/-- What the governor answered, to the call that asked. -/
def answered : Nat × Happening S → Option (Nat × Decision S)
  | (frame, .decided decision) => some (frame, decision)
  | _ => none

/-- What the governor answered, in order. -/
def answers (events : List (Nat × Happening S)) : List (Nat × Decision S) :=
  events.filterMap answered

theorem answers_append (first second : List (Nat × Happening S)) :
    answers (first ++ second) = answers first ++ answers second :=
  List.filterMap_append ..

/-- The verdict that evaluating reports says what the governor answers. -/
structure Announces (toolset : Toolset S) (programs : S.Program → Code S (Object S))
    (traceEvents : S.World → List TraceEvent) : Prop
    extends Reports toolset programs traceEvents where
  announces : ∀ name args world decision left event,
    (toolset.governor.evaluate name args).alone world = some (.ok decision, left) →
    verdictsIn traceEvents left = verdictsIn traceEvents world ++ [event] →
    event.denied = !decision.allowed

/-- The calls that asked are those that were answered, and the verdicts say what they were. -/
structure Answering (events : List (Nat × Happening S)) (verdicts : List TraceEvent) : Prop where
  frames : (answers events).map Prod.fst = (consultations events).map Prod.fst
  verdicts : verdicts.map TraceEvent.denied =
    (answers events).map fun answer => !answer.2.allowed

theorem Answering.append {first second : List (Nat × Happening S)}
    {early late : List TraceEvent} (one : Answering first early) (two : Answering second late) :
    Answering (first ++ second) (early ++ late) where
  frames := by
    rw [answers_append, consultations_append, List.map_append, List.map_append, one.frames,
      two.frames]
  verdicts := by
    rw [answers_append, List.map_append, List.map_append, one.verdicts, two.verdicts]

/-- What was noted since, and what was reported since, go together. -/
def Answers (traceEvents : S.World → List TraceEvent) (before after : State S) : Prop :=
  ∃ segment verdicts, after.log.events = before.log.events ++ segment ∧
    verdictsIn traceEvents after.world = verdictsIn traceEvents before.world ++ verdicts ∧
    Answering segment verdicts

/-- And the coroutines that are still to run go on leaving the verdicts alone. -/
abbrev KeepsAnswers (traceEvents : S.World → List TraceEvent) (before after : State S) : Prop :=
  Within (verdictsIn traceEvents) (fun _ => True) (fun _ => True) (Answers traceEvents)
    before after

/-- The verdicts in the world say what the calls so far were answered. -/
def Agreed (traceEvents : S.World → List TraceEvent) (state : State S) : Prop :=
  Tamed (verdictsIn traceEvents) (fun _ => True) (fun _ => True) state ∧
    Answering state.log.events (verdictsIn traceEvents state.world)

section Answers

variable {traceEvents : S.World → List TraceEvent}

theorem answers_of_same {before after : State S} (sameEvents : after.log.events = before.log.events)
    (sameVerdicts : verdictsIn traceEvents after.world = verdictsIn traceEvents before.world) :
    Answers traceEvents before after :=
  ⟨[], [], by rw [sameEvents, List.append_nil], by rw [sameVerdicts, List.append_nil], rfl, rfl⟩

instance : Std.Refl (Answers traceEvents) where
  refl _ := answers_of_same rfl rfl

instance : IsTrans (State S) (Answers traceEvents) where
  trans _ _ _ one two := by
    obtain ⟨early, reported, noted, told, answering⟩ := one
    obtain ⟨late, alsoReported, alsoNoted, alsoTold, alsoAnswering⟩ := two
    refine ⟨early ++ late, reported ++ alsoReported, ?_, ?_, answering.append alsoAnswering⟩
    · rw [alsoNoted, noted, List.append_assoc]
    · rw [alsoTold, told, List.append_assoc]

theorem answers_quietly :
    QuietWithin (verdictsIn traceEvents) (fun _ => True) (Answers traceEvents) :=
  fun _ _ sameVerdicts _ _ sameLog _ =>
    ⟨trivial, answers_of_same (congrArg Log.events sameLog) sameVerdicts⟩

theorem LeavesVerdicts.tame {α : Type} {code : Code S α}
    (leaves : LeavesVerdicts traceEvents code) :
    Tame (verdictsIn traceEvents) (fun _ => True) code :=
  ⟨leaves, code.asks_anything⟩

theorem Tool.LeavesVerdicts.tame {tool : Tool S} (leaves : tool.LeavesVerdicts traceEvents) :
    tool.Tame (verdictsIn traceEvents) fun _ => True := by
  cases tool with
  | function body => exact fun args => Runtime.LeavesVerdicts.tame (leaves args)
  | coroutineFunction bind =>
    exact fun args code bound => Runtime.LeavesVerdicts.tame (leaves args code bound)

/-- The event is neither that of the governor being asked nor that of its answer. -/
def Happening.Aside (kind : Happening S) : Prop :=
  ∀ frame, consultation (frame, kind) = none ∧ answered (frame, kind) = none

theorem answers_add {kind : Happening S} (aside : kind.Aside) (frame : Nat) {before after : State S}
    (noted : after.log.events = before.log.events ++ [(frame, kind)])
    (sameVerdicts : verdictsIn traceEvents after.world = verdictsIn traceEvents before.world) :
    Answers traceEvents before after := by
  obtain ⟨unasked, unanswered⟩ := aside frame
  refine ⟨_, [], noted, by rw [sameVerdicts, List.append_nil], ?_, ?_⟩
  · simp [answers, consultations, unasked, unanswered]
  · simp [answers, unanswered]

theorem keepsAnswers_note {kind : Happening S} (aside : kind.Aside) (frame : Nat)
    (state : State S) :
    KeepsAnswers traceEvents state (journal.update (Log.add frame kind) state) :=
  within_of_related rfl fun _ => ⟨trivial, answers_add aside frame rfl rfl⟩

theorem keepsAnswers_call {α : Type} {entered : Happening S}
    {left : Except (Raised S) α → Happening S} {body : Nat → ToolMethod S α}
    (enters : entered.Aside) (leaves : ∀ result, (left result).Aside)
    (keeps : ∀ frame state, KeepsAnswers traceEvents state (final (body frame) state))
    (state : State S) :
    KeepsAnswers traceEvents state (final (journal.call entered left body) state) :=
  within_call (R := Answers traceEvents)
    (fun _ _ => ⟨trivial, answers_add enters _ rfl rfl⟩)
    (fun _ result _ _ => ⟨trivial, answers_add (leaves result) _ rfl rfl⟩) keeps state

/-! ### A call -/

section Served

variable {serve : Service S} {toolset : Toolset S} {programs : S.Program → Code S (Object S)}
  (announces : Announces toolset programs traceEvents)
  (serves : ServesWithin (verdictsIn traceEvents) (fun _ => True) (fun _ => True)
    (Answers traceEvents) serve)

include announces serves

theorem keepsAnswers_checkAdmission (frame : Nat) (state : State S) :
    KeepsAnswers traceEvents state (final (checkAdmission toolset serve frame) state) := by
  rw [checkAdmission_eq]
  rw [final_bind_ok (outcome_get state), final_get]
  cases state.admission with
  | none => exact keepsAnswers_note (fun _ => ⟨rfl, rfl⟩) _ _
  | some predicate =>
    refine related_bind (R := KeepsAnswers traceEvents)
      (within_exec answers_quietly serves (announces.polls predicate).tame state)
      fun admitted _ => ?_
    refine related_bind (R := KeepsAnswers traceEvents)
      (keepsAnswers_note (fun _ => ⟨rfl, rfl⟩) _ _) fun _ _ => ?_
    cases admitted with
    | false => exact Std.Refl.refl _
    | true => exact Std.Refl.refl _

theorem keepsAnswers_execute (frame : Nat) {name : PyStr} {args : Args S} {tool : Tool S}
    (leaves : tool.LeavesVerdicts traceEvents) (decision : Decision S) (state : State S) :
    KeepsAnswers traceEvents state
      (final (execute toolset serve frame name args tool decision) state) := by
  unfold execute
  refine related_bind (R := KeepsAnswers traceEvents) ?_ fun recorded _ => ?_
  · unfold recordEvaluated
    split
    · rw [final_map]
      exact within_of_related rfl fun _ =>
        ⟨trivial, answers_add (fun _ => ⟨rfl, rfl⟩) frame rfl rfl⟩
    · exact Std.Refl.refl _
  · split
    · exact Std.Refl.refl _
    · rw [runTool_eq]
      refine related_bind (R := KeepsAnswers traceEvents)
        (keepsAnswers_note (fun _ => ⟨rfl, rfl⟩) _ _) fun _ _ => ?_
      refine related_bind (R := KeepsAnswers traceEvents)
        (within_toolRun answers_quietly serves leaves.tame args _) fun output _ => ?_
      refine related_bind (R := KeepsAnswers traceEvents)
        (keepsAnswers_note (fun _ => ⟨rfl, rfl⟩) _ _) fun _ _ => ?_
      refine related_bind (R := KeepsAnswers traceEvents)
        (keepsAnswers_note (fun _ => ⟨rfl, rfl⟩) _ _) fun _ _ => ?_
      refine related_bind (R := KeepsAnswers traceEvents)
        (within_exec answers_quietly serves (announces.registers decision output).tame _)
        fun _ _ => ?_
      refine related_bind (R := KeepsAnswers traceEvents) ?_ fun _ _ => Std.Refl.refl _
      cases recorded with
      | none => exact Std.Refl.refl _
      | some index =>
        exact within_of_related rfl fun _ =>
          ⟨trivial, answers_add (fun _ => ⟨rfl, rfl⟩) frame rfl rfl⟩

/-- From asking the governor on. The answer is noted before anything else can be asked. -/
theorem keepsAnswers_consult (frame : Nat) {name : PyStr} {args : Args S} {tool : Tool S}
    (leaves : tool.LeavesVerdicts traceEvents) (state : State S) :
    KeepsAnswers traceEvents state (final (evaluate toolset serve frame name args >>=
      execute toolset serve frame name args tool) state) := by
  obtain ⟨decision, left, event, alone, reported⟩ := announces.evaluates name args state.world
  obtain ⟨returned, after⟩ := evaluate_alone serve frame alone
  have answering : Answering
      [(frame, .consulted name args), (frame, .decided decision)] [event] := by
    refine ⟨rfl, ?_⟩
    rw [List.map_singleton,
      announces.announces name args state.world decision left event alone reported]
    rfl
  have asks : KeepsAnswers traceEvents state (state.answered frame name args decision left) :=
    within_of_related rfl fun _ =>
      ⟨trivial, _, [event], events_answered state frame name args decision left, reported,
        answering⟩
  rw [final_bind_ok returned, after]
  exact IsTrans.trans (r := KeepsAnswers traceEvents) _ _ _ asks
    (keepsAnswers_execute announces serves frame leaves decision _)

theorem keepsAnswers_toolsetCall (name : PyStr) (args : Args S) (state : State S) :
    KeepsAnswers traceEvents state (final (call toolset serve name args) state) := by
  refine keepsAnswers_call (fun _ => ⟨rfl, rfl⟩) (fun _ _ => ⟨rfl, rfl⟩)
    (fun frame state => ?_) state
  unfold callBody
  cases found : toolset.tools.lookup name with
  | none => exact Std.Refl.refl _
  | some tool =>
    have leaves := announces.tools (name, tool) (mem_of_lookup found)
    refine related_bind (R := KeepsAnswers traceEvents)
      (keepsAnswers_checkAdmission announces serves frame state) fun _ _ => ?_
    exact keepsAnswers_consult announces serves frame leaves _

end Served

/-! ### A run -/

variable {toolset : Toolset S} {programs : S.Program → Code S (Object S)}
  (announces : Announces toolset programs traceEvents)

include announces

/-- Whatever is asked of a session, the verdicts keep saying what its calls are answered. -/
theorem keepsAnswers_serve (limit : Nat) :
    ServesWithin (verdictsIn traceEvents) (fun _ => True) (fun _ => True) (Answers traceEvents)
      ((toolset.surface programs).serve limit) := by
  refine within_serve answers_quietly (fun serve serves name args _ state => ?_)
    (fun serve serves name kwargs wrapped _ found state => ?_) (fun predicate _ state => ?_)
    (fun program => (announces.programs program).tame) (fun target body keeps state => ?_) limit
  · exact keepsAnswers_toolsetCall announces serves name args state
  · obtain ⟨tool, _, same⟩ := Option.map_eq_some_iff.mp
      ((lookup_callables toolset serve name).symm.trans found)
    rw [← same]
    exact keepsAnswers_toolsetCall announces serves name kwargs state
  · exact within_of_related rfl fun _ => ⟨trivial, answers_of_same rfl rfl⟩
  · exact keepsAnswers_call (fun _ => ⟨rfl, rfl⟩) (fun _ _ => ⟨rfl, rfl⟩) (fun _ => keeps) state

omit announces in
theorem Agreed.of_keeps {before after : State S} (agreed : Agreed traceEvents before)
    (keeps : KeepsAnswers traceEvents before after) : Agreed traceEvents after := by
  obtain ⟨tamed, segment, verdicts, noted, reported, answering⟩ := keeps agreed.1
  refine ⟨tamed, ?_⟩
  rw [noted, reported]
  exact agreed.2.append answering

/-- And every run of the agent keeps it so, when what happens around it reports no verdicts. -/
theorem agreed_ran (limit : Nat) {world : S.World} (fresh : verdictsIn traceEvents world = [])
    (admission : Option S.Predicate) {operations : List (Operation S)}
    (silent : ∀ change, .environment change ∈ operations →
      ∀ world, verdictsIn traceEvents (change world) = verdictsIn traceEvents world) :
    Agreed traceEvents ((toolset.surface programs).ran limit world admission operations) := by
  let machine := (toolset.surface programs).machine limit
  have initially : Agreed traceEvents { world := world, admission := admission } := by
    refine ⟨⟨fun code member => absurd member List.not_mem_nil, trivial⟩, rfl, ?_⟩
    show (verdictsIn traceEvents world).map TraceEvent.denied = []
    rw [fresh]
    rfl
  refine machine.history_invariant initially (fun step member agreed => ?_) List.prefix_rfl
  obtain ⟨earlier, later, split, made⟩ := machine.mem_history member
  have isMember : step.operation ∈ operations := by
    rw [split]
    exact List.mem_append_right _ List.mem_cons_self
  have left : step.after = machine.next step.before step.operation := by
    rw [made]
    rfl
  rw [left]
  refine agreed.of_keeps ?_
  cases named : step.operation with
  | act request => exact keepsAnswers_serve announces limit request trivial step.before
  | environment change =>
    have same := silent change (named ▸ isMember) step.before.world
    exact within_of_related rfl fun _ => ⟨trivial, answers_of_same rfl same⟩

end Answers

/-! ### What a segment of a trace tells -/

/-- What a trace says of a call, of which these are the own events: the verdict is the answer it was
given, its tool was invoked exactly when the verdict or the mode lets it be, and there is a result
exactly when the tool returned and its output was registered. -/
structure Narrates (toolset : Toolset S) (mine : List (Happening S)) (name : PyStr)
    (verdict : Trace.Verdict) (results : List EventBody) : Prop where
  answered : ∃ answer, .decided answer ∈ mine ∧ (verdict = .allow ↔ answer.allowed = true)
  invoked : (∃ args, .invoked name args ∈ mine) ↔ verdict = .allow ∨ toolset.enforcement = .off
  completed : (∃ output, Completed mine output) → ∃ produced, results = [.toolResult name produced]
  incomplete : (¬ ∃ output, Completed mine output) → results = []

/-- The segment of a trace about a call that asked the governor. -/
def Told (toolset : Toolset S) (events : List (Nat × Happening S)) (asked : Nat × PyStr × Args S)
    (segment : List EventBody) : Prop :=
  ∃ callId argBindings decision results,
    segment = .toolCallIntent asked.2.1 callId argBindings :: .gateDecision callId decision ::
      results ∧
    Narrates toolset (own events asked.1) asked.2.1 decision.verdict results

/-- A trace tells of the calls that asked the governor, one after the other, and no tool was invoked
that it does not tell of. -/
structure TellsRun (toolset : Toolset S) (events : List (Nat × Happening S))
    (document : Document (Object S)) : Prop where
  segments : ∃ segments, document.events.map Trace.Event.body = segments.flatten ∧
    List.Forall₂ (Told toolset events) (consultations events) segments
  invocations : ∀ frame name args, (frame, .invoked name args) ∈ events →
    (frame, name, args) ∈ consultations events

section Telling

variable {toolset : Toolset S}

/-- A call that was answered asked about one tool, and invokes it exactly when the answer permits
it. -/
theorem Exit.invoked_iff {mine : List (Happening S)} (exit : Exit toolset mine) {name : PyStr}
    {args : Args S} (asked : .consulted name args ∈ mine) {answer : Decision S}
    (decided : .decided answer ∈ mine) :
    (∃ given, .invoked name given ∈ mine) ↔ Permitted toolset answer := by
  cases exit with
  | denied other given admitted decision recorded passed barred =>
    have same : answer = decision := by
      cases recorded <;> simpa [opening, recording] using decided
    rw [same]
    refine iff_of_false ?_ barred
    rintro ⟨_, invoked⟩
    cases recorded <;> simp [opening, recording] at invoked
  | invoked other given admitted decision recorded rest known passed permitted records finish =>
    have same : answer = decision ∧ name = other := by
      cases finish <;> cases recorded <;>
        simp [opening, recording, keeping] at asked decided <;> exact ⟨decided, asked.1⟩
    rw [same.1, same.2]
    exact iff_of_true ⟨given, List.mem_append_right _ List.mem_cons_self⟩ permitted
  | unknown | unadmitted | held | undecided | awaited => simp at decided

/-- A call that invokes a tool asked about it. -/
theorem Exit.consulted_of_invoked {mine : List (Happening S)} (exit : Exit toolset mine)
    {name : PyStr} {args : Args S} (invoked : .invoked name args ∈ mine) :
    .consulted name args ∈ mine := by
  obtain ⟨before, after, rfl⟩ := List.append_of_mem invoked
  obtain ⟨_, admitted, decision, recorded, _, _, opened⟩ := exit.of_invoked
  rw [opened]
  exact List.mem_append_left _ (by simp [opening])

theorem mem_consultations {events : List (Nat × Happening S)} {asked : Nat × PyStr × Args S} :
    asked ∈ consultations events ↔ (asked.1, .consulted asked.2.1 asked.2.2) ∈ events := by
  unfold consultations
  rw [List.mem_filterMap]
  constructor
  · rintro ⟨⟨frame, kind⟩, member, same⟩
    cases kind <;> cases same
    exact member
  · exact fun member => ⟨_, member, rfl⟩

theorem mem_answers {events : List (Nat × Happening S)} {answer : Nat × Decision S} :
    answer ∈ answers events ↔ (answer.1, .decided answer.2) ∈ events := by
  unfold answers
  rw [List.mem_filterMap]
  constructor
  · rintro ⟨⟨frame, kind⟩, member, same⟩
    cases kind <;> cases same
    exact member
  · exact fun member => ⟨_, member, rfl⟩

/-- A call that noted something was left. -/
theorem exit_of_mem {events : List (Nat × Happening S)}
    (exits : ∀ frame, own events frame = [] ∨ Exit toolset (own events frame)) {frame : Nat}
    {kind : Happening S} (member : (frame, kind) ∈ events) : Exit toolset (own events frame) := by
  refine (exits frame).resolve_left fun none => ?_
  have mine := mem_own.mpr member
  rw [none] at mine
  exact List.not_mem_nil mine

/-- The records tell of the calls that asked the governor, one after the other. -/
theorem records_tell {traceEvents : S.World → List TraceEvent} {state : State S}
    {registers stores : Prop} (aligned : Aligned traceEvents state)
    (accounting : Accounting registers stores state)
    (exits : ∀ frame, own state.log.events frame = [] ∨
      Exit toolset (own state.log.events frame)) :
    List.Forall₂ (fun asked call => call.tool = asked.2.1 ∧
        Tells (own state.log.events asked.1) call)
      (consultations state.log.events) state.calls := by
  have recorded := aligned.recorded
  rw [← aligned.consulted] at recorded
  have lengths := congrArg List.length recorded
  rw [List.length_map, List.length_map] at lengths
  refine List.forall₂_iff_get.mpr ⟨lengths, fun index below inRange => ?_⟩
  have place := congrArg (fun entries => entries[index]?) recorded
  simp only [List.getElem?_map, List.getElem?_eq_getElem below,
    List.getElem?_eq_getElem inRange, Option.map_some, Option.some.injEq] at place
  have made : (recordsMade state.log.events)[index]? =
      some (consultations state.log.events)[index] := by
    rw [← aligned.consulted]
    exact List.getElem?_eq_getElem below
  have isMade := accounting.faithful.recorded_of_made made
  exact ⟨(congrArg Prod.fst place).symm, accounting.faithful.tells accounting.disciplined
    (exit_of_mem exits isMade) isMade (List.getElem?_eq_getElem inRange)⟩

/-- A segment that a pair yields tells of the call that its record and its verdict are of. -/
theorem told_of_yields {kernel : Kernel} {events : List (Nat × Happening S)}
    {asked : Nat × PyStr × Args S} {answer : Nat × Decision S} {call : RecordedCall S}
    {event : TraceEvent} {index : Nat} {segment : List EventBody}
    (exits : ∀ frame, own events frame = [] ∨ Exit toolset (own events frame))
    (isAsked : asked ∈ consultations events)
    (isAnswered : answer ∈ answers events) (sameFrame : answer.1 = asked.1)
    (denied : event.denied = !answer.2.allowed) (sameTool : call.tool = asked.2.1)
    (tells : Tells (own events asked.1) call)
    (yields : Trace.Yields kernel index (some call.traced, event) segment) :
    Told toolset events asked segment := by
  obtain ⟨argBindings, decision, results, rfl, verdict, result⟩ := yields
  have decided : .decided answer.2 ∈ own events asked.1 :=
    mem_own.mpr (sameFrame ▸ mem_answers.mp isAnswered)
  have consulted : .consulted asked.2.1 asked.2.2 ∈ own events asked.1 :=
    mem_own.mpr (mem_consultations.mp isAsked)
  have exit := exit_of_mem exits (mem_consultations.mp isAsked)
  have allows : decision.verdict = .allow ↔ answer.2.allowed = true := by
    rw [verdict, denied]
    cases answer.2.allowed <;> simp
  refine ⟨Trace.callIdOf index, argBindings, decision, results, ?_, ⟨answer.2, decided, allows⟩,
    ?_, ?_, ?_⟩
  · rw [← sameTool]
    rfl
  · rw [exit.invoked_iff consulted decided, allows]
    rfl
  · intro completed
    rcases result with ⟨seen, produced, same, _, made⟩ | ⟨unexecuted, _⟩
    · cases same
      exact ⟨produced, by rw [made, ← sameTool]; rfl⟩
    · have executed := tells.executed.mpr completed
      cases executed.symm.trans (unexecuted _ rfl)
  · intro incomplete
    rcases result with ⟨seen, produced, same, executed, _⟩ | ⟨_, nothing⟩
    · cases same
      exact absurd (tells.executed.mp executed) incomplete
    · exact nothing

/-- The calls, the answers and the verdicts of an aligned session have the same places. -/
theorem told_segments {traceEvents : S.World → List TraceEvent} {state : State S}
    {registers stores : Prop} (aligned : Aligned traceEvents state)
    (agreed : Agreed traceEvents state) (accounting : Accounting registers stores state)
    (exits : ∀ frame, own state.log.events frame = [] ∨
      Exit toolset (own state.log.events frame))
    {kernel : Kernel} {segments : List (List EventBody)}
    (yields : List.Forall₂ (fun (pair, place) bodies => Trace.Yields kernel place pair bodies)
      (((state.calls.map RecordedCall.traced).map some).zip
        (verdictsIn traceEvents state.world)).zipIdx segments) :
    List.Forall₂ (Told toolset state.log.events) (consultations state.log.events) segments := by
  obtain ⟨sameLength, tell⟩ := List.forall₂_iff_get.mp (records_tell aligned accounting exits)
  obtain ⟨segmentLength, yield⟩ := List.forall₂_iff_get.mp yields
  obtain ⟨frames, verdicts⟩ := agreed.2
  have answerLength := congrArg List.length frames
  have judged := aligned.judged
  simp only [List.length_zipIdx, List.length_zip, List.length_map] at segmentLength answerLength
  refine List.forall₂_iff_get.mpr ⟨by omega, fun index below inRange => ?_⟩
  have ofAnswer : index < (answers state.log.events).length := by omega
  have ofVerdict : index < (verdictsIn traceEvents state.world).length := by omega
  have ofCall : index < state.calls.length := by omega
  have sameFrame := congrArg (fun entries => entries[index]?) frames
  have denied := congrArg (fun entries => entries[index]?) verdicts
  simp only [List.getElem?_map, List.getElem?_eq_getElem below, List.getElem?_eq_getElem ofAnswer,
    List.getElem?_eq_getElem ofVerdict, Option.map_some, Option.some.injEq] at sameFrame denied
  obtain ⟨sameTool, tells⟩ := tell index below ofCall
  have segment := yield index
    (by rw [List.length_zipIdx, List.length_zip, List.length_map, List.length_map]; omega) inRange
  simp only [List.get_eq_getElem, List.getElem_zipIdx, List.getElem_zip, List.getElem_map,
    Nat.zero_add] at segment
  exact told_of_yields exits (List.getElem_mem below) (List.getElem_mem ofAnswer) sameFrame denied
    sameTool tells segment

/-- **A trace tells the run**: what a recording toolset traces is what the governor was asked, what
it answered, and what came of it, call by call and in order, whatever the agent and the tools do. -/
theorem trace_tells_run {programs : S.Program → Code S (Object S)}
    {traceEvents : S.World → List TraceEvent} (announces : Announces toolset programs traceEvents)
    (records : toolset.record = true) (limit : Nat) {world : S.World}
    (fresh : verdictsIn traceEvents world = []) (admission : Option S.Predicate)
    {operations : List (Operation S)}
    (silent : ∀ change, .environment change ∈ operations →
      ∀ world, verdictsIn traceEvents (change world) = verdictsIn traceEvents world)
    (kernel : Kernel) (objects : Objects (Object S)) (given : Material (Object S)) :
    let state := (toolset.surface programs).ran limit world admission operations
    ∀ document, toolset.trace kernel objects (traceEvents state.world) given state = .ok document →
      TellsRun toolset state.log.events document := by
  intro state document traced
  have aligned : Aligned traceEvents state :=
    aligned_ran announces.toReports records limit fresh admission silent
  have agreed : Agreed traceEvents state := agreed_ran announces limit fresh admission silent
  have accounting : Accounting True (toolset.record = true) state :=
    accounting_ran (keepsRecords_serve toolset programs limit)
      (settled_serve toolset programs limit) (fun _ => Exit.closes) world admission operations
  have exits := finished_run (settled_serve toolset programs limit) world admission operations
  unfold Toolset.trace at traced
  rw [if_pos records] at traced
  obtain ⟨pairs, left, paired, built, _⟩ := Trace.returns_buildTrace traced
  obtain ⟨segments, numbered, yields⟩ := Trace.yields_buildPairs built
  have inOrder : pairs = ((state.calls.map RecordedCall.traced).map some).zip
      (verdictsIn traceEvents state.world) := by
    refine (Trace.paired_eq_ok_iff.mp paired).unique (Trace.linesUp_zip ?_)
    rw [List.length_map]
    exact aligned.judged.symm
  rw [inOrder] at yields
  refine ⟨⟨segments, ?_, told_segments aligned agreed accounting exits yields⟩, ?_⟩
  · rw [numbered, Trace.map_body_numbered]
  · intro frame name args member
    have exit := exit_of_mem exits member
    exact mem_consultations.mpr
      (mem_own.mp (exit.consulted_of_invoked (mem_own.mpr member)))

end Telling

/-! ### A session with a denial in it -/

/-- A verdict that says why. -/
def verdictWithCategory (name : PyStr) : TraceEvent :=
  { verdictOn name with
    payload := [(.str "tool", .str name), (.str "category", .str "taint_enforcement")] }

theorem verdictEvents_verdictWithCategory (name : PyStr) :
    verdictEvents [verdictWithCategory name] = [verdictWithCategory name] := by
  unfold verdictWithCategory verdictOn
  cases permits name <;> rfl

/-- The toolset that nests its calls, under a governor that says why it denies. -/
def announcingToolset : Toolset reportedSetting :=
  { nestedToolset with
    governor :=
      { evaluate := fun name _ =>
          .read fun reported => .write (reported ++ [verdictWithCategory name])
            (.done {
              allowed := permits name
              reason := ""
              category := "taint_enforcement"
              verdict := () })
        registerOutput := fun _ _ => .done () } }

theorem trace_tells_run_nested :
    let state := (announcingToolset.surface noPrograms).ran 3 [] none nestedRun
    ∃ document,
      announcingToolset.trace Trace.Kernel.trial Objects.trial state.world Material.empty state =
        .ok document ∧
      TellsRun announcingToolset state.log.events document := by
  intro state
  have reports : Reports announcingToolset noPrograms id := by
    refine ⟨fun name args world => ?_, fun _ _ _ => trivial, fun _ _ => trivial, ?_,
      fun _ _ => trivial⟩
    · refine ⟨_, _, verdictWithCategory name, rfl, ?_⟩
      unfold verdictsIn
      rw [id, id, verdictEvents_append, verdictEvents_verdictWithCategory]
    · intro entry member
      simp only [announcingToolset, nestedToolset, List.mem_cons, List.not_mem_nil,
        or_false] at member
      rcases member with rfl | rfl | rfl
      · exact fun _ _ => trivial
      · exact fun _ _ _ _ => trivial
      · exact fun _ _ => trivial
  have announces : Announces announcingToolset noPrograms id := by
    refine ⟨reports, fun name args world decision left event alone reported => ?_⟩
    cases alone
    unfold verdictsIn at reported
    rw [id, id, verdictEvents_append, verdictEvents_verdictWithCategory,
      List.append_cancel_left_eq, List.cons.injEq] at reported
    rw [← reported.1]
    show (verdictWithCategory name).denied = !permits name
    unfold verdictWithCategory verdictOn
    cases permits name <;> rfl
  have returns : (announcingToolset.trace Trace.Kernel.trial Objects.trial state.world
      Material.empty state).isOk = true := by
    decide +kernel
  obtain ⟨document, returned⟩ := Checks.exists_of_isOk returns
  refine ⟨document, returned, ?_⟩
  refine trace_tells_run announces rfl 3 rfl none ?_ Trace.Kernel.trial Objects.trial Material.empty
    document returned
  intro change member
  simp [nestedRun] at member

end AxorWrap.Runtime
