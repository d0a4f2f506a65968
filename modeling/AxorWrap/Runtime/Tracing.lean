/-
This file proves that what a toolset records can be traced. The recorder and the
list of events of the governor are two records kept by two parties, and they grow
together: a call that asks the governor is recorded before anything else happens,
and a call that does not ask it is not recorded.

The governor is one that asks for nothing while it evaluates, always returns and
reports one verdict each time. All other code may do what it likes, calls of tools
included, but leave the verdicts alone that the governor reported.
-/

import AxorWrap.Runtime.Coroutines
import AxorWrap.Trace.Pairing

namespace AxorWrap.Runtime

open Python Methods Scripts Journals Machines
open Trace (TraceEvent verdictEvents verdictEvents_append Kernel Objects Material)

variable {S : Setting}

/-! ### What is assumed of the code around -/

/-- The verdicts among the events of the governor, in a world. -/
def verdictsIn (traceEvents : S.World → List TraceEvent) (world : S.World) : List TraceEvent :=
  verdictEvents (traceEvents world)

/-- The code leaves the verdicts alone that the governor reported. -/
def LeavesVerdicts (traceEvents : S.World → List TraceEvent) {α : Type} (code : Code S α) : Prop :=
  ∀ seen, code.Keeps (verdictsIn traceEvents) seen

/-- The code of a tool leaves the verdicts alone, whichever kind of callable it is. -/
def Tool.LeavesVerdicts (traceEvents : S.World → List TraceEvent) : Tool S → Prop
  | .function body => ∀ args, Runtime.LeavesVerdicts traceEvents (body args)
  | .coroutineFunction bind =>
    ∀ args code, bind args = .ok code → Runtime.LeavesVerdicts traceEvents code

/-- Evaluating always returns and reports one verdict, and no other code reports any. -/
structure Reports (toolset : Toolset S) (programs : S.Program → Code S (Object S))
    (traceEvents : S.World → List TraceEvent) : Prop where
  evaluates : ∀ name args world, ∃ decision left event,
    (toolset.governor.evaluate name args).alone world = some (.ok decision, left) ∧
      verdictsIn traceEvents left = verdictsIn traceEvents world ++ [event]
  registers : ∀ decision output,
    LeavesVerdicts traceEvents (toolset.governor.registerOutput decision output)
  polls : ∀ predicate, LeavesVerdicts traceEvents (toolset.poll predicate)
  tools : ∀ entry ∈ toolset.tools, entry.2.LeavesVerdicts traceEvents
  programs : ∀ program, LeavesVerdicts traceEvents (programs program)

/-! ### Consultations and records -/

/-- What a record says was asked. -/
def asked (call : RecordedCall S) : PyStr × Args S := (call.tool, call.args)

/-- The call that asks the governor, with the name and the arguments it asks about. -/
def consultation : Nat × Happening S → Option (Nat × PyStr × Args S)
  | (frame, .consulted name args) => some (frame, name, args)
  | _ => none

/-- The call that makes a record, with the name and the arguments it records. -/
def recordMade : Nat × Happening S → Option (Nat × PyStr × Args S)
  | (frame, .recorded _ name args) => some (frame, name, args)
  | _ => none

/-- What the governor was asked about, in order. -/
def consultations (events : List (Nat × Happening S)) : List (Nat × PyStr × Args S) :=
  events.filterMap consultation

/-- What records were made of, in order. -/
def recordsMade (events : List (Nat × Happening S)) : List (Nat × PyStr × Args S) :=
  events.filterMap recordMade

theorem consultations_append (first second : List (Nat × Happening S)) :
    consultations (first ++ second) = consultations first ++ consultations second :=
  List.filterMap_append ..

theorem recordsMade_append (first second : List (Nat × Happening S)) :
    recordsMade (first ++ second) = recordsMade first ++ recordsMade second :=
  List.filterMap_append ..

/-- The same calls made the records and asked the governor, and there are as many verdicts.
Coroutines that are still to run leave the verdicts alone. -/
structure Aligned (traceEvents : S.World → List TraceEvent) (state : State S) : Prop where
  consulted : consultations state.log.events = recordsMade state.log.events
  recorded : (recordsMade state.log.events).map Prod.snd = state.calls.map asked
  judged : (verdictsIn traceEvents state.world).length = state.calls.length
  coroutines : ∀ code, some code ∈ state.coroutines → LeavesVerdicts traceEvents code

section Alignment

variable (traceEvents : S.World → List TraceEvent)

def KeepsAligned (before after : State S) : Prop :=
  Aligned traceEvents before → Aligned traceEvents after

instance : Std.Refl (KeepsAligned traceEvents) where
  refl _ := id

instance : IsTrans (State S) (KeepsAligned traceEvents) where
  trans _ _ _ first second := second ∘ first

variable {traceEvents}

theorem lawful_host (serve : Service S) : (host serve).Lawful where
  world_setWorld _ _ := rfl
  setWorld_setWorld _ _ _ := rfl
  setWorld_world _ := rfl

/-- The session after the governor answered so, leaving this world. -/
def State.answered (state : State S) (frame : Nat) (name : PyStr) (args : Args S)
    (decision : Decision S) (left : S.World) : State S :=
  { state with
    world := left
    log := (state.log.add frame (.consulted name args)).add frame (.decided decision) }

theorem events_answered (state : State S) (frame : Nat) (name : PyStr) (args : Args S)
    (decision : Decision S) (left : S.World) :
    (state.answered frame name args decision left).log.events =
      state.log.events ++ [(frame, .consulted name args), (frame, .decided decision)] := by
  show state.log.events ++ [_] ++ [_] = _
  rw [List.append_assoc]
  rfl

/-- While a governor that asks for nothing is evaluated, nothing else happens. -/
theorem evaluate_alone {toolset : Toolset S} {name : PyStr} {args : Args S} {state : State S}
    {decision : Decision S} {left : S.World} (serve : Service S) (frame : Nat)
    (alone : (toolset.governor.evaluate name args).alone state.world = some (.ok decision, left)) :
    outcome (evaluate toolset serve frame name args) state = .ok decision ∧
      final (evaluate toolset serve frame name args) state =
        state.answered frame name args decision left := by
  let asking := journal.update (Log.add frame (.consulted name args)) state
  let answering (decision : Decision S) : ToolMethod S (Decision S) := do
    journal.note frame (.decided decision)
    return decision
  have evaluated : outcome ((host serve).exec (toolset.governor.evaluate name args)) asking =
      .ok decision ∧ final ((host serve).exec (toolset.governor.evaluate name args)) asking =
        { asking with world := left } :=
    Host.exec_alone (lawful_host serve) alone
  constructor
  · show outcome ((host serve).exec (toolset.governor.evaluate name args) >>= answering) asking = _
    rw [outcome_bind_ok evaluated.1]
    rfl
  · show final ((host serve).exec (toolset.governor.evaluate name args) >>= answering) asking = _
    rw [final_bind_ok evaluated.1, evaluated.2]
    rfl

theorem keepsAligned_setWorld (serve : Service S) (world : S.World) (state : State S)
    (kept : verdictsIn traceEvents world = verdictsIn traceEvents state.world) :
    KeepsAligned traceEvents state ((host serve).setWorld world state) :=
  fun aligned => ⟨aligned.consulted, aligned.recorded, kept ▸ aligned.judged, aligned.coroutines⟩

/-- The event is that of the governor being asked, or of a record being made. -/
def Happening.Counts : Happening S → Prop
  | .consulted _ _ | .recorded _ _ _ => True
  | _ => False

theorem Happening.not_counts {kind : Happening S} (other : ¬ kind.Counts) (frame : Nat) :
    consultation (frame, kind) = none ∧ recordMade (frame, kind) = none := by
  cases kind <;> first | exact ⟨rfl, rfl⟩ | exact absurd trivial other

theorem keepsAligned_note {kind : Happening S} (other : ¬ kind.Counts) (frame : Nat)
    (state : State S) :
    KeepsAligned traceEvents state (journal.update (Log.add frame kind) state) := by
  intro aligned
  obtain ⟨noConsultation, noRecord⟩ := Happening.not_counts other frame
  have sameConsultations : consultations (state.log.events ++ [(frame, kind)]) =
      consultations state.log.events := by
    rw [consultations_append]
    simp [consultations, noConsultation]
  have sameRecords : recordsMade (state.log.events ++ [(frame, kind)]) =
      recordsMade state.log.events := by
    rw [recordsMade_append]
    simp [recordsMade, noRecord]
  refine ⟨?_, ?_, aligned.judged, aligned.coroutines⟩
  · show consultations (state.log.events ++ [(frame, kind)]) = recordsMade (state.log.events ++ _)
    rw [sameConsultations, sameRecords, aligned.consulted]
  · show (recordsMade (state.log.events ++ [(frame, kind)])).map Prod.snd = state.calls.map asked
    rw [sameRecords, aligned.recorded]

theorem keepsAligned_call {α : Type} {entered : Happening S}
    {left : Except (Raised S) α → Happening S} {body : Nat → ToolMethod S α}
    (enters : ¬ entered.Counts) (leaves : ∀ result, ¬ (left result).Counts)
    (keeps : ∀ frame state, KeepsAligned traceEvents state (final (body frame) state))
    (state : State S) :
    KeepsAligned traceEvents state (final (journal.call entered left body) state) := by
  refine Journal.related_call (fun state => ?_) keeps
    (fun frame result state => keepsAligned_note (leaves result) frame state) state
  refine IsTrans.trans (r := KeepsAligned traceEvents) _ _ _ ?_ (keepsAligned_note enters _ _)
  exact fun aligned => ⟨aligned.consulted, aligned.recorded, aligned.judged, aligned.coroutines⟩

theorem map_asked_modify (calls : List (RecordedCall S)) (index : Nat) (output : Object S) :
    (calls.modify index (RecordedCall.execute output)).map asked = calls.map asked := by
  refine List.ext_getElem? fun place => ?_
  rw [List.getElem?_map, List.getElem?_map, List.getElem?_modify]
  cases calls[place]? with
  | none => rfl
  | some call => by_cases here : index = place <;> simp [here, asked, RecordedCall.execute]

theorem keepsAligned_keepResult (frame index : Nat) (output : Object S) (state : State S) :
    KeepsAligned traceEvents state (final (keepResult frame index output) state) := by
  unfold keepResult
  refine related_bind (R := KeepsAligned traceEvents) ?_ fun _ _ => ?_
  · intro aligned
    refine ⟨aligned.consulted, ?_, ?_, aligned.coroutines⟩
    · show _ = (state.calls.modify index (RecordedCall.execute output)).map asked
      rw [map_asked_modify]
      exact aligned.recorded
    · show _ = (state.calls.modify index (RecordedCall.execute output)).length
      rw [List.length_modify]
      exact aligned.judged
  · exact keepsAligned_note id _ _

/-! ### Foreign code -/

section Served

variable {serve : Service S}
  (serves : ∀ request state, KeepsAligned traceEvents state (final (serve request) state))

include serves

theorem keepsAligned_exec {α : Type} {code : Code S α} (leaves : LeavesVerdicts traceEvents code)
    (state : State S) : KeepsAligned traceEvents state (final ((host serve).exec code) state) :=
  Host.related_exec_keeping (R := KeepsAligned traceEvents) (lawful_host serve)
    (keepsAligned_setWorld serve) serves (leaves _)

omit serves in
theorem keepsAligned_createCoroutine {code : Code S (Object S)}
    (leaves : LeavesVerdicts traceEvents code) (state : State S) :
    KeepsAligned traceEvents state (final (createCoroutine code) state) := by
  intro aligned
  refine ⟨aligned.consulted, aligned.recorded, aligned.judged, fun other member => ?_⟩
  rcases List.mem_append.mp member with old | new
  · exact aligned.coroutines other old
  · cases List.mem_singleton.mp new
    exact leaves

theorem keepsAligned_toolRun {tool : Tool S} (leaves : tool.LeavesVerdicts traceEvents)
    (args : Args S) (state : State S) :
    KeepsAligned traceEvents state (final (tool.run serve args) state) := by
  cases tool with
  | function body => exact keepsAligned_exec serves (leaves args) state
  | coroutineFunction bind =>
    unfold Tool.run
    refine related_bind (R := KeepsAligned traceEvents) id fun code bound => ?_
    exact keepsAligned_createCoroutine (leaves args code bound) _

omit serves in
/-- What is left of a coroutine may take the place of another. -/
theorem keepsAligned_set {held : Option (Code S (Object S))} (handle : Nat)
    (leaves : ∀ code, held = some code → LeavesVerdicts traceEvents code) (state : State S) :
    KeepsAligned traceEvents state
      { state with coroutines := state.coroutines.set handle held } := by
  intro aligned
  refine ⟨aligned.consulted, aligned.recorded, aligned.judged, fun code member => ?_⟩
  rcases List.mem_or_eq_of_mem_set member with old | new
  · exact aligned.coroutines code old
  · exact leaves code new.symm

theorem keepsAligned_awaitStep (handle : Nat) (state : State S) :
    KeepsAligned traceEvents state (final (awaitStep serve handle) state) := by
  intro aligned
  unfold awaitStep
  rw [final_bind_ok (outcome_get state), final_get]
  match found : state.coroutines[handle]? with
  | none => exact aligned
  | some none => exact aligned
  | some (some code) =>
    have leaves := aligned.coroutines code (List.mem_of_getElem? found)
    have resumes : ∀ taken,
        KeepsAligned traceEvents taken (final ((host serve).resume code) taken) ∧
        ∀ rest, outcome ((host serve).resume code) taken = .ok (.inr rest) →
          LeavesVerdicts traceEvents rest := fun _ =>
      Host.related_resume_keeping (lawful_host serve) (keepsAligned_setWorld serve) serves
        (leaves _)
    refine related_bind (R := KeepsAligned traceEvents)
      (keepsAligned_set handle (fun _ none => by cases none) state) (fun _ _ => ?_) aligned
    refine related_bind (R := KeepsAligned traceEvents) (resumes _).1 fun left came => ?_
    cases left with
    | inl object => exact id
    | inr rest =>
      refine keepsAligned_set handle (fun code same => ?_) _
      cases same
      exact (resumes _).2 rest came

/-! ### A call -/

variable {toolset : Toolset S} {programs : S.Program → Code S (Object S)}
  (reports : Reports toolset programs traceEvents) (records : toolset.record = true)

include reports

theorem keepsAligned_checkAdmission (frame : Nat) (state : State S) :
    KeepsAligned traceEvents state (final (checkAdmission toolset serve frame) state) := by
  rw [checkAdmission_eq]
  rw [final_bind_ok (outcome_get state), final_get]
  cases state.admission with
  | none => exact keepsAligned_note id _ _
  | some predicate =>
    refine related_bind (R := KeepsAligned traceEvents)
      (keepsAligned_exec serves (reports.polls predicate) state) fun admitted _ => ?_
    refine related_bind (R := KeepsAligned traceEvents) (keepsAligned_note id _ _) fun _ _ => ?_
    cases admitted with
    | false => exact id
    | true => exact id

theorem keepsAligned_runTool (frame : Nat) {name : PyStr} {args : Args S} {tool : Tool S}
    (leaves : tool.LeavesVerdicts traceEvents) (decision : Decision S) (recorded : Option Nat)
    (state : State S) :
    KeepsAligned traceEvents state
      (final (runTool toolset serve frame name args tool decision recorded) state) := by
  rw [runTool_eq]
  refine related_bind (R := KeepsAligned traceEvents) (keepsAligned_note id _ _) fun _ _ => ?_
  refine related_bind (R := KeepsAligned traceEvents)
    (keepsAligned_toolRun serves leaves args _) fun output _ => ?_
  refine related_bind (R := KeepsAligned traceEvents) (keepsAligned_note id _ _) fun _ _ => ?_
  refine related_bind (R := KeepsAligned traceEvents) (keepsAligned_note id _ _) fun _ _ => ?_
  refine related_bind (R := KeepsAligned traceEvents)
    (keepsAligned_exec serves (reports.registers decision output) _) fun _ _ => ?_
  refine related_bind (R := KeepsAligned traceEvents) ?_ fun _ _ => id
  cases recorded with
  | none => exact id
  | some index => exact keepsAligned_keepResult frame index output _

include records

/-- From asking the governor on. The records catch up with the consultation before anything else
runs. -/
theorem keepsAligned_consult (frame : Nat) {name : PyStr} {args : Args S} {tool : Tool S}
    (leaves : tool.LeavesVerdicts traceEvents) (state : State S) :
    KeepsAligned traceEvents state (final (evaluate toolset serve frame name args >>=
      execute toolset serve frame name args tool) state) := by
  intro aligned
  obtain ⟨decision, left, event, alone, reported⟩ := reports.evaluates name args state.world
  obtain ⟨returned, after⟩ := evaluate_alone serve frame alone
  let decided := state.answered frame name args decision left
  let entry : RecordedCall S := { tool := name, args := args }
  let caught : State S := journal.update (Log.add frame (.recorded decided.calls.length name args))
    { decided with calls := decided.calls ++ [entry] }
  have noted : caught.log.events = state.log.events ++ [(frame, .consulted name args),
      (frame, .decided decision), (frame, .recorded decided.calls.length name args)] := by
    show decided.log.events ++ [_] = _
    rw [events_answered, List.append_assoc]
    rfl
  have catchesUp : Aligned traceEvents caught := by
    refine ⟨?_, ?_, ?_, aligned.coroutines⟩
    · rw [noted, consultations_append, recordsMade_append, aligned.consulted]
      rfl
    · show _ = (state.calls ++ [entry]).map asked
      rw [noted, recordsMade_append, List.map_append, List.map_append, aligned.recorded]
      rfl
    · show (verdictsIn traceEvents left).length = (state.calls ++ [entry]).length
      rw [reported, List.length_append, List.length_append, aligned.judged]
      rfl
  have parts : final (execute toolset serve frame name args tool decision) decided =
      final (if !decision.allowed && toolset.enforcement = .on then
          throw (.toolDenied decision.reason decision.category)
        else runTool toolset serve frame name args tool decision (some decided.calls.length))
        caught := by
    unfold execute recordEvaluated
    rw [records, if_pos rfl]
    rfl
  rw [final_bind_ok returned, after, parts]
  split
  · exact catchesUp
  · exact keepsAligned_runTool serves reports frame leaves decision _ caught catchesUp

theorem keepsAligned_callBody (name : PyStr) (args : Args S) (frame : Nat) (state : State S) :
    KeepsAligned traceEvents state (final (callBody toolset serve name args frame) state) := by
  unfold callBody
  cases found : toolset.tools.lookup name with
  | none => exact id
  | some tool =>
    have leaves := reports.tools (name, tool) (mem_of_lookup found)
    refine related_bind (R := KeepsAligned traceEvents)
      (keepsAligned_checkAdmission serves reports frame state) fun _ _ => ?_
    exact keepsAligned_consult serves reports records frame leaves _

theorem keepsAligned_toolsetCall (name : PyStr) (args : Args S) (state : State S) :
    KeepsAligned traceEvents state (final (call toolset serve name args) state) :=
  keepsAligned_call id (fun _ => id)
    (fun frame state => keepsAligned_callBody serves reports records name args frame state) state

end Served

/-- Whatever is asked of a session, the records stay aligned with the verdicts. The induction is on
how many frames may still be entered. -/
theorem keepsAligned_serve {toolset : Toolset S} {programs : S.Program → Code S (Object S)}
    (reports : Reports toolset programs traceEvents) (records : toolset.record = true)
    (limit : Nat) (request : Request S) (state : State S) :
    KeepsAligned traceEvents state
      (final ((toolset.surface programs).serve limit request) state) := by
  induction limit generalizing request state with
  | zero => exact id
  | succ limit inductionHypothesis =>
    cases request with
    | call name args =>
      show KeepsAligned traceEvents state (final (some <$> _) state)
      rw [final_map]
      exact keepsAligned_toolsetCall inductionHypothesis reports records name args state
    | callable name kwargs =>
      simp only [Surface.serve, Surface.answer]
      cases found : ((toolset.surface programs).callables
          ((toolset.surface programs).serve limit)).lookup name with
      | none => exact id
      | some wrapped =>
        show KeepsAligned traceEvents state (final (some <$> _) state)
        rw [final_map]
        obtain ⟨entry, _, same⟩ := List.mem_map.mp (mem_of_lookup found)
        cases same
        exact keepsAligned_toolsetCall inductionHypothesis reports records _ kwargs state
    | setAdmission predicate =>
      exact fun aligned =>
        ⟨aligned.consulted, aligned.recorded, aligned.judged, aligned.coroutines⟩
    | create program => exact keepsAligned_createCoroutine (reports.programs program) state
    | await target =>
      have advances (state : State S) : KeepsAligned traceEvents state
          (final ((toolset.surface programs).advance
            ((toolset.surface programs).serve limit) target) state) := by
        cases target with
        | iterator handle => exact keepsAligned_awaitStep inductionHypothesis handle state
        | object program =>
          show KeepsAligned traceEvents state
            (final (some <$> createCoroutine (programs program)) state)
          rw [final_map]
          exact keepsAligned_createCoroutine (reports.programs program) state
      exact keepsAligned_call id (fun _ => id) (fun _ => advances) state

/-- And every run of the agent keeps them so, when what happens around it reports no verdicts. -/
theorem aligned_ran {toolset : Toolset S} {programs : S.Program → Code S (Object S)}
    (reports : Reports toolset programs traceEvents) (records : toolset.record = true) (limit : Nat)
    {world : S.World} (fresh : verdictsIn traceEvents world = []) (admission : Option S.Predicate)
    {operations : List (Operation S)}
    (silent : ∀ change, .environment change ∈ operations →
      ∀ world, verdictsIn traceEvents (change world) = verdictsIn traceEvents world) :
    Aligned traceEvents ((toolset.surface programs).ran limit world admission operations) := by
  let machine := (toolset.surface programs).machine limit
  have initially : Aligned traceEvents { world := world, admission := admission } := by
    refine ⟨rfl, rfl, ?_, fun code member => absurd member List.not_mem_nil⟩
    show (verdictsIn traceEvents world).length = 0
    rw [fresh]
    rfl
  refine machine.history_invariant initially (fun step member aligned => ?_) List.prefix_rfl
  obtain ⟨earlier, later, split, made⟩ := machine.mem_history member
  have isMember : step.operation ∈ operations := by
    rw [split]
    exact List.mem_append_right _ List.mem_cons_self
  have left : step.after = machine.next step.before step.operation := by
    rw [made]
    rfl
  rw [left]
  cases named : step.operation with
  | act request => exact keepsAligned_serve reports records limit request step.before aligned
  | environment change =>
    have kept := silent change (named ▸ isMember) step.before.world
    exact keepsAligned_setWorld (fun _ => throw .recursionError) _ step.before kept aligned

end Alignment

/-! ### What a record says of its call -/

/-- Of the own events of a call: the tool it invoked returned this output, and registering the
output returned, so that the call was not left with an error. -/
def Completed (mine : List (Happening S)) (output : Object S) : Prop :=
  .produced output ∈ mine ∧ (∃ decision, .registered decision output ∈ mine) ∧
    ∀ error, .left (.error error) ∉ mine

/-- A call keeps what it completed with, and nothing else, in the record it made. -/
theorem Exit.kept_iff {toolset : Toolset S} {mine : List (Happening S)} (exit : Exit toolset mine)
    {index : Nat} {name : PyStr} {args : Args S} (made : .recorded index name args ∈ mine)
    (output : Object S) : .kept index output ∈ mine ↔ Completed mine output := by
  unfold Completed
  cases exit with
  | invoked asked given admitted decision recorded rest known passed permitted records finish =>
    cases finish with
    | failed error => cases recorded <;> simp [opening, recording]
    | unregistered produced error => cases recorded <;> simp [opening, recording]
    | returned produced =>
      cases recorded with
      | none => simp [opening, recording, keeping] at made
      | some place =>
        simp only [opening, recording, keeping, List.mem_append, List.mem_cons] at made
        have same : index = place ∧ name = asked ∧ args = given := by simpa using made
        simp [opening, recording, keeping, same.1]
  | denied asked given admitted decision recorded passed barred =>
    cases recorded <;> simp [opening, recording]
  | unknown | unadmitted | held | undecided | awaited => simp at made

/-- A record that its call kept nothing in is as it was made. -/
theorem Faithful.unkept_record {state : State S} (faithful : Faithful state)
    (disciplined : ∀ frame, Disciplined (own state.log.events frame)) {frame index : Nat}
    {name : PyStr} {args : Args S} (made : (frame, .recorded index name args) ∈ state.log.events)
    (unkept : ∀ output, .kept index output ∉ own state.log.events frame) :
    state.calls[index]? = some { tool := name, args := args } := by
  have nowhere : ∀ other output, (other, .kept index output) ∉ state.log.events := by
    intro other output member
    obtain ⟨before, after, split⟩ := List.append_of_mem member
    obtain ⟨otherName, otherArgs, recorded⟩ := recorded_of_kept disciplined split
    have isRecorded : (other, .recorded index otherName otherArgs) ∈ state.log.events := by
      rw [split]
      exact List.mem_append_left _ recorded
    cases faithful.frame_eq made isRecorded
    exact unkept output (mem_own.mpr member)
  obtain ⟨before, after, split⟩ := List.append_of_mem made
  let fresh : RecordedCall S := { tool := name, args := args }
  have place : index = (replay before).length := faithful.numbered before frame index _ _ _ split
  have here : (replay before ++ [fresh])[index]? = some fresh := by
    rw [place]
    exact List.getElem?_concat_length
  have stays := record_foldl (· = fresh) (fun other output member => by
    have present : (other, .kept index output) ∈ state.log.events := by
      rw [split]
      exact List.mem_append_right _ (List.mem_cons_of_mem _ member)
    exact absurd present (nowhere other output)) ⟨fresh, here, rfl⟩
  obtain ⟨_, found, rfl⟩ := stays
  rw [faithful.calls, split, replay_recorded]
  exact found

/-- The record tells whether its call completed, and with what. -/
structure Tells (mine : List (Happening S)) (call : RecordedCall S) : Prop where
  executed : call.executed = true ↔ ∃ output, Completed mine output
  result : ∀ output, call.result = some output ↔ Completed mine output

theorem Faithful.tells {toolset : Toolset S} {state : State S} (faithful : Faithful state)
    (disciplined : ∀ frame, Disciplined (own state.log.events frame)) {frame index : Nat}
    (exit : Exit toolset (own state.log.events frame)) {name : PyStr} {args : Args S}
    (made : (frame, .recorded index name args) ∈ state.log.events) {call : RecordedCall S}
    (found : state.calls[index]? = some call) : Tells (own state.log.events frame) call := by
  have kept := exit.kept_iff (mem_own.mpr made)
  by_cases keeps : ∃ output, .kept index output ∈ own state.log.events frame
  · obtain ⟨output, member⟩ := keeps
    obtain ⟨before, after, split⟩ := List.append_of_mem (mem_own.mp member)
    obtain ⟨_, _, _, stored⟩ := faithful.kept_record disciplined split
    cases Option.some_inj.mp (found.symm.trans stored)
    refine ⟨iff_of_true rfl ⟨output, (kept output).mp member⟩, fun other => ?_⟩
    rw [← kept other]
    constructor
    · intro same
      cases same
      exact member
    · intro another
      rw [(disciplined frame).single index output other member another]
  · have unkept : ∀ output, .kept index output ∉ own state.log.events frame :=
      fun output member => keeps ⟨output, member⟩
    have never : ∀ output, ¬ Completed (own state.log.events frame) output :=
      fun output completed => unkept output ((kept output).mpr completed)
    have fresh := faithful.unkept_record disciplined made unkept
    cases Option.some_inj.mp (found.symm.trans fresh)
    exact ⟨by simp [never], by simp [never]⟩

/-! ### Tracing -/

theorem length_recordsMade (events : List (Nat × Happening S)) :
    (recordsMade events).length = (replay events).length := by
  induction events using List.reverseRecOn with
  | nil => rfl
  | append_singleton events event inductionHypothesis =>
    rw [recordsMade_append, replay_snoc, List.length_append, inductionHypothesis]
    obtain ⟨frame, kind⟩ := event
    cases kind <;> simp [replayEvent, recordsMade, recordMade]

/-- The records are numbered by their places. -/
theorem Faithful.recorded_of_made {state : State S} (faithful : Faithful state)
    {frame index : Nat} {name : PyStr} {args : Args S}
    (made : (recordsMade state.log.events)[index]? = some (frame, name, args)) :
    (frame, .recorded index name args) ∈ state.log.events := by
  obtain ⟨below, here⟩ := List.getElem?_eq_some_iff.mp made
  have parts : recordsMade state.log.events = (recordsMade state.log.events).take index ++
      (frame, name, args) :: (recordsMade state.log.events).drop (index + 1) := by
    rw [← here, List.cons_getElem_drop_succ, List.take_append_drop]
  obtain ⟨before, rest, split, earlier, later⟩ := List.filterMap_eq_append_iff.mp parts
  obtain ⟨skipped, event, after, rfl, none, some_, _⟩ := List.filterMap_eq_cons_iff.mp later
  obtain ⟨other, kind⟩ := event
  cases kind <;> simp only [recordMade, reduceCtorEq] at some_
  case recorded place otherName otherArgs =>
    cases some_
    rw [← List.append_assoc] at split
    have numbered := faithful.numbered _ frame place name args after split
    have length : index = (recordsMade (before ++ skipped)).length := by
      have nothing : recordsMade skipped = [] := List.filterMap_eq_nil_iff.mpr none
      have taken : recordsMade before = (recordsMade state.log.events).take index := earlier
      rw [recordsMade_append, nothing, List.append_nil, taken, List.length_take,
        Nat.min_eq_left below.le]
    rw [split, length, length_recordsMade, ← numbered]
    exact List.mem_append_right _ List.mem_cons_self

/-- A record as `build_trace` takes it. -/
def RecordedCall.traced (call : RecordedCall S) : Trace.RecordedCall (Object S) where
  tool := call.tool
  args := call.args
  executed := call.executed
  result := call.result

def Enforcement.text : Enforcement → PyStr
  | .on => "on"
  | .off => "off"

/-- `WrappedToolset.trace`, where `traceEvents` are those of the governor and the rest is as
given. -/
def Toolset.trace (toolset : Toolset S) (kernel : Kernel) (objects : Objects (Object S))
    (traceEvents : List TraceEvent) (given : Material (Object S)) (state : State S) :
    Except Trace.BuildError (Trace.Document (Object S)) :=
  if toolset.record then
    Trace.buildTrace kernel objects
      { given with
        calls := state.calls.map RecordedCall.traced
        traceEvents := traceEvents
        enforcement := toolset.enforcement.text
        observes := .everyIntent }
  else
    .error (.python .valueError)

/-- What is recorded in a session can be traced: the records are those of what the governor was
asked, in order, each tells what came of the call that asked, and there are as many as verdicts, so
that no trace is refused for their number. -/
structure Traceable (toolset : Toolset S) (traceEvents : S.World → List TraceEvent)
    (state : State S) : Prop where
  counted : (consultations state.log.events).length = state.calls.length
  records : ∀ (index : Nat) call, state.calls[index]? = some call →
    ∃ frame, (consultations state.log.events)[index]? = some (frame, call.tool, call.args) ∧
      Tells (own state.log.events frame) call
  traces : ∀ kernel objects given misalignment,
    toolset.trace kernel objects (traceEvents state.world) given state ≠
      .error (.traceBuild misalignment)

/-- **A recording toolset can always be traced**, whatever is called, in whatever order, and however
the calls end and nest. -/
theorem recording_traceable {toolset : Toolset S} {programs : S.Program → Code S (Object S)}
    {traceEvents : S.World → List TraceEvent} (reports : Reports toolset programs traceEvents)
    (records : toolset.record = true) (limit : Nat) {world : S.World}
    (fresh : verdictsIn traceEvents world = []) (admission : Option S.Predicate)
    {operations : List (Operation S)}
    (silent : ∀ change, .environment change ∈ operations →
      ∀ world, verdictsIn traceEvents (change world) = verdictsIn traceEvents world) :
    Traceable toolset traceEvents
      ((toolset.surface programs).ran limit world admission operations) := by
  generalize ran : (toolset.surface programs).ran limit world admission operations = state
  have aligned : Aligned traceEvents state :=
    ran ▸ aligned_ran reports records limit fresh admission silent
  have accounting : Accounting True (toolset.record = true) state :=
    ran ▸ accounting_ran (keepsRecords_serve toolset programs limit)
      (settled_serve toolset programs limit) (fun _ => Exit.closes) world admission operations
  have finished := finished_run (settled_serve toolset programs limit) world admission operations
  rw [ran] at finished
  have lengths : (recordsMade state.log.events).length = state.calls.length := by
    have same := congrArg List.length aligned.recorded
    rwa [List.length_map, List.length_map] at same
  refine ⟨?_, fun index call found => ?_, fun kernel objects given misalignment raised => ?_⟩
  · rw [aligned.consulted]
    exact lengths
  · obtain ⟨made, here, same⟩ : ∃ made, (recordsMade state.log.events)[index]? = some made ∧
        made.2 = asked call := by
      have place := congrArg (fun entries => entries[index]?) aligned.recorded
      simp only [List.getElem?_map, found, Option.map_some, Option.map_eq_some_iff] at place
      exact place
    obtain ⟨frame, name, args⟩ := made
    cases same
    have isMade := accounting.faithful.recorded_of_made here
    have exit : Exit toolset (own state.log.events frame) := by
      refine (finished frame).resolve_left fun none => ?_
      have member := mem_own.mpr isMade
      rw [none] at member
      exact List.not_mem_nil member
    refine ⟨frame, by rw [aligned.consulted, here], ?_⟩
    exact accounting.faithful.tells accounting.disciplined exit isMade found
  · unfold Toolset.trace at raised
    rw [if_pos records] at raised
    refine Trace.traceBuild_iff.mp ⟨misalignment, raised⟩ ?_
    rw [List.length_map, Trace.takers_everyIntent]
    exact aligned.judged.symm

/-! ### A session with a ledger -/

/-- The world is the list of what the governor reported. -/
abbrev reportedSetting : Setting where
  World := List TraceEvent
  Predicate := Unit
  Program := Unit
  Plain := Nat
  Verdict := Unit
  Foreign := Unit

/-- The governor denies what is named so. -/
def permits (name : PyStr) : Bool := name ≠ "forbidden"

def verdictOn (name : PyStr) : TraceEvent where
  nodeId := "root"
  sequence := 0
  payload := [(.str "tool", .str name)]
  class_ := .plain (if permits name then .intentApproved else .intentDenied) none

theorem verdictEvents_verdictOn (name : PyStr) :
    verdictEvents [verdictOn name] = [verdictOn name] := by
  unfold verdictOn
  cases permits name <;> rfl

/-- One tool returns a number, another calls it by the gate, and a third is forbidden. -/
def nestedToolset : Toolset reportedSetting where
  tools := [("echo", .function fun _ => .done (.plain 1)),
    ("nested", .function fun _ => .ask (.call "echo" []) fun _ => .done (.plain 2)),
    ("forbidden", .function fun _ => .done (.plain 3))]
  governor :=
    { evaluate := fun name _ => .read fun reported => .write (reported ++ [verdictOn name])
        (.done { allowed := permits name, reason := "", category := "", verdict := () })
      registerOutput := fun _ _ => .done () }
  poll _ := .done true
  record := true

def nestedRun : List (Operation reportedSetting) :=
  [.act (.call "nested" []), .act (.call "missing" []), .act (.call "forbidden" [])]

def noPrograms (_ : Unit) : Code reportedSetting (Object reportedSetting) := .done (.plain 0)

theorem recording_traceable_nested :
    Traceable nestedToolset id ((nestedToolset.surface noPrograms).ran 3 [] none nestedRun) := by
  have reports : Reports nestedToolset noPrograms id := by
    refine ⟨fun name args world => ?_, fun _ _ _ => trivial, fun _ _ => trivial, ?_,
      fun _ _ => trivial⟩
    · refine ⟨_, _, verdictOn name, rfl, ?_⟩
      unfold verdictsIn
      rw [id, id, verdictEvents_append, verdictEvents_verdictOn]
    · intro entry member
      simp only [nestedToolset, List.mem_cons, List.not_mem_nil, or_false] at member
      rcases member with rfl | rfl | rfl
      · exact fun _ _ => trivial
      · exact fun _ _ _ _ => trivial
      · exact fun _ _ => trivial
  refine recording_traceable reports rfl 3 rfl none ?_
  intro change member
  simp [nestedRun] at member

end AxorWrap.Runtime
