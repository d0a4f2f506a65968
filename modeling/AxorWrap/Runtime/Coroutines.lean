/-
This file proves what reaches a caller from the two paths. On the gating path a
call registers what the tool callable returned, and stores it when there is a
recorder; on the recording path it stores it. Either way it happens inside the
call. A coroutine function returns a coroutine object, any function may return a
task or the like, and what awaiting that gives comes into being later, past the
wrapper, and is never seen by it.
-/

import AxorWrap.Runtime.Mediation
import AxorWrap.Runtime.Accounting

namespace AxorWrap.Runtime

open Python Methods Scripts Journals Machines

variable {S : Setting}

/-! ### The gating path -/

section Gate

variable {toolset : Toolset S}

theorem not_succeeds_opening {name : PyStr} {args : Args S} {admitted : Option Bool}
    {decision : Decision S} {recorded : Option Nat} {kind : Happening S}
    (member : kind ∈ opening name args admitted decision recorded) : ¬ kind.Succeeds := by
  cases kind with
  | kept | left => cases recorded <;> simp [opening, recording] at member
  | _ => exact id

theorem Exit.closes {mine : List (Happening S)} (exit : Exit toolset mine) :
    Returned True (toolset.record = true) mine ∨ ∀ kind ∈ mine, ¬ kind.Succeeds := by
  cases exit with
  | invoked name args admitted decision recorded rest known passed permitted records finish =>
    have opened : ∀ kind ∈ opening name args admitted decision recorded, ¬ kind.Succeeds :=
      fun _ => not_succeeds_opening
    cases finish with
    | failed error =>
      exact .inr (List.forall_mem_append.mpr ⟨opened, by simp [Happening.Succeeds]⟩)
    | unregistered output error =>
      exact .inr (List.forall_mem_append.mpr ⟨opened, by simp [Happening.Succeeds]⟩)
    | returned output =>
      have returned : Returned True (toolset.record = true)
          (opening name args admitted decision recorded ++
            [.invoked name args, .produced output, .registered decision output] ++
            keeping recorded output ++ [.left (.ok output)]) := by
        refine .intro _ recorded output ?_ (by simp) (fun _ => ⟨decision, by simp⟩) ?_ ?_ ?_
        · exact List.forall_mem_append.mpr ⟨opened, by simp [Happening.Succeeds]⟩
        · cases recorded <;> simp [opening, recording]
        · rw [records]
          exact id
        · cases recorded <;> simp [opening, recording, eq_comm]
      left
      simpa using returned
  | denied name args admitted decision recorded _ _ =>
    exact .inr (List.forall_mem_append.mpr
      ⟨fun _ => not_succeeds_opening, by simp [Happening.Succeeds]⟩)
  | unknown | unadmitted | held | undecided | awaited => exact .inr (by simp [Happening.Succeeds])

theorem keepsRecords_recordEvaluated (frame : Nat) (name : PyStr) (args : Args S)
    (state : State S) :
    KeepsRecords state (final (recordEvaluated toolset frame name args) state) := by
  unfold recordEvaluated
  split
  · rw [final_map]
    exact keepsRecords_recorderEvaluated frame name args state
  · exact Std.Refl.refl state

theorem keepsRecords_recordExecuted (frame : Nat) (recorded : Option Nat) (output : Object S)
    (state : State S) :
    KeepsRecords state (final (recordExecuted frame recorded output) state) := by
  cases recorded with
  | none => exact Std.Refl.refl state
  | some index => exact keepsRecords_keepResult frame index output state

variable {serve : Service S}
  (serves : ∀ request state, KeepsRecords state (final (serve request) state))

include serves

theorem keepsRecords_checkAdmission (frame : Nat) (state : State S) :
    KeepsRecords state (final (checkAdmission toolset serve frame) state) := by
  rw [checkAdmission_eq]
  rw [final_bind_ok (outcome_get state), final_get]
  cases state.admission with
  | none => exact keepsRecords_note id frame state
  | some predicate =>
    refine related_bind (related_exec keepsRecords_quietly serves _ state) fun admitted _ => ?_
    refine related_bind (keepsRecords_note id frame _) fun _ _ => ?_
    cases admitted <;> exact Std.Refl.refl _

theorem keepsRecords_invoke (frame : Nat) (name : PyStr) (tool : Tool S) (args : Args S)
    (state : State S) :
    KeepsRecords state (final (invoke serve frame name tool args) state) := by
  unfold invoke
  refine related_bind (keepsRecords_note id frame state) fun _ _ => ?_
  refine related_bind (related_toolRun keepsRecords_quietly serves tool args _) fun _ _ => ?_
  refine related_bind (keepsRecords_note id frame _) fun _ _ => ?_
  exact Std.Refl.refl _

theorem keepsRecords_runTool (frame : Nat) (name : PyStr) (args : Args S) (tool : Tool S)
    (decision : Decision S) (recorded : Option Nat) (state : State S) :
    KeepsRecords state
      (final (runTool toolset serve frame name args tool decision recorded) state) := by
  unfold runTool registerOutput
  refine related_bind (keepsRecords_invoke serves frame name tool args state) fun output _ => ?_
  refine related_bind (related_bind (keepsRecords_note id frame _) fun _ _ =>
    related_exec keepsRecords_quietly serves _ _) fun _ _ => ?_
  refine related_bind (keepsRecords_recordExecuted frame recorded output _) fun _ _ => ?_
  exact Std.Refl.refl _

theorem keepsRecords_callBody (name : PyStr) (args : Args S) (frame : Nat) (state : State S) :
    KeepsRecords state (final (callBody toolset serve name args frame) state) := by
  rw [callBody_eq]
  split
  · exact Std.Refl.refl state
  · refine related_bind (keepsRecords_checkAdmission serves frame state) fun _ _ => ?_
    refine related_bind (keepsRecords_note id frame _) fun _ _ => ?_
    refine related_bind (related_exec keepsRecords_quietly serves _ _) fun decision _ => ?_
    refine related_bind (keepsRecords_note id frame _) fun _ _ => ?_
    unfold execute
    refine related_bind (keepsRecords_recordEvaluated frame name args _) fun recorded _ => ?_
    split
    · exact Std.Refl.refl _
    · exact keepsRecords_runTool serves frame name args _ decision recorded _

theorem keepsRecords_callTool (name : PyStr) (args : Args S) (state : State S) :
    KeepsRecords state (final (call toolset serve name args) state) :=
  keepsRecords_call id (fun _ => id) (keepsRecords_callBody serves name args) state

end Gate

theorem keepsRecords_serve (toolset : Toolset S) (programs : S.Program → Code S (Object S))
    (limit : Nat) (request : Request S) (state : State S) :
    KeepsRecords state (final ((toolset.surface programs).serve limit request) state) := by
  refine related_serve keepsRecords_quietly (fun serve serves name args state => ?_)
    (fun serve serves entry member kwargs state => ?_) (fun target body keeps state => ?_)
    limit request state
  · exact keepsRecords_callTool serves name args state
  · obtain ⟨tool, _, rfl⟩ := List.mem_map.mp member
    exact keepsRecords_callTool serves tool.1 kwargs state
  · exact keepsRecords_call id (fun _ => id) (fun _ => keeps) state

/-! ### The recording path -/

/-- The own events of a call on the recording path. -/
inductive RecordedExit : List (Happening S) → Prop
  | failed (name : PyStr) (kwargs : Args S) (index : Nat) (error : Raised S) :
      RecordedExit [.entered name kwargs, .recorded index name kwargs, .invoked name kwargs,
        .left (.error error)]
  | returned (name : PyStr) (kwargs : Args S) (index : Nat) (result : Object S) :
      RecordedExit [.entered name kwargs, .recorded index name kwargs, .invoked name kwargs,
        .produced result, .kept index result, .left (.ok result)]
  | awaited (target : Awaited S) (result : Except (Raised S) (Option (Object S))) :
      RecordedExit [.awaiting target, .awoke result]

theorem RecordedExit.closes {mine : List (Happening S)} (exit : RecordedExit mine) :
    Returned False True mine ∨ ∀ kind ∈ mine, ¬ kind.Succeeds := by
  cases exit with
  | returned name kwargs index result =>
    refine .inl (.intro [.entered name kwargs, .recorded index name kwargs, .invoked name kwargs,
      .produced result] (some index) result ?_ ?_ ?_ ?_ ?_ ?_)
    all_goals simp [Happening.Succeeds, eq_comm]
  | failed | awaited => exact .inr (by simp [Happening.Succeeds])

section Streaming

variable {tools : List (PyStr × Tool S)} {serve : Service S}

theorem records_recordedBody
    (serves : ∀ request state, Settled RecordedExit state (final (serve request) state))
    (name : PyStr) (tool : Tool S) (kwargs : Args S) (frame : Nat) :
    journal.Records RecordedExit frame (recordedBody serve name tool kwargs frame)
      fun result mine => RecordedExit (.entered name kwargs :: mine ++ [.left result]) := by
  rw [recordedBody_eq]
  refine Journal.records_bind (records_recorderEvaluated frame name kwargs) ?_ ?_
  · rintro index _ ⟨_, same, rfl⟩
    cases same
    refine Journal.records_note_bind ?_
    refine Journal.records_quiet_bind (records_toolRun serves tool kwargs frame) (fun result => ?_)
      fun error => .failed name kwargs index error
    refine Journal.records_note_bind ?_
    refine Journal.records_bind (records_keepResult frame index result) ?_ ?_
    · rintro _ _ ⟨_, rfl⟩
      exact Journal.records_pure (.returned name kwargs index result)
    · rintro error _ ⟨raised, _⟩
      cases raised
  · rintro error _ ⟨_, raised, _⟩
    cases raised

theorem keepsRecords_recordedBody
    (serves : ∀ request state, KeepsRecords state (final (serve request) state))
    (name : PyStr) (tool : Tool S) (kwargs : Args S) (frame : Nat) (state : State S) :
    KeepsRecords state (final (recordedBody serve name tool kwargs frame) state) := by
  unfold recordedBody
  refine related_bind (keepsRecords_recorderEvaluated frame name kwargs state) fun index _ => ?_
  refine related_bind (keepsRecords_invoke serves frame name tool kwargs _) fun _ _ => ?_
  refine related_bind (keepsRecords_keepResult frame index _ _) fun _ _ => ?_
  exact Std.Refl.refl _

end Streaming

/-- What every call of a recorded tool keeps, and a step of awaiting keeps, every request of a
session on the recording path keeps. -/
theorem related_streaming {R : State S → State S → Prop} [Std.Refl R] [IsTrans (State S) R]
    (quiet : KeptQuietly R) (tools : List (PyStr × Tool S))
    (programs : S.Program → Code S (Object S))
    (each : ∀ serve : Service S, (∀ request state, R state (final (serve request) state)) →
      ∀ name tool kwargs state, R state (final (journal.call (.entered name kwargs) .left
        (recordedBody serve name tool kwargs)) state))
    (awaits : ∀ target body, (∀ state, R state (final body state)) →
      ∀ state, R state (final (journal.call (.awaiting target) .awoke fun _ => body) state))
    (limit : Nat) (request : Request S) (state : State S) :
    R state (final ((streaming tools programs).serve limit request) state) := by
  have callables : ∀ serve : Service S, (∀ request state, R state (final (serve request) state)) →
      ∀ entry ∈ recordTools tools serve, ∀ kwargs state,
        R state (final (entry.2 kwargs) state) := by
    intro serve serves entry member kwargs state
    obtain ⟨tool, _, rfl⟩ := List.mem_map.mp member
    exact each serve serves tool.1 tool.2 kwargs state
  refine related_serve quiet (fun serve serves name args state => ?_) callables awaits limit
    request state
  unfold streaming
  dsimp only
  split
  · next recorded found => exact callables serve serves _ (mem_of_lookup found) args state
  · exact Std.Refl.refl state

theorem settled_streaming (tools : List (PyStr × Tool S))
    (programs : S.Program → Code S (Object S)) (limit : Nat) (request : Request S)
    (state : State S) :
    Settled RecordedExit state
      (final ((streaming tools programs).serve limit request) state) := by
  refine related_streaming (settled_quietly _) tools programs
    (fun serve serves name tool kwargs state => ?_) (fun target body keeps state => ?_) limit
    request state
  · exact Journal.extends_call (records_recordedBody serves name tool kwargs) state
  · show Extends RecordedExit (journal.log state) _
    exact Journal.extends_call_of_quiet keeps (.awaited target) state

theorem keepsRecords_streaming (tools : List (PyStr × Tool S))
    (programs : S.Program → Code S (Object S)) (limit : Nat) (request : Request S)
    (state : State S) :
    KeepsRecords state (final ((streaming tools programs).serve limit request) state) :=
  related_streaming keepsRecords_quietly tools programs
    (fun _ serves name tool kwargs state => keepsRecords_call id (fun _ => id)
      (keepsRecords_recordedBody serves name tool kwargs) state)
    (fun _ _ keeps state => keepsRecords_call id (fun _ => id) (fun _ => keeps) state)
    limit request state

/-! ### What reaches the caller -/

/-- **No output reaches the caller unregistered, nor unrecorded, when the tool callable returned
it itself**, and only then: whatever tools, governors and predicates do, what a caller obtains
from a call was passed to `register_output` for that call before, and is the result in its record
when there is one, exactly when the callable returned nothing that can be awaited or awaiting what
it returned gives that itself. On the recording path, where nothing registers, the same is true of
the record. -/
theorem obtained_accounted_iff :
    (∀ (toolset : Toolset S) (programs : S.Program → Code S (Object S)) (limit : Nat)
      (world : S.World) (admission : Option S.Predicate) (operations : List (Operation S))
      (before : List (Nat × Happening S)) (frame : Nat) (value : Object S),
      let state := (toolset.surface programs).ran limit world admission operations
      Obtained state.log.events before frame value →
      ∃ output, (frame, .produced output) ∈ before ∧
        (Registered before frame value ∧
            (toolset.record = true → Stored state before frame value) ↔
          ¬ output.IsAwaitable ∨ value = output)) ∧
    (∀ (tools : List (PyStr × Tool S)) (programs : S.Program → Code S (Object S)) (limit : Nat)
      (world : S.World) (admission : Option S.Predicate) (operations : List (Operation S))
      (before : List (Nat × Happening S)) (frame : Nat) (value : Object S),
      let state := (streaming tools programs).ran limit world admission operations
      Obtained state.log.events before frame value →
      ∃ output, (frame, .produced output) ∈ before ∧
        (Stored state before frame value ↔ ¬ output.IsAwaitable ∨ value = output)) := by
  constructor
  · intro toolset programs limit world admission operations before frame value state obtained
    have accounting := accounting_ran (keepsRecords_serve toolset programs limit)
      (settled_serve toolset programs limit) (fun _ => Exit.closes) world admission operations
    obtain ⟨output, produced, accounted⟩ := accounting.obtained_iff (.inl trivial) obtained
    rw [true_imp_iff] at accounted
    exact ⟨output, produced, accounted⟩
  · intro tools programs limit world admission operations before frame value state obtained
    have accounting := accounting_ran (keepsRecords_streaming tools programs limit)
      (settled_streaming tools programs limit) (fun _ => RecordedExit.closes) world admission
      operations
    obtain ⟨output, produced, accounted⟩ := accounting.obtained_iff (.inr trivial) obtained
    rw [false_imp_iff, true_and, true_imp_iff] at accounted
    exact ⟨output, produced, accounted⟩

/-! ### A coroutine tool -/

/-- A session of its own: no world to speak of, and numbers for objects. -/
def plainSetting : Setting where
  World := Unit
  Predicate := Unit
  Program := Unit
  Plain := Nat
  Verdict := Unit
  Foreign := Unit

def number (value : Nat) : Object plainSetting := .plain value

/-- `async def fetch(): return 42`. -/
def fetch : PyStr × Tool plainSetting :=
  ("fetch", .coroutineFunction fun _ => .ok (.done (number 42)))

/-- The other coroutine functions return zero. -/
def zeros (_ : Unit) : Code plainSetting (Object plainSetting) := .done (number 0)

def allowing : Decision plainSetting :=
  { allowed := true, reason := "", category := "", verdict := () }

/-- The governor allows every call, and there is nothing to hold one. -/
def fetchToolset : Toolset plainSetting where
  tools := [fetch]
  governor :=
    { evaluate := fun _ _ => .done allowing
      registerOutput := fun _ _ => .done () }
  poll _ := .done true
  record := true

/-- The agent calls the tool and awaits what it got. -/
def fetchRun : List (Operation plainSetting) :=
  [.act (.call "fetch" []), .act (.await (.iterator 0))]

/-- What happens before it obtains anything. -/
def fetchEvents : List (Nat × Happening plainSetting) :=
  [(0, .entered "fetch" []), (0, .admission none), (0, .consulted "fetch" []),
    (0, .decided allowing), (0, .recorded 0 "fetch" []), (0, .invoked "fetch" []),
    (0, .produced (.coroutine 0)), (0, .registered allowing (.coroutine 0)),
    (0, .kept 0 (.coroutine 0)), (0, .left (.ok (.coroutine 0))), (1, .awaiting (.iterator 0))]

/-- The agent obtains 42, which was never registered and is not in the record. What was registered
and recorded is the coroutine object. -/
theorem awaited_unaccounted :
    let state := (fetchToolset.surface zeros).ran 2 () none fetchRun
    Obtained state.log.events fetchEvents 0 (number 42) ∧
      ¬ Registered fetchEvents 0 (number 42) ∧ ¬ Stored state fetchEvents 0 (number 42) := by
  refine ⟨.awaited 0 1 [] ?_ ?_ rfl, ?_, ?_⟩
  · simp [fetchEvents]
  · simp [fetchEvents]
  · rintro ⟨decision, member⟩
    simp [fetchEvents, number] at member
  · rintro ⟨index, name, args, member, found⟩
    simp [fetchEvents] at member
    obtain ⟨rfl, rfl, rfl⟩ := member
    cases found

end AxorWrap.Runtime
