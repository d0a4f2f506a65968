/-
This file proves that the gate is complete. A call leaves its own events in one
of a few ways, one for each way through the body of `call`, and nothing a tool, a
governor or a predicate does in between can add to them: what they set off are
calls of their own, with events of their own.

So it is read off those ways that a tool is invoked only past an admission check
and a permitting decision on the same name and arguments, and that its output is
registered once, with that decision, when it returned one, and never otherwise.
-/

import AxorWrap.Runtime.Toolset
import AxorWrap.Runtime.Records

namespace AxorWrap.Runtime

open Python Methods Scripts Journals Machines

variable {S : Setting} (toolset : Toolset S)

/-! ### The ways out of a call -/

/-- The decision lets the tool be invoked. -/
def Permitted (decision : Decision S) : Prop :=
  decision.allowed = true ∨ toolset.enforcement = .off

theorem blocked_iff (decision : Decision S) :
    (!decision.allowed && toolset.enforcement = .on) = true ↔ ¬ Permitted toolset decision := by
  unfold Permitted
  cases decision.allowed <;> cases toolset.enforcement <;> decide

/-- What a call that was admitted notes up to the decision. -/
def opening (name : PyStr) (args : Args S) (admitted : Option Bool) (decision : Decision S)
    (recorded : Option Nat) : List (Happening S) :=
  [.entered name args, .admission admitted, .consulted name args, .decided decision] ++
    recording recorded name args

/-- The own events of a call from the invocation of the tool on. -/
inductive Finish (decision : Decision S) (recorded : Option Nat) : List (Happening S) → Prop
  /-- The tool raised. -/
  | failed (error : Raised S) : Finish decision recorded [.left (.error error)]
  /-- The tool returned, and registering its output raised. -/
  | unregistered (output : Object S) (error : Raised S) :
      Finish decision recorded
        [.produced output, .registered decision output, .left (.error error)]
  | returned (output : Object S) :
      Finish decision recorded
        ([.produced output, .registered decision output] ++ keeping recorded output ++
          [.left (.ok output)])

/-- The own events of a call that was left, and of a step of awaiting something. -/
inductive Exit : List (Happening S) → Prop
  | unknown (name : PyStr) (args : Args S) (absent : toolset.tools.lookup name = none) :
      Exit [.entered name args, .left (.error (.unknownTool name (toolNames toolset)))]
  /-- The admission predicate raised. -/
  | unadmitted (name : PyStr) (args : Args S) (error : Raised S) :
      Exit [.entered name args, .left (.error error)]
  | held (name : PyStr) (args : Args S) :
      Exit [.entered name args, .admission (some false),
        .left (.error (.admissionHeld "paused-or-stopped"))]
  /-- The governor raised. -/
  | undecided (name : PyStr) (args : Args S) (admitted : Option Bool) (error : Raised S)
      (passed : admitted ≠ some false) :
      Exit [.entered name args, .admission admitted, .consulted name args, .left (.error error)]
  | denied (name : PyStr) (args : Args S) (admitted : Option Bool) (decision : Decision S)
      (recorded : Option Nat) (passed : admitted ≠ some false)
      (barred : ¬ Permitted toolset decision) :
      Exit (opening name args admitted decision recorded ++
        [.left (.error (.toolDenied decision.reason decision.category))])
  | invoked (name : PyStr) (args : Args S) (admitted : Option Bool) (decision : Decision S)
      (recorded : Option Nat) (rest : List (Happening S))
      (known : (toolset.tools.lookup name).isSome) (passed : admitted ≠ some false)
      (permitted : Permitted toolset decision) (records : recorded.isSome = toolset.record)
      (finish : Finish decision recorded rest) :
      Exit (opening name args admitted decision recorded ++ .invoked name args :: rest)
  | awaited (target : Awaited S) (result : Except (Raised S) (Option (Object S))) :
      Exit [.awaiting target, .awoke result]

/-! ### Along the body of a call -/

/-- How the admission check ends. -/
inductive Checked : Except (Raised S) Unit → List (Happening S) → Prop
  | raised (error : Raised S) : Checked (.error error) []
  | held : Checked (.error (.admissionHeld "paused-or-stopped")) [.admission (some false)]
  | passed (admitted : Option Bool) (notFalse : admitted ≠ some false) :
      Checked (.ok ()) [.admission admitted]

theorem records_recordEvaluated {finished : List (Happening S) → Prop} (frame : Nat) (name : PyStr)
    (args : Args S) :
    journal.Records finished frame (recordEvaluated toolset frame name args) fun result mine =>
      ∃ recorded : Option Nat, result = .ok recorded ∧ recorded.isSome = toolset.record ∧
        mine = recording recorded name args := by
  unfold recordEvaluated
  cases toolset.record with
  | false => exact Journal.records_pure ⟨none, rfl, rfl, rfl⟩
  | true =>
    refine Journal.records_bind (records_recorderEvaluated frame name args) ?_ ?_
    · rintro index mine ⟨_, same, rfl⟩
      cases same
      exact Journal.records_pure ⟨some index, rfl, rfl, rfl⟩
    · rintro error mine ⟨_, raised, _⟩
      cases raised

theorem records_recordExecuted {finished : List (Happening S) → Prop} (frame : Nat)
    (recorded : Option Nat) (output : Object S) :
    journal.Records finished frame (recordExecuted frame recorded output) fun result mine =>
      result = .ok () ∧ mine = keeping recorded output := by
  cases recorded with
  | none => exact Journal.records_pure ⟨rfl, rfl⟩
  | some index => exact records_keepResult frame index output

section Body

variable {toolset} {serve : Service S}
  (serves : ∀ request state, Settled (Exit toolset) state (final (serve request) state))

include serves

theorem records_checkAdmission (frame : Nat) :
    journal.Records (Exit toolset) frame (checkAdmission toolset serve frame) Checked := by
  rw [checkAdmission_eq]
  refine Journal.records_get fun state => ?_
  cases state.admission with
  | none =>
    refine Journal.records_mono (Journal.records_note _) fun result mine here => ?_
    rw [here.1, here.2]
    exact .passed none (by decide)
  | some predicate =>
    refine Journal.records_quiet_bind (records_exec serves _ frame) (fun admitted => ?_) .raised
    refine Journal.records_note_bind ?_
    cases admitted with
    | false => exact Journal.records_throw .held
    | true => exact Journal.records_pure (.passed (some true) (by decide))

theorem records_runTool (frame : Nat) {name : PyStr} {args : Args S} {tool : Tool S}
    {decision : Decision S} {recorded : Option Nat} :
    journal.Records (Exit toolset) frame
      (runTool toolset serve frame name args tool decision recorded)
      fun result mine => ∃ rest, mine ++ [.left result] = .invoked name args :: rest ∧
        Finish decision recorded rest := by
  rw [runTool_eq]
  refine Journal.records_note_bind ?_
  refine Journal.records_quiet_bind (records_toolRun serves tool args frame) (fun output => ?_)
    fun error => ⟨_, rfl, .failed error⟩
  refine Journal.records_note_bind ?_
  refine Journal.records_note_bind ?_
  refine Journal.records_quiet_bind (records_exec serves _ frame) (fun _ => ?_)
    fun error => ⟨_, rfl, .unregistered output error⟩
  refine Journal.records_bind (records_recordExecuted frame recorded output) ?_ ?_
  · rintro _ mine ⟨_, rfl⟩
    refine Journal.records_pure ⟨_, ?_, .returned output⟩
    rw [List.append_nil]
    rfl
  · rintro error mine ⟨raised, _⟩
    cases raised

theorem records_execute (frame : Nat) {name : PyStr} {args : Args S} {tool : Tool S}
    {admitted : Option Bool} {decision : Decision S}
    (known : (toolset.tools.lookup name).isSome) (passed : admitted ≠ some false) :
    journal.Records (Exit toolset) frame (execute toolset serve frame name args tool decision)
      fun result mine => Exit toolset
        ([.entered name args, .admission admitted, .consulted name args, .decided decision] ++
          mine ++ [.left result]) := by
  unfold execute
  refine Journal.records_bind (records_recordEvaluated toolset frame name args) ?_ ?_
  · rintro recorded _ ⟨_, same, records, rfl⟩
    cases same
    split
    case isTrue blocked =>
      refine Journal.records_throw ?_
      rw [List.append_nil]
      exact .denied name args admitted decision recorded passed
        ((blocked_iff toolset decision).mp blocked)
    case isFalse free =>
      have permitted : Permitted toolset decision :=
        not_not.mp fun barred => free ((blocked_iff toolset decision).mpr barred)
      refine Journal.records_mono (records_runTool serves frame) ?_
      rintro result mine ⟨rest, same, finish⟩
      rw [← List.append_assoc, List.append_assoc, same]
      exact .invoked name args admitted decision recorded rest known passed permitted records finish
  · rintro error mine ⟨_, raised, _⟩
    cases raised

theorem records_callBody (name : PyStr) (args : Args S) (frame : Nat) :
    journal.Records (Exit toolset) frame (callBody toolset serve name args frame)
      fun result mine => Exit toolset (.entered name args :: mine ++ [.left result]) := by
  rw [callBody_eq]
  split
  case h_1 absent => exact Journal.records_throw (.unknown name args absent)
  case h_2 tool found =>
    refine Journal.records_bind (records_checkAdmission serves frame) ?_ ?_
    · rintro _ _ (_ | _ | ⟨admitted, passed⟩)
      refine Journal.records_note_bind ?_
      refine Journal.records_quiet_bind (records_exec serves _ frame) (fun decision => ?_)
        fun error => .undecided name args admitted error passed
      refine Journal.records_note_bind ?_
      exact records_execute serves frame (by rw [found]; rfl) passed
    · rintro error _ (_ | _)
      · exact .unadmitted name args error
      · exact .held name args

theorem settled_call (name : PyStr) (args : Args S) (state : State S) :
    Settled (Exit toolset) state (final (call toolset serve name args) state) :=
  Journal.extends_call (records_callBody serves name args) state

end Body

/-- Whatever is asked of a session, every call it makes is left by one of the exits. -/
theorem settled_serve (programs : S.Program → Code S (Object S)) (limit : Nat)
    (request : Request S) (state : State S) :
    Settled (Exit toolset) state
      (final ((toolset.surface programs).serve limit request) state) := by
  refine related_serve (settled_quietly _) (fun serve serves name args state => ?_)
    (fun serve serves entry member kwargs state => ?_) (fun target body keeps state => ?_)
    limit request state
  · exact settled_call serves name args state
  · obtain ⟨tool, _, rfl⟩ := List.mem_map.mp member
    exact settled_call serves tool.1 kwargs state
  · show Extends (Exit toolset) (journal.log state) _
    exact Journal.extends_call_of_quiet keeps (.awaited target) state

/-! ### What the exits say -/

section Exits

variable {toolset} {name : PyStr} {args : Args S} {admitted : Option Bool} {decision : Decision S}
  {recorded : Option Nat} {events before after rest : List (Happening S)}

/-- The tool was invoked, it returned, or its output was registered. -/
def Happening.PastGate : Happening S → Prop
  | .invoked _ _ | .produced _ | .registered _ _ => True
  | _ => False

/-- None of these is noted up to the decision. -/
theorem not_mem_opening {kind : Happening S} (past : kind.PastGate) :
    kind ∉ opening name args admitted decision recorded := by
  cases kind <;> cases past <;> cases recorded <;> simp [opening, recording]

/-- Only a call whose tool was invoked notes any of them. -/
theorem Exit.of_pastGate (exit : Exit toolset events) {kind : Happening S} (past : kind.PastGate)
    (member : kind ∈ events) :
    ∃ name args admitted decision recorded rest,
      events = opening name args admitted decision recorded ++ .invoked name args :: rest ∧
      (toolset.tools.lookup name).isSome ∧ admitted ≠ some false ∧ Permitted toolset decision ∧
      recorded.isSome = toolset.record ∧ Finish decision recorded rest := by
  cases exit with
  | invoked name args admitted decision recorded rest known passed permitted records finish =>
    exact ⟨name, args, admitted, decision, recorded, rest, rfl, known, passed, permitted, records,
      finish⟩
  | denied name args admitted decision recorded _ _ =>
    rcases List.mem_append.mp member with opened | last
    · exact absurd opened (not_mem_opening past)
    · rw [List.mem_singleton.mp last] at past
      cases past
  | unknown | unadmitted | held | undecided | awaited =>
    cases kind <;> cases past <;> simp at member

theorem Finish.not_invoked (finish : Finish decision recorded rest) :
    .invoked name args ∉ rest := by
  cases finish <;> cases recorded <;> simp [keeping]

/-- What the tool returned is registered next, and nothing else is registered. -/
theorem Finish.of_produced (finish : Finish decision recorded rest) {output : Object S}
    (split : rest = before ++ .produced output :: after) :
    before = [] ∧ ∃ closing result,
      after = .registered decision output :: closing ++ [.left result] ∧
        ∀ other another, .registered other another ∉ closing := by
  cases finish with
  | failed error =>
    have member : Happening.produced output ∈ [Happening.left (.error error)] := by simp [split]
    simp at member
  | unregistered produced error =>
    have parts : [] ++ .produced produced :: _ = before ++ .produced output :: after := split
    rw [List.append_cons_inj_of_notMem (by simp) (by simp)] at parts
    obtain ⟨rfl, same, rfl⟩ := parts
    cases same
    exact ⟨rfl, [], .error error, rfl, by simp⟩
  | returned produced =>
    have parts : [] ++ .produced produced :: _ = before ++ .produced output :: after := split
    rw [List.append_cons_inj_of_notMem (by simp) (by cases recorded <;> simp [keeping])] at parts
    obtain ⟨rfl, same, rfl⟩ := parts
    cases same
    exact ⟨rfl, keeping recorded output, .ok output, rfl, by cases recorded <;> simp [keeping]⟩

/-- What is registered is what the tool returned, with the decision of the call. -/
theorem Finish.of_registered (finish : Finish decision recorded rest) {other : Decision S}
    {output : Object S} (split : rest = before ++ .registered other output :: after) :
    other = decision ∧ before = [.produced output] := by
  cases finish with
  | failed error =>
    have member : Happening.registered other output ∈ [Happening.left (.error error)] := by
      simp [split]
    simp at member
  | unregistered produced error =>
    have parts : [.produced produced] ++ .registered decision produced :: _ =
      before ++ .registered other output :: after := split
    rw [List.append_cons_inj_of_notMem (by simp) (by simp)] at parts
    obtain ⟨rfl, same, rfl⟩ := parts
    cases same
    exact ⟨rfl, rfl⟩
  | returned produced =>
    have parts : [.produced produced] ++ .registered decision produced :: _ =
      before ++ .registered other output :: after := split
    rw [List.append_cons_inj_of_notMem (by simp) (by cases recorded <;> simp [keeping])] at parts
    obtain ⟨rfl, same, rfl⟩ := parts
    cases same
    exact ⟨rfl, rfl⟩

/-- Before the invocation of a tool stands what opens the gate. -/
theorem Exit.of_invoked (exit : Exit toolset (before ++ .invoked name args :: after)) :
    (toolset.tools.lookup name).isSome ∧ ∃ admitted decision recorded, admitted ≠ some false ∧
      Permitted toolset decision ∧ before = opening name args admitted decision recorded := by
  have isPast : (Happening.invoked name args).PastGate := trivial
  obtain ⟨_, _, admitted, decision, recorded, rest, parts, known, passed, permitted, _, finish⟩ :=
    exit.of_pastGate isPast (List.mem_append_right before List.mem_cons_self)
  rw [eq_comm, List.append_cons_inj_of_notMem (not_mem_opening isPast) finish.not_invoked] at parts
  obtain ⟨opened, called, _⟩ := parts
  cases called
  exact ⟨known, admitted, decision, recorded, passed, permitted, opened.symm⟩

/-- What stands before an output or its registration, past the invocation, is the tool's doing. -/
theorem Exit.of_output {kind : Happening S} (exit : Exit toolset (before ++ kind :: after))
    (past : kind.PastGate) (notInvoked : ∀ name args, kind ≠ .invoked name args) :
    ∃ name args admitted decision recorded middle,
      before = opening name args admitted decision recorded ++ .invoked name args :: middle ∧
      Finish decision recorded (middle ++ kind :: after) := by
  obtain ⟨name, args, admitted, decision, recorded, rest, parts, _, _, _, _, finish⟩ :=
    exit.of_pastGate past (List.mem_append_right before List.mem_cons_self)
  rw [List.append_cons (opening name args admitted decision recorded)] at parts
  obtain ⟨middle, opened, later⟩ := split_later parts (by
    simp [not_mem_opening past, notInvoked name args])
  rw [later] at finish
  rw [List.append_assoc] at opened
  exact ⟨name, args, admitted, decision, recorded, middle, opened, finish⟩

theorem Exit.of_produced {output : Object S}
    (exit : Exit toolset (before ++ .produced output :: after)) :
    ∃ decision closing result, .decided decision ∈ before ∧
      after = .registered decision output :: closing ++ [.left result] ∧
      ∀ other another, .registered other another ∉ before ++ closing := by
  obtain ⟨name, args, admitted, decision, recorded, middle, opened, finish⟩ :=
    exit.of_output trivial (fun _ _ same => by cases same)
  obtain ⟨rfl, closing, result, closed, unregistered⟩ := finish.of_produced rfl
  refine ⟨decision, closing, result, ?_, closed, fun other another member => ?_⟩
  · rw [opened]
    simp [opening]
  · rw [opened] at member
    have isPast : (Happening.registered other another).PastGate := trivial
    simp [not_mem_opening isPast, unregistered other another] at member

theorem Exit.of_registered {other : Decision S} {output : Object S}
    (exit : Exit toolset (before ++ .registered other output :: after)) :
    ∃ name args admitted recorded,
      before = opening name args admitted other recorded ++
        [.invoked name args, .produced output] := by
  obtain ⟨name, args, admitted, decision, recorded, middle, opened, finish⟩ :=
    exit.of_output trivial (fun _ _ same => by cases same)
  obtain ⟨rfl, rfl⟩ := finish.of_registered rfl
  exact ⟨name, args, admitted, recorded, opened⟩

end Exits

/-! ### Complete mediation -/

/-- What the gate is for, of the events of all calls of a run. -/
structure Mediated (events : List (Nat × Happening S)) : Prop where
  /-- When a tool is invoked, its name is registered, the same call passed the admission check,
  asked the governor about this name and these arguments, and was permitted. -/
  invoked : ∀ before frame name args after,
    events = before ++ (frame, .invoked name args) :: after →
    (toolset.tools.lookup name).isSome ∧ ∃ admitted decision recorded, admitted ≠ some false ∧
      Permitted toolset decision ∧ own before frame = opening name args admitted decision recorded
  /-- When a tool returns, its output is registered with the decision of the call, once, before
  the call is left. -/
  produced : ∀ before frame output after,
    events = before ++ (frame, .produced output) :: after →
    ∃ decision closing result, .decided decision ∈ own before frame ∧
      own after frame = .registered decision output :: closing ++ [.left result] ∧
      ∀ other another, .registered other another ∉ own before frame ++ closing
  /-- What is registered is what the tool that the same call invoked returned. So a call that was
  held, unknown or denied, or whose tool raised, registers nothing. -/
  registered : ∀ before frame decision output after,
    events = before ++ (frame, .registered decision output) :: after →
    ∃ name args admitted recorded, own before frame =
      opening name args admitted decision recorded ++ [.invoked name args, .produced output]

/-- **Complete mediation**: whatever the tools, the governor and the admission predicates do, and
whatever the agent asks for in whatever order. -/
theorem complete_mediation (programs : S.Program → Code S (Object S)) (limit : Nat)
    (world : S.World) (admission : Option S.Predicate) (operations : List (Operation S)) :
    Mediated toolset
      ((toolset.surface programs).ran limit world admission operations).log.events := by
  have finished :=
    finished_run (settled_serve toolset programs limit) world admission operations
  generalize ((toolset.surface programs).ran limit world admission operations).log.events = events
    at finished ⊢
  have exit : ∀ {before frame kind after}, events = before ++ (frame, kind) :: after →
      Exit toolset (own before frame ++ kind :: own after frame) := by
    intro before frame kind after split
    have left := finished frame
    rw [split, own_split] at left
    exact left.resolve_left (by simp)
  exact
    { invoked := fun _ _ _ _ _ split => (exit split).of_invoked
      produced := fun _ _ _ _ split => (exit split).of_produced
      registered := fun _ _ _ _ _ split => (exit split).of_registered }

end AxorWrap.Runtime
