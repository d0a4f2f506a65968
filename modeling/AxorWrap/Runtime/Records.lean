/-
This file proves that the recorder's list is what the journal says. A record is
made and a result is kept in the list and in the journal at once, so the list is
the journal replayed, whatever is called in between and however calls nest.

A place in the list is given to one call only, the one that made the record. So
the record of a call that kept a result holds that result for good.
-/

import AxorWrap.Runtime.Calls

namespace AxorWrap.Runtime

open Python Methods Scripts Journals Machines

variable {S : Setting}

/-! ### The list of records, replayed -/

def replayEvent (calls : List (RecordedCall S)) : Nat × Happening S → List (RecordedCall S)
  | (_, .recorded _ name args) => calls ++ [{ tool := name, args := args }]
  | (_, .kept index output) => calls.modify index (RecordedCall.execute output)
  | _ => calls

/-- The records that the events of a journal make. -/
def replay (events : List (Nat × Happening S)) : List (RecordedCall S) :=
  events.foldl replayEvent []

theorem replay_snoc (events : List (Nat × Happening S)) (event : Nat × Happening S) :
    replay (events ++ [event]) = replayEvent (replay events) event := by
  rw [replay, List.foldl_append]
  rfl

theorem length_le_foldl (events : List (Nat × Happening S)) (calls : List (RecordedCall S)) :
    calls.length ≤ (events.foldl replayEvent calls).length := by
  induction events generalizing calls with
  | nil => exact le_rfl
  | cons event rest inductionHypothesis =>
    refine le_trans ?_ (inductionHypothesis (replayEvent calls event))
    unfold replayEvent
    split <;> simp

theorem replay_recorded (before after : List (Nat × Happening S)) (frame index : Nat)
    (name : PyStr) (args : Args S) :
    replay (before ++ (frame, .recorded index name args) :: after) =
      after.foldl replayEvent (replay before ++ [{ tool := name, args := args }]) := by
  rw [replay, List.foldl_append]
  rfl

theorem length_lt_replay (before after : List (Nat × Happening S)) (frame index : Nat)
    (name : PyStr) (args : Args S) :
    (replay before).length <
      (replay (before ++ (frame, .recorded index name args) :: after)).length := by
  rw [replay_recorded]
  refine lt_of_lt_of_le ?_ (length_le_foldl after _)
  rw [List.length_append]
  exact Nat.lt_succ_self _

/-- What holds of a record, and is kept when a result is put in it, holds of it for good. -/
theorem record_foldl (holds : RecordedCall S → Prop) {index : Nat}
    {events : List (Nat × Happening S)}
    (kept : ∀ frame output, (frame, .kept index output) ∈ events →
      ∀ call, holds call → holds (call.execute output))
    {calls : List (RecordedCall S)} (now : ∃ call, calls[index]? = some call ∧ holds call) :
    ∃ call, (events.foldl replayEvent calls)[index]? = some call ∧ holds call := by
  induction events generalizing calls with
  | nil => exact now
  | cons event rest inductionHypothesis =>
    refine inductionHypothesis (fun frame output member =>
      kept frame output (List.mem_cons_of_mem _ member)) ?_
    obtain ⟨call, found, here⟩ := now
    unfold replayEvent
    split
    case h_1 frame _ name args =>
      have inside : index < calls.length := (List.getElem?_eq_some_iff.mp found).1
      exact ⟨call, by rw [List.getElem?_append_left inside, found], here⟩
    case h_2 frame place output =>
      rw [List.getElem?_modify, found]
      by_cases same : place = index
      · subst same
        exact ⟨call.execute output, by simp, kept frame output List.mem_cons_self call here⟩
      · exact ⟨call, by simp [same], here⟩
    case h_3 => exact ⟨call, found, here⟩

/-! ### Every request keeps the records faithful -/

/-- The list of records is what the journal says, and each record has the place it was made at. -/
structure Faithful (state : State S) : Prop where
  calls : state.calls = replay state.log.events
  numbered : ∀ before frame index name args after,
    state.log.events = before ++ (frame, .recorded index name args) :: after →
    index = (replay before).length

def KeepsRecords (before after : State S) : Prop := Faithful before → Faithful after

instance : Std.Refl (KeepsRecords (S := S)) where
  refl _ := id

instance : IsTrans (State S) KeepsRecords where
  trans _ _ _ first second := second ∘ first

theorem keepsRecords_quietly : KeptQuietly (KeepsRecords (S := S)) := by
  intro before after sameLog sameCalls faithful
  constructor
  · rw [sameCalls, sameLog]
    exact faithful.calls
  · rw [sameLog]
    exact faithful.numbered

/-- An event whose effect on the list is the one that is replayed. -/
theorem Faithful.append {state next : State S} (faithful : Faithful state)
    (event : Nat × Happening S) (calls : next.calls = replayEvent state.calls event)
    (events : next.log.events = state.log.events ++ [event])
    (place : ∀ frame index name args, event = (frame, .recorded index name args) →
      index = state.calls.length) : Faithful next := by
  constructor
  · rw [calls, events, replay_snoc, faithful.calls]
  · intro before frame index name args after split
    rw [events] at split
    rcases List.eq_nil_or_concat after with rfl | ⟨rest, last, rfl⟩
    · obtain ⟨rfl, same⟩ := List.append_inj' split rfl
      rw [place frame index name args (List.singleton_inj.mp same), faithful.calls]
    · rw [List.concat_eq_append, ← List.cons_append, ← List.append_assoc] at split
      exact faithful.numbered before frame index name args rest (List.append_inj' split rfl).1

/-- The event is one of the recorder's. -/
def Happening.OfRecorder : Happening S → Prop
  | .recorded _ _ _ | .kept _ _ => True
  | _ => False

theorem keepsRecords_note {kind : Happening S} (other : ¬ kind.OfRecorder) (frame : Nat)
    (state : State S) : KeepsRecords state (journal.update (Log.add frame kind) state) := by
  intro faithful
  refine faithful.append (frame, kind) ?_ rfl ?_
  · cases kind <;> first | rfl | exact absurd trivial other
  · intro _ index name args same
    cases same
    exact absurd trivial other

theorem keepsRecords_call {α : Type} {entered : Happening S}
    {left : Except (Raised S) α → Happening S} {body : Nat → ToolMethod S α}
    (enters : ¬ entered.OfRecorder) (leaves : ∀ result, ¬ (left result).OfRecorder)
    (keeps : ∀ frame state, KeepsRecords state (final (body frame) state)) (state : State S) :
    KeepsRecords state (final (journal.call entered left body) state) := by
  refine Journal.related_call (fun state => ?_) keeps
    (fun frame result state => keepsRecords_note (leaves result) frame state) state
  refine IsTrans.trans (r := KeepsRecords) _ _ _ ?_ (keepsRecords_note enters _ _)
  exact fun faithful => ⟨faithful.calls, faithful.numbered⟩

theorem keepsRecords_recorderEvaluated (frame : Nat) (name : PyStr) (args : Args S)
    (state : State S) :
    KeepsRecords state (final (recorderEvaluated frame name args) state) := by
  intro faithful
  refine faithful.append (frame, .recorded state.calls.length name args) rfl rfl ?_
  intro _ index _ _ same
  cases same
  rfl

theorem keepsRecords_keepResult (frame index : Nat) (output : Object S) (state : State S) :
    KeepsRecords state (final (keepResult frame index output) state) := by
  intro faithful
  refine faithful.append (frame, .kept index output) rfl rfl ?_
  intro _ _ _ _ same
  cases same

/-! ### The record of a call -/

/-- What a call notes of its record, when there is a recorder. -/
def recording (recorded : Option Nat) (name : PyStr) (args : Args S) : List (Happening S) :=
  match recorded with
  | some index => [.recorded index name args]
  | none => []

def keeping (recorded : Option Nat) (output : Object S) : List (Happening S) :=
  match recorded with
  | some index => [.kept index output]
  | none => []

/-- A call keeps one result at most, in a record it made before. -/
structure Disciplined (mine : List (Happening S)) : Prop where
  recorded : ∀ before index output after, mine = before ++ .kept index output :: after →
    ∃ name args, .recorded index name args ∈ before
  single : ∀ index output other, .kept index output ∈ mine → .kept index other ∈ mine →
    output = other

/-- Two records at one place are of one call. -/
theorem Faithful.frame_eq {state : State S} (faithful : Faithful state)
    {frame other index : Nat} {name otherName : PyStr} {args otherArgs : Args S}
    (here : (frame, .recorded index name args) ∈ state.log.events)
    (there : (other, .recorded index otherName otherArgs) ∈ state.log.events) :
    frame = other := by
  obtain ⟨before, after, first⟩ := List.append_of_mem here
  obtain ⟨early, late, second⟩ := List.append_of_mem there
  have place := faithful.numbered before frame index name args after first
  have samePlace := faithful.numbered early other index otherName otherArgs late second
  rcases List.append_eq_append_iff.mp (first.symm.trans second) with
    ⟨middle, rfl, rest⟩ | ⟨middle, rfl, rest⟩
  · cases middle with
    | nil =>
      cases rest
      rfl
    | cons head tail =>
      cases rest
      have increased := length_lt_replay before tail frame index name args
      omega
  · cases middle with
    | nil =>
      cases rest
      rfl
    | cons head tail =>
      cases rest
      have increased := length_lt_replay early tail other index otherName otherArgs
      omega

theorem recorded_of_kept {events before after : List (Nat × Happening S)}
    (disciplined : ∀ frame, Disciplined (own events frame)) {frame index : Nat}
    {output : Object S} (split : events = before ++ (frame, .kept index output) :: after) :
    ∃ name args, (frame, .recorded index name args) ∈ before := by
  have parts : own events frame = own before frame ++ .kept index output :: own after frame := by
    rw [split, own_split]
  obtain ⟨name, args, made⟩ := (disciplined frame).recorded _ index output _ parts
  exact ⟨name, args, mem_own.mp made⟩

/-- Once a call has kept its result, its record holds it for the rest of the run. -/
theorem Faithful.kept_record {state : State S} (faithful : Faithful state)
    (disciplined : ∀ frame, Disciplined (own state.log.events frame))
    {before after : List (Nat × Happening S)} {frame index : Nat} {output : Object S}
    (split : state.log.events = before ++ (frame, .kept index output) :: after) :
    ∃ name args, (frame, .recorded index name args) ∈ before ∧ state.calls[index]? =
      some { tool := name, args := args, executed := true, result := some output } := by
  obtain ⟨name, args, recorded⟩ := recorded_of_kept disciplined split
  refine ⟨name, args, recorded, ?_⟩
  have sameResult : ∀ other another, (other, .kept index another) ∈ after → another = output := by
    intro other another member
    have isKept : (other, .kept index another) ∈ state.log.events := by
      rw [split]
      exact List.mem_append_right _ (List.mem_cons_of_mem _ member)
    obtain ⟨early, late, there⟩ := List.append_of_mem isKept
    obtain ⟨otherName, otherArgs, made⟩ := recorded_of_kept disciplined there
    have isRecorded : (frame, .recorded index name args) ∈ state.log.events := by
      rw [split]
      exact List.mem_append_left _ recorded
    have isMade : (other, .recorded index otherName otherArgs) ∈ state.log.events := by
      rw [there]
      exact List.mem_append_left _ made
    cases faithful.frame_eq isRecorded isMade
    refine (disciplined frame).single index another output (mem_own.mpr isKept) (mem_own.mpr ?_)
    rw [split]
    exact List.mem_append_right _ List.mem_cons_self
  obtain ⟨early, late, rfl⟩ := List.append_of_mem recorded
  rw [List.append_assoc, List.cons_append] at split
  have place : index = (replay early).length :=
    faithful.numbered early frame index name args _ split
  let fresh : RecordedCall S := { tool := name, args := args }
  have made : (replay early ++ [fresh])[index]? = some fresh := by
    rw [place]
    exact List.getElem?_concat_length
  have stays : ∃ call, (late.foldl replayEvent (replay early ++ [fresh]))[index]? = some call ∧
      call.tool = name ∧ call.args = args :=
    record_foldl (fun call => call.tool = name ∧ call.args = args) (fun _ _ _ _ same => same)
      ⟨fresh, made, rfl, rfl⟩
  obtain ⟨call, found, rfl, rfl⟩ := stays
  have executed : (replayEvent (late.foldl replayEvent (replay early ++ [fresh]))
      (frame, .kept index output))[index]? = some (call.execute output) := by
    simp [replayEvent, found]
  have holds := record_foldl (· = call.execute output) (fun other another member _ same => by
    rw [same, sameResult other another member]
    rfl) ⟨_, executed, rfl⟩
  obtain ⟨_, finally_, rfl⟩ := holds
  rw [faithful.calls, split, replay_recorded, List.foldl_append]
  exact finally_

end AxorWrap.Runtime
