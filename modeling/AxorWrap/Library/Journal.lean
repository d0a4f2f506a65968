/-
This file is a small theory of nested calls and the events they leave. A journal
numbers the calls as they are entered and lists events in the order they happen,
each under the number of the call it belongs to. A call may enter others before
it is left, so the events of one call are in general not next to each other.

The rules here speak about one call at a time. While a call runs, the journal
grows by its own events, in order, and by those of calls entered meanwhile, all
of them left again; what the latter did is settled by the same rule. So a
statement about the own events of a call is proved along the text of that call
alone, and holds of every call of a run.
-/

import AxorWrap.Library.Script
import Mathlib.Order.Nat

namespace Journals

open Methods Scripts

/-- How many calls were entered, and the events so far. -/
structure Log (κ : Type) where
  frames : Nat := 0
  events : List (Nat × κ) := []

variable {σ κ ε α β : Type}

/-- The events of one call. -/
def own (events : List (Nat × κ)) (frame : Nat) : List κ :=
  (events.filter fun event => event.1 = frame).map Prod.snd

theorem mem_own {events : List (Nat × κ)} {frame : Nat} {kind : κ} :
    kind ∈ own events frame ↔ (frame, kind) ∈ events := by
  simp [own]

theorem own_append (first second : List (Nat × κ)) (frame : Nat) :
    own (first ++ second) frame = own first frame ++ own second frame := by
  simp [own]

theorem own_eq_nil {events : List (Nat × κ)} {frame : Nat}
    (others : ∀ event ∈ events, event.1 ≠ frame) : own events frame = [] := by
  unfold own
  rw [List.filter_eq_nil_iff.mpr fun event member => by simpa using others event member]
  rfl

theorem own_split (before after : List (Nat × κ)) (frame : Nat) (kind : κ) :
    own (before ++ (frame, kind) :: after) frame = own before frame ++ kind :: own after frame := by
  simp [own]

/-- An event that is not in the first part is in the second. -/
theorem split_later {early late before after : List κ} {kind : κ}
    (same : before ++ kind :: after = early ++ late) (absent : kind ∉ early) :
    ∃ middle, before = early ++ middle ∧ late = middle ++ kind :: after := by
  rcases List.append_eq_append_iff.mp same with ⟨middle, earlyEq, rest⟩ | ⟨middle, split, rest⟩
  · cases middle with
    | nil => exact ⟨[], by rw [earlyEq, List.append_nil, List.append_nil], rest.symm⟩
    | cons head tail =>
      cases rest
      exact absurd (earlyEq ▸ List.mem_append_right _ List.mem_cons_self) absent
  · exact ⟨middle, split, rest⟩

namespace Log

def enter (log : Log κ) : Log κ := { log with frames := log.frames + 1 }

def add (frame : Nat) (kind : κ) (log : Log κ) : Log κ :=
  { log with events := log.events ++ [(frame, kind)] }

end Log

/-! ### How a journal grows -/

section Growth

variable (finished : List κ → Prop)

/-- The journal grew by calls that were entered and left, each with `finished` events. -/
structure Extends (before after : Log κ) : Prop where
  frames : before.frames ≤ after.frames
  events : ∃ segment, after.events = before.events ++ segment ∧
    (∀ event ∈ segment, before.frames ≤ event.1 ∧ event.1 < after.frames) ∧
    ∀ frame, before.frames ≤ frame → frame < after.frames → finished (own segment frame)

/-- The journal grew by these events of the running call `frame`, and by calls that were entered
and left meanwhile. -/
structure Grows (frame : Nat) (mine : List κ) (before after : Log κ) : Prop where
  frames : before.frames ≤ after.frames
  events : ∃ segment, after.events = before.events ++ segment ∧
    (∀ event ∈ segment, event.1 = frame ∨ before.frames ≤ event.1 ∧ event.1 < after.frames) ∧
    (∀ other, before.frames ≤ other → other < after.frames → finished (own segment other)) ∧
    own segment frame = mine

variable {finished}

/-- Calls entered in one of two parts are finished when each part finishes its own. The events of
the call running meanwhile, if any, are no part of them. -/
theorem finished_append (running : Nat → Prop) {low middle high : Nat}
    {early late : List (Nat × κ)}
    (earlyRecent : ∀ event ∈ early, running event.1 ∨ low ≤ event.1 ∧ event.1 < middle)
    (lateRecent : ∀ event ∈ late, running event.1 ∨ middle ≤ event.1 ∧ event.1 < high)
    (earlyFinished : ∀ frame, low ≤ frame → frame < middle → finished (own early frame))
    (lateFinished : ∀ frame, middle ≤ frame → frame < high → finished (own late frame))
    (notRunning : ∀ frame, low ≤ frame → ¬ running frame) {frame : Nat} (above : low ≤ frame)
    (below : frame < high) : finished (own (early ++ late) frame) := by
  rw [own_append]
  rcases lt_or_ge frame middle with isEarly | isLate
  · have noLate : own late frame = [] := by
      refine own_eq_nil fun event member same => ?_
      rcases lateRecent event member with runs | recent
      · exact notRunning frame above (same ▸ runs)
      · omega
    rw [noLate, List.append_nil]
    exact earlyFinished frame above isEarly
  · have noEarly : own early frame = [] := by
      refine own_eq_nil fun event member same => ?_
      rcases earlyRecent event member with runs | recent
      · exact notRunning frame above (same ▸ runs)
      · omega
    rw [noEarly, List.nil_append]
    exact lateFinished frame isLate below

theorem Grows.refl (frame : Nat) (log : Log κ) : Grows finished frame [] log log :=
  ⟨le_rfl, [], by simp, by simp, fun other above below => absurd below (not_lt.mpr above), rfl⟩

theorem Grows.add (frame : Nat) (kind : κ) (log : Log κ) :
    Grows finished frame [kind] log (log.add frame kind) := by
  refine ⟨le_rfl, [(frame, kind)], rfl, by simp, ?_, by simp [own]⟩
  exact fun other above below => absurd below (not_lt.mpr above)

/-- The parts of a call follow one another. -/
theorem Grows.trans {frame : Nat} {mine more : List κ} {first second third : Log κ}
    (open_ : frame < first.frames) (one : Grows finished frame mine first second)
    (two : Grows finished frame more second third) :
    Grows finished frame (mine ++ more) first third := by
  obtain ⟨early, early_eq, earlyRecent, earlyFinished, earlyMine⟩ := one.events
  obtain ⟨late, late_eq, lateRecent, lateFinished, lateMine⟩ := two.events
  refine ⟨one.frames.trans two.frames, early ++ late, ?_, ?_, ?_, ?_⟩
  · rw [late_eq, early_eq, List.append_assoc]
  · intro event member
    rcases List.mem_append.mp member with inEarly | inLate
    · exact (earlyRecent event inEarly).imp_right fun recent =>
        ⟨recent.1, recent.2.trans_le two.frames⟩
    · exact (lateRecent event inLate).imp_right fun recent =>
        ⟨one.frames.trans recent.1, recent.2⟩
  · exact fun other above below => finished_append (· = frame) earlyRecent lateRecent
      earlyFinished lateFinished (fun other above => by omega) above below
  · rw [own_append, earlyMine, lateMine]

/-- Calls entered and left meanwhile add nothing to the running call. -/
theorem Grows.of_extends {frame : Nat} {before after : Log κ} (open_ : frame < before.frames)
    (extends_ : Extends finished before after) : Grows finished frame [] before after := by
  obtain ⟨segment, same, recent, complete⟩ := extends_.events
  refine ⟨extends_.frames, segment, same, fun event member => .inr (recent event member), complete,
    own_eq_nil fun event member => ?_⟩
  have above := (recent event member).1
  omega

/-- A call that is left with finished events is one more of those entered and left. -/
theorem Extends.of_grows {mine : List κ} {before after : Log κ}
    (grows : Grows finished before.frames mine before.enter after) (complete : finished mine) :
    Extends finished before after := by
  obtain ⟨segment, same, recent, others, isMine⟩ := grows.events
  have frames : before.frames + 1 ≤ after.frames := grows.frames
  refine ⟨by omega, segment, same, fun event member => ?_, fun frame above below => ?_⟩
  · rcases recent event member with same | recent
    · omega
    · have entered : before.frames + 1 ≤ event.1 := recent.1
      omega
  · rcases Nat.eq_or_lt_of_le above with same | later
    · rw [← same, isMine]
      exact complete
    · exact others frame later below

/-- In a journal that started empty, every call with an event is finished. -/
theorem Extends.finished_own {log : Log κ} (extends_ : Extends finished {} log) (frame : Nat) :
    own log.events frame = [] ∨ finished (own log.events frame) := by
  obtain ⟨segment, same, recent, complete⟩ := extends_.events
  rw [same]
  rcases lt_or_ge frame log.frames with below | above
  · exact .inr (complete frame (Nat.zero_le frame) below)
  · refine .inl (own_eq_nil fun event member sameFrame => ?_)
    have below := (recent event member).2
    omega

instance : Std.Refl (Extends finished) where
  refl log := ⟨le_rfl, [], by simp, by simp, fun _ above below =>
    absurd below (not_lt.mpr above)⟩

instance : IsTrans (Log κ) (Extends finished) where
  trans first second third one two := by
    obtain ⟨early, early_eq, earlyRecent, earlyFinished⟩ := one.events
    obtain ⟨late, late_eq, lateRecent, lateFinished⟩ := two.events
    refine ⟨one.frames.trans two.frames, early ++ late, ?_, ?_, ?_⟩
    · rw [late_eq, early_eq, List.append_assoc]
    · intro event member
      rcases List.mem_append.mp member with inEarly | inLate
      · exact ⟨(earlyRecent event inEarly).1, (earlyRecent event inEarly).2.trans_le two.frames⟩
      · exact ⟨one.frames.trans (lateRecent event inLate).1, (lateRecent event inLate).2⟩
    · exact fun frame above below => finished_append (fun _ => False)
        (fun event member => .inr (earlyRecent event member))
        (fun event member => .inr (lateRecent event member)) earlyFinished lateFinished
        (fun _ _ => id) above below

end Growth

/-! ### Journals in a state -/

/-- Where a state keeps its journal. -/
structure Journal (σ κ : Type) where
  log : σ → Log κ
  update : (Log κ → Log κ) → σ → σ
  log_update : ∀ change state, log (update change state) = change (log state)

namespace Journal

variable (journal : Journal σ κ)

/-- Put an event of a call in the journal. -/
def note (frame : Nat) (kind : κ) : Method σ ε Unit := modify (journal.update (Log.add frame kind))

/-- Run a body as a call of its own: its number is taken, and how it was entered and left is
noted. -/
def call (entered : κ) (left : Except ε α → κ) (body : Nat → Method σ ε α) : Method σ ε α := do
  let frame := (journal.log (← get)).frames
  modify (journal.update Log.enter)
  journal.note frame entered
  let result ← observe (body frame)
  journal.note frame (left result)
  liftM result

/-- While the call `frame` runs, the method adds own events that are allowed for its outcome, and
otherwise calls that are entered and left. -/
def Records (finished : List κ → Prop) (frame : Nat) (method : Method σ ε α)
    (allowed : Except ε α → List κ → Prop) : Prop :=
  ∀ state, frame < (journal.log state).frames →
    ∃ mine, Grows finished frame mine (journal.log state) (journal.log (final method state)) ∧
      allowed (outcome method state) mine

variable {journal} {finished : List κ → Prop} {frame : Nat}

theorem records_pure {value : α} {allowed : Except ε α → List κ → Prop}
    (here : allowed (.ok value) []) : journal.Records finished frame (pure value) allowed :=
  fun state _ => ⟨[], .refl frame (journal.log state), here⟩

theorem records_throw {error : ε} {allowed : Except ε α → List κ → Prop}
    (here : allowed (.error error) []) : journal.Records finished frame (throw error) allowed :=
  fun state _ => ⟨[], .refl frame (journal.log state), here⟩

theorem records_mono {method : Method σ ε α} {first allowed : Except ε α → List κ → Prop}
    (records : journal.Records finished frame method first)
    (weaker : ∀ result mine, first result mine → allowed result mine) :
    journal.Records finished frame method allowed := by
  intro state isOpen
  obtain ⟨mine, grows, here⟩ := records state isOpen
  exact ⟨mine, grows, weaker _ mine here⟩

/-- A sequence records what its parts do, or what the first part does when it raises. -/
theorem records_bind {method : Method σ ε α} {next : α → Method σ ε β}
    {first : Except ε α → List κ → Prop} {allowed : Except ε β → List κ → Prop}
    (records : journal.Records finished frame method first)
    (returns : ∀ value mine, first (.ok value) mine →
      journal.Records finished frame (next value) fun result more => allowed result (mine ++ more))
    (raises : ∀ error mine, first (.error error) mine → allowed (.error error) mine) :
    journal.Records finished frame (method >>= next) allowed := by
  intro state isOpen
  obtain ⟨mine, grows, here⟩ := records state isOpen
  rw [final_bind, outcome_bind]
  cases came : outcome method state with
  | error error =>
    rw [came] at here
    exact ⟨mine, grows, raises error mine here⟩
  | ok value =>
    rw [came] at here
    obtain ⟨more, growsMore, there⟩ := returns value mine here _ (isOpen.trans_le grows.frames)
    exact ⟨mine ++ more, grows.trans isOpen growsMore, there⟩

/-- Noting an event records it. -/
theorem records_note (kind : κ) :
    journal.Records finished frame (journal.note frame kind : Method σ ε Unit)
      fun result mine => result = .ok () ∧ mine = [kind] := by
  intro state _
  refine ⟨[kind], ?_, rfl, rfl⟩
  show Grows _ _ _ _ (journal.log (journal.update (Log.add frame kind) state))
  rw [journal.log_update]
  exact .add frame kind _

/-- A method that only enters and leaves calls records nothing of the running one. -/
theorem records_of_extends {method : Method σ ε α}
    (quiet : ∀ state, Extends finished (journal.log state) (journal.log (final method state))) :
    journal.Records finished frame method fun _ mine => mine = [] :=
  fun state isOpen => ⟨[], .of_extends isOpen (quiet state), rfl⟩

/-- Reading the state records nothing. -/
theorem records_get {next : σ → Method σ ε α} {allowed : Except ε α → List κ → Prop}
    (each : ∀ state, journal.Records finished frame (next state) allowed) :
    journal.Records finished frame (get >>= next) allowed :=
  fun state isOpen => each state state isOpen

/-- What is noted first is recorded first. -/
theorem records_note_bind {kind : κ} {next : Unit → Method σ ε α}
    {allowed : Except ε α → List κ → Prop}
    (rest : journal.Records finished frame (next ())
      fun result more => allowed result (kind :: more)) :
    journal.Records finished frame (journal.note frame kind >>= next) allowed := by
  refine records_bind (records_note kind) (fun _ mine here => ?_) fun _ _ here => ?_
  · rw [here.2]
    exact rest
  · cases here.1

/-- An update that leaves the journal alone records nothing. -/
theorem records_modify_bind {update : σ → σ} {next : PUnit → Method σ ε α}
    {allowed : Except ε α → List κ → Prop}
    (silent : ∀ state, journal.log (update state) = journal.log state)
    (rest : journal.Records finished frame (next ⟨⟩) allowed) :
    journal.Records finished frame (modify update >>= next) allowed := by
  intro state isOpen
  obtain ⟨mine, grows, here⟩ := rest (update state) (by rw [silent]; exact isOpen)
  rw [silent] at grows
  exact ⟨mine, grows, here⟩

/-- A first part that records nothing of the running call may still raise. -/
theorem records_quiet_bind {method : Method σ ε α} {next : α → Method σ ε β}
    {allowed : Except ε β → List κ → Prop}
    (quiet : journal.Records finished frame method fun _ mine => mine = [])
    (returns : ∀ value, journal.Records finished frame (next value) allowed)
    (raises : ∀ error, allowed (.error error) []) :
    journal.Records finished frame (method >>= next) allowed := by
  refine records_bind quiet (fun value mine here => ?_) fun error mine here => ?_
  · rw [here]
    exact returns value
  · rw [here]
    exact raises error

/-- The state in which the body of a call starts. -/
def entering (journal : Journal σ κ) (entered : κ) (state : σ) : σ :=
  journal.update (Log.add (journal.log state).frames entered) (journal.update Log.enter state)

/-- A call notes how its body ended, in the state the body left. -/
theorem final_call (entered : κ) (left : Except ε α → κ) (body : Nat → Method σ ε α) (state : σ) :
    final (journal.call entered left body) state =
      let frame := (journal.log state).frames
      let start := journal.entering entered state
      journal.update (Log.add frame (left (outcome (body frame) start)))
        (final (body frame) start) :=
  rfl

/-- And it ends as its body ended. -/
theorem outcome_call (entered : κ) (left : Except ε α → κ) (body : Nat → Method σ ε α) (state : σ) :
    outcome (journal.call entered left body) state =
      outcome (body (journal.log state).frames) (journal.entering entered state) :=
  rfl

/-- A preorder that is kept by entering and leaving is kept by a call, when the body keeps it. -/
theorem related_call {R : σ → σ → Prop} [IsTrans σ R] {entered : κ} {left : Except ε α → κ}
    {body : Nat → Method σ ε α} (enters : ∀ state, R state (journal.entering entered state))
    (keeps : ∀ frame state, R state (final (body frame) state))
    (leaves : ∀ frame result state, R state (journal.update (Log.add frame (left result)) state))
    (state : σ) : R state (final (journal.call entered left body) state) := by
  rw [final_call]
  exact IsTrans.trans _ _ _ (enters state) (IsTrans.trans _ _ _ (keeps _ _) (leaves _ _ _))

/-- A call whose body records what is finished, once entered and left, is one of those that are
entered and left. -/
theorem extends_call {entered : κ} {left : Except ε α → κ} {body : Nat → Method σ ε α}
    (records : ∀ frame, journal.Records finished frame (body frame) fun result mine =>
      finished (entered :: mine ++ [left result])) (state : σ) :
    Extends finished (journal.log state)
      (journal.log (final (journal.call entered left body) state)) := by
  have started : journal.log (journal.entering entered state) =
      (journal.log state).enter.add (journal.log state).frames entered := by
    rw [entering, journal.log_update, journal.log_update]
  have isOpen : (journal.log state).frames < (journal.log state).enter.frames := Nat.lt_succ_self _
  have stillOpen : (journal.log state).frames <
      (journal.log (journal.entering entered state)).frames := by
    rw [started]
    exact isOpen
  obtain ⟨mine, grows, complete⟩ := records _ (journal.entering entered state) stillOpen
  rw [started] at grows
  rw [final_call, journal.log_update]
  exact .of_grows (((Grows.add _ entered _).trans isOpen grows).trans isOpen (.add _ _ _)) complete

/-- A call whose body only enters and leaves other calls is entered and left, and no more. -/
theorem extends_call_of_quiet {entered : κ} {left : Except ε α → κ} {body : Method σ ε α}
    (quiet : ∀ state, Extends finished (journal.log state) (journal.log (final body state)))
    (complete : ∀ result, finished [entered, left result]) (state : σ) :
    Extends finished (journal.log state)
      (journal.log (final (journal.call entered left fun _ => body) state)) := by
  refine extends_call (fun frame => ?_) state
  refine records_mono (records_of_extends quiet) fun result mine nothing => ?_
  rw [nothing]
  exact complete result

end Journal

end Journals
