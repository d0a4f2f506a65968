/-
This file proves that a posture gates. A toolset that `PlaneConnector.gate` bound to a node asks
for its standing before each call, so while an operator has the node paused or stopped no tool is
invoked, from whichever depth of nested calls it is asked for; and a stop stays.

What the operator sends, what hands its directives out and what the agent does may come in any
order. Between them anything may happen that leaves the pause and the stop alone. Connecting again
is the one thing that lifts a stop: it seats a fresh session.
-/

import AxorWrap.Plane.Connector
import AxorWrap.Runtime.Tame

namespace AxorWrap.Runtime

open Python Methods Scripts Journals Machines

variable {S : Setting}

/-! ### A node in the world -/

/-- Where the world has the session of a connector, and what the connector raises there. -/
structure Desk (S : Setting) where
  seat : S.World → Plane.Seat
  setSeat : Plane.Seat → S.World → S.World
  seat_setSeat : ∀ held world, seat (setSeat held world) = held
  raised : Plane.ConnectorError → S.Foreign

namespace Desk

variable (desk : Desk S)

def standing (world : S.World) : Option Plane.Standing := Plane.standing (desk.seat world)

/-- What the connector says, said to the toolset. -/
def tell (told : Except Plane.ConnectorError Bool) : Code S Bool :=
  match told with
  | .ok admitted => .done admitted
  | .error error => .raise (.foreign (desk.raised error))

/-- `PlaneConnector.admit`, as a predicate. -/
def admits : Code S Bool := .read fun world => desk.tell (Plane.admits (desk.seat world))

/-- What polling it comes to, in a standing. -/
def polled (standing : Option Plane.Standing) : Except (Raised S) Bool :=
  standing.elim (.error (.foreign (desk.raised Plane.notConnected))) fun held => .ok held.admits

/-- What the check makes of it. -/
def passed (admitted : Bool) : Except (Raised S) Unit :=
  if admitted then .ok () else .error (.admissionHeld "paused-or-stopped")

theorem exec_admits (serve : Service S) (state : State S) :
    outcome ((host serve).exec desk.admits) state = desk.polled (desk.standing state.world) ∧
      final ((host serve).exec desk.admits) state = state := by
  show outcome ((host serve).exec (desk.tell (Plane.admits (desk.seat state.world)))) state = _ ∧
    final ((host serve).exec (desk.tell (Plane.admits (desk.seat state.world)))) state = _
  rw [Plane.admits_eq]
  unfold polled standing
  cases Plane.standing (desk.seat state.world) with
  | none => exact ⟨rfl, rfl⟩
  | some held => exact ⟨rfl, rfl⟩

end Desk

/-! ### What is assumed of the code around -/

/-- The request binds another predicate, or none. -/
def Request.Rebinds : Request S → Prop
  | .setAdmission _ => True
  | _ => False

/-- The code leaves the pause, the stop and the binding alone. -/
abbrev Heedful (desk : Desk S) {α : Type} (code : Code S α) : Prop :=
  Tame desk.standing (fun request => ¬ request.Rebinds) code

abbrev Tool.Heedful (desk : Desk S) (tool : Tool S) : Prop :=
  tool.Tame desk.standing fun request => ¬ request.Rebinds

/-- The predicate is the admission of the node, and the other code leaves it to the node. -/
structure Gates (desk : Desk S) (gate : S.Predicate) (toolset : Toolset S)
    (programs : S.Program → Code S (Object S)) : Prop where
  bound : toolset.poll gate = desk.admits
  evaluates : ∀ name args, Heedful desk (toolset.governor.evaluate name args)
  registers : ∀ decision output, Heedful desk (toolset.governor.registerOutput decision output)
  tools : ∀ entry ∈ toolset.tools, entry.2.Heedful desk
  programs : ∀ program, Heedful desk (programs program)

/-! ### What a standing allows -/

/-- The node is connected and admits. -/
def Admitting (standing : Option Plane.Standing) : Prop :=
  ∃ held, standing = some held ∧ held.admits = true

/-- What happens is what the standing allows: a predicate that was polled told it, and a tool is
invoked only when it admits. -/
def Happening.Heeds (standing : Option Plane.Standing) : Happening S → Prop
  | .admission admitted => ∃ held, standing = some held ∧ admitted = some held.admits
  | .invoked _ _ => Admitting standing
  | _ => True

/-- The standing is what it was, and what happened is what it allows. -/
structure Heeded (desk : Desk S) (before after : State S) : Prop where
  standing : desk.standing after.world = desk.standing before.world
  events : ∃ segment, after.log.events = before.log.events ++ segment ∧
    ∀ event ∈ segment, event.2.Heeds (desk.standing before.world)

/-- The gate is bound, and something is known of the standing. -/
def Bound (desk : Desk S) (gate : S.Predicate) (known : Option Plane.Standing → Prop)
    (state : State S) : Prop :=
  state.admission = some gate ∧ known (desk.standing state.world)

/-- And the coroutines that are still to run leave it so. -/
abbrev Gated (desk : Desk S) (gate : S.Predicate) (known : Option Plane.Standing → Prop)
    (state : State S) : Prop :=
  Tamed desk.standing (fun request => ¬ request.Rebinds) (Bound desk gate known) state

/-- What a gated session does. -/
abbrev Heeds (desk : Desk S) (gate : S.Predicate) (known : Option Plane.Standing → Prop)
    (before after : State S) : Prop :=
  Within desk.standing (fun request => ¬ request.Rebinds) (Bound desk gate known) (Heeded desk)
    before after

/-- Requests that bind nothing are served as the standing allows. -/
abbrev ServesHeeding (desk : Desk S) (gate : S.Predicate) (known : Option Plane.Standing → Prop)
    (serve : Service S) : Prop :=
  ServesWithin desk.standing (fun request => ¬ request.Rebinds) (Bound desk gate known)
    (Heeded desk) serve

/-- Nothing is known of the standing. -/
def Anyhow (_ : Option Plane.Standing) : Prop := True

section Heeding

variable {desk : Desk S} {gate : S.Predicate} {known : Option Plane.Standing → Prop}

instance : Std.Refl (Heeded desk) where
  refl _ := ⟨rfl, [], (List.append_nil _).symm, List.forall_mem_nil _⟩

instance : IsTrans (State S) (Heeded desk) where
  trans _ _ _ one two := by
    obtain ⟨early, earlyEq, earlyHeeds⟩ := one.events
    obtain ⟨late, lateEq, lateHeeds⟩ := two.events
    refine ⟨two.standing.trans one.standing, early ++ late, ?_, ?_⟩
    · rw [lateEq, earlyEq, List.append_assoc]
    · rw [List.forall_mem_append]
      exact ⟨earlyHeeds, one.standing ▸ lateHeeds⟩

theorem Bound.of_heeded {before after : State S} (bound : Bound desk gate known before)
    (heeded : Heeded desk before after) (sameAdmission : after.admission = before.admission) :
    Bound desk gate known after :=
  ⟨sameAdmission.trans bound.1, heeded.standing.symm ▸ bound.2⟩

/-- A gated session stays gated under what is known besides, for the standing stays. -/
theorem Heeds.knowing {before after : State S} (heeds : Heeds desk gate Anyhow before after) :
    Heeds desk gate known before after := by
  intro gated
  obtain ⟨later, heeded⟩ := heeds ⟨gated.pending, gated.holds.1, trivial⟩
  exact ⟨⟨later.pending, later.holds.1, heeded.standing.symm ▸ gated.holds.2⟩, heeded⟩

theorem heeded_of_sameEvents {before after : State S}
    (sameStanding : desk.standing after.world = desk.standing before.world)
    (sameEvents : after.log.events = before.log.events) : Heeded desk before after :=
  ⟨sameStanding, [], by rw [sameEvents, List.append_nil], List.forall_mem_nil _⟩

theorem heeded_quietly : QuietWithin desk.standing (Bound desk gate known) (Heeded desk) := by
  intro before after sameStanding sameAdmission _ sameLog bound
  have heeded : Heeded desk before after :=
    heeded_of_sameEvents sameStanding (congrArg Log.events sameLog)
  exact ⟨bound.of_heeded heeded sameAdmission, heeded⟩

theorem heeds_quietly {before after : State S}
    (sameStanding : desk.standing after.world = desk.standing before.world)
    (sameAdmission : after.admission = before.admission)
    (sameCoroutines : after.coroutines = before.coroutines)
    (sameEvents : after.log.events = before.log.events) :
    Heeds desk gate known before after :=
  within_of_related sameCoroutines fun bound =>
    have heeded := heeded_of_sameEvents sameStanding sameEvents
    ⟨bound.of_heeded heeded sameAdmission, heeded⟩

theorem heeded_note {kind : Happening S} (frame : Nat) (state : State S)
    (allowed : kind.Heeds (desk.standing state.world)) :
    Heeded desk state (journal.update (Log.add frame kind) state) :=
  ⟨rfl, [(frame, kind)], rfl, by rwa [List.forall_mem_singleton]⟩

theorem heeds_note {kind : Happening S} (frame : Nat) (state : State S)
    (allowed : known (desk.standing state.world) → kind.Heeds (desk.standing state.world)) :
    Heeds desk gate known state (journal.update (Log.add frame kind) state) :=
  within_of_related rfl fun bound => ⟨bound, heeded_note frame state (allowed bound.2)⟩

theorem heeds_call {α : Type} {entered : Happening S}
    {left : Except (Raised S) α → Happening S} {body : Nat → ToolMethod S α}
    (enters : ∀ standing, entered.Heeds standing)
    (leaves : ∀ result standing, (left result).Heeds standing)
    (keeps : ∀ frame state, Heeds desk gate known state (final (body frame) state))
    (state : State S) :
    Heeds desk gate known state (final (journal.call entered left body) state) := by
  refine within_call (fun state bound => ⟨bound, ?_⟩)
    (fun frame result state bound => ⟨bound, heeded_note frame state (leaves result _)⟩) keeps
    state
  exact ⟨rfl, [((journal.log state).frames, entered)], rfl, by
    rw [List.forall_mem_singleton]
    exact enters _⟩

/-! ### A call -/

section Served

variable {serve : Service S} {toolset : Toolset S} {programs : S.Program → Code S (Object S)}
  (gates : Gates desk gate toolset programs)

include gates

variable (serve) in
/-- The check polls the node, and passes exactly when the node admits. -/
theorem checkAdmission_gated (frame : Nat) {state : State S}
    (gated : Gated desk gate known state) :
    outcome (checkAdmission toolset serve frame) state =
        (desk.polled (desk.standing state.world)).bind Desk.passed ∧
      Gated desk gate known (final (checkAdmission toolset serve frame) state) ∧
      Heeded desk state (final (checkAdmission toolset serve frame) state) := by
  obtain ⟨polled, left⟩ := desk.exec_admits serve state
  rw [checkAdmission_eq]
  rw [outcome_bind_ok (outcome_get state), final_bind_ok (outcome_get state), final_get,
    gated.holds.1]
  simp only [gates.bound, outcome_bind, final_bind, polled, left]
  cases standing : desk.standing state.world with
  | none => exact ⟨rfl, gated, Std.Refl.refl state⟩
  | some held =>
    have told : (Happening.admission (some held.admits) : Happening S).Heeds
        (desk.standing state.world) := ⟨held, standing, rfl⟩
    have heeds : Heeds desk gate known state
        (journal.update (Log.add frame (.admission (some held.admits))) state) :=
      heeds_note frame state fun _ => told
    have noted := heeds gated
    cases admits : held.admits with
    | true =>
      rw [admits] at noted
      simp only [Desk.polled, Option.elim, admits]
      exact ⟨rfl, noted⟩
    | false =>
      rw [admits] at noted
      simp only [Desk.polled, Option.elim, admits]
      exact ⟨rfl, noted⟩

section Passed

variable (serves : ServesHeeding desk gate Admitting serve)

include serves

/-- Past the check. -/
theorem heeds_runTool (frame : Nat) {name : PyStr} {args : Args S} {tool : Tool S}
    (heedful : tool.Heedful desk) (decision : Decision S) (recorded : Option Nat)
    (state : State S) :
    Heeds desk gate Admitting state
      (final (runTool toolset serve frame name args tool decision recorded) state) := by
  rw [runTool_eq]
  refine related_bind (R := Heeds desk gate Admitting) (heeds_note _ _ id) fun _ _ => ?_
  refine related_bind (R := Heeds desk gate Admitting)
    (within_toolRun heeded_quietly serves heedful args _) fun output _ => ?_
  refine related_bind (R := Heeds desk gate Admitting)
    (heeds_note _ _ fun _ => trivial) fun _ _ => ?_
  refine related_bind (R := Heeds desk gate Admitting)
    (heeds_note _ _ fun _ => trivial) fun _ _ => ?_
  refine related_bind (R := Heeds desk gate Admitting)
    (within_exec heeded_quietly serves (gates.registers decision output) _) fun _ _ => ?_
  refine related_bind (R := Heeds desk gate Admitting) ?_ fun _ _ => Std.Refl.refl _
  cases recorded with
  | none => exact Std.Refl.refl _
  | some index =>
    unfold recordExecuted keepResult
    refine related_bind (R := Heeds desk gate Admitting)
      (heeds_quietly rfl rfl rfl rfl) fun _ _ => ?_
    exact heeds_note _ _ fun _ => trivial

theorem heeds_execute (frame : Nat) {name : PyStr} {args : Args S} {tool : Tool S}
    (heedful : tool.Heedful desk) (decision : Decision S) (state : State S) :
    Heeds desk gate Admitting state
      (final (execute toolset serve frame name args tool decision) state) := by
  unfold execute
  refine related_bind (R := Heeds desk gate Admitting) ?_ fun recorded _ => ?_
  · unfold recordEvaluated
    split
    · rw [final_map]
      unfold recorderEvaluated
      refine related_bind (R := Heeds desk gate Admitting) (Std.Refl.refl _) fun _ _ => ?_
      refine related_bind (R := Heeds desk gate Admitting)
        (heeds_quietly rfl rfl rfl rfl) fun _ _ => ?_
      refine related_bind (R := Heeds desk gate Admitting)
        (heeds_note _ _ fun _ => trivial) fun _ _ => Std.Refl.refl _
    · exact Std.Refl.refl _
  · split
    · exact Std.Refl.refl _
    · exact heeds_runTool gates serves frame heedful decision recorded _

theorem heeds_evaluate (frame : Nat) (name : PyStr) (args : Args S) (state : State S) :
    Heeds desk gate Admitting state (final (evaluate toolset serve frame name args) state) := by
  refine related_bind (R := Heeds desk gate Admitting)
    (heeds_note _ _ fun _ => trivial) fun _ _ => ?_
  refine related_bind (R := Heeds desk gate Admitting)
    (within_exec heeded_quietly serves (gates.evaluates name args) _) fun decision _ => ?_
  exact related_bind (R := Heeds desk gate Admitting)
    (heeds_note _ _ fun _ => trivial) fun _ _ => Std.Refl.refl _

theorem heeds_consult (frame : Nat) {name : PyStr} {args : Args S} {tool : Tool S}
    (heedful : tool.Heedful desk) (state : State S) :
    Heeds desk gate Admitting state (final (evaluate toolset serve frame name args >>=
      execute toolset serve frame name args tool) state) :=
  related_bind (R := Heeds desk gate Admitting) (heeds_evaluate gates serves frame name args state)
    fun decision _ => heeds_execute gates serves frame heedful decision _

end Passed

variable (serves : ServesHeeding desk gate Anyhow serve)

include serves

theorem heeds_callBody (name : PyStr) (args : Args S) (frame : Nat) (state : State S) :
    Heeds desk gate Anyhow state (final (callBody toolset serve name args frame) state) := by
  intro gated
  unfold callBody
  cases found : toolset.tools.lookup name with
  | none => exact ⟨gated, Std.Refl.refl _⟩
  | some tool =>
    have heedful := gates.tools (name, tool) (mem_of_lookup found)
    have passing : ServesHeeding desk gate Admitting serve := fun request allowed state =>
      Heeds.knowing (serves request allowed state)
    obtain ⟨polled, stays, checked⟩ := checkAdmission_gated serve gates frame gated
    show Gated desk gate Anyhow (final (checkAdmission toolset serve frame >>= _) state) ∧
      Heeded desk state (final (checkAdmission toolset serve frame >>= _) state)
    rw [final_bind, polled]
    -- Only an admitting node lets the call past its check.
    cases standing : desk.standing state.world with
    | none => exact ⟨stays, checked⟩
    | some held =>
      cases admits : held.admits with
      | false =>
        simp only [Desk.polled, Option.elim, admits]
        exact ⟨stays, checked⟩
      | true =>
        simp only [Desk.polled, Option.elim, admits]
        obtain ⟨later, heeded⟩ := heeds_consult gates passing frame heedful _
          ⟨stays.pending, stays.holds.1, held, checked.standing.trans standing, admits⟩
        exact ⟨⟨later.pending, later.holds.1, trivial⟩,
          IsTrans.trans (r := Heeded desk) _ _ _ checked heeded⟩

theorem heeds_toolsetCall (name : PyStr) (args : Args S) (state : State S) :
    Heeds desk gate Anyhow state (final (call toolset serve name args) state) := by
  refine heeds_call ?_ ?_
    (fun frame state => heeds_callBody gates serves name args frame state) state
  · exact fun _ => trivial
  · exact fun _ _ => trivial

end Served

/-- Whatever is asked of the session that binds nothing, a gated session heeds the node. -/
theorem heeds_serve {toolset : Toolset S} {programs : S.Program → Code S (Object S)}
    (gates : Gates desk gate toolset programs) (limit : Nat) :
    ServesHeeding desk gate Anyhow ((toolset.surface programs).serve limit) := by
  refine within_serve heeded_quietly (fun serve serves name args _ state => ?_)
    (fun serve serves name kwargs wrapped _ found state => ?_)
    (fun predicate allowed => absurd trivial allowed) gates.programs
    (fun target body keeps state => ?_) limit
  · exact heeds_toolsetCall gates serves name args state
  · obtain ⟨tool, _, same⟩ := Option.map_eq_some_iff.mp
      ((lookup_callables toolset serve name).symm.trans found)
    rw [← same]
    exact heeds_toolsetCall gates serves name kwargs state
  · refine heeds_call ?_ ?_ (fun _ => keeps) state
    · exact fun _ => trivial
    · exact fun _ _ => trivial

/-! ### A call of a node that does not admit -/

/-- What a call raises that the node does not admit. -/
def Desk.refusal (desk : Desk S) (standing : Option Plane.Standing) : Raised S :=
  standing.elim (.foreign (desk.raised Plane.notConnected)) fun _ =>
    .admissionHeld "paused-or-stopped"

theorem polled_of_not_admitting {standing : Option Plane.Standing}
    (closed : ¬ Admitting standing) :
    (desk.polled standing).bind Desk.passed = .error (desk.refusal standing) := by
  cases standing with
  | none => rfl
  | some held =>
    have refused : held.admits = false :=
      Bool.eq_false_iff.mpr fun admits => closed ⟨held, rfl, admits⟩
    simp only [Desk.polled, Option.elim, refused]
    rfl

/-- A registered tool is refused. -/
theorem outcome_call_of_not_admitting {toolset : Toolset S}
    {programs : S.Program → Code S (Object S)} (gates : Gates desk gate toolset programs)
    (serve : Service S) {name : PyStr} (args : Args S) {state : State S}
    (listed : (toolset.tools.lookup name).isSome) (gated : Gated desk gate known state)
    (closed : ¬ Admitting (desk.standing state.world)) :
    outcome (call toolset serve name args) state =
      .error (desk.refusal (desk.standing state.world)) := by
  obtain ⟨tool, found⟩ := Option.isSome_iff_exists.mp listed
  unfold call
  rw [Journal.outcome_call]
  generalize entered : journal.entering (.entered name args) state = start
  have same : start.world = state.world := by rw [← entered]; rfl
  have started : Gated desk gate known start := by
    rw [← entered]
    exact ⟨gated.pending, gated.holds⟩
  obtain ⟨polled, _⟩ := checkAdmission_gated serve gates _ started
  rw [same, polled_of_not_admitting closed] at polled
  unfold callBody
  simp only [found]
  rw [outcome_bind, polled]

/-- By either of the ways to call it. -/
theorem answer_of_not_admitting {toolset : Toolset S} {programs : S.Program → Code S (Object S)}
    (gates : Gates desk gate toolset programs) (limit : Nat) {name : PyStr} {args : Args S}
    {request : Request S} (asks : request = .call name args ∨ request = .callable name args)
    {state : State S} (listed : (toolset.tools.lookup name).isSome)
    (gated : Gated desk gate known state) (closed : ¬ Admitting (desk.standing state.world)) :
    outcome ((toolset.surface programs).serve (limit + 1) request) state =
      .error (desk.refusal (desk.standing state.world)) := by
  show outcome ((toolset.surface programs).answer _ request) state = _
  generalize (toolset.surface programs).serve limit = serve
  have answered : outcome ((toolset.surface programs).answer serve request) state =
      outcome (some <$> call toolset serve name args) state := by
    rcases asks with rfl | rfl
    · rfl
    · obtain ⟨tool, found⟩ := Option.isSome_iff_exists.mp listed
      simp only [Surface.answer, Toolset.surface, lookup_callables, found]
      rfl
  rw [answered, outcome_map, outcome_call_of_not_admitting gates serve args listed gated closed]
  rfl

end Heeding

/-! ### A node at work -/

/-- What the agent does, what the plane does to the session, the hold of a client that lost its
plane, another `connect`, and whatever else changes the world. -/
inductive Move (S : Setting)
  | act (request : Request S)
  | operate (operation : Plane.Operation)
  | hold
  | connect
  | environment (change : S.World → S.World)

section Moves

variable (desk : Desk S) (node : Plane.Node) (surface : Surface S) (limit : Nat)

/-- Change what sits at the desk. -/
def Desk.reseat (change : Plane.Seat → Plane.Seat) : ToolMethod S (Option (Object S)) := do
  modify fun state =>
    { state with world := desk.setSeat (change (desk.seat state.world)) state.world }
  return none

def Move.method : Move S → ToolMethod S (Option (Object S))
  | .act request => surface.serve limit request
  | .operate operation =>
    desk.reseat (Option.map fun session => (Plane.sessionMachine node).next session operation)
  | .hold => desk.reseat (Option.map fun session => { session with paused := true })
  | .connect => desk.reseat fun _ => Plane.connect node
  | .environment change => do
    modify fun state => { state with world := change state.world }
    return none

/-- The machine of a node and the agent it governs. -/
def nodeMachine :
    Machine (State S) (Move S) (Except (Raised S) (Option (Object S))) where
  answer state move := outcome (move.method desk node surface limit) state
  next state move := final (move.method desk node surface limit) state

/-- The move binds no other predicate, and changes a standing only as the node does. -/
def Move.Proper : Move S → Prop
  | .act request => ¬ request.Rebinds
  | .environment change => ∀ world, desk.standing (change world) = desk.standing world
  | _ => True

end Moves

section Running

variable (node : Plane.Node) (limit : Nat) {desk : Desk S} {gate : S.Predicate}
  {toolset : Toolset S} {programs : S.Program → Code S (Object S)}

/-- An act is a heeded request, and the other moves leave the gate and the journal alone. -/
theorem next_cases (gates : Gates desk gate toolset programs) {move : Move S}
    (proper : move.Proper desk) {state : State S} (gated : Gated desk gate Anyhow state) :
    (∃ request, move = .act request ∧
      Gated desk gate Anyhow
        ((nodeMachine desk node (toolset.surface programs) limit).next state move) ∧
      Heeded desk state
        ((nodeMachine desk node (toolset.surface programs) limit).next state move)) ∨
    ∃ world, (nodeMachine desk node (toolset.surface programs) limit).next state move =
      { state with world := world } := by
  cases move with
  | act request =>
    exact .inl ⟨request, rfl, heeds_serve gates limit request proper state gated⟩
  | operate operation => exact .inr ⟨_, rfl⟩
  | hold => exact .inr ⟨_, rfl⟩
  | connect => exact .inr ⟨_, rfl⟩
  | environment change => exact .inr ⟨_, rfl⟩

theorem gated_next (gates : Gates desk gate toolset programs) {move : Move S}
    (proper : move.Proper desk) {state : State S} (gated : Gated desk gate Anyhow state) :
    Gated desk gate Anyhow
      ((nodeMachine desk node (toolset.surface programs) limit).next state move) := by
  rcases next_cases node limit gates proper gated with
    ⟨_, _, stays, _⟩ | ⟨world, left⟩
  · exact stays
  · rw [left]
    exact ⟨gated.pending, gated.holds.1, trivial⟩

/-- A stop stays, whatever happens but another `connect`. -/
theorem stopped_next (gates : Gates desk gate toolset programs) {move : Move S}
    (proper : move.Proper desk) (seated : move ≠ .connect) {state : State S}
    (gated : Gated desk gate Anyhow state)
    (stopped : ∃ held, desk.standing state.world = some held ∧ held.stopped = true) :
    ∃ held, desk.standing
      ((nodeMachine desk node (toolset.surface programs) limit).next state move).world =
        some held ∧ held.stopped = true := by
  obtain ⟨held, standing, isStopped⟩ := stopped
  obtain ⟨session, seat, same⟩ := Option.map_eq_some_iff.mp standing
  have sessionStopped : session.stopped = true := by rw [← isStopped, ← same]; rfl
  cases move with
  | act request =>
    obtain ⟨_, heeded⟩ := heeds_serve gates limit request proper state gated
    exact ⟨held, heeded.standing.trans standing, isStopped⟩
  | operate operation =>
    refine ⟨((Plane.sessionMachine node).next session operation).standing, ?_,
      (Plane.narrows_next node session operation).stopped sessionStopped⟩
    show Plane.standing (desk.seat (desk.setSeat _ state.world)) = _
    rw [desk.seat_setSeat, seat]
    rfl
  | hold =>
    refine ⟨⟨true, session.stopped⟩, ?_, sessionStopped⟩
    show Plane.standing (desk.seat (desk.setSeat _ state.world)) = _
    rw [desk.seat_setSeat, seat]
    rfl
  | connect => exact absurd rfl seated
  | environment change => exact ⟨held, (proper state.world).trans standing, isStopped⟩

/-- The tool an event invokes. -/
def invocation : Nat × Happening S → Option (PyStr × Args S)
  | (_, .invoked name args) => some (name, args)
  | _ => none

/-- The tools invoked so far, in order. -/
def invocations (state : State S) : List (PyStr × Args S) :=
  state.log.events.filterMap invocation

/-- While the node does not admit, nothing a request does is an invocation. -/
theorem Heeded.invocations_eq {before after : State S} (heeded : Heeded desk before after)
    (closed : ¬ Admitting (desk.standing before.world)) :
    invocations after = invocations before := by
  obtain ⟨segment, same, heeds⟩ := heeded.events
  have nothing : segment.filterMap invocation = [] := by
    refine List.filterMap_eq_nil_iff.mpr fun event member => ?_
    rcases event with ⟨frame, kind⟩
    have allowed := heeds _ member
    cases kind with
    | invoked name args => exact absurd allowed closed
    | _ => rfl
  rw [invocations, same, List.filterMap_append, nothing, List.append_nil]
  rfl

theorem invocations_next (gates : Gates desk gate toolset programs) {move : Move S}
    (proper : move.Proper desk) {state : State S} (gated : Gated desk gate Anyhow state)
    (closed : ¬ Admitting (desk.standing state.world)) :
    invocations ((nodeMachine desk node (toolset.surface programs) limit).next state move) =
      invocations state := by
  rcases next_cases node limit gates proper gated with
    ⟨_, _, _, heeded⟩ | ⟨world, left⟩
  · exact heeded.invocations_eq closed
  · rw [left]
    rfl

theorem not_admitting_of_stopped {standing : Option Plane.Standing}
    (stopped : ∃ held, standing = some held ∧ held.stopped = true) : ¬ Admitting standing := by
  obtain ⟨held, same, isStopped⟩ := stopped
  rintro ⟨other, known, admits⟩
  cases same.symm.trans known
  simp [Plane.Standing.admits, isStopped] at admits

/-- After a stop no tool is invoked, and the node stays stopped. The induction is on the rest of the
run. -/
theorem stopped_run (gates : Gates desk gate toolset programs) {moves : List (Move S)}
    (proper : ∀ move ∈ moves, move.Proper desk) (seated : .connect ∉ moves) {state : State S}
    (gated : Gated desk gate Anyhow state)
    (stopped : ∃ held, desk.standing state.world = some held ∧ held.stopped = true) :
    let machine := nodeMachine desk node (toolset.surface programs) limit
    invocations (machine.run state moves) = invocations state ∧
      ∃ held, desk.standing (machine.run state moves).world = some held ∧
        held.stopped = true := by
  intro machine
  induction moves generalizing state with
  | nil => exact ⟨rfl, stopped⟩
  | cons move rest inductionHypothesis =>
    rw [List.forall_mem_cons] at proper
    rw [List.mem_cons, not_or] at seated
    have kept := gated_next node limit gates proper.1 gated
    have still := stopped_next node limit gates proper.1
      (fun same => seated.1 same.symm) gated stopped
    obtain ⟨none, stays⟩ := inductionHypothesis proper.2 seated.2 kept still
    refine ⟨none.trans ?_, stays⟩
    exact invocations_next node limit gates proper.1 gated (not_admitting_of_stopped stopped)

/-- Every state of a run is gated. -/
theorem gated_run (gates : Gates desk gate toolset programs) {moves : List (Move S)}
    (proper : ∀ move ∈ moves, move.Proper desk) {state : State S}
    (gated : Gated desk gate Anyhow state) :
    Gated desk gate Anyhow
      ((nodeMachine desk node (toolset.surface programs) limit).run state moves) := by
  induction moves generalizing state with
  | nil => exact gated
  | cons move rest inductionHypothesis =>
    rw [List.forall_mem_cons] at proper
    exact inductionHypothesis proper.2 (gated_next node limit gates proper.1 gated)

/-- **The posture gates**, over any run of a node and its agent. A request made while the node is
paused, stopped or not connected invokes no tool, whatever calls it nests, and when it is for a
registered tool it is refused for that reason. From a stop to the next `connect` no tool is invoked
at all, and the node shows the level `RESTRICTED`. -/
theorem posture_gates (gates : Gates desk gate toolset programs) (world : S.World)
    {moves : List (Move S)} (proper : ∀ move ∈ moves, move.Proper desk) :
    let machine := nodeMachine desk node (toolset.surface programs) (limit + 1)
    let start : State S := { world := world, admission := some gate }
    (∀ step ∈ machine.history start moves, ∀ request, step.operation = .act request →
      ¬ Admitting (desk.standing step.before.world) →
      invocations step.after = invocations step.before ∧
      ∀ name args, request = .call name args ∨ request = .callable name args →
        (toolset.tools.lookup name).isSome →
        step.answer = .error (desk.refusal (desk.standing step.before.world))) ∧
    ∀ earlier later, moves = earlier ++ later → .connect ∉ later →
      (∃ held, desk.standing (machine.run start earlier).world = some held ∧
        held.stopped = true) →
      invocations (machine.run start moves) = invocations (machine.run start earlier) ∧
        Plane.level (desk.seat (machine.run start moves).world) = .ok "RESTRICTED" := by
  intro machine start
  have gated : Gated desk gate Anyhow start :=
    ⟨fun _ member => absurd member List.not_mem_nil, rfl, trivial⟩
  refine ⟨fun step member request acts closed => ?_, ?_⟩
  · obtain ⟨earlier, later, split, made⟩ := machine.mem_history member
    rw [split, List.forall_mem_append, List.forall_mem_cons] at proper
    obtain ⟨before, allowed, _⟩ := proper
    have kept := gated_run node (limit + 1) gates before gated
    rw [made, acts] at closed ⊢
    rw [acts] at allowed
    refine ⟨invocations_next node (limit + 1) gates allowed kept closed, ?_⟩
    exact fun name args asks known => answer_of_not_admitting gates limit asks known kept closed
  · rintro earlier later rfl seated stopped
    rw [List.forall_mem_append] at proper
    have kept := gated_run node (limit + 1) gates proper.1 gated
    obtain ⟨none, held, standing, isStopped⟩ :=
      stopped_run node (limit + 1) gates proper.2 seated kept stopped
    rw [machine.run_append]
    refine ⟨none, ?_⟩
    rw [Plane.level_eq]
    show Option.elim (desk.standing _) _ _ = _
    rw [standing]
    exact congrArg _ (held.level_eq_restricted_iff.mpr isStopped)

end Running

/-! ### A node that is stopped -/

/-- A world in which there is nothing but a connector. -/
abbrev seatedSetting : Setting where
  World := Plane.Seat
  Predicate := Unit
  Program := Unit
  Plain := Nat
  Verdict := Unit
  Foreign := Plane.ConnectorError

def seatedDesk : Desk seatedSetting where
  seat := id
  setSeat held _ := held
  seat_setSeat _ _ := rfl
  raised := id

/-- One tool returns a number, and another calls it by the gate. -/
def seatedToolset : Toolset seatedSetting where
  tools := [("echo", .function fun _ => .done (.plain 1)),
    ("nested", .function fun _ => .ask (.call "echo" []) fun _ => .done (.plain 2))]
  governor :=
    { evaluate := fun _ _ =>
        .done { allowed := true, reason := "", category := "", verdict := () }
      registerOutput := fun _ _ => .done () }
  poll _ := seatedDesk.admits

def seatedPrograms (_ : Unit) : Code seatedSetting (Object seatedSetting) := .done (.plain 0)

theorem seatedGates : Gates seatedDesk () seatedToolset seatedPrograms where
  bound := rfl
  evaluates _ _ := ⟨fun _ => trivial, trivial⟩
  registers _ _ := ⟨fun _ => trivial, trivial⟩
  tools entry member := by
    simp only [seatedToolset, List.mem_cons, List.not_mem_nil, or_false] at member
    rcases member with rfl | rfl
    · exact fun _ => ⟨fun _ => trivial, trivial⟩
    · exact fun _ => ⟨fun _ _ _ => trivial, id, fun _ => trivial⟩
  programs _ := ⟨fun _ => trivial, trivial⟩

/-- A tool runs, and then the operator stops the node. -/
def untilStop : List (Move seatedSetting) :=
  [.connect, .act (.call "echo" []), .operate (.message (.delta 1
    (.dict [Plane.field "stopped" (.bool true)]) .null .null .null))]

theorem posture_gates_stop :
    let machine := nodeMachine seatedDesk Plane.openNode (seatedToolset.surface seatedPrograms) 3
    let start : State seatedSetting := { world := none, admission := some () }
    invocations (machine.run start (untilStop ++ [.act (.call "nested" [])])) =
        invocations (machine.run start untilStop) ∧
      Plane.level (machine.run start (untilStop ++ [.act (.call "nested" [])])).world =
        .ok "RESTRICTED" ∧
      invocations (machine.run start untilStop) = [(PyStr.ofString "echo", [])] := by
  have proper : ∀ move ∈ untilStop ++ [.act (.call "nested" [])], move.Proper seatedDesk := by
    intro move member
    simp only [untilStop, List.cons_append, List.nil_append, List.mem_cons, List.not_mem_nil,
      or_false] at member
    rcases member with rfl | rfl | rfl | rfl
    · trivial
    · exact id
    · trivial
    · exact id
  obtain ⟨_, stays⟩ := posture_gates Plane.openNode 2 seatedGates none proper
  obtain ⟨none, level⟩ := stays untilStop [.act (.call "nested" [])] rfl (by simp)
    ⟨⟨false, true⟩, rfl, rfl⟩
  exact ⟨none, level, rfl⟩

end AxorWrap.Runtime
