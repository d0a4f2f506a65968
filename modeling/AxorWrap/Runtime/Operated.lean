/-
This file puts a node together: the agent, whose tools the connector gates, and the subscription
that the connector keeps, by which the backend speaks to the node. What the agent does and what the
subscription hears may come in any order.

The gate refuses on the word of an operator, or because the plane is gone. A backend that has no
operator's key can send what it likes and close what it likes: unless the client was told to hold
when it loses the plane, it holds no tool.
-/

import AxorWrap.Plane.Listening
import AxorWrap.Runtime.Gated

namespace AxorWrap.Runtime

open Python Methods Scripts Journals Machines

variable {S : Setting}

/-! ### A node that listens -/

/-- What the agent does, what the subscription hears, another `connect`, and whatever else changes
the world. -/
inductive Doing (S : Setting)
  | act (request : Request S)
  | hear (incident : Plane.Incident)
  | connect
  | environment (change : S.World → S.World)

section Doings

variable (desk : Desk S) (client : Plane.Client) (surface : Surface S) (limit : Nat)

def Doing.method : Doing S → ToolMethod S (Option (Object S))
  | .act request => surface.serve limit request
  | .hear incident =>
    desk.reseat (Option.map fun session => (Plane.listening client).next session incident)
  | .connect => desk.reseat fun _ => Plane.connect client.node
  | .environment change => do
    modify fun state => { state with world := change state.world }
    return none

/-- The machine of a node that listens and the agent it governs. -/
def operatedMachine : Machine (State S) (Doing S) (Except (Raised S) (Option (Object S))) where
  answer state doing := outcome (doing.method desk client surface limit) state
  next state doing := final (doing.method desk client surface limit) state

/-- As for the moves of a node. -/
def Doing.Proper : Doing S → Prop
  | .act request => ¬ request.Rebinds
  | .environment change => ∀ world, desk.standing (change world) = desk.standing world
  | _ => True

end Doings

/-- What the session held has heard. A session that `connect` seats has heard nothing. -/
def hearing (incidents : List Plane.Incident) : Doing S → List Plane.Incident
  | .hear incident => incidents ++ [incident]
  | .connect => []
  | _ => incidents

def heard (doings : List (Doing S)) : List Plane.Incident := doings.foldl hearing []

theorem heard_snoc (doings : List (Doing S)) (doing : Doing S) :
    heard (doings ++ [doing]) = hearing (heard doings) doing :=
  List.foldl_append

/-! ### Whose word holds the agent -/

/-- An operator ordered a stop or a pause, or the plane was lost and the client told to hold. -/
def HeldBy (client : Plane.Client) (incidents : List Plane.Incident) : Prop :=
  Plane.Held client incidents ∨ ∃ body, Plane.Ordered client incidents body ∧
    (Plane.derivedFlag "stopped" body = .ok (some true) ∨
      Plane.derivedFlag "paused" body = .ok (some true))

theorem HeldBy.append {client : Plane.Client} {incidents : List Plane.Incident}
    (heldBy : HeldBy client incidents) (later : List Plane.Incident) :
    HeldBy client (incidents ++ later) := by
  rcases heldBy with ⟨told, lost⟩ | ⟨body, ⟨frame, member, bears⟩, flags⟩
  · exact .inl ⟨told, List.mem_append_left _ lost⟩
  · exact .inr ⟨body, ⟨frame, List.mem_append_left _ member, bears⟩, flags⟩

/-- A standing that does not admit has somebody behind it. -/
def Justified (client : Plane.Client) (incidents : List Plane.Incident)
    (standing : Option Plane.Standing) : Prop :=
  ∀ held, standing = some held → held.admits = false → HeldBy client incidents

section Justifying

variable {client : Plane.Client} {incidents : List Plane.Incident}

/-- What is heard justifies itself. -/
theorem justified_hear (signed : client.node.operatorPubkeys ≠ []) {seat : Plane.Seat}
    (justified : Justified client incidents (Plane.standing seat)) (incident : Plane.Incident) :
    Justified client (incidents ++ [incident]) (Plane.standing
      (seat.map fun session => (Plane.listening client).next session incident)) := by
  intro held standing closed
  obtain ⟨after, seated, rfl⟩ := Option.map_eq_some_iff.mp standing
  obtain ⟨session, rfl, rfl⟩ := Option.map_eq_some_iff.mp seated
  have member : incident ∈ incidents ++ [incident] := List.mem_append_right _ List.mem_cons_self
  have follows := Plane.follows_next (List.isEmpty_eq_false_iff.mpr signed) member session
  have before (flag : session.stopped = true ∨ session.paused = true) :
      HeldBy client (incidents ++ [incident]) :=
    (justified _ rfl ((Plane.Standing.admits_eq_false_iff _).mpr flag)).append _
  rcases (Plane.Standing.admits_eq_false_iff _).mp closed with stopped | paused
  · rcases follows.stopped with kept | ⟨body, ordered, derived⟩
    · exact before (.inl (kept.symm.trans stopped))
    · exact .inr ⟨body, ordered, .inl (derived.trans (congrArg (Except.ok ∘ some) stopped))⟩
  · rcases follows.paused with kept | lost | ⟨body, ordered, derived⟩
    · exact before (.inr (kept.symm.trans paused))
    · exact .inl lost
    · exact .inr ⟨body, ordered, .inr (derived.trans (congrArg (Except.ok ∘ some) paused))⟩

end Justifying

/-! ### Runs -/

section Running

variable {client : Plane.Client} (limit : Nat) {desk : Desk S} {gate : S.Predicate}
  {toolset : Toolset S} {programs : S.Program → Code S (Object S)}

/-- The node is gated, and what holds it is justified. -/
structure Operated (desk : Desk S) (gate : S.Predicate) (client : Plane.Client)
    (incidents : List Plane.Incident) (state : State S) : Prop where
  gated : Gated desk gate Anyhow state
  justified : Justified client incidents (desk.standing state.world)

/-- Changing the world leaves the gate alone. -/
theorem Operated.reseat {incidents later : List Plane.Incident} {state : State S}
    (operated : Operated desk gate client incidents state) (world : S.World)
    (justified : Justified client later (desk.standing world)) :
    Operated desk gate client later { state with world := world } :=
  ⟨⟨operated.gated.pending, operated.gated.holds.1, trivial⟩, justified⟩

theorem operated_next (gates : Gates desk gate toolset programs)
    (signed : client.node.operatorPubkeys ≠ []) {incidents : List Plane.Incident}
    {doing : Doing S} (proper : doing.Proper desk) {state : State S}
    (operated : Operated desk gate client incidents state) :
    Operated desk gate client (hearing incidents doing)
      ((operatedMachine desk client (toolset.surface programs) limit).next state doing) := by
  cases doing with
  | act request =>
    obtain ⟨gated, heeded⟩ := heeds_serve gates limit request proper state operated.gated
    refine ⟨gated, fun held standing => ?_⟩
    exact operated.justified held (heeded.standing.symm.trans standing)
  | hear incident =>
    refine operated.reseat (desk.setSeat _ state.world) ?_
    unfold Desk.standing
    rw [desk.seat_setSeat]
    exact justified_hear signed operated.justified incident
  | connect =>
    refine operated.reseat (desk.setSeat _ state.world) ?_
    unfold Desk.standing
    rw [desk.seat_setSeat]
    rintro held standing closed
    cases standing
    cases closed
  | environment change =>
    refine operated.reseat (change state.world) ?_
    rw [proper state.world]
    exact operated.justified

theorem operated_run (gates : Gates desk gate toolset programs)
    (signed : client.node.operatorPubkeys ≠ []) {doings : List (Doing S)}
    (proper : ∀ doing ∈ doings, doing.Proper desk) {start : State S}
    (operated : Operated desk gate client [] start) :
    Operated desk gate client (heard doings)
      ((operatedMachine desk client (toolset.surface programs) limit).run start doings) := by
  induction doings using List.reverseRecOn with
  | nil => exact operated
  | append_singleton doings doing inductionHypothesis =>
    rw [List.forall_mem_append, List.forall_mem_singleton] at proper
    rw [Machine.run_append, heard_snoc]
    exact operated_next limit gates signed proper.2 (inductionHypothesis proper.1)

/-- **The agent is held by nobody but its operators**, over any run of a node with operator keys
that begins before it is connected. When the gate finds the node not admitting, in whatever call of
whatever request, then since it was connected an operator signed a stop or a pause in a frame that
the subscription received, or the subscription was lost by a client that was told to hold. -/
theorem held_by_operators (gates : Gates desk gate toolset programs)
    (signed : client.node.operatorPubkeys ≠ []) {world : S.World}
    (unconnected : desk.standing world = none) {doings : List (Doing S)}
    (proper : ∀ doing ∈ doings, doing.Proper desk) :
    let machine := operatedMachine desk client (toolset.surface programs) limit
    let start : State S := { world := world, admission := some gate }
    ∀ earlier request later, doings = earlier ++ .act request :: later →
      ∃ happened, (machine.run start (earlier ++ [.act request])).log.events =
          (machine.run start earlier).log.events ++ happened ∧
        ∀ frame, (frame, .admission (some false)) ∈ happened → HeldBy client (heard earlier) := by
  rintro machine start earlier request later rfl
  rw [List.forall_mem_append, List.forall_mem_cons] at proper
  obtain ⟨before, allowed, _⟩ := proper
  have fresh : Operated desk gate client [] start := by
    refine ⟨⟨fun _ member => absurd member List.not_mem_nil, rfl, trivial⟩, ?_⟩
    intro held standing
    cases unconnected.symm.trans standing
  have operated := operated_run limit gates signed before fresh
  obtain ⟨_, heeded⟩ := heeds_serve gates limit request allowed _ operated.gated
  obtain ⟨happened, events, heeds⟩ := heeded.events
  rw [machine.run_append]
  refine ⟨happened, events, fun frame member => ?_⟩
  obtain ⟨held, standing, told⟩ := heeds _ member
  exact operated.justified held standing (Option.some.inj told).symm

end Running

/-! ### A stop takes hold -/

section Stopping

variable (client : Plane.Client) (limit : Nat) {desk : Desk S} {gate : S.Predicate}
  {toolset : Toolset S} {programs : S.Program → Code S (Object S)}

/-- The session is put where it was. -/
def Desk.again (desk : Desk S) : Move S :=
  .environment fun world => desk.setSeat (desk.seat world) world

end Stopping

/-! ### An agent that is held -/

/-- The node is connected, and hears that it is to stop. -/
def untilHeard : List (Doing seatedSetting) :=
  [.connect, .hear (.frame ⟨"delta", Plane.stopText⟩)]

/-- The gate holds a call to a node that is stopped. -/
theorem mem_admission_echo {session : Plane.Session} (stopped : session.stopped = true) :
    (0, .admission (some false)) ∈ ((operatedMachine seatedDesk Plane.signedClient
      (seatedToolset.surface seatedPrograms) 1).run
        { world := some session, admission := some () }
        [.act (.call "echo" [])]).log.events := by
  rcases session with ⟨_, paused, halted, _⟩
  cases stopped
  cases paused <;> exact List.mem_cons_of_mem _ List.mem_cons_self

theorem held_by_operators_stop :
    HeldBy Plane.signedClient [.frame ⟨"delta", Plane.stopText⟩] := by
  have proper : ∀ doing ∈ untilHeard ++ [.act (.call "echo" [])], doing.Proper seatedDesk := by
    intro doing member
    simp only [untilHeard, List.cons_append, List.nil_append, List.mem_cons, List.not_mem_nil,
      or_false] at member
    rcases member with rfl | rfl | rfl
    · trivial
    · trivial
    · exact id
  obtain ⟨happened, events, held⟩ := held_by_operators 1 seatedGates
    (show Plane.signedClient.node.operatorPubkeys ≠ [] from List.cons_ne_nil _ _)
    (show seatedDesk.standing none = none from rfl) proper untilHeard (.call "echo" []) [] rfl
  obtain ⟨session, found, stopped⟩ : ∃ session,
      (operatedMachine seatedDesk Plane.signedClient (seatedToolset.surface seatedPrograms) 1).run
        { world := none, admission := some () } untilHeard =
          { world := some session, admission := some () } ∧ session.stopped = true :=
    ⟨_, rfl, by decide +kernel⟩
  rw [Machine.run_append, found] at events
  have holds := mem_admission_echo stopped
  rw [events] at holds
  exact held 0 holds

end AxorWrap.Runtime
