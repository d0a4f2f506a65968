/-
This file models the posture half of `PlaneConnector` (`axor_wrap/connect.py`): the level a node
shows and the admission it grants, both read off the session it holds at the time.

A connector that has not connected holds no session, and says so. Connecting again puts a fresh
session in the place of the one held, a stop included.
-/

import AxorWrap.Plane.Narrowing

namespace AxorWrap.Plane

open Python Machines

/-- `axor_wrap.errors.ConnectorError`. The status of a failure of the transport is zero. -/
structure ConnectorError where
  status : Int
  message : PyStr
deriving DecidableEq, Repr

def notConnected : ConnectorError where
  status := 0
  message := "not connected — call connect() first"

/-- `PlaneConnector.session`. -/
abbrev Seat := Option Session

/-- `_require_session`. -/
def requireSession (seat : Seat) : Except ConnectorError Session :=
  seat.elim (.error notConnected) .ok

/-- `PlaneConnector.level`. -/
def level (seat : Seat) : Except ConnectorError PyStr := do
  let session ← requireSession seat
  if session.stopped then
    return "RESTRICTED"
  return if session.paused then "CAUTIOUS" else "NORMAL"

/-- `PlaneConnector.admit`. -/
def admits (seat : Seat) : Except ConnectorError Bool := do
  return admitIntent (← requireSession seat)

/-- `PlaneConnector.connect`, as far as the session goes. -/
def connect (node : Node) : Seat := some node.initial

/-! ### What the posture decides -/

/-- What level and admission are read off. -/
structure Standing where
  paused : Bool
  stopped : Bool
deriving DecidableEq, Repr

def Session.standing (session : Session) : Standing := ⟨session.paused, session.stopped⟩

def standing (seat : Seat) : Option Standing := seat.map Session.standing

def Standing.admits (standing : Standing) : Bool := !(standing.paused || standing.stopped)

def Standing.level (standing : Standing) : PyStr :=
  if standing.stopped then "RESTRICTED" else if standing.paused then "CAUTIOUS" else "NORMAL"

/-- Admission is a matter of the standing alone. -/
theorem admits_eq (seat : Seat) :
    admits seat = (standing seat).elim (.error notConnected) fun held => .ok held.admits := by
  cases seat <;> rfl

theorem level_eq (seat : Seat) :
    level seat = (standing seat).elim (.error notConnected) fun held => .ok held.level := by
  cases seat with
  | none => rfl
  | some session =>
    show (if session.stopped = true then _ else _) = Except.ok (Session.standing session).level
    unfold Standing.level Session.standing
    split <;> rfl

theorem Standing.admits_eq_false_iff (standing : Standing) :
    standing.admits = false ↔ standing.stopped = true ∨ standing.paused = true := by
  rcases standing with ⟨paused, stopped⟩
  cases paused <;> cases stopped <;> decide

/-- The level is restricted exactly when the node is stopped. -/
theorem Standing.level_eq_restricted_iff (standing : Standing) :
    standing.level = "RESTRICTED" ↔ standing.stopped = true := by
  rcases standing with ⟨paused, stopped⟩
  cases paused <;> cases stopped <;> decide

end AxorWrap.Plane
