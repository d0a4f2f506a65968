/-
This file models `PlaneAdmission` (`axor_wrap/plane/admission.py`), which holds the loops of a
governed node between two intents while its session is paused, and proves what they are told.

Any number of loops may wait on one controller. In between their looks at the session the operator,
the client and other loops do what they like, and a loop may look again at any time, for a wait may
run out. A waiter that a notification wakes stays woken, even when another clears the event before
it looks.

Up to Python 3.11 `asyncio.wait_for` runs the wait on the event in a task of its own, which begins
some time after the loop has cleared the event. What is notified in between is remembered by the
event alone, and another loop may clear it. From 3.12 on the wait begins at once.
-/

import AxorWrap.Plane.Narrowing

namespace AxorWrap.Plane

open Python Methods Machines

/-! ### The controller -/

/-- How far a wait on the event has come: it is yet to begin, it goes on, or it is over. -/
inductive Wait
  | entering
  | unwoken
  | woken
deriving DecidableEq, Repr

/-- A call of `await_admission`. -/
inductive Waiter
  | waiting (wait : Wait)
  | answered (admitted : Bool)
deriving DecidableEq, Repr

/-- A controller and its session: `_session`, `_changed`, and the calls made so far. -/
structure Boundary where
  session : Session
  changed : Bool := false
  waiters : List Waiter := []

/-- What a look at a session comes to. While it is paused, to nothing. -/
def verdictOf (session : Session) : Option Bool :=
  if session.stopped then some false
  else if !session.paused then some true
  else none

/-- Setting the event ends the waits that go on. -/
def Wait.wake : Wait → Wait
  | .entering => .entering
  | .unwoken | .woken => .woken

def Waiter.wake : Waiter → Waiter
  | .waiting wait => .waiting wait.wake
  | .answered admitted => .answered admitted

/-- The answer of a call that has one. -/
def Waiter.answer : Waiter → Option Bool
  | .waiting _ => none
  | .answered admitted => some admitted

namespace Boundary

variable (boundary : Boundary)

/-- The loop of `await_admission`, from its look at the session to its answer or its next wait. -/
def look : Waiter :=
  match verdictOf boundary.session with
  | some admitted => .answered admitted
  | none => .waiting .entering

/-- A look that comes to nothing clears the event. -/
def changedAfterLook : Bool := boundary.changed && (verdictOf boundary.session).isSome

/-- `notify`. Setting an event that is set already wakes nobody. -/
def notify : Boundary :=
  if boundary.changed then boundary
  else { boundary with changed := true, waiters := boundary.waiters.map Waiter.wake }

/-- The wait of a call begins. When the event is set it is over at once. -/
def begin (place : Nat) : Boundary :=
  match boundary.waiters[place]? with
  | some (.waiting .entering) =>
    { boundary with
      waiters := boundary.waiters.set place
        (.waiting (if boundary.changed then .woken else .unwoken)) }
  | _ => boundary

/-- A call of `await_admission`, up to its first wait. -/
def arrive : Boundary :=
  { boundary with
    changed := boundary.changedAfterLook
    waiters := boundary.waiters ++ [boundary.look] }

/-- A call that waits goes on: its wait is over, or has run out. -/
def resume (place : Nat) : Boundary :=
  match boundary.waiters[place]? with
  | some (.waiting _) =>
    { boundary with
      changed := boundary.changedAfterLook
      waiters := boundary.waiters.set place boundary.look }
  | _ => boundary

def reseat (session : Session) : Boundary := { boundary with session := session }

end Boundary

/-- What the plane does to the session, the hold of a client that lost its plane, and what happens
at the boundary. -/
inductive BoundaryMove
  | operate (operation : Operation)
  | hold
  | notify
  | arrive
  | begin (place : Nat)
  | resume (place : Nat)

/-- The machine of a controller. -/
def boundaryMachine (node : Node) : Machine Boundary BoundaryMove Unit where
  answer _ _ := ()
  next boundary
    | .operate operation =>
      boundary.reseat ((sessionMachine node).next boundary.session operation)
    | .hold => boundary.reseat { boundary.session with paused := true }
    | .notify => boundary.notify
    | .arrive => boundary.arrive
    | .begin place => boundary.begin place
    | .resume place => boundary.resume place

variable (node : Node)

/-! ### What a waiter is told -/

/-- What a move tells the call at this place, which looks at the session as it arrives and as it
goes on. -/
def told (place : Nat) (boundary : Boundary) : BoundaryMove → Option Bool
  | .arrive => if boundary.waiters.length = place then verdictOf boundary.session else none
  | .resume resumed =>
    if resumed = place ∧ place < boundary.waiters.length then verdictOf boundary.session else none
  | _ => none

/-- The answer of the call at this place, if there is one. -/
def Boundary.answer (boundary : Boundary) (place : Nat) : Option Bool :=
  boundary.waiters[place]?.bind Waiter.answer

theorem answer_look (boundary : Boundary) : boundary.look.answer = verdictOf boundary.session := by
  unfold Boundary.look
  cases verdictOf boundary.session <;> rfl

theorem answer_wake (waiter : Waiter) : waiter.wake.answer = waiter.answer := by
  cases waiter <;> rfl

theorem answer_notify (boundary : Boundary) (place : Nat) :
    boundary.notify.answer place = boundary.answer place := by
  unfold Boundary.notify Boundary.answer
  split
  · rfl
  · rw [List.getElem?_map]
    cases boundary.waiters[place]? with
    | none => rfl
    | some waiter => exact answer_wake waiter

theorem answer_begin (boundary : Boundary) (begun place : Nat) :
    (boundary.begin begun).answer place = boundary.answer place := by
  unfold Boundary.begin Boundary.answer
  split
  · next found =>
    by_cases here : begun = place
    · subst here
      rw [List.getElem?_set_self (List.getElem?_eq_some_iff.mp found).1, found]
      rfl
    · rw [List.getElem?_set_ne here]
  · rfl

theorem answer_arrive (boundary : Boundary) (place : Nat) :
    boundary.arrive.answer place =
      (boundary.answer place).or (told place boundary .arrive) := by
  simp only [Boundary.arrive, Boundary.answer, told]
  split
  · next here =>
    subst here
    rw [List.getElem?_concat_length, List.getElem?_eq_none le_rfl]
    exact answer_look boundary
  · next elsewhere =>
    rw [Option.or_none]
    rcases lt_or_gt_of_ne elsewhere with beyond | within
    · rw [List.getElem?_eq_none (by rw [List.length_append, List.length_singleton]; omega),
        List.getElem?_eq_none (by omega)]
    · rw [List.getElem?_append_left within]

theorem answer_resume (boundary : Boundary) (resumed place : Nat) :
    (boundary.resume resumed).answer place =
      (boundary.answer place).or (told place boundary (.resume resumed)) := by
  simp only [told]
  by_cases here : resumed = place ∧ place < boundary.waiters.length
  · obtain ⟨rfl, within⟩ := here
    rw [if_pos ⟨rfl, within⟩]
    simp only [Boundary.resume, Boundary.answer]
    match found : boundary.waiters[resumed]? with
    | none => exact absurd (List.getElem?_eq_none_iff.mp found) (by omega)
    | some (.answered admitted) => simp [found, Waiter.answer]
    | some (.waiting wait) =>
      simp only [List.getElem?_set_self within]
      exact answer_look boundary
  · rw [if_neg here, Option.or_none]
    unfold Boundary.resume Boundary.answer
    split
    · next wait found =>
      have within := (List.getElem?_eq_some_iff.mp found).1
      rw [List.getElem?_set_ne fun same => here ⟨same, same ▸ within⟩]
    · rfl

/-- A move gives a call an answer only by telling it, and only when it has none. -/
theorem answer_next (place : Nat) (boundary : Boundary) (move : BoundaryMove) :
    ((boundaryMachine node).next boundary move).answer place =
      (boundary.answer place).or (told place boundary move) := by
  cases move with
  | operate operation => exact (Option.or_none).symm
  | hold => exact (Option.or_none).symm
  | notify => exact (answer_notify boundary place).trans (Option.or_none).symm
  | arrive => exact answer_arrive boundary place
  | begin begun => exact (answer_begin boundary begun place).trans (Option.or_none).symm
  | resume resumed => exact answer_resume boundary resumed place

/-- The answer a call has after a run is the first thing it was told. -/
theorem answer_run (place : Nat) (boundary : Boundary) (moves : List BoundaryMove) :
    ((boundaryMachine node).run boundary moves).answer place =
      (boundary.answer place).or (((boundaryMachine node).history boundary moves).findSome?
        fun step => told place step.before step.operation) := by
  induction moves generalizing boundary with
  | nil => exact (Option.or_none).symm
  | cons move rest inductionHypothesis =>
    rw [Machine.run_cons, inductionHypothesis, answer_next, Option.or_assoc, Machine.history,
      List.findSome?_cons]
    simp only [Machine.transition]
    cases told place boundary move <;> rfl

/-! ### A stop -/

/-- No move takes a stop back. -/
theorem stopped_next_boundary {boundary : Boundary} (stopped : boundary.session.stopped = true)
    (move : BoundaryMove) :
    ((boundaryMachine node).next boundary move).session.stopped = true := by
  cases move with
  | operate operation => exact (narrows_next node boundary.session operation).stopped stopped
  | hold => exact stopped
  | notify =>
    show boundary.notify.session.stopped = true
    unfold Boundary.notify
    split <;> exact stopped
  | arrive => exact stopped
  | begin place =>
    show (boundary.begin place).session.stopped = true
    unfold Boundary.begin
    split <;> exact stopped
  | resume place =>
    show (boundary.resume place).session.stopped = true
    unfold Boundary.resume
    split <;> exact stopped

/-- Of a stopped session every look tells the same. -/
theorem told_of_stopped {boundary : Boundary} (stopped : boundary.session.stopped = true)
    {place : Nat} {move : BoundaryMove} {admitted : Bool}
    (tells : told place boundary move = some admitted) : admitted = false := by
  have verdict : verdictOf boundary.session = some false := by rw [verdictOf, if_pos stopped]
  cases move with
  | arrive =>
    simp only [told, verdict, Option.ite_none_right_eq_some, Option.some.injEq] at tells
    exact tells.2.symm
  | resume resumed =>
    simp only [told, verdict, Option.ite_none_right_eq_some, Option.some.injEq] at tells
    exact tells.2.symm
  | operate operation => cases tells
  | hold => cases tells
  | notify => cases tells
  | begin place => cases tells

/-- A call that has no answer when the session is stopped is never admitted. -/
theorem answer_run_of_stopped {boundary : Boundary} (stopped : boundary.session.stopped = true)
    {place : Nat} (open_ : boundary.answer place = none) (moves : List BoundaryMove) :
    ((boundaryMachine node).run boundary moves).answer place ≠ some true := by
  induction moves generalizing boundary with
  | nil => exact fun admitted => by cases open_.symm.trans admitted
  | cons move rest inductionHypothesis =>
    rw [Machine.run_cons]
    have still := stopped_next_boundary node stopped move
    have answered := answer_next node place boundary move
    rw [open_, Option.none_or] at answered
    cases tells : told place boundary move with
    | none => exact inductionHypothesis still (answered.trans tells)
    | some admitted =>
      rw [answer_run, answered, tells, told_of_stopped stopped tells]
      simp

/-- **What a loop is told**, over any run of a controller that starts with no call: the answer of a
call is what its first look says that finds the session stopped or not paused, so it is right at
that moment; and a call without an answer when the session is stopped is not admitted after. -/
theorem admission_answers (session : Session) (moves : List BoundaryMove) (place : Nat) :
    let machine := boundaryMachine node
    let start : Boundary := { session := session }
    (machine.run start moves).answer place =
        (machine.history start moves).findSome?
          (fun step => told place step.before step.operation) ∧
      ∀ earlier later, moves = earlier ++ later →
        (machine.run start earlier).session.stopped = true →
        (machine.run start earlier).answer place = none →
        (machine.run start moves).answer place ≠ some true := by
  intro machine start
  refine ⟨?_, ?_⟩
  · exact (answer_run node place start moves).trans Option.none_or
  · rintro earlier later rfl stopped open_
    rw [machine.run_append]
    exact answer_run_of_stopped node stopped open_ later

/-! ### Notifications -/

/-- While the event is set no wait goes on. -/
def Wakeful (boundary : Boundary) : Prop :=
  boundary.changed = true → .waiting .unwoken ∉ boundary.waiters

/-- A look begins no wait. -/
theorem look_ne_unwoken (boundary : Boundary) : .waiting .unwoken ≠ boundary.look := by
  unfold Boundary.look
  cases verdictOf boundary.session <;> simp

theorem not_mem_map_wake (waiters : List Waiter) :
    .waiting .unwoken ∉ waiters.map Waiter.wake := by
  rw [List.mem_map]
  rintro ⟨waiter, _, same⟩
  cases waiter with
  | waiting wait => cases wait <;> cases same
  | answered => cases same

theorem unwoken_of_arrive {boundary : Boundary}
    (waits : .waiting .unwoken ∈ boundary.arrive.waiters) :
    .waiting .unwoken ∈ boundary.waiters := by
  rcases List.mem_append.mp waits with before | looked
  · exact before
  · exact absurd (List.mem_singleton.mp looked) (look_ne_unwoken boundary)

theorem unwoken_of_resume {boundary : Boundary} {place : Nat}
    (waits : .waiting .unwoken ∈ (boundary.resume place).waiters) :
    .waiting .unwoken ∈ boundary.waiters := by
  unfold Boundary.resume at waits
  split at waits
  · rcases List.mem_or_eq_of_mem_set waits with before | looked
    · exact before
    · exact absurd looked (look_ne_unwoken boundary)
  · exact waits

/-- A look that leaves the event set found it set. -/
theorem changed_of_changedAfterLook {boundary : Boundary}
    (set : boundary.changedAfterLook = true) : boundary.changed = true := by
  unfold Boundary.changedAfterLook at set
  rw [Bool.and_eq_true] at set
  exact set.1

theorem wakeful_begin {boundary : Boundary} (wakeful : Wakeful boundary) (place : Nat) :
    Wakeful (boundary.begin place) := by
  unfold Boundary.begin
  split
  · intro changed waits
    have changed : boundary.changed = true := changed
    rw [if_pos changed] at waits
    rcases List.mem_or_eq_of_mem_set waits with before | begun
    · exact wakeful changed before
    · cases begun
  · exact wakeful

theorem wakeful_notify {boundary : Boundary} (wakeful : Wakeful boundary) :
    Wakeful boundary.notify := by
  unfold Boundary.notify
  split
  · exact wakeful
  · exact fun _ => not_mem_map_wake boundary.waiters

theorem wakeful_next {boundary : Boundary} (wakeful : Wakeful boundary) (move : BoundaryMove) :
    Wakeful ((boundaryMachine node).next boundary move) := by
  cases move with
  | operate operation => exact wakeful
  | hold => exact wakeful
  | notify => exact wakeful_notify wakeful
  | arrive =>
    exact fun set waits => wakeful (changed_of_changedAfterLook set) (unwoken_of_arrive waits)
  | begin place => exact wakeful_begin wakeful place
  | resume place =>
    intro set waits
    have changed : boundary.changed = true := by
      have set : (boundary.resume place).changed = true := set
      unfold Boundary.resume at set
      split at set
      · exact changed_of_changedAfterLook set
      · exact set
    exact wakeful changed (unwoken_of_resume waits)

theorem wakeful_run {boundary : Boundary} (wakeful : Wakeful boundary)
    (moves : List BoundaryMove) : Wakeful ((boundaryMachine node).run boundary moves) := by
  induction moves generalizing boundary with
  | nil => exact wakeful
  | cons move rest inductionHypothesis =>
    exact inductionHypothesis (wakeful_next node wakeful move)

/-- A notification leaves the event set. -/
theorem changed_notify (boundary : Boundary) : boundary.notify.changed = true := by
  unfold Boundary.notify
  split
  · next changed => exact changed
  · rfl

/-- And whether it was set or not, everybody whose wait goes on is woken. -/
theorem waiters_notify {boundary : Boundary} (wakeful : Wakeful boundary) {place : Nat}
    {wait : Wait} (waits : boundary.waiters[place]? = some (.waiting wait)) :
    boundary.notify.waiters[place]? = some (.waiting wait.wake) := by
  unfold Boundary.notify
  split
  · next changed =>
    cases wait with
    | entering | woken => exact waits
    | unwoken => exact absurd (List.mem_of_getElem? waits) (wakeful changed)
  · rw [List.getElem?_map, waits]
    rfl

/-- A wait that is over, or is yet to begin and does not, is left alone until its call looks. -/
theorem waiting_next {boundary : Boundary} {place : Nat} {wait : Wait}
    (waits : boundary.waiters[place]? = some (.waiting wait)) (settled : wait ≠ .unwoken)
    {move : BoundaryMove} (unresumed : move ≠ .resume place)
    (begins : wait = .entering → move ≠ .begin place) :
    ((boundaryMachine node).next boundary move).waiters[place]? = some (.waiting wait) := by
  have within := (List.getElem?_eq_some_iff.mp waits).1
  cases move with
  | operate operation => exact waits
  | hold => exact waits
  | notify =>
    show boundary.notify.waiters[place]? = _
    unfold Boundary.notify
    split
    · exact waits
    · rw [List.getElem?_map, waits]
      cases wait with
      | entering | woken => rfl
      | unwoken => exact absurd rfl settled
  | arrive =>
    show (boundary.waiters ++ [boundary.look])[place]? = _
    rw [List.getElem?_append_left within]
    exact waits
  | begin begun =>
    show (boundary.begin begun).waiters[place]? = _
    unfold Boundary.begin
    split
    · next found =>
      have other : begun ≠ place := by
        rintro rfl
        rw [waits] at found
        cases found
        exact begins rfl rfl
      rw [List.getElem?_set_ne other]
      exact waits
    · exact waits
  | resume resumed =>
    show (boundary.resume resumed).waiters[place]? = _
    unfold Boundary.resume
    split
    · rw [List.getElem?_set_ne fun same => unresumed (congrArg _ same)]
      exact waits
    · exact waits

/-- Who is woken stays so until it looks. -/
theorem woken_run {boundary : Boundary} {place : Nat}
    (woken : boundary.waiters[place]? = some (.waiting .woken)) {moves : List BoundaryMove}
    (others : .resume place ∉ moves) :
    ((boundaryMachine node).run boundary moves).waiters[place]? = some (.waiting .woken) := by
  induction moves generalizing boundary with
  | nil => exact woken
  | cons move rest inductionHypothesis =>
    rw [List.mem_cons, not_or] at others
    exact inductionHypothesis (waiting_next node woken (by decide)
      (fun same => others.1 same.symm) fun impossible => absurd impossible (by decide))
      others.2

/-! ### Waits that are yet to begin -/

/-- A look at a session that is paused, which clears the event. -/
def BoundaryMove.Clears (boundary : Boundary) : BoundaryMove → Prop
  | .arrive | .resume _ => verdictOf boundary.session = none
  | _ => False

/-- The event stays set until it is cleared. -/
theorem changed_next {boundary : Boundary} (changed : boundary.changed = true)
    {move : BoundaryMove} (keeps : ¬ move.Clears boundary) :
    ((boundaryMachine node).next boundary move).changed = true := by
  have kept : verdictOf boundary.session ≠ none → boundary.changedAfterLook = true := by
    intro decided
    unfold Boundary.changedAfterLook
    rw [changed, Option.isSome_iff_ne_none.mpr decided]
    rfl
  cases move with
  | operate operation => exact changed
  | hold => exact changed
  | notify => exact changed_notify boundary
  | arrive => exact kept keeps
  | begin place =>
    show (boundary.begin place).changed = true
    unfold Boundary.begin
    split <;> exact changed
  | resume place =>
    show (boundary.resume place).changed = true
    unfold Boundary.resume
    split
    · exact kept keeps
    · exact changed

theorem waiters_begin {boundary : Boundary} {place : Nat} (changed : boundary.changed = true)
    (waits : boundary.waiters[place]? = some (.waiting .entering)) :
    (boundary.begin place).waiters[place]? = some (.waiting .woken) := by
  unfold Boundary.begin
  rw [waits]
  dsimp only
  rw [List.getElem?_set_self (List.getElem?_eq_some_iff.mp waits).1, if_pos changed]

/-- While the event stays set, a wait that begins is over. -/
theorem begun_run {boundary : Boundary} {place : Nat} (changed : boundary.changed = true)
    (waits : boundary.waiters[place]? = some (.waiting .entering)) {between : List BoundaryMove}
    (later : List BoundaryMove) (others : .resume place ∉ between ++ .begin place :: later)
    (keeps : ∀ step ∈ (boundaryMachine node).history boundary between,
      ¬ step.operation.Clears step.before) :
    ((boundaryMachine node).run boundary
      (between ++ .begin place :: later)).waiters[place]? = some (.waiting .woken) := by
  induction between generalizing boundary with
  | nil =>
    rw [List.nil_append, List.mem_cons, not_or] at others
    exact woken_run node (waiters_begin changed waits) others.2
  | cons move rest inductionHypothesis =>
    rw [List.cons_append, List.mem_cons, not_or] at others
    rw [Machine.history, List.forall_mem_cons] at keeps
    by_cases begins : move = .begin place
    · subst begins
      exact woken_run node (waiters_begin changed waits) others.2
    · exact inductionHypothesis (changed_next node changed keeps.1)
        (waiting_next node waits (by decide) (fun same => others.1 same.symm) fun _ => begins)
        others.2 keeps.2

/-! ### Waits that are justified -/

/-- The move may change what a look finds. -/
def BoundaryMove.Changes : BoundaryMove → Prop
  | .operate _ | .hold => True
  | _ => False

/-- Whose wait goes on waits for a session that is paused; whose wait is yet to begin does, too, or
finds the event set. -/
structure Justified (boundary : Boundary) : Prop where
  unwoken : .waiting .unwoken ∈ boundary.waiters → verdictOf boundary.session = none
  entering : .waiting .entering ∈ boundary.waiters →
    boundary.changed = true ∨ verdictOf boundary.session = none

/-- While the session is paused, every wait is justified. -/
theorem justified_of_paused {boundary : Boundary} (paused : verdictOf boundary.session = none) :
    Justified boundary :=
  ⟨fun _ => paused, fun _ => .inr paused⟩

/-- A notification justifies all waits, since it leaves none to go on. -/
theorem justified_notify {boundary : Boundary} (wakeful : Wakeful boundary) :
    Justified boundary.notify :=
  ⟨fun waits => absurd waits (wakeful_notify wakeful (changed_notify boundary)),
    fun _ => .inl (changed_notify boundary)⟩

theorem justified_begin {boundary : Boundary} (justified : Justified boundary) (place : Nat) :
    Justified (boundary.begin place) := by
  unfold Boundary.begin
  split
  · next found =>
    refine ⟨fun waits => ?_, fun waits => ?_⟩
    · rcases List.mem_or_eq_of_mem_set waits with before | begun
      · exact justified.unwoken before
      · cases changed : boundary.changed with
        | true =>
          rw [changed] at begun
          cases begun
        | false =>
          refine (justified.entering (List.mem_of_getElem? found)).resolve_left fun set => ?_
          cases changed.symm.trans set
    · rcases List.mem_or_eq_of_mem_set waits with before | begun
      · exact justified.entering before
      · split at begun <;> cases begun
  · exact justified

/-- And looks keep them justified: one that finds an answer leaves the event alone. -/
theorem justified_looked {boundary after : Boundary} (justified : Justified boundary)
    (session : after.session = boundary.session)
    (looks : verdictOf boundary.session ≠ none → after.changed = boundary.changed ∧
      ∀ wait, .waiting wait ∈ after.waiters → .waiting wait ∈ boundary.waiters) :
    Justified after := by
  by_cases paused : verdictOf boundary.session = none
  · exact justified_of_paused (session ▸ paused)
  · obtain ⟨changed, waits⟩ := looks paused
    refine ⟨fun unwoken => ?_, fun entering => ?_⟩
    · rw [session]
      exact justified.unwoken (waits _ unwoken)
    · rw [session, changed]
      exact justified.entering (waits _ entering)

theorem justified_next {boundary : Boundary} (justified : Justified boundary)
    (wakeful : Wakeful boundary) {move : BoundaryMove} (keeps : ¬ move.Changes) :
    Justified ((boundaryMachine node).next boundary move) := by
  have looks (decided : verdictOf boundary.session ≠ none) :
      boundary.changedAfterLook = boundary.changed ∧ ∀ wait, boundary.look ≠ .waiting wait := by
    obtain ⟨admitted, verdict⟩ := Option.ne_none_iff_exists'.mp decided
    unfold Boundary.changedAfterLook Boundary.look
    rw [verdict]
    exact ⟨Bool.and_true _, fun _ same => by cases same⟩
  cases move with
  | operate operation => exact absurd trivial keeps
  | hold => exact absurd trivial keeps
  | notify => exact justified_notify wakeful
  | arrive =>
    refine justified_looked justified rfl fun decided => ⟨(looks decided).1, fun wait waits => ?_⟩
    rcases List.mem_append.mp waits with before | looked
    · exact before
    · exact absurd (List.mem_singleton.mp looked).symm ((looks decided).2 wait)
  | begin place => exact justified_begin justified place
  | resume place =>
    show Justified (boundary.resume place)
    unfold Boundary.resume
    split
    · refine justified_looked justified rfl fun decided => ⟨(looks decided).1, fun wait waits => ?_⟩
      rcases List.mem_or_eq_of_mem_set waits with before | looked
      · exact before
      · exact absurd looked.symm ((looks decided).2 wait)
    · exact justified

/-- Every change is followed by a notification. -/
def Notified (moves : List BoundaryMove) : Prop :=
  ∀ earlier move later, moves = earlier ++ move :: later → move.Changes → .notify ∈ later

theorem notified_of_concat {moves : List BoundaryMove} {last : BoundaryMove}
    (notified : Notified (moves ++ [last])) (other : last ≠ .notify) : Notified moves := by
  rintro earlier move later rfl changes
  have follows := notified earlier move (later ++ [last]) (by simp) changes
  rcases List.mem_append.mp follows with inLater | isLast
  · exact inLater
  · exact absurd (List.mem_singleton.mp isLast).symm other

/-- When every change is notified nobody waits without need. The induction is on the run from its
end: what follows the last notification are looks, and waits that begin. -/
theorem justified_run {boundary : Boundary} (wakeful : Wakeful boundary)
    (justified : Justified boundary) {moves : List BoundaryMove} (notified : Notified moves) :
    Justified ((boundaryMachine node).run boundary moves) := by
  induction moves using List.reverseRecOn with
  | nil => exact justified
  | append_singleton moves last inductionHypothesis =>
    rw [Machine.run_append]
    have awake := wakeful_run node wakeful moves
    by_cases isNotify : last = .notify
    · subst isNotify
      exact justified_notify awake
    · have keeps : ¬ last.Changes := fun changes =>
        absurd (notified moves last [] rfl changes) List.not_mem_nil
      exact justified_next node (inductionHypothesis (notified_of_concat notified isNotify)) awake
        keeps

/-- A look comes to nothing exactly when the session is paused and not stopped. -/
theorem verdictOf_eq_none_iff (session : Session) :
    verdictOf session = none ↔ session.paused = true ∧ session.stopped = false := by
  unfold verdictOf
  cases session.stopped <;> cases session.paused <;> simp

/-- **When a wakeup is lost**, over any run of a controller that starts with no call. Whose wait
goes on when a notification comes is woken by it, and stays so until it looks again, whatever the
others do. Whose wait is yet to begin is woken as it begins, unless another call looks at a paused
session in between. And when every change of the session is followed by a notification no loss
matters: whose wait goes on waits for a session that is paused and not stopped, and whose wait is
yet to begin does, too, or will be over at once. -/
theorem no_wakeup_lost (session : Session) (moves : List BoundaryMove) :
    let machine := boundaryMachine node
    let start : Boundary := { session := session }
    (∀ earlier later place wait, moves = earlier ++ .notify :: later →
      (machine.run start earlier).waiters[place]? = some (.waiting wait) → wait ≠ .entering →
      .resume place ∉ later →
      (machine.run start moves).waiters[place]? = some (.waiting .woken)) ∧
    (∀ earlier between later place,
      moves = earlier ++ .notify :: (between ++ .begin place :: later) →
      (machine.run start earlier).waiters[place]? = some (.waiting .entering) →
      (∀ step ∈ machine.history (machine.run start (earlier ++ [.notify])) between,
        ¬ step.operation.Clears step.before) →
      .resume place ∉ between ++ .begin place :: later →
      (machine.run start moves).waiters[place]? = some (.waiting .woken)) ∧
    (Notified moves →
      (.waiting .unwoken ∈ (machine.run start moves).waiters →
        (machine.run start moves).session.paused = true ∧
          (machine.run start moves).session.stopped = false) ∧
      (.waiting .entering ∈ (machine.run start moves).waiters →
        (machine.run start moves).changed = true ∨
          (machine.run start moves).session.paused = true ∧
            (machine.run start moves).session.stopped = false)) := by
  intro machine start
  have wakeful : Wakeful start := fun impossible => by cases impossible
  refine ⟨?_, ?_, fun notified => ?_⟩
  · rintro earlier later place wait rfl waits begun others
    rw [machine.run_append]
    have woken := waiters_notify (wakeful_run node wakeful earlier) waits
    have ended : wait.wake = .woken := by
      cases wait with
      | entering => exact absurd rfl begun
      | unwoken | woken => rfl
    rw [ended] at woken
    exact woken_run node woken others
  · rintro earlier between later place rfl waits keeps others
    rw [machine.run_append] at keeps ⊢
    exact begun_run node (changed_notify _)
      (waiters_notify (wakeful_run node wakeful earlier) waits) later others keeps
  · have none : Justified start :=
      ⟨fun waits => absurd waits List.not_mem_nil, fun waits => absurd waits List.not_mem_nil⟩
    have justified := justified_run node wakeful none notified
    refine ⟨fun waits => ?_, fun waits => ?_⟩
    · exact (verdictOf_eq_none_iff _).mp (justified.unwoken waits)
    · exact (justified.entering waits).imp_right (verdictOf_eq_none_iff _).mp

end AxorWrap.Plane
