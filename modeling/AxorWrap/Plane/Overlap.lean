/-
This file models flushes of one client that overlap. A flush is three steps: it takes
the events of the spool and of the outbox; its requests end, acknowledged or not; and
it clears the spool or restores what it took. Between the steps of one flush any
number of steps of others may come, and of appends to the outbox.

The spool file is one, and every flush that returns replaces all of it. What another
flush restored to it meanwhile is lost, unless something else still holds it. This
file proves that nothing else is lost: a run in which every flush has returned keeps
every event exactly when no step replaced a line that only the spool held.
-/

import AxorWrap.Plane.Durability
import AxorWrap.Library.Machine

namespace AxorWrap.Plane

open Python Methods Scripts Machines

/-! ### The machine -/

/-- Where a flush is: its requests are under way, they have ended, or it has returned. -/
inductive Phase
  | waiting
  | delivered
  | failed
  | returned
deriving DecidableEq, Repr

/-- A flush that has begun, with the events it took. -/
structure Flight where
  durable : List (Stamped Value)
  phase : Phase

/-- A client and its flushes, in the order in which they began. -/
structure Traffic where
  buffers : Buffers
  flights : List Flight := []

/-- A step of a flush, which is named by its place, or of the rest of the program. -/
inductive Move
  | append (event : Value)
  | begin (weather : Weather) (extra : List Value) (pulse : Pulse)
  | answer (place : Nat) (acknowledged : Bool)
  | settle (place : Nat) (disk : Disk)

variable (uplink : Uplink)

/-- A flush takes the events and lines them up, if it can. -/
def Traffic.begin (traffic : Traffic) (weather : Weather) (extra : List Value) (pulse : Pulse) :
    Traffic :=
  let buffers := final (gather uplink weather extra pulse) traffic.buffers
  match outcome (gather uplink weather extra pulse) traffic.buffers with
  | .ok batch => ⟨buffers, traffic.flights ++ [⟨batch.durable, .waiting⟩]⟩
  | .error _ => { traffic with buffers := buffers }

/-- The requests of a flush end, acknowledged or in `httpx.HTTPError`. -/
def Traffic.answer (traffic : Traffic) (place : Nat) (acknowledged : Bool) : Traffic :=
  match traffic.flights[place]? with
  | some ⟨durable, .waiting⟩ =>
    if acknowledged then
      ⟨acknowledge durable traffic.buffers, traffic.flights.set place ⟨durable, .delivered⟩⟩
    else { traffic with flights := traffic.flights.set place ⟨durable, .failed⟩ }
  | _ => traffic

/-- A flush whose requests have ended clears the spool or restores what it took. -/
def Traffic.settle (traffic : Traffic) (place : Nat) (disk : Disk) : Traffic :=
  match traffic.flights[place]? with
  | some ⟨durable, .delivered⟩ =>
    ⟨final (saveSpool uplink disk []) traffic.buffers,
      traffic.flights.set place ⟨durable, .returned⟩⟩
  | some ⟨durable, .failed⟩ =>
    ⟨final (restore uplink disk durable) traffic.buffers,
      traffic.flights.set place ⟨durable, .returned⟩⟩
  | _ => traffic

/-- What a move makes of the traffic. A step of a flush that is not at it does nothing. -/
def Traffic.next (traffic : Traffic) : Move → Traffic
  | .append event => { traffic with buffers := append traffic.buffers event }
  | .begin weather extra pulse => traffic.begin uplink weather extra pulse
  | .answer place acknowledged => traffic.answer place acknowledged
  | .settle place disk => traffic.settle uplink place disk

/-- The flushes of a client, each move answered without a value. -/
def flushing : Machine Traffic Move Unit where
  answer _ _ := ()
  next := Traffic.next uplink

/-! ### Where an event is -/

/-- The flush is on its way with the event, and its batch is not acknowledged. -/
def Flight.Carries (flight : Flight) (stamp : Nat) : Prop :=
  (flight.phase = .waiting ∨ flight.phase = .failed) ∧ stamp ∈ stamps flight.durable

def InAir (flights : List Flight) (stamp : Nat) : Prop :=
  ∃ (place : Nat) (flight : Flight), flights[place]? = some flight ∧ flight.Carries stamp

/-- A flush other than the one at this place carries the event. -/
def InOthers (flights : List Flight) (place stamp : Nat) : Prop :=
  ∃ (other : Nat) (flight : Flight), other ≠ place ∧ flights[other]? = some flight ∧
    flight.Carries stamp

/-- The event is in an acknowledged batch, in the outbox or in the spool. -/
def Buffers.Keep (buffers : Buffers) (stamp : Nat) : Prop :=
  stamp ∈ buffers.acknowledged.flatten ∨ stamp ∈ stamps buffers.outbox ∨
    stamp ∈ stamps buffers.lines

def Traffic.Holds (traffic : Traffic) (stamp : Nat) : Prop :=
  traffic.buffers.Keep stamp ∨ InAir traffic.flights stamp

/-- Every event ever appended is somewhere. -/
def Traffic.Intact (traffic : Traffic) : Prop :=
  ∀ stamp < traffic.buffers.issued, traffic.Holds stamp

/-- Only events that were appended are anywhere. -/
def Traffic.Bounded (traffic : Traffic) : Prop :=
  ∀ stamp, traffic.Holds stamp → stamp < traffic.buffers.issued

section Flights

variable {flights : List Flight} {place stamp : Nat} {flight : Flight}

theorem inAir_iff (here : flights[place]? = some flight) :
    InAir flights stamp ↔ flight.Carries stamp ∨ InOthers flights place stamp := by
  constructor
  · rintro ⟨other, carrier, there, carries⟩
    by_cases same : other = place
    · subst same
      cases here.symm.trans there
      exact .inl carries
    · exact .inr ⟨other, carrier, same, there, carries⟩
  · rintro (carries | ⟨other, carrier, _, there, carries⟩)
    · exact ⟨place, flight, here, carries⟩
    · exact ⟨other, carrier, there, carries⟩

theorem inOthers_set (changed : Flight) :
    InOthers (flights.set place changed) place stamp ↔ InOthers flights place stamp := by
  unfold InOthers
  refine exists_congr fun other => exists_congr fun carrier => and_congr_right fun different => ?_
  rw [List.getElem?_set_ne different.symm]

/-- A flush that moves on changes where its own events are. -/
theorem inAir_set (stamp : Nat) (here : flights[place]? = some flight) (changed : Flight) :
    InAir (flights.set place changed) stamp ↔
      changed.Carries stamp ∨ InOthers flights place stamp := by
  have within : place < flights.length := (List.getElem?_eq_some_iff.mp here).1
  rw [inAir_iff (List.getElem?_set_self within), inOthers_set]

/-- While its batch is unanswered, or its delivery failed, a flush carries that batch. -/
theorem inAir_of_unacknowledged {durable : List (Stamped Value)} {phase : Phase} (stamp : Nat)
    (here : flights[place]? = some ⟨durable, phase⟩) (kept : phase = .waiting ∨ phase = .failed) :
    InAir flights stamp ↔ stamp ∈ stamps durable ∨ InOthers flights place stamp := by
  rw [inAir_iff here]
  simp [Flight.Carries, kept]

/-- A flush that returned carries nothing. -/
theorem inAir_returned (here : flights[place]? = some flight) (durable : List (Stamped Value))
    (stamp : Nat) : InAir (flights.set place ⟨durable, .returned⟩) stamp ↔
      InOthers flights place stamp := by
  rw [inAir_set _ here]
  simp [Flight.Carries]

theorem inAir_append :
    InAir (flights ++ [flight]) stamp ↔ InAir flights stamp ∨ flight.Carries stamp := by
  constructor
  · rintro ⟨place, carrier, there, carries⟩
    rcases List.mem_append.mp (List.mem_of_getElem? there) with earlier | last
    · obtain ⟨place, there⟩ := List.mem_iff_getElem?.mp earlier
      exact .inl ⟨place, carrier, there, carries⟩
    · cases List.mem_singleton.mp last
      exact .inr carries
  · rintro (⟨place, carrier, there, carries⟩ | carries)
    · refine ⟨place, carrier, ?_, carries⟩
      rw [List.getElem?_append_left (List.getElem?_eq_some_iff.mp there).1]
      exact there
    · exact ⟨flights.length, flight, List.getElem?_concat_length, carries⟩

/-- When every flush has returned nothing is in the air. -/
theorem not_inAir_of_landed (landed : ∀ flight ∈ flights, flight.phase = .returned) :
    ¬ InAir flights stamp := by
  rintro ⟨place, carrier, there, phase, _⟩
  rw [landed carrier (List.mem_of_getElem? there)] at phase
  rcases phase with same | same <;> cases same

end Flights

/-! ### What a move may lose -/

/-- The client has no spool, or its lines can be replaced by these events. -/
def Writable (json : Json) (disk : Disk) : List (Stamped Value) → Prop
  | [] => disk.removing = .ok ()
  | events => disk.opening = .ok () ∧ disk.replacing = .ok () ∧
      ∀ event ∈ events, ∃ text, json.dumps event.content = .ok text

/-- Something that a flush which returns leaves alone has the event: an acknowledged batch, the
outbox, or another flush that is on its way. -/
def Traffic.Elsewhere (traffic : Traffic) (place stamp : Nat) : Prop :=
  stamp ∈ traffic.buffers.acknowledged.flatten ∨ stamp ∈ stamps traffic.buffers.outbox ∨
    InOthers traffic.flights place stamp

/-- The flush may return: when its batch was acknowledged it clears the spool, and when not it
replaces the lines of the spool by its own; what it discards is elsewhere. -/
def Traffic.MaySettle (traffic : Traffic) (place : Nat) (disk : Disk)
    (durable : List (Stamped Value)) : Phase → Prop
  | .delivered => disk.removing = .ok () →
    ∀ stamp ∈ stamps traffic.buffers.lines, traffic.Elsewhere place stamp
  | .failed =>
    (Writable uplink.json disk durable → ∀ stamp ∈ stamps traffic.buffers.lines,
      stamp ∈ stamps durable ∨ traffic.Elsewhere place stamp) ∧
    (¬ Writable uplink.json disk durable → ∀ stamp ∈ stamps durable,
      stamp ∈ stamps traffic.buffers.lines ∨ traffic.Elsewhere place stamp)
  | _ => True

/-- The events of the outbox can be lined up with the others, or they are not taken, or they are
elsewhere. -/
def Traffic.MayBegin (traffic : Traffic) (weather : Weather) (extra : List Value) : Prop :=
  ∀ loaded, loadSpool uplink weather.disk traffic.buffers.spool = .ok loaded →
    ((∀ event ∈ loaded, HasKind event.content) ∧
      (∀ event ∈ traffic.buffers.outbox, HasKind event.content) ∧
        ∀ event ∈ extra, HasKind event) ∨
    ∀ stamp ∈ stamps traffic.buffers.outbox, stamp ∈ traffic.buffers.acknowledged.flatten ∨
      stamp ∈ stamps traffic.buffers.lines ∨ InAir traffic.flights stamp

/-- The move discards nothing that is not elsewhere. -/
def Traffic.Guarded (traffic : Traffic) : Move → Prop
  | .append _ | .answer _ _ => True
  | .begin weather extra _ => traffic.MayBegin uplink weather extra
  | .settle place disk => uplink.spools = true → ∀ flight, traffic.flights[place]? = some flight →
      traffic.MaySettle uplink place disk flight.durable flight.phase

/-! ### The spool file when a flush returns -/

section Spool

variable {uplink} {disk : Disk} {buffers : Buffers}

theorem exists_saved_iff {json : Json} {events : List (Stamped Value)}
    {lines : List (Stamped PyStr)} :
    (∃ left, saved json disk events (some lines) = .ok left) ↔ Writable json disk events := by
  cases events with
  | nil =>
    unfold saved Writable
    rw [if_pos List.isEmpty_nil, Option.isSome_some, if_pos rfl]
    cases disk.removing with
    | error error => exact iff_of_false (fun ⟨_, same⟩ => nomatch same) fun same => nomatch same
    | ok value => exact iff_of_true ⟨_, rfl⟩ rfl
  | cons event rest => exact exists_saved (List.cons_ne_nil _ _)

/-- Saving moves no event but those of the spool. -/
theorem saveSpool_keeps (uplink : Uplink) (disk : Disk) (events : List (Stamped Value))
    (buffers : Buffers) :
    (final (saveSpool uplink disk events) buffers).outbox = buffers.outbox ∧
      (final (saveSpool uplink disk events) buffers).acknowledged = buffers.acknowledged ∧
      (final (saveSpool uplink disk events) buffers).issued = buffers.issued := by
  obtain ⟨spool, same⟩ := saveSpool_writes uplink disk events buffers
  rw [same]
  exact ⟨rfl, rfl, rfl⟩

theorem stamps_saveSpool (buffers : Buffers) (spools : uplink.spools = true)
    {events : List (Stamped Value)} (writable : Writable uplink.json disk events) :
    stamps (final (saveSpool uplink disk events) buffers).lines = stamps events := by
  rw [final_saveSpool, if_pos spools]
  have wrote : ∃ left, saved uplink.json disk events buffers.spool = .ok left := by
    cases kept : buffers.spool with
    | some lines => exact exists_saved_iff.mpr writable
    | none =>
      cases events with
      | nil => exact ⟨none, rfl⟩
      | cons event rest => exact (exists_saved (List.cons_ne_nil _ _)).mpr writable
  obtain ⟨left, wrote⟩ := wrote
  rw [wrote]
  exact stamps_convert (converted_of_saved wrote)

theorem lines_saveSpool (buffers : Buffers) {events : List (Stamped Value)}
    (unwritable : ¬ Writable uplink.json disk events) :
    (final (saveSpool uplink disk events) buffers).lines = buffers.lines := by
  rw [final_saveSpool]
  split
  · cases wrote : saved uplink.json disk events buffers.spool with
    | error error => rfl
    | ok left =>
      cases kept : buffers.spool with
      | some lines =>
        rw [kept] at wrote
        exact absurd (exists_saved_iff.mp ⟨left, wrote⟩) unwritable
      | none =>
        cases events with
        | nil =>
          rw [kept] at wrote
          cases wrote
          simp [Buffers.lines, kept]
        | cons event rest =>
          exact absurd ((exists_saved (List.cons_ne_nil _ _)).mp ⟨left, wrote⟩) unwritable
  · rfl

theorem final_saveSpool_of_not_spools (spools : uplink.spools = false)
    (events : List (Stamped Value)) : final (saveSpool uplink disk events) buffers = buffers := by
  rw [final_saveSpool, if_neg (by simp [spools])]

end Spool

/-! ### One step -/

/-- The move adds nothing, and keeps everything exactly when it is guarded. -/
structure Traffic.Moves (traffic after : Traffic) (guarded : Prop) : Prop where
  issued : after.buffers.issued = traffic.buffers.issued
  shrinks : ∀ stamp, after.Holds stamp → traffic.Holds stamp
  keeps : guarded ↔ ∀ stamp, traffic.Holds stamp → after.Holds stamp

variable {uplink} {traffic : Traffic}

theorem Traffic.moves_self : traffic.Moves traffic True :=
  ⟨rfl, fun _ held => held, by simp⟩

/-- What is held after one step, and when nothing is lost by it, from what becomes of each stamp. -/
theorem Traffic.Moves.of_holds {after : Traffic} {guarded : Prop} (lost : Nat → Prop)
    (issued : after.buffers.issued = traffic.buffers.issued)
    (holds : ∀ stamp, traffic.Holds stamp ↔ after.Holds stamp ∨ lost stamp)
    (keeps : guarded ↔ ∀ stamp, lost stamp → after.Holds stamp) : traffic.Moves after guarded where
  issued := issued
  shrinks stamp held := (holds stamp).mpr (.inl held)
  keeps := by
    rw [keeps]
    constructor
    · intro each stamp held
      exact ((holds stamp).mp held).elim id (each stamp)
    · intro each stamp gone
      exact each stamp ((holds stamp).mpr (.inr gone))

theorem Traffic.moves_delivered {place : Nat} {disk : Disk} {durable : List (Stamped Value)}
    (here : traffic.flights[place]? = some ⟨durable, .delivered⟩) :
    traffic.Moves ⟨final (saveSpool uplink disk []) traffic.buffers,
        traffic.flights.set place ⟨durable, .returned⟩⟩
      (uplink.spools = true → traffic.MaySettle uplink place disk durable .delivered) := by
  obtain ⟨outbox, acknowledged, issued⟩ := saveSpool_keeps uplink disk [] traffic.buffers
  have inAir (stamp : Nat) :
      InAir traffic.flights stamp ↔ InOthers traffic.flights place stamp := by
    rw [inAir_iff here]
    simp [Flight.Carries]
  have landed := inAir_returned here durable
  by_cases cleared : uplink.spools = true ∧ disk.removing = .ok ()
  · obtain ⟨spools, removes⟩ := cleared
    have lines : stamps (final (saveSpool uplink disk []) traffic.buffers).lines = [] :=
      stamps_saveSpool traffic.buffers spools removes
    refine .of_holds (fun stamp => stamp ∈ stamps traffic.buffers.lines) issued
      (fun stamp => ?_) ?_
    · simp only [Holds, Buffers.Keep, outbox, acknowledged, lines, inAir, landed,
        List.not_mem_nil, or_false]
      tauto
    · simp only [Holds, Buffers.Keep, outbox, acknowledged, lines, landed, List.not_mem_nil,
        or_false, MaySettle, Elsewhere, spools, removes, true_imp_iff, or_assoc]
  · have lines : (final (saveSpool uplink disk []) traffic.buffers).lines =
        traffic.buffers.lines := by
      cases spools : uplink.spools with
      | false => rw [final_saveSpool_of_not_spools spools]
      | true => exact lines_saveSpool traffic.buffers fun removes => cleared ⟨spools, removes⟩
    refine .of_holds (fun _ => False) issued (fun stamp => ?_) ?_
    · simp only [Holds, Buffers.Keep, outbox, acknowledged, lines, inAir, landed, or_false]
    · exact iff_of_true (fun spools removes => absurd ⟨spools, removes⟩ cleared)
        fun _ gone => gone.elim

theorem Traffic.moves_failed {place : Nat} {disk : Disk} {durable : List (Stamped Value)}
    (here : traffic.flights[place]? = some ⟨durable, .failed⟩) :
    traffic.Moves ⟨final (restore uplink disk durable) traffic.buffers,
        traffic.flights.set place ⟨durable, .returned⟩⟩
      (uplink.spools = true → traffic.MaySettle uplink place disk durable .failed) := by
  have inAir (stamp : Nat) := inAir_of_unacknowledged stamp here (.inr rfl)
  have landed := inAir_returned here durable
  unfold restore
  cases spools : uplink.spools with
  | false =>
    rw [if_neg Bool.false_ne_true, final_modify]
    refine .of_holds (fun _ => False) rfl (fun stamp => ?_) ?_
    · simp only [Holds, Buffers.Keep, Buffers.lines, inAir, landed, stamps, List.map_append,
        List.mem_append]
      tauto
    · exact iff_of_true (fun same => nomatch same) fun _ gone => gone.elim
  | true =>
    rw [if_pos rfl]
    obtain ⟨outbox, acknowledged, issued⟩ := saveSpool_keeps uplink disk durable traffic.buffers
    by_cases writable : Writable uplink.json disk durable
    · have lines := stamps_saveSpool traffic.buffers spools writable
      refine .of_holds (fun stamp => stamp ∈ stamps traffic.buffers.lines) issued
        (fun stamp => ?_) ?_
      · simp only [Holds, Buffers.Keep, outbox, acknowledged, lines, inAir, landed]
        tauto
      · simp only [Holds, Buffers.Keep, outbox, acknowledged, lines, landed, MaySettle, Elsewhere,
          writable, true_imp_iff, not_true, false_imp_iff, and_true]
        exact forall₂_congr fun stamp _ => by tauto
    · have lines := lines_saveSpool traffic.buffers writable
      refine .of_holds (fun stamp => stamp ∈ stamps durable) issued (fun stamp => ?_) ?_
      · simp only [Holds, Buffers.Keep, outbox, acknowledged, lines, inAir, landed]
        tauto
      · simp only [Holds, Buffers.Keep, outbox, acknowledged, lines, landed, MaySettle, Elsewhere,
          writable, true_imp_iff, not_false_iff, false_imp_iff, true_and]
        exact forall₂_congr fun stamp _ => by tauto

theorem Traffic.moves_answered {place : Nat} {acknowledged : Bool} {durable : List (Stamped Value)}
    (here : traffic.flights[place]? = some ⟨durable, .waiting⟩) :
    traffic.Moves (traffic.answer place acknowledged) True := by
  have inAir (stamp : Nat) := inAir_of_unacknowledged stamp here (.inl rfl)
  unfold answer
  rw [here]
  cases acknowledged with
  | true =>
    refine .of_holds (fun _ => False) rfl (fun stamp => ?_) (by simp)
    have delivered := inAir_set stamp here ⟨durable, .delivered⟩
    simp only [if_true, Holds, Buffers.Keep, Buffers.lines, acknowledge, List.flatten_append,
      List.flatten_singleton, List.mem_append, inAir, delivered, Flight.Carries, reduceCtorEq,
      or_self, false_and, false_or]
    tauto
  | false =>
    refine .of_holds (fun _ => False) rfl (fun stamp => ?_) (by simp)
    have failed := inAir_set stamp here ⟨durable, .failed⟩
    simp only [Bool.false_eq_true, if_false, Holds, inAir, failed, Flight.Carries, reduceCtorEq,
      or_true, true_and, or_false]

theorem Traffic.moves_begun (weather : Weather) (extra : List Value) (pulse : Pulse) :
    traffic.Moves (traffic.begin uplink weather extra pulse)
      (traffic.MayBegin uplink weather extra) := by
  unfold Traffic.begin MayBegin
  cases read : loadSpool uplink weather.disk traffic.buffers.spool with
  | error error =>
    obtain ⟨raises, same⟩ := gather_of_unread uplink weather extra pulse traffic.buffers read
    rw [raises, same]
    simpa using moves_self
  | ok loaded =>
    obtain ⟨⟨seq, taken⟩, succeeds, batches⟩ :=
      gather_of_read uplink weather extra pulse traffic.buffers read
    have spooled (stamp : Nat) (member : stamp ∈ stamps loaded) :
        stamp ∈ stamps traffic.buffers.lines := by
      cases spools : uplink.spools with
      | true => rwa [stamps_convert (converted_of_read read spools)] at member
      | false =>
        rw [loaded_of_not_spools read spools] at member
        exact absurd member List.not_mem_nil
    simp only [Except.ok.injEq, forall_eq']
    rw [taken]
    cases gathered : outcome (gather uplink weather extra pulse) traffic.buffers with
    | ok batch =>
      have lined := succeeds.mp ⟨batch, gathered⟩
      refine .of_holds (fun _ => False) rfl (fun stamp => ?_) ?_
      · have loads := spooled stamp
        simp only [Holds, Buffers.Keep, Buffers.lines, inAir_append, batches batch gathered,
          Flight.Carries, stamps, List.map_append, List.mem_append, List.map_nil,
          List.not_mem_nil, or_false, true_or, true_and, false_or] at loads ⊢
        tauto
      · exact iff_of_true (.inl lined) fun _ gone => gone.elim
    | error fault =>
      have unlined : ¬ ((∀ event ∈ loaded, HasKind event.content) ∧
          (∀ event ∈ traffic.buffers.outbox, HasKind event.content) ∧
            ∀ event ∈ extra, HasKind event) := fun lined => by
        obtain ⟨batch, same⟩ := succeeds.mpr lined
        cases gathered.symm.trans same
      refine .of_holds (fun stamp => stamp ∈ stamps traffic.buffers.outbox) rfl
        (fun stamp => ?_) ?_
      · simp only [Holds, Buffers.Keep, Buffers.lines, stamps, List.map_nil, List.not_mem_nil,
          false_or]
        tauto
      · simp only [unlined, false_or, Holds, Buffers.Keep, Buffers.lines, stamps, List.map_nil,
          List.not_mem_nil, or_assoc]

/-- An event that is appended is in the outbox. -/
theorem Traffic.holds_append (event : Value) (stamp : Nat) :
    (traffic.next uplink (.append event)).Holds stamp ↔
      traffic.Holds stamp ∨ stamp = traffic.buffers.issued := by
  simp only [next, append, Holds, Buffers.Keep, Buffers.lines, stamps, List.map_append,
    List.map_cons, List.map_nil, List.mem_append, List.mem_singleton]
  tauto

theorem Traffic.moves_of_ne_append {move : Move} (steps : ∀ event, move ≠ .append event) :
    traffic.Moves (traffic.next uplink move) (traffic.Guarded uplink move) := by
  cases move with
  | append event => exact absurd rfl (steps event)
  | begin weather extra pulse => exact moves_begun weather extra pulse
  | answer place acknowledged =>
    show traffic.Moves (traffic.answer place acknowledged) True
    match here : traffic.flights[place]? with
    | some ⟨durable, .waiting⟩ => exact moves_answered here
    | none | some ⟨_, .delivered⟩ | some ⟨_, .failed⟩ | some ⟨_, .returned⟩ =>
      unfold answer
      rw [here]
      exact moves_self
  | settle place disk =>
    show traffic.Moves (traffic.settle uplink place disk) _
    unfold settle Guarded
    match here : traffic.flights[place]? with
    | some ⟨durable, .delivered⟩ =>
      simp only [here, Option.some.injEq, forall_eq']
      exact moves_delivered here
    | some ⟨durable, .failed⟩ =>
      simp only [here, Option.some.injEq, forall_eq']
      exact moves_failed here
    | none =>
      simp only [here, reduceCtorEq, false_imp_iff, implies_true]
      exact moves_self
    | some ⟨_, .waiting⟩ | some ⟨_, .returned⟩ =>
      simp only [here, Option.some.injEq, forall_eq', MaySettle, implies_true]
      exact moves_self

theorem Traffic.Bounded.next (bounded : traffic.Bounded) (move : Move) :
    (traffic.next uplink move).Bounded := by
  have steps (same : ∀ event, move ≠ .append event) : (traffic.next uplink move).Bounded := by
    have moves : traffic.Moves (traffic.next uplink move) (traffic.Guarded uplink move) :=
      moves_of_ne_append same
    intro stamp held
    rw [moves.issued]
    exact bounded stamp (moves.shrinks stamp held)
  cases move with
  | append event =>
    intro stamp held
    rcases (holds_append event stamp).mp held with before | fresh
    · exact Nat.lt_succ_of_lt (bounded stamp before)
    · rw [fresh]
      exact Nat.lt_succ_self _
  | _ => exact steps fun event same => nomatch same

/-- A step keeps every event ever appended exactly when none was lost before and it is guarded. -/
theorem Traffic.intact_next_iff (bounded : traffic.Bounded) (move : Move) :
    (traffic.next uplink move).Intact ↔ traffic.Intact ∧ traffic.Guarded uplink move := by
  have steps (same : ∀ event, move ≠ .append event) : (traffic.next uplink move).Intact ↔
      traffic.Intact ∧ traffic.Guarded uplink move := by
    have moves : traffic.Moves (traffic.next uplink move) (traffic.Guarded uplink move) :=
      moves_of_ne_append same
    unfold Intact
    rw [moves.issued, moves.keeps]
    constructor
    · intro intact
      exact ⟨fun stamp issued => moves.shrinks stamp (intact stamp issued),
        fun stamp held => intact stamp (bounded stamp held)⟩
    · rintro ⟨intact, keeps⟩ stamp issued
      exact keeps stamp (intact stamp issued)
  cases move with
  | append event =>
    refine Iff.trans ?_ (and_true _).to_iff.symm
    constructor
    · intro intact stamp issued
      rcases (holds_append event stamp).mp (intact stamp (Nat.lt_succ_of_lt issued)) with
        held | fresh
      · exact held
      · exact absurd fresh issued.ne
    · intro intact stamp issued
      rcases Nat.lt_succ_iff_lt_or_eq.mp issued with earlier | fresh
      · exact (holds_append event stamp).mpr (.inl (intact stamp earlier))
      · exact (holds_append event stamp).mpr (.inr fresh)
  | _ => exact steps fun event same => nomatch same

/-! ### A run -/

variable (uplink)

theorem intact_run_iff {start : Traffic} (bounded : start.Bounded) (moves : List Move) :
    ((flushing uplink).run start moves).Intact ↔
      start.Intact ∧ ∀ step ∈ (flushing uplink).history start moves,
        step.before.Guarded uplink step.operation := by
  induction moves generalizing start with
  | nil =>
    rw [Machine.run_nil, Machine.history]
    exact (and_iff_left (List.forall_mem_nil _)).symm
  | cons move rest inductionHypothesis =>
    have next : ((flushing uplink).next start move).Bounded := bounded.next move
    rw [Machine.run_cons, Machine.history, List.forall_mem_cons, inductionHypothesis next,
      ← and_assoc]
    exact and_congr_left' (Traffic.intact_next_iff bounded move)

/-- Over any run that starts with every event accounted for and ends with every flush returned, the
events ever appended are all in acknowledged batches, in the outbox or in the spool exactly when
every move of the run was guarded. -/
theorem overlap_keeps_iff {start : Traffic}
    (accounted : ∀ stamp, start.Holds stamp ↔ stamp < start.buffers.issued) (moves : List Move)
    (landed : ∀ flight ∈ ((flushing uplink).run start moves).flights, flight.phase = .returned) :
    (∀ stamp < ((flushing uplink).run start moves).buffers.issued,
        ((flushing uplink).run start moves).buffers.Keep stamp) ↔
      ∀ step ∈ (flushing uplink).history start moves,
        step.before.Guarded uplink step.operation := by
  have intact := intact_run_iff uplink (fun stamp held => (accounted stamp).mp held) moves
  have whole : start.Intact := fun stamp issued => (accounted stamp).mpr issued
  rw [and_iff_right whole] at intact
  rw [← intact]
  refine forall₂_congr fun stamp _ => ?_
  exact (or_iff_left (not_inAir_of_landed landed)).symm

/-! ### A flush is its steps -/

/-- What flushes read of each other: neither the counter nor the requests. -/
def Buffers.core (buffers : Buffers) : Buffers := { buffers with seq := 0, requests := [] }

theorem core_arrive (events : List Value) (buffers : Buffers) :
    (arrive events buffers).core = arrive events buffers.core := by
  unfold arrive
  induction events generalizing buffers with
  | nil => rfl
  | cons event rest inductionHypothesis => exact inductionHypothesis (append buffers event)

theorem core_acknowledge (durable : List (Stamped Value)) (buffers : Buffers) :
    (acknowledge durable buffers).core = acknowledge durable buffers.core := rfl

theorem core_saveSpool (disk : Disk) (events : List (Stamped Value)) (buffers : Buffers) :
    (final (saveSpool uplink disk events) buffers).core =
      final (saveSpool uplink disk events) buffers.core := by
  rw [final_saveSpool, final_saveSpool]
  unfold Buffers.core
  cases uplink.spools with
  | false => rfl
  | true => cases saved uplink.json disk events buffers.spool <;> rfl

theorem core_restore (disk : Disk) (durable : List (Stamped Value)) (buffers : Buffers) :
    (final (restore uplink disk durable) buffers).core =
      final (restore uplink disk durable) buffers.core := by
  unfold restore
  cases uplink.spools with
  | false => rfl
  | true => exact core_saveSpool uplink disk durable buffers

/-- Events whose stamps follow on are what appending them leaves in the outbox. -/
theorem arrive_eq (arrivals : List (Stamped Value)) {buffers : Buffers} {count : Nat}
    (numbered : stamps arrivals = List.range' buffers.issued count) :
    arrive (arrivals.map Stamped.content) buffers =
      { buffers with
        outbox := buffers.outbox ++ arrivals
        issued := buffers.issued + count } := by
  induction arrivals generalizing buffers count with
  | nil =>
    cases count with
    | zero => simp [arrive]
    | succ count => cases numbered
  | cons event rest inductionHypothesis =>
    cases count with
    | zero => cases numbered
    | succ count =>
      rw [stamps, List.map_cons, List.range'_succ] at numbered
      obtain ⟨stamp, later⟩ := List.cons.inj numbered
      have step : arrive (rest.map Stamped.content) (append buffers event.content) = _ :=
        inductionHypothesis later
      refine step.trans ?_
      simp [append, ← stamp, Nat.add_comm, Nat.add_left_comm]

/-- What arrives while a flush waits is appended. -/
theorem exists_arrive_of_awaited {before after : Buffers} (waited : Awaited before after) :
    ∃ events, after.core = (arrive events before).core := by
  obtain ⟨arrivals, appended, numbered⟩ := waited.outbox
  refine ⟨arrivals.map Stamped.content, ?_⟩
  rw [arrive_eq arrivals numbered, ← appended, Nat.add_sub_cancel' waited.issued]
  unfold Buffers.core
  rw [← waited.spool, ← waited.acknowledged]

theorem run_appends (events : List Value) (traffic : Traffic) :
    (flushing uplink).run traffic (events.map .append) =
      { traffic with buffers := arrive events traffic.buffers } := by
  induction events generalizing traffic with
  | nil => rfl
  | cons event rest inductionHypothesis =>
    rw [List.map_cons, Machine.run_cons]
    exact inductionHypothesis _

/-- A flush alone whose requests end, acknowledged or in `httpx.HTTPError`, leaves what its three
steps leave with the events that arrive in between. -/
theorem flush_eq_moves (weather : Weather) (extra : List Value) (pulse : Pulse)
    (buffers : Buffers) (able : weather.httpx = true) {batch : Batch}
    (gathered : outcome (gather uplink weather extra pulse) buffers = .ok batch)
    {acknowledged : Bool}
    (ended : outcome (postTelemetry uplink weather batch.lines)
      (final (gather uplink weather extra pulse) buffers) =
        if acknowledged then .ok () else .error .transport) :
    ∃ during after : List Value, (final (flush uplink weather extra pulse) buffers).core =
      ((flushing uplink).run ⟨buffers, []⟩ ([.begin weather extra pulse] ++ during.map .append ++
        [.answer 0 acknowledged, .settle 0 weather.disk] ++ after.map .append)).buffers.core := by
  have waited : Awaited (final (gather uplink weather extra pulse) buffers)
      (final (postTelemetry uplink weather batch.lines)
        (final (gather uplink weather extra pulse) buffers)) := awaited_postAttempts _ _ _ _
  have begun : (flushing uplink).run ⟨buffers, []⟩ [.begin weather extra pulse] =
      ⟨final (gather uplink weather extra pulse) buffers, [⟨batch.durable, .waiting⟩]⟩ := by
    show Traffic.begin uplink ⟨buffers, []⟩ weather extra pulse = _
    unfold Traffic.begin
    rw [gathered]
    rfl
  have flushed : final (flush uplink weather extra pulse) buffers =
      final (deliver uplink weather batch) (final (gather uplink weather extra pulse) buffers) := by
    rw [flush_of_httpx uplink weather extra pulse able, final_bind_ok gathered]
  obtain ⟨during, arrived⟩ := exists_arrive_of_awaited waited
  refine ⟨during, ?_⟩
  rw [flushed]
  unfold deliver
  rw [final_bind, outcome_observe, final_observe, ended]
  simp only [Machine.run_append, run_appends, begun]
  generalize final (gather uplink weather extra pulse) buffers = taken at arrived ⊢
  generalize final (postTelemetry uplink weather batch.lines) taken = waiting at arrived ⊢
  cases acknowledged with
  | false =>
    have restored : (final (restore uplink weather.disk batch.durable) waiting).core =
        (final (restore uplink weather.disk batch.durable) (arrive during taken)).core := by
      rw [core_restore, core_restore, arrived]
    exact ⟨[], restored⟩
  | true =>
    have cleared : (final (saveSpool uplink weather.disk []) (acknowledge batch.durable
        waiting)).core = (final (saveSpool uplink weather.disk []) (acknowledge batch.durable
          (arrive during taken))).core := by
      rw [core_saveSpool, core_saveSpool, core_acknowledge, core_acknowledge, arrived]
    simp only [if_true]
    rw [final_bind, outcome_modify, final_modify, final_bind]
    cases outcome (saveSpool uplink weather.disk []) (acknowledge batch.durable waiting) with
    | error fault => exact ⟨[], cleared⟩
    | ok value =>
      obtain ⟨after, told⟩ := exists_arrive_of_awaited (awaited_notify weather batch.events
        (final (saveSpool uplink weather.disk []) (acknowledge batch.durable waiting)))
      refine ⟨after, told.trans ?_⟩
      rw [core_arrive, cleared, ← core_arrive]
      rfl

/-! ### Two flushes that overlap -/

instance (buffers : Buffers) (stamp : Nat) : Decidable (buffers.Keep stamp) :=
  inferInstanceAs (Decidable (_ ∨ _ ∨ _))

/-- A client before its first event. -/
def quiet : Traffic := ⟨{}, []⟩

theorem accounted_quiet (stamp : Nat) : quiet.Holds stamp ↔ stamp < quiet.buffers.issued := by
  refine iff_of_false ?_ (Nat.not_lt_zero stamp)
  rintro ((acknowledged | outbox | spooled) | ⟨place, flight, here, _⟩)
  · exact absurd acknowledged List.not_mem_nil
  · exact absurd outbox List.not_mem_nil
  · exact absurd spooled List.not_mem_nil
  · cases here

/-- A flush begins. -/
def beginning : Move := .begin (endingAs .transport) [] {}

/-- Two flushes that overlap; the first has cleared the spool when the second fails. -/
def crossing : List Move :=
  [.append (replanAck "r1"), beginning, .append (replanAck "r2"), beginning,
    .answer 0 true, .answer 1 false, .settle 0 {}, .settle 1 {}]

/-- Two flushes that overlap, and both fail. -/
def overlapping : List Move :=
  [.append (replanAck "r1"), beginning, .append (replanAck "r2"), beginning,
    .answer 0 false, .answer 1 false, .settle 0 {}, .settle 1 {}]

theorem landed_crossing :
    ∀ flight ∈ ((flushing trialUplink).run quiet crossing).flights, flight.phase = .returned := by
  decide +kernel

theorem overlap_keeps_crossing :
    (∀ stamp < ((flushing trialUplink).run quiet crossing).buffers.issued,
      ((flushing trialUplink).run quiet crossing).buffers.Keep stamp) ∧
    ∀ step ∈ (flushing trialUplink).history quiet crossing,
      step.before.Guarded trialUplink step.operation := by
  have keeps : ∀ stamp < ((flushing trialUplink).run quiet crossing).buffers.issued,
      ((flushing trialUplink).run quiet crossing).buffers.Keep stamp := by
    decide +kernel
  exact ⟨keeps, (overlap_keeps_iff trialUplink accounted_quiet crossing landed_crossing).mp keeps⟩

/-- The second flush that fails replaces the line the first has written. -/
theorem overlap_loses :
    ¬ ∀ uplink (start : Traffic) moves,
      (∀ stamp, start.Holds stamp ↔ stamp < start.buffers.issued) →
      (∀ flight ∈ ((flushing uplink).run start moves).flights, flight.phase = .returned) →
      ∀ stamp < ((flushing uplink).run start moves).buffers.issued,
        ((flushing uplink).run start moves).buffers.Keep stamp := by
  intro keeps
  have landed : ∀ flight ∈ ((flushing trialUplink).run quiet overlapping).flights,
      flight.phase = .returned := by
    decide +kernel
  have kept := keeps trialUplink quiet overlapping accounted_quiet landed 0 (by decide +kernel)
  have lost : ¬ ((flushing trialUplink).run quiet overlapping).buffers.Keep 0 := by
    decide +kernel
  exact lost kept

end AxorWrap.Plane
