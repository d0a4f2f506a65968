/-
This file says what the subscription of a node comes to for its session, and whose word the node
follows. The backend chooses how connections end and what is on every line of a stream; the
program takes one-shots whenever the loop waits.

To the session all of this is a list of incidents: frames that are dispatched, connections that
are lost, and takes. The loop adds nothing of its own. Over any list of incidents a session with
operator keys is stopped, capped and given directives only by commands that an operator signed, in
a frame that was received before; and it is paused by such a command, or by a lost connection when
the client was told to hold.
-/

import AxorWrap.Plane.Authenticity
import AxorWrap.Plane.Frames

namespace AxorWrap.Plane

open Python Methods Checks Scripts Machines

/-! ### Incidents -/

/-- What happens to the session of a node that listens. -/
inductive Incident
  | frame (frame : Frame)
  | lost
  | take (take : Take)

variable (client : Client)

/-- A lost connection pauses the node, if the client was told to hold. -/
def lose (session : Session) : Session :=
  if client.holdAfter.isSome then { session with paused := true } else session

/-- A node that listens. A take is answered with the directive it hands out. -/
def listening : Machine Session Incident (Option Directive) where
  answer session
    | .take take => (outcome (take.method client.node) session).toOption.join
    | .frame _ | .lost => none
  next session
    | .frame frame => final (handle client frame) session
    | .lost => lose client session
    | .take take => final (take.method client.node) session

/-- The frames among the incidents. -/
def framesIn (incidents : List Incident) : List Frame :=
  incidents.filterMap fun
    | .frame frame => some frame
    | .lost | .take _ => none

/-- The frames that a connection would complete. -/
def Connection.framesSent (interpreter : Interpreter) : Connection → List Frame
  | .failed => []
  | .answered status lines _ =>
    if rejects status then [] else framesRead interpreter (lines.map Line.raw) [] []

/-! ### The loop is a list of incidents -/

/-- Only the loop has caused these incidents, and by these frames. -/
structure Caused (incidents : List Incident) (frames : List Frame) : Prop where
  takes : ∀ take, Incident.take take ∉ incidents
  frames : (framesIn incidents).Sublist frames

section Loop

variable {client}

theorem framesIn_append (first second : List Incident) :
    framesIn (first ++ second) = framesIn first ++ framesIn second := List.filterMap_append

theorem Caused.nil (frames : List Frame) : Caused [] frames :=
  ⟨fun _ member => (nomatch member), List.nil_sublist _⟩

theorem Caused.append {first second : List Incident} {early late : List Frame}
    (one : Caused first early) (two : Caused second late) :
    Caused (first ++ second) (early ++ late) := by
  refine ⟨fun take member => ?_, ?_⟩
  · exact (List.mem_append.mp member).elim (one.takes take) (two.takes take)
  · rw [framesIn_append]
    exact one.frames.append two.frames

theorem Caused.frame (frame : Frame) : Caused [.frame frame] [frame] :=
  ⟨fun _ member => (nomatch List.mem_singleton.mp member), List.Sublist.refl _⟩

theorem Caused.lost : Caused [.lost] [] :=
  ⟨fun _ member => (nomatch List.mem_singleton.mp member), List.Sublist.refl _⟩

/-- A stream is the frames that are dispatched of it. -/
theorem consumeSse_incidents (ending : Ending) (lines : List Line) (eventName : PyStr)
    (dataLines : List PyStr) (session : Session) :
    ∃ incidents, Caused incidents (framesRead client.node.platform.interpreter
        (lines.map Line.raw) eventName dataLines) ∧
      final (consumeSse client ending lines eventName dataLines) session =
        (listening client).run session incidents := by
  induction lines generalizing eventName dataLines session with
  | nil => exact ⟨[], Caused.nil _, by cases ending <;> rfl⟩
  | cons line rest inductionHypothesis =>
    rw [List.map_cons, consumeSse, framesRead]
    cases line.stopped with
    | true => exact ⟨[], Caused.nil _, rfl⟩
    | false =>
      rw [if_neg Bool.false_ne_true]
      dsimp only
      split_ifs with event data complete
      · exact inductionHypothesis _ _ _
      · exact inductionHypothesis _ _ _
      · let frame : Frame := ⟨eventName, PyStr.join "\n" dataLines⟩
        rw [final_bind]
        cases outcome (handle client frame) session with
        | error fault =>
          exact ⟨[.frame frame], (Caused.frame frame).append (Caused.nil _), rfl⟩
        | ok value =>
          obtain ⟨incidents, caused, left⟩ :=
            inductionHypothesis [] [] (final (handle client frame) session)
          exact ⟨.frame frame :: incidents, (Caused.frame frame).append caused, left⟩
      · exact inductionHypothesis _ _ _

theorem subscribe_incidents (connection : Connection) (session : Session) :
    ∃ incidents, Caused incidents
        (connection.framesSent client.node.platform.interpreter) ∧
      final (subscribe client connection) session =
        (listening client).run session incidents := by
  cases connection with
  | failed => exact ⟨[], Caused.nil _, rfl⟩
  | answered status lines ending =>
    unfold subscribe Connection.framesSent
    dsimp only
    split
    · exact ⟨[], Caused.nil _, rfl⟩
    · exact consumeSse_incidents ending lines [] [] session

/-- When the transport fails the node waits, and is paused unless `stop` was set in the wait. -/
theorem disconnected_incidents (attempt : Attempt) (backoff : Seconds) (session : Session) :
    ∃ incidents, Caused incidents [] ∧
      final (disconnected client attempt backoff) session =
        (listening client).run session incidents := by
  unfold disconnected
  cases holds : client.holdAfter with
  | none => exact ⟨[], Caused.nil _, rfl⟩
  | some holdAfter =>
    cases attempt.interrupted with
    | true => exact ⟨[], Caused.nil _, rfl⟩
    | false =>
      have paused : lose client session = { session with paused := true } :=
        if_pos (by rw [holds]; rfl)
      exact ⟨[.lost], Caused.lost, paused.symm⟩

/-- A pass is what its stream is, and a connection lost when it ends in the transport. -/
theorem pass_incidents (backoff : Seconds) (attempt : Attempt) (session : Session) :
    ∃ incidents, Caused incidents
        (attempt.connection.framesSent client.node.platform.interpreter) ∧
      final (pass client backoff attempt) session =
        (listening client).run session incidents := by
  obtain ⟨incidents, caused, left⟩ := @subscribe_incidents client attempt.connection session
  unfold pass
  cases attempt.stopped with
  | true => exact ⟨[], Caused.nil _, rfl⟩
  | false =>
    rw [if_neg Bool.false_ne_true]
    dsimp only
    rw [final_bind, outcome_observe, final_observe, left]
    match outcome (subscribe client attempt.connection) session with
    | .ok .live | .ok .stopped | .ok .closed | .ok .rejected | .error (.python _) =>
      exact ⟨incidents, caused, rfl⟩
    | .error .transport =>
      obtain ⟨last, lost, after⟩ := @disconnected_incidents client attempt
        (attempt.connection.backoff backoff) ((listening client).run session incidents)
      refine ⟨incidents ++ last, ?_, ?_⟩
      · rw [← List.append_nil (attempt.connection.framesSent _)]
        exact caused.append lost
      · rw [Machine.run_append]
        exact after

variable (client) in
/-- **The loop only passes on what it receives.** What a subscription leaves of the session is what
a list of incidents leaves, whose frames are among those of its connections, in their order. -/
theorem run_incidents (backoff : Seconds) (attempts : List Attempt) (session : Session) :
    ∃ incidents, Caused incidents (attempts.flatMap fun attempt =>
        attempt.connection.framesSent client.node.platform.interpreter) ∧
      final (run client backoff attempts) session = (listening client).run session incidents := by
  induction attempts generalizing backoff session with
  | nil => exact ⟨[], Caused.nil _, rfl⟩
  | cons attempt rest inductionHypothesis =>
    obtain ⟨incidents, caused, left⟩ := @pass_incidents client backoff attempt session
    have wider : Caused incidents ((attempt :: rest).flatMap fun attempt =>
        attempt.connection.framesSent client.node.platform.interpreter) := by
      rw [← List.append_nil incidents, List.flatMap_cons]
      exact caused.append (Caused.nil _)
    rw [run, final_bind, left]
    cases outcome (pass client backoff attempt) session with
    | error fault => exact ⟨incidents, wider, rfl⟩
    | ok turn =>
      cases turn with
      | waiting => exact ⟨incidents, wider, rfl⟩
      | returned => exact ⟨incidents, wider, rfl⟩
      | again waited next =>
        obtain ⟨later, others, after⟩ :=
          inductionHypothesis next ((listening client).run session incidents)
        refine ⟨incidents ++ later, ?_, ?_⟩
        · rw [List.flatMap_cons]
          exact caused.append others
        · rw [Machine.run_append]
          exact after

end Loop

/-! ### Whose word the node follows -/

/-- The frame bears this message. -/
inductive Frame.Bears (frame : Frame) : Message → Prop
  | snapshot {data : Value} {message : Message} (named : frame.eventName = "snapshot")
      (decoded : client.loads frame.text = .ok data)
      (read : snapshotFrom client data = .ok message) : Bears frame message
  | delta {data : Value} {message : Message} (named : frame.eventName = "delta")
      (decoded : client.loads frame.text = .ok data)
      (read : deltaFrom client data = .ok message) : Bears frame message

/-- An operator signed this body, in the message of a frame that was dispatched. -/
def Ordered (incidents : List Incident) (body : Value) : Prop :=
  ∃ frame, Incident.frame frame ∈ incidents ∧ ∃ message version,
    frame.Bears client message ∧ message.Vouches client.node version body

/-- Each field is kept, or has the value of a body that is ordered. A pause may also come from a
lost connection, and a pending directive may be gone. -/
structure Follows (ordered : Value → Prop) (lost : Prop) (before after : Session) : Prop where
  stopped : KeptOr (fun value => ∃ body, ordered body ∧
    derivedFlag "stopped" body = .ok (some value)) before.stopped after.stopped
  paused : KeptOr (fun value => lost ∨ ∃ body, ordered body ∧
    derivedFlag "paused" body = .ok (some value)) before.paused after.paused
  cap : KeptOr (fun value => ∃ body, ordered body ∧
    requestedCap client.node body = .ok value) before.budgetCapCalls after.budgetCapCalls
  pending : ∀ kind, KeptOr (fun value => value = none ∨ ∃ body, ordered body ∧
    derivedDirective client.node kind body = .ok value) (before.pending kind) (after.pending kind)

section Follows

variable {client} {ordered : Value → Prop} {lost : Prop} {session after third : Session}

theorem Follows.refl (session : Session) : Follows client ordered lost session session :=
  ⟨.refl _, .refl _, .refl _, fun _ => .refl _⟩

theorem Follows.trans (one : Follows client ordered lost session after)
    (two : Follows client ordered lost after third) :
    Follows client ordered lost session third :=
  ⟨one.stopped.trans two.stopped, one.paused.trans two.paused, one.cap.trans two.cap,
    fun kind => (one.pending kind).trans (two.pending kind)⟩

/-- What cannot be read ends the method, and what is read leaves the session as it was. -/
theorem final_read_bind {α β : Type} (computed : Except PyError α) (next : α → ClientMethod β)
    (session : Session) :
    final (raising (liftM computed) >>= next) session =
      computed.toOption.elim session fun value => final (next value) session := by
  rw [final_bind]
  cases computed <;> rfl

theorem final_delivering (message : Message) (session : Session) :
    final (do let _ ← raising (message.deliver client.node)) session =
      final (message.deliver client.node) session := by
  rw [final_bind]
  cases outcome (raising (message.deliver client.node)) session with
  | error fault => exact final_adapt Failure.python _ _
  | ok effect => exact final_adapt Failure.python _ _

/-- A frame delivers the message that it bears. -/
theorem final_handle_of_bears {frame : Frame} {message : Message}
    (bears : frame.Bears client message) (session : Session) :
    final (handle client frame) session = final (message.deliver client.node) session := by
  unfold handle
  rw [final_read_bind]
  cases bears with
  | snapshot named decoded read =>
    rw [decoded]
    show final (dispatch client frame.eventName _) session = _
    unfold dispatch
    rw [if_pos named, final_read_bind, read]
    exact final_delivering message session
  | delta named decoded read =>
    rw [decoded]
    show final (dispatch client frame.eventName _) session = _
    unfold dispatch
    rw [if_neg (by rw [named]; decide), if_pos named, final_read_bind, read]
    exact final_delivering message session

/-- A frame does nothing to the session, or delivers its message. -/
theorem final_handle (frame : Frame) (session : Session) :
    final (handle client frame) session = session ∨
      ∃ message, frame.Bears client message ∧
        final (handle client frame) session = final (message.deliver client.node) session := by
  unfold handle
  rw [final_read_bind]
  cases decoded : client.loads frame.text with
  | error error => exact .inl rfl
  | ok data =>
    show final (dispatch client frame.eventName data) session = _ ∨ ∃ message, _ ∧
      final (dispatch client frame.eventName data) session = _
    unfold dispatch
    split_ifs with isSnapshot isDelta isFact
    · rw [final_read_bind]
      cases read : snapshotFrom client data with
      | error error => exact .inl rfl
      | ok message =>
        exact .inr ⟨message, .snapshot isSnapshot decoded read, final_delivering message session⟩
    · rw [final_read_bind]
      cases read : deltaFrom client data with
      | error error => exact .inl rfl
      | ok message =>
        exact .inr ⟨message, .delta isDelta decoded read, final_delivering message session⟩
    · cases client.onFact with
      | none => exact .inl rfl
      | some onFact =>
        rw [final_read_bind]
        cases data.get "fact" (.dict []) with
        | error error => exact .inl rfl
        | ok fact => exact .inl (final_lift _ _)
    · exact .inl rfl

/-- A message to a session with operator keys writes what it vouches for. -/
theorem follows_message (signed : client.node.operatorPubkeys.isEmpty = false) {message : Message}
    (orders : ∀ version body, message.Vouches client.node version body → ordered body)
    (session : Session) :
    Follows client ordered lost session (final (message.deliver client.node) session) := by
  obtain ⟨commands, vouched, version, outbox, after⟩ :=
    applies_vouched client.node signed message session
  have wrote : WroteFrom client.node ordered session (applyAll client.node session commands) :=
    wroteFrom_applyAll client.node (fun command member => orders _ _ (vouched command member))
      session
  rw [after]
  refine ⟨wrote.stopped, wrote.paused.mono .inr, wrote.cap.mono ?_, fun kind =>
    (wrote.pending kind).mono ?_⟩
  · rintro ⟨body, isOrdered, _, requested⟩
    exact ⟨body, isOrdered, requested⟩
  · rintro ⟨body, isOrdered, _, derived⟩
    exact .inr ⟨body, isOrdered, derived⟩

/-- A take at most removes the directive of its kind. -/
theorem follows_take (take : Take) (session : Session) :
    Follows client ordered lost session (final (take.method client.node) session) := by
  have posture := posture_take client.node take session
  have came := taken client.node take session
  have cleared (kind : OneShot) : KeptOr (fun value => value = none ∨ ∃ body, ordered body ∧
      derivedDirective client.node kind body = .ok value) (session.pending kind)
        ((session.clear take.kind).pending kind) := by
    rw [pending_clear]
    split
    · exact .inr (.inl rfl)
    · exact .refl _
  refine ⟨.inl (congrArg Posture.stopped posture), .inl (congrArg Posture.paused posture),
    .inl (congrArg Posture.cap posture), fun kind => ?_⟩
  generalize outcome (take.method client.node) session = answer at came
  generalize final (take.method client.node) session = after at came ⊢
  cases came with
  | idle => exact .refl _
  | repeated | unguarded => exact cleared kind
  | refused => exact cleared kind
  | unacknowledged =>
    rw [pending_spend]
    exact cleared kind
  | given =>
    show KeptOr _ _ ((spend _ _).pending kind)
    rw [pending_spend]
    exact cleared kind

theorem follows_lose (holds : client.holdAfter.isSome = true → lost) (session : Session) :
    Follows client ordered lost session (lose client session) := by
  unfold lose
  split
  · next told =>
    exact ⟨.refl _, .inr (.inl (holds told)), .refl _, fun kind => by cases kind <;> exact .refl _⟩
  · exact .refl _

end Follows

/-! ### Runs -/

section Runs

variable {client}

/-- A connection was lost, and the client was told to hold. -/
def Held (client : Client) (incidents : List Incident) : Prop :=
  client.holdAfter.isSome = true ∧ Incident.lost ∈ incidents

/-- What one incident writes was ordered in it. -/
theorem follows_next (signed : client.node.operatorPubkeys.isEmpty = false)
    {incidents : List Incident} {incident : Incident} (member : incident ∈ incidents)
    (session : Session) :
    Follows client (Ordered client incidents) (Held client incidents) session
      ((listening client).next session incident) := by
  cases incident with
  | frame frame =>
    show Follows _ _ _ _ (final (handle client frame) session)
    rcases final_handle frame session with same | ⟨message, bears, delivered⟩
    · rw [same]
      exact .refl _
    · rw [delivered]
      exact follows_message signed (fun version body vouches =>
        ⟨frame, member, message, version, bears, vouches⟩) session
  | lost => exact follows_lose (fun holds => ⟨holds, member⟩) session
  | take take => exact follows_take take session

/-- What a run writes was ordered in it. -/
theorem follows_run (signed : client.node.operatorPubkeys.isEmpty = false)
    {incidents ran : List Incident} (isPart : ran ⊆ incidents) (session : Session) :
    Follows client (Ordered client incidents) (Held client incidents) session
      ((listening client).run session ran) := by
  induction ran generalizing session with
  | nil => exact .refl session
  | cons incident rest inductionHypothesis =>
    obtain ⟨member, members⟩ := List.cons_subset.mp isPart
    exact (follows_next signed member session).trans (inductionHypothesis members _)

/-- What a take hands out was pending. -/
theorem pending_of_answer {take : Take} {session : Session} {directive : Directive}
    (answered : (listening client).answer session (.take take) = some directive) :
    session.pending take.kind = some directive := by
  change (outcome (take.method client.node) session).toOption.join = some directive at answered
  have came := taken client.node take session
  generalize outcome (take.method client.node) session = answer at came answered
  generalize final (take.method client.node) session = after at came
  cases came with
  | given _ found =>
    cases answered
    exact found
  | idle | repeated | refused | unguarded | unacknowledged => cases answered

variable (client)

/-- **The node follows nobody but its operators.** Whatever the backend sends and however its
connections end, a node with operator keys that is stopped or capped otherwise than at its start
was so by a command that an operator signed, in a frame it received; it is paused by such a command
or because a connection was lost; and every directive it hands out was signed in an earlier
frame. -/
theorem follows_operators (signed : client.node.operatorPubkeys ≠ [])
    (incidents : List Incident) :
    let left := (listening client).run client.node.initial incidents
    (left.stopped = true → ∃ body, Ordered client incidents body ∧
      derivedFlag "stopped" body = .ok (some true)) ∧
    (left.paused = true → Held client incidents ∨ ∃ body, Ordered client incidents body ∧
      derivedFlag "paused" body = .ok (some true)) ∧
    (left.budgetCapCalls ≠ client.node.localBudgetCap → ∃ body, Ordered client incidents body ∧
      requestedCap client.node body = .ok left.budgetCapCalls) ∧
    ∀ earlier take later directive, incidents = earlier ++ .take take :: later →
      (listening client).answer ((listening client).run client.node.initial earlier) (.take take) =
        some directive →
      ∃ body, Ordered client earlier body ∧
        derivedDirective client.node take.kind body = .ok (some directive) := by
  have isSigned : client.node.operatorPubkeys.isEmpty = false :=
    List.isEmpty_eq_false_iff.mpr signed
  have follows := follows_run isSigned (List.Subset.refl incidents) client.node.initial
  refine ⟨fun stopped => ?_, fun paused => ?_, fun changed => follows.cap.resolve_left changed, ?_⟩
  · rcases follows.stopped with kept | ⟨body, isOrdered, derived⟩
    · cases stopped.symm.trans kept
    · exact ⟨body, isOrdered, stopped ▸ derived⟩
  · rcases follows.paused with kept | held | ⟨body, isOrdered, derived⟩
    · cases paused.symm.trans kept
    · exact .inl held
    · exact .inr ⟨body, isOrdered, paused ▸ derived⟩
  · rintro earlier take later directive - answered
    have found := pending_of_answer answered
    have before := follows_run isSigned (List.Subset.refl earlier) client.node.initial
    rcases before.pending take.kind with kept | gone | ⟨body, isOrdered, derived⟩
    · have none : client.node.initial.pending take.kind = none := by cases take <;> rfl
      cases found.symm.trans (kept.trans none)
    · cases found.symm.trans gone
    · exact ⟨body, isOrdered, found ▸ derived⟩

end Runs

/-! ### A stop takes hold -/

section Stopping

variable {client}

/-- A command that stops the node does so if it is new, whatever else it asks and even if it then
raises. -/
theorem stopped_apply {version : Int} {body : Value} {session : Session}
    (fresh : session.appliedVersion < version)
    (stops : derivedFlag "stopped" body = .ok (some true)) :
    (final (apply client.node version body) session).stopped = true := by
  have posture := posture_apply client.node version body session
  show (final (apply client.node version body) session).posture.stopped = true
  rw [posture]
  cases stopped : session.stopped with
  | true =>
    rw [Posture.command_stopped fresh stopped]
    exact stopped
  | false =>
    rw [Posture.command_fresh fresh stopped]
    show (wanted (derivedFlag "stopped" body)).getD _ = true
    rw [stops]
    rfl

/-- The frame bears a live command to stop that the node lets through and has not seen. -/
def Frame.Stops (client : Client) (frame : Frame) (session : Session) : Prop :=
  ∃ version body operator timestamp sig,
    frame.Bears client (.delta version body operator timestamp sig) ∧
    verify client.node version body operator timestamp sig = .ok none ∧
    session.appliedVersion < version ∧ derivedFlag "stopped" body = .ok (some true)

theorem Frame.Stops.stopped {frame : Frame} {session : Session}
    (stops : frame.Stops client session) :
    ((listening client).next session (.frame frame)).stopped = true := by
  obtain ⟨version, body, operator, timestamp, sig, bears, verified, fresh, flag⟩ := stops
  show (final (handle client frame) session).stopped = true
  rw [final_handle_of_bears bears]
  show (final (applyDelta client.node version body operator timestamp sig) session).stopped = true
  have applies : final (applyDelta client.node version body operator timestamp sig) session =
      final (apply client.node version body) session := by
    unfold applyDelta
    rw [final_bind, outcome_lift, final_lift, verified]
  rw [applies]
  exact stopped_apply fresh flag

end Stopping

/-! ### A stop that is received -/

/-- The data of the delta that stops the node. -/
def stopText : PyStr :=
  PyStr.ofString "\x7b\"version\": 1, \"delta\": \x7b\"stopped\": true\x7d, " ++
    PyStr.ofString "\"operator\": \"alice\", \"timestamp\": \"now\", \"sig\": \"aa\"\x7d"

/-- A node with one operator, and `json.loads` on that text. -/
def signedClient : Client where
  node := signedNode
  loads text :=
    if text = stopText then .ok (.dict [field "version" (.int 1),
      field "delta" (.dict [field "stopped" (.bool true)]), field "operator" (.str "alice"),
      field "timestamp" (.str "now"), field "sig" (.str "aa")])
    else .error .valueError

theorem follows_operators_stop :
    let incidents : List Incident := [.frame ⟨"delta", stopText⟩]
    ((listening signedClient).run signedNode.initial incidents).stopped = true ∧
      ∃ body, Ordered signedClient incidents body ∧
        derivedFlag "stopped" body = .ok (some true) := by
  intro incidents
  have stopped : ((listening signedClient).run signedNode.initial incidents).stopped = true := by
    decide +kernel
  exact ⟨stopped, (follows_operators signedClient (List.cons_ne_nil _ _) incidents).1 stopped⟩

end AxorWrap.Plane
