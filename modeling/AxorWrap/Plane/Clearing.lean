/-
This file says when a consumed one-shot is cleared on the plane. A take that hands out a directive
leaves its acknowledgement in the outbox; a flush that starts after it sends the acknowledgement,
clears the spool, and then posts to `/consumed` the key of each acknowledgement it knows.

Flushes may overlap, with each other and with takes, and every POST succeeds. The acknowledgement
of a replan is not one a flush knows, so the key of a replan is never posted. Nor is any key
when the flush does not come so far, and an acknowledgement that was spooled in an earlier life of
the process or handed to the flush by its caller has its key posted without a return. This file
proves that these are the only three ways.
-/

import AxorWrap.Plane.Interference
import AxorWrap.Plane.Durability

namespace AxorWrap.Plane

open Python Methods Checks Scripts Machines

/-! ### The machine -/

/-- The event as it stands in the outbox. -/
def OutboxEvent.value (event : OutboxEvent) : Value :=
  .dict [field "kind" (.str event.kind.text), field "payload" (.dict event.payload)]

/-- Where a flush is: its telemetry is under way, it has these events left to look at for a notice,
or it has returned or raised. -/
inductive Stage
  | posting (events : List Value)
  | noticing (left : List Value)
  | ended

/-- A flush that has started, with what it met: the buffers it found and the arguments, later the
buffers and the disk when it came to clear the spool. And what it has done: the keys it posted.
The code does not read the kinds of the directives returned before it, since a flush last
started and ever. -/
structure Dispatch where
  found : Buffers
  weather : Weather
  extra : List Value
  pulse : Pulse
  due : List OneShot
  ever : List OneShot
  clearing : Option (Buffers × Disk) := none
  stage : Stage
  posted : List PyStr := []

/-- A session and the flushes of its client. The outbox of the session is the one in the buffers,
to which every event is handed over. -/
structure Channel where
  session : Session
  handedOver : session.outbox = []
  buffers : Buffers
  due : List OneShot := []
  ever : List OneShot := []
  flushes : List Dispatch := []

/-- A message or a take; the start of a flush; and of a flush that is named by its place, that its
telemetry is acknowledged, and that it looks at its next event and posts the notice. -/
inductive Activity
  | operation (operation : Operation)
  | start (weather : Weather) (extra : List Value) (pulse : Pulse)
  | deliver (place : Nat) (disk : Disk)
  | notice (place : Nat)

variable (uplink : Uplink) (node : Node)

/-- The key that the notice of an event names, if it has one. -/
def noticeOf (event : Value) : Option PyStr := (event.item "kind").toOption.bind consumedKey

/-- An operation of the session, whose events go to the outbox. -/
def Channel.operate (channel : Channel) (operation : Operation) : Channel :=
  let step := (sessionMachine node).transition channel.session operation
  let kinds := (returned step).toList.map Directive.kind
  { channel with
    session := { step.after with outbox := [] }
    handedOver := rfl
    buffers := arrive (step.after.outbox.map OutboxEvent.value) channel.buffers
    due := channel.due ++ kinds
    ever := channel.ever ++ kinds }

/-- A flush up to its first request, if it comes so far. -/
def Channel.start (channel : Channel) (weather : Weather) (extra : List Value) (pulse : Pulse) :
    Channel :=
  let started (stage : Stage) : List Dispatch :=
    channel.flushes ++ [⟨channel.buffers, weather, extra, pulse, channel.due, channel.ever, none,
      stage, []⟩]
  if weather.httpx then
    let buffers := final (gather uplink weather extra pulse) channel.buffers
    match outcome (gather uplink weather extra pulse) channel.buffers with
    | .ok batch => { channel with buffers, due := [], flushes := started (.posting batch.events) }
    | .error _ => { channel with buffers, due := [], flushes := started .ended }
  else { channel with due := [], flushes := started .ended }

/-- The telemetry of a flush is acknowledged, and it clears the spool. -/
def Channel.deliver (channel : Channel) (place : Nat) (disk : Disk) : Channel :=
  match channel.flushes[place]? with
  | some dispatch =>
    match dispatch.stage with
    | .posting events =>
      let stage := match outcome (saveSpool uplink disk []) channel.buffers with
        | .ok _ => .noticing events
        | .error _ => .ended
      { channel with
        buffers := final (saveSpool uplink disk []) channel.buffers
        flushes := channel.flushes.set place
          { dispatch with stage, clearing := some (channel.buffers, disk) } }
    | _ => channel
  | none => channel

/-- A flush looks at its next event and posts its notice, or ends. -/
def Dispatch.notice (dispatch : Dispatch) : Dispatch :=
  match dispatch.stage with
  | .noticing (event :: left) =>
    { dispatch with
      stage := .noticing left
      posted := dispatch.posted ++ (noticeOf event).toList }
  | .noticing [] => { dispatch with stage := .ended }
  | _ => dispatch

def Channel.notice (channel : Channel) (place : Nat) : Channel :=
  match channel.flushes[place]? with
  | some dispatch => { channel with flushes := channel.flushes.set place dispatch.notice }
  | none => channel

def Channel.next (channel : Channel) : Activity → Channel
  | .operation operation => channel.operate node operation
  | .start weather extra pulse => channel.start uplink weather extra pulse
  | .deliver place disk => channel.deliver uplink place disk
  | .notice place => channel.notice place

/-- A channel in which every POST succeeds, each activity answered without a value. -/
def clearing : Machine Channel Activity Unit where
  answer _ _ := ()
  next := Channel.next uplink node

/-- A process that starts, with what an earlier one left in the spool. -/
def Channel.fresh (spool : Option (List (Stamped PyStr))) : Channel where
  session := node.initial
  handedOver := rfl
  buffers := { spool := spool }

/-! ### What is asked of a flush -/

variable (dispatch : Dispatch)

/-- It posted the key of every kind returned since a flush last started, and no key of a kind
that was never returned. -/
structure Dispatch.Answers : Prop where
  cleared : ∀ kind ∈ dispatch.due, kind.key ∈ dispatch.posted
  returned : ∀ key ∈ dispatch.posted, ∃ kind ∈ dispatch.ever, kind.key = key

/-- The client has `httpx`, the spool it found could be read, and every event in it and of the
caller has a kind. -/
def Dispatch.Lined : Prop :=
  dispatch.weather.httpx = true ∧
    ∃ loaded, loadSpool uplink dispatch.weather.disk dispatch.found.spool = .ok loaded ∧
      (∀ event ∈ loaded, HasKind event.content) ∧ ∀ event ∈ dispatch.extra, HasKind event

/-- It came to clear the spool, and could. -/
def Dispatch.Cleared : Prop :=
  ∃ buffers disk, dispatch.clearing = some (buffers, disk) ∧
    (uplink.spools = true → buffers.spool.isSome = true → disk.removing = .ok ())

/-- An acknowledgement of this kind was in the spool or came from the caller. -/
def Dispatch.Foreign (kind : OneShot) : Prop :=
  ∃ loaded, loadSpool uplink dispatch.weather.disk dispatch.found.spool = .ok loaded ∧
    ∃ event ∈ loaded.map Stamped.content ++ dispatch.extra, ∃ text, event.item "kind" = .ok text ∧
      text.eq (.str kind.ackKind.text) = true

/-- Something was returned only if the flush lines up its events and clears the spool; and if it
does, no replan was returned, and each acknowledgement from elsewhere is of a kind that was. -/
def Dispatch.Fortunate : Prop :=
  (dispatch.due ≠ [] → dispatch.Lined uplink ∧ dispatch.Cleared uplink) ∧
    (dispatch.Lined uplink → dispatch.Cleared uplink → .replan ∉ dispatch.due ∧
      ∀ kind, kind ≠ .replan → dispatch.Foreign uplink kind → kind ∈ dispatch.ever)

/-! ### The notice of an event -/

/-- The kinds whose acknowledgement has a notice are all but the replan. -/
theorem consumedKey_eq_some {text : Value} {key : PyStr} :
    consumedKey text = some key ↔
      ∃ kind : OneShot, kind ≠ .replan ∧ text.eq (.str kind.ackKind.text) = true ∧
        kind.key = key := by
  unfold consumedKey
  constructor
  · intro known
    split_ifs at known with injection excision
    · exact ⟨.injection, by decide, injection, Option.some.inj known⟩
    · exact ⟨.excision, by decide, excision, Option.some.inj known⟩
  · rintro ⟨kind, other, same, rfl⟩
    rw [Value.eq_str_iff] at same
    subst same
    cases kind with
    | replan => exact absurd rfl other
    | injection => rfl
    | excision => rfl

theorem noticeOf_eq_some {event : Value} {key : PyStr} :
    noticeOf event = some key ↔ ∃ text, event.item "kind" = .ok text ∧
      ∃ kind : OneShot, kind ≠ .replan ∧ text.eq (.str kind.ackKind.text) = true ∧
        kind.key = key := by
  unfold noticeOf
  simp only [← consumedKey_eq_some]
  cases event.item "kind" with
  | error error => exact ⟨fun same => (nomatch same), fun ⟨_, same, _⟩ => (nomatch same)⟩
  | ok text =>
    refine ⟨fun known => ⟨text, rfl, known⟩, ?_⟩
    rintro ⟨_, same, known⟩
    cases same
    exact known

theorem item_kind_value (event : OutboxEvent) :
    event.value.item "kind" = .ok (.str event.kind.text) := rfl

theorem text_injective {kind other : EventKind} (same : kind.text = other.text) : kind = other := by
  cases kind <;> cases other <;> first | rfl | exact absurd same (by decide)

/-- An event of the session has the notice of the kind it acknowledges, if it has one. -/
theorem noticeOf_value {event : OutboxEvent} {key : PyStr} :
    noticeOf event.value = some key ↔
      ∃ kind : OneShot, kind ≠ .replan ∧ event.kind = kind.ackKind ∧ kind.key = key := by
  rw [noticeOf_eq_some, item_kind_value]
  simp only [Except.ok.injEq, exists_eq_left', Value.eq_str_iff, Value.str.injEq]
  refine exists_congr fun kind => and_congr_right fun _ => and_congr_left fun _ => ?_
  exact ⟨text_injective, congrArg EventKind.text⟩

theorem key_injective {kind other : OneShot} (same : kind.key = other.key) : kind = other := by
  cases kind <;> cases other <;> first | rfl | exact absurd same (by decide)

/-! ### The outbox and the directives returned -/

/-- Every kind that is due has its acknowledgement in the outbox, and every acknowledgement there
is of a kind that was returned. -/
structure Accounts (outbox : List Value) (due ever : List OneShot) : Prop where
  remembered : due ⊆ ever
  acknowledged : ∀ kind ∈ due, ∃ event : OutboxEvent, event.kind = kind.ackKind ∧
    event.value ∈ outbox
  earned : ∀ content ∈ outbox, ∃ event : OutboxEvent, content = event.value ∧
    ∀ kind : OneShot, event.kind = kind.ackKind → kind ∈ ever

/-- The contents of the outbox. -/
def Buffers.contents (buffers : Buffers) : List Value := buffers.outbox.map Stamped.content

theorem contents_arrive (events : List Value) (buffers : Buffers) :
    (arrive events buffers).contents = buffers.contents ++ events := by
  unfold arrive
  induction events generalizing buffers with
  | nil => exact (List.append_nil _).symm
  | cons event rest inductionHypothesis =>
    rw [List.foldl_cons, inductionHypothesis]
    simp [append, Buffers.contents]

theorem accounts_nil (ever : List OneShot) : Accounts [] [] ever :=
  ⟨List.nil_subset _, fun _ member => (nomatch member), fun _ member => (nomatch member)⟩

/-- Once a flush has started, nothing is due. -/
theorem Accounts.started {outbox : List Value} {due ever : List OneShot}
    (accounts : Accounts outbox due ever) : Accounts outbox [] ever :=
  ⟨List.nil_subset _, fun _ member => (nomatch member), accounts.earned⟩

/-- Events that acknowledge nothing may join. -/
theorem Accounts.reported {outbox : List Value} {due ever : List OneShot}
    (accounts : Accounts outbox due ever) {events : List OutboxEvent}
    (others : ∀ event ∈ events, ∀ kind : OneShot, event.kind ≠ kind.ackKind) :
    Accounts (outbox ++ events.map OutboxEvent.value) due ever where
  remembered := accounts.remembered
  acknowledged kind member := by
    obtain ⟨event, isAck, inOutbox⟩ := accounts.acknowledged kind member
    exact ⟨event, isAck, List.mem_append_left _ inOutbox⟩
  earned content member := by
    rcases List.mem_append.mp member with old | new
    · exact accounts.earned content old
    · obtain ⟨event, isNew, rfl⟩ := List.mem_map.mp new
      exact ⟨event, rfl, fun kind same => absurd same (others event isNew kind)⟩

/-- A directive is returned and its acknowledgement joins. -/
theorem Accounts.returned {outbox : List Value} {due ever : List OneShot}
    (accounts : Accounts outbox due ever) {event : OutboxEvent} {kind : OneShot}
    (isAck : event.kind = kind.ackKind) :
    Accounts (outbox ++ [event.value]) (due ++ [kind]) (ever ++ [kind]) where
  remembered := by
    rintro other member
    rcases List.mem_append.mp member with old | new
    · exact List.mem_append_left _ (accounts.remembered old)
    · exact List.mem_append_right _ new
  acknowledged other member := by
    rcases List.mem_append.mp member with old | new
    · obtain ⟨earlier, same, inOutbox⟩ := accounts.acknowledged other old
      exact ⟨earlier, same, List.mem_append_left _ inOutbox⟩
    · cases List.mem_singleton.mp new
      exact ⟨event, isAck, List.mem_append_right _ (List.mem_singleton_self _)⟩
  earned content member := by
    rcases List.mem_append.mp member with old | new
    · obtain ⟨earlier, same, wasReturned⟩ := accounts.earned content old
      exact ⟨earlier, same, fun other isAck => List.mem_append_left _ (wasReturned other isAck)⟩
    · refine ⟨event, List.mem_singleton.mp new, fun other same => List.mem_append_right _ ?_⟩
      rw [ackKind_injective (isAck.symm.trans same)]
      exact List.mem_singleton_self _

theorem accounts_operate (channel : Channel) (operation : Operation)
    (accounts : Accounts channel.buffers.contents channel.due channel.ever) :
    Accounts (channel.operate node operation).buffers.contents
      (channel.operate node operation).due (channel.operate node operation).ever := by
  have accounted := accounted node channel.session operation
  unfold Channel.operate
  simp only [contents_arrive]
  generalize made : (sessionMachine node).transition channel.session operation = step
    at accounted ⊢
  have empty : step.before.outbox = [] := by
    rw [← made]
    exact channel.handedOver
  cases isReturned : returned step with
  | none =>
    obtain ⟨events, appended, others⟩ := accounted.kept isReturned
    rw [empty, List.nil_append] at appended
    simpa [appended] using accounts.reported others
  | some directive =>
    obtain ⟨_, _, _, _, event, ⟨isAck, _⟩, appended⟩ := accounted.given directive isReturned
    rw [empty, List.nil_append] at appended
    simpa [appended] using accounts.returned isAck

/-- An acknowledgement in the outbox is of a kind that was returned. -/
theorem Accounts.returned_of_acknowledged {outbox : List Value} {due ever : List OneShot}
    (accounts : Accounts outbox due ever) {event : OutboxEvent} {kind : OneShot}
    (isAck : event.kind = kind.ackKind) (member : event.value ∈ outbox) : kind ∈ ever := by
  obtain ⟨original, same, wasReturned⟩ := accounts.earned _ member
  have sameText := congrArg (Value.item · "kind") same
  simp only [item_kind_value, Except.ok.injEq, Value.str.injEq] at sameText
  exact wasReturned kind (text_injective sameText ▸ isAck)

/-! ### How far a flush is -/

/-- All events of the flush, when these are the ones it loaded. -/
def Dispatch.events (loaded : List (Stamped Value)) : List Value :=
  loaded.map Stamped.content ++ dispatch.found.contents ++ dispatch.extra ++
    [heartbeat dispatch.pulse]

/-- Where a flush can be: it failed before its first notice; its telemetry is under way; or it
posted the notices of its events but for those that are left. -/
inductive Dispatch.Progress : Prop
  | failed (short : ¬ (dispatch.Lined uplink ∧ dispatch.Cleared uplink))
    (stage : dispatch.stage = .ended) (nothing : dispatch.posted = [])
  | posting (lined : dispatch.Lined uplink) (loaded : List (Stamped Value))
    (read : loadSpool uplink dispatch.weather.disk dispatch.found.spool = .ok loaded)
    (stage : dispatch.stage = .posting (dispatch.events loaded)) (nothing : dispatch.posted = [])
  | noticing (lined : dispatch.Lined uplink) (cleared : dispatch.Cleared uplink)
    (loaded : List (Stamped Value))
    (read : loadSpool uplink dispatch.weather.disk dispatch.found.spool = .ok loaded)
    (left : List Value)
    (stage : dispatch.stage = .noticing left ∨ dispatch.stage = .ended ∧ left = [])
    (posted : dispatch.posted ++ left.filterMap noticeOf =
      (dispatch.events loaded).filterMap noticeOf)

/-- The spool is cleared when there is none, or its file can be removed. -/
theorem succeeds_clear (disk : Disk) (buffers : Buffers) :
    Succeeds (saveSpool uplink disk []) buffers ↔
      (uplink.spools = true → buffers.spool.isSome = true → disk.removing = .ok ()) := by
  unfold saveSpool saved computing
  cases uplink.spools with
  | false => exact iff_of_true (succeeds_pure _ _) fun same => nomatch same
  | true =>
    simp only [if_true, List.isEmpty_nil, true_imp_iff]
    rw [succeeds_get, succeeds_bind]
    simp only [outcome_lift]
    cases buffers.spool with
    | none => exact iff_of_true ⟨_, rfl, ⟨_, rfl⟩⟩ fun same => nomatch same
    | some lines =>
      cases disk.removing with
      | error error =>
        exact iff_of_false (fun ⟨_, same, _⟩ => (nomatch same)) fun all => nomatch all rfl
      | ok value => exact iff_of_true ⟨_, rfl, ⟨_, rfl⟩⟩ fun _ => rfl

/-- An outbox of a session has only events with a kind. -/
theorem Accounts.hasKind {buffers : Buffers} {due ever : List OneShot}
    (accounts : Accounts buffers.contents due ever) :
    ∀ event ∈ buffers.outbox, HasKind event.content := by
  intro event member
  obtain ⟨original, same, _⟩ := accounts.earned _ (List.mem_map_of_mem member)
  rw [same]
  exact ⟨_, item_kind_value original⟩

/-- Every event a flush lines up has a kind. -/
theorem hasKind_of_gathered {weather : Weather} {extra : List Value} {pulse : Pulse}
    {buffers : Buffers} {due ever : List OneShot} {batch : Batch}
    (accounts : Accounts buffers.contents due ever)
    (gathered : outcome (gather uplink weather extra pulse) buffers = .ok batch) :
    ∀ event ∈ batch.events, HasKind event := by
  obtain ⟨loaded, _, read, rfl, _⟩ := gathered_ok uplink weather extra pulse buffers gathered
  obtain ⟨kinds, _, extraKinds⟩ :=
    (gather_of_read uplink weather extra pulse buffers read).2.1.mp ⟨_, gathered⟩
  simp only [List.map_append, List.forall_mem_append, List.forall_mem_map, List.mem_singleton,
    forall_eq]
  exact ⟨⟨⟨kinds, accounts.hasKind⟩, extraKinds⟩, hasKind_heartbeat pulse⟩

/-! ### What each activity keeps -/

/-- The outbox accounts for what is due, and so did the one each flush found, which is as far as
it says. -/
structure Channel.Sound (channel : Channel) : Prop where
  accounts : Accounts channel.buffers.contents channel.due channel.ever
  found : ∀ dispatch ∈ channel.flushes,
    Accounts dispatch.found.contents dispatch.due dispatch.ever
  progress : ∀ dispatch ∈ channel.flushes, dispatch.Progress uplink

variable {channel : Channel}

theorem sound_operate (operation : Operation) (sound : channel.Sound uplink) :
    (channel.operate node operation).Sound uplink where
  accounts := accounts_operate node channel operation sound.accounts
  found := sound.found
  progress := sound.progress

/-- A flush joins, and nothing is due. -/
theorem Channel.Sound.joined (sound : channel.Sound uplink) {buffers : Buffers}
    {started : Dispatch} (outbox : buffers.contents = channel.buffers.contents ∨
      buffers.contents = [])
    (found : started.found = channel.buffers) (due : started.due = channel.due)
    (ever : started.ever = channel.ever) (progress : started.Progress uplink) :
    Channel.Sound uplink
      { channel with buffers, due := [], flushes := channel.flushes ++ [started] } where
  accounts := by
    rcases outbox with kept | taken
    · exact kept ▸ sound.accounts.started
    · exact taken ▸ accounts_nil _
  found := by
    intro dispatch member
    rcases List.mem_append.mp member with old | new
    · exact sound.found dispatch old
    · cases List.mem_singleton.mp new
      rw [found, due, ever]
      exact sound.accounts
  progress := by
    intro dispatch member
    rcases List.mem_append.mp member with old | new
    · exact sound.progress dispatch old
    · cases List.mem_singleton.mp new
      exact progress

theorem sound_start (weather : Weather) (extra : List Value) (pulse : Pulse)
    (sound : channel.Sound uplink) : (channel.start uplink weather extra pulse).Sound uplink := by
  unfold Channel.start
  cases able : weather.httpx with
  | false =>
    have unlined (dispatch : Dispatch) (same : dispatch.weather = weather) :
        ¬ dispatch.Lined uplink := by
      rintro ⟨has, _⟩
      rw [same, able] at has
      cases has
    exact sound.joined uplink (.inl rfl) rfl rfl rfl
      (.failed (fun both => unlined _ rfl both.1) rfl rfl)
  | true =>
    have taken : (final (gather uplink weather extra pulse) channel.buffers).contents =
        channel.buffers.contents ∨
        (final (gather uplink weather extra pulse) channel.buffers).contents = [] := by
      rcases gather_writes uplink weather extra pulse channel.buffers with same | ⟨seq, took⟩
      · exact .inl (congrArg Buffers.contents same)
      · exact .inr (congrArg Buffers.contents took)
    have succeeds (loaded : List (Stamped Value))
        (read : loadSpool uplink weather.disk channel.buffers.spool = .ok loaded) :=
      (gather_of_read uplink weather extra pulse channel.buffers read).2.1
    simp only [if_true]
    cases gathered : outcome (gather uplink weather extra pulse) channel.buffers with
    | error fault =>
      refine sound.joined uplink taken rfl rfl rfl (.failed (fun both => ?_) rfl rfl)
      obtain ⟨_, loaded, read, kinds, extraKinds⟩ := both.1
      obtain ⟨batch, same⟩ :=
        (succeeds loaded read).mpr ⟨kinds, sound.accounts.hasKind, extraKinds⟩
      cases gathered.symm.trans same
    | ok batch =>
      obtain ⟨loaded, _, read, rfl, _⟩ :=
        gathered_ok uplink weather extra pulse channel.buffers gathered
      obtain ⟨kinds, _, extraKinds⟩ := (succeeds loaded read).mp ⟨_, gathered⟩
      refine sound.joined uplink taken rfl rfl rfl
        (.posting ⟨able, loaded, read, kinds, extraKinds⟩ loaded read ?_ rfl)
      rw [List.map_append]
      rfl

/-- A flush moves on, and what it met at its start stays on record. -/
theorem Channel.Sound.moved (sound : channel.Sound uplink) {buffers : Buffers}
    {place : Nat} {before after : Dispatch} (here : channel.flushes[place]? = some before)
    (outbox : buffers.contents = channel.buffers.contents) (found : after.found = before.found)
    (due : after.due = before.due) (ever : after.ever = before.ever)
    (progress : after.Progress uplink) :
    Channel.Sound uplink { channel with buffers, flushes := channel.flushes.set place after } where
  accounts := outbox ▸ sound.accounts
  found := by
    intro dispatch member
    rcases List.mem_or_eq_of_mem_set member with old | rfl
    · exact sound.found dispatch old
    · rw [found, due, ever]
      exact sound.found before (List.mem_of_getElem? here)
  progress := by
    intro dispatch member
    rcases List.mem_or_eq_of_mem_set member with old | rfl
    · exact sound.progress dispatch old
    · exact progress

theorem contents_saveSpool (disk : Disk) (events : List (Stamped Value)) (buffers : Buffers) :
    (final (saveSpool uplink disk events) buffers).contents = buffers.contents := by
  obtain ⟨spool, same⟩ := saveSpool_writes uplink disk events buffers
  rw [same]
  rfl

theorem sound_deliver (place : Nat) (disk : Disk) (sound : channel.Sound uplink) :
    (channel.deliver uplink place disk).Sound uplink := by
  unfold Channel.deliver
  split
  next dispatch here =>
    split
    next events stage =>
      refine sound.moved uplink here (contents_saveSpool uplink disk [] _) rfl rfl rfl ?_
      have clears := succeeds_clear uplink disk channel.buffers
      cases sound.progress dispatch (List.mem_of_getElem? here) with
      | failed _ other => cases stage.symm.trans other
      | noticing _ _ _ _ _ other =>
        rcases other with other | ⟨other, _⟩ <;> cases stage.symm.trans other
      | posting lined loaded read same nothing =>
        cases stage.symm.trans same
        cases cleared : outcome (saveSpool uplink disk []) channel.buffers with
        | error fault =>
          refine .failed (fun both => ?_) rfl nothing
          obtain ⟨_, _, same, removed⟩ := both.2
          cases same
          obtain ⟨_, succeeded⟩ := clears.mpr removed
          cases cleared.symm.trans succeeded
        | ok value =>
          refine .noticing lined ⟨_, _, rfl, clears.mp ⟨_, cleared⟩⟩ loaded read _ (.inl rfl) ?_
          rw [nothing, List.nil_append]
          rfl
    next => exact sound
  next => exact sound

/-- A flush whose notices are under way has a cleared spool, and the notices it posted and those
left are the ones of its events. -/
theorem Dispatch.Progress.of_noticing {dispatch : Dispatch} (progress : dispatch.Progress uplink)
    {left : List Value} (stage : dispatch.stage = .noticing left) :
    dispatch.Lined uplink ∧ dispatch.Cleared uplink ∧ ∃ loaded,
      loadSpool uplink dispatch.weather.disk dispatch.found.spool = .ok loaded ∧
      dispatch.posted ++ left.filterMap noticeOf =
        (dispatch.events loaded).filterMap noticeOf := by
  cases progress with
  | failed _ other => cases stage.symm.trans other
  | posting _ _ _ other => cases stage.symm.trans other
  | noticing lined cleared loaded read _ other posted =>
    rcases other with same | ⟨other, _⟩
    · cases stage.symm.trans same
      exact ⟨lined, cleared, loaded, read, posted⟩
    · cases stage.symm.trans other

theorem progress_notice {dispatch : Dispatch} (progress : dispatch.Progress uplink) :
    dispatch.notice.Progress uplink := by
  unfold Dispatch.notice
  split
  next event left stage =>
    obtain ⟨lined, cleared, loaded, read, posted⟩ := progress.of_noticing uplink stage
    refine .noticing lined cleared loaded read left (.inl rfl) ?_
    show dispatch.posted ++ (noticeOf event).toList ++ left.filterMap noticeOf = _
    refine Eq.trans ?_ posted
    cases noticed : noticeOf event with
    | none => simp [noticed]
    | some key => simp [noticed]
  next stage =>
    obtain ⟨lined, cleared, loaded, read, posted⟩ := progress.of_noticing uplink stage
    exact .noticing lined cleared loaded read [] (.inr ⟨rfl, rfl⟩) posted
  next => exact progress

theorem sound_notice (place : Nat) (sound : channel.Sound uplink) :
    (channel.notice place).Sound uplink := by
  unfold Channel.notice
  cases here : channel.flushes[place]? with
  | none => exact sound
  | some dispatch =>
    have kept : dispatch.notice.found = dispatch.found ∧ dispatch.notice.due = dispatch.due ∧
        dispatch.notice.ever = dispatch.ever := by
      unfold Dispatch.notice
      split <;> exact ⟨rfl, rfl, rfl⟩
    exact sound.moved uplink here rfl kept.1 kept.2.1 kept.2.2
      (progress_notice uplink (sound.progress dispatch (List.mem_of_getElem? here)))

theorem sound_next (activity : Activity) (sound : channel.Sound uplink) :
    (channel.next uplink node activity).Sound uplink := by
  cases activity with
  | operation operation => exact sound_operate uplink node operation sound
  | start weather extra pulse => exact sound_start uplink weather extra pulse sound
  | deliver place disk => exact sound_deliver uplink place disk sound
  | notice place => exact sound_notice uplink place sound

theorem sound_run (spool : Option (List (Stamped PyStr))) (activities : List Activity) :
    ((clearing uplink node).run (.fresh node spool) activities).Sound uplink := by
  have preserved : ∀ step ∈ (clearing uplink node).history (.fresh node spool) activities,
      step.before.Sound uplink → step.after.Sound uplink := by
    intro step member sound
    obtain ⟨_, _, _, made⟩ := (clearing uplink node).mem_history member
    rw [made] at sound ⊢
    exact sound_next uplink node _ sound
  refine (clearing uplink node).history_invariant ?_ preserved List.prefix_rfl
  exact ⟨accounts_nil [], fun _ member => (nomatch member), fun _ member => (nomatch member)⟩

/-! ### The keys posted -/

section Ended

variable {dispatch : Dispatch} {loaded : List (Stamped Value)}

/-- What a flush posts is the key of an acknowledgement from elsewhere, or of one in the outbox it
found. -/
theorem mem_notices_iff (found : Accounts dispatch.found.contents dispatch.due dispatch.ever)
    (read : loadSpool uplink dispatch.weather.disk dispatch.found.spool = .ok loaded)
    (key : PyStr) :
    key ∈ (dispatch.events loaded).filterMap noticeOf ↔
      ∃ kind : OneShot, kind ≠ .replan ∧ kind.key = key ∧ (dispatch.Foreign uplink kind ∨
        ∃ event : OutboxEvent, event.kind = kind.ackKind ∧
          event.value ∈ dispatch.found.contents) := by
  rw [List.mem_filterMap]
  constructor
  · rintro ⟨event, member, noticed⟩
    obtain ⟨text, item, kind, other, same, named⟩ := noticeOf_eq_some.mp noticed
    refine ⟨kind, other, named, ?_⟩
    simp only [Dispatch.events, List.mem_append, List.mem_singleton] at member
    rcases member with ((spooled | mine) | given) | rfl
    · exact .inl ⟨loaded, read, event, List.mem_append_left _ spooled, text, item, same⟩
    · obtain ⟨original, rfl, _⟩ := found.earned event mine
      rw [item_kind_value] at item
      cases item
      exact .inr ⟨original, text_injective (Value.str.inj (Value.eq_str_iff.mp same)), mine⟩
    · exact .inl ⟨loaded, read, event, List.mem_append_right _ given, text, item, same⟩
    · cases item
      have heartbeat : EventKind.heartbeat.text = kind.ackKind.text :=
        Value.str.inj (Value.eq_str_iff.mp same)
      cases kind <;> cases text_injective heartbeat
  · rintro ⟨kind, other, named, foreign | ⟨event, isAck, mine⟩⟩
    · obtain ⟨_, readAgain, event, member, text, item, same⟩ := foreign
      cases read.symm.trans readAgain
      refine ⟨event, ?_, noticeOf_eq_some.mpr ⟨text, item, kind, other, same, named⟩⟩
      simp only [Dispatch.events, List.mem_append] at member ⊢
      rcases member with spooled | given
      · exact .inl (.inl (.inl spooled))
      · exact .inl (.inr given)
    · refine ⟨event.value, ?_, noticeOf_value.mpr ⟨kind, other, isAck, named⟩⟩
      simp only [Dispatch.events, List.mem_append]
      exact .inl (.inl (.inr mine))

/-- A flush that posted all its notices answers exactly when no replan was returned and what came
from elsewhere was. -/
theorem answers_iff_of_noticed
    (found : Accounts dispatch.found.contents dispatch.due dispatch.ever)
    (read : loadSpool uplink dispatch.weather.disk dispatch.found.spool = .ok loaded)
    (posted : dispatch.posted = (dispatch.events loaded).filterMap noticeOf) :
    dispatch.Answers ↔ .replan ∉ dispatch.due ∧
      ∀ kind, kind ≠ .replan → dispatch.Foreign uplink kind → kind ∈ dispatch.ever := by
  have notices := mem_notices_iff uplink found read
  rw [← posted] at notices
  constructor
  · rintro ⟨cleared, returned⟩
    refine ⟨fun due => ?_, fun kind other foreign => ?_⟩
    · obtain ⟨kind, other, same, _⟩ := (notices _).mp (cleared .replan due)
      exact other (key_injective same)
    · obtain ⟨again, isEver, same⟩ := returned _ ((notices _).mpr ⟨kind, other, rfl, .inl foreign⟩)
      exact key_injective same ▸ isEver
  · rintro ⟨noReplan, known⟩
    refine ⟨fun kind due => ?_, fun key isPosted => ?_⟩
    · refine (notices _).mpr ⟨kind, fun same => noReplan (same ▸ due), rfl, .inr ?_⟩
      exact found.acknowledged kind due
    · obtain ⟨kind, other, same, foreign | ⟨event, isAck, mine⟩⟩ := (notices _).mp isPosted
      · exact ⟨kind, known kind other foreign, same⟩
      · exact ⟨kind, found.returned_of_acknowledged isAck mine, same⟩

/-- A flush that has ended answers exactly when it was fortunate. -/
theorem Dispatch.Progress.answers_iff (progress : dispatch.Progress uplink)
    (found : Accounts dispatch.found.contents dispatch.due dispatch.ever)
    (ended : dispatch.stage = .ended) : dispatch.Answers ↔ dispatch.Fortunate uplink := by
  cases progress with
  | failed short _ nothing =>
    constructor
    · rintro ⟨cleared, _⟩
      refine ⟨fun due => ?_, fun lined cleared => absurd ⟨lined, cleared⟩ short⟩
      obtain ⟨kind, member⟩ := List.exists_mem_of_ne_nil _ due
      have posted := cleared kind member
      rw [nothing] at posted
      cases posted
    · rintro ⟨able, _⟩
      have none : dispatch.due = [] := by_contra fun due => short (able due)
      refine ⟨fun kind member => ?_, fun key member => ?_⟩
      · rw [none] at member
        cases member
      · rw [nothing] at member
        cases member
  | posting _ _ _ other => cases ended.symm.trans other
  | noticing lined cleared loaded read left stage posted =>
    rcases stage with other | ⟨_, rfl⟩
    · cases ended.symm.trans other
    · rw [List.filterMap_nil, List.append_nil] at posted
      rw [answers_iff_of_noticed uplink found read posted]
      exact ⟨fun right => ⟨fun _ => ⟨lined, cleared⟩, fun _ _ => right⟩,
        fun fortunate => fortunate.2 lined cleared⟩

/-- At any time a flush has posted only notices of its events. -/
theorem Dispatch.Progress.posted_returned (progress : dispatch.Progress uplink)
    (found : Accounts dispatch.found.contents dispatch.due dispatch.ever)
    (known : ∀ kind, kind ≠ .replan → dispatch.Foreign uplink kind → kind ∈ dispatch.ever) :
    ∀ key ∈ dispatch.posted, ∃ kind ∈ dispatch.ever, kind.key = key := by
  intro key member
  cases progress with
  | failed _ _ nothing =>
    rw [nothing] at member
    cases member
  | posting _ _ _ _ nothing =>
    rw [nothing] at member
    cases member
  | noticing _ _ loaded read _ _ posted =>
    have noticed : key ∈ (dispatch.events loaded).filterMap noticeOf := by
      rw [← posted]
      exact List.mem_append_left _ member
    obtain ⟨kind, other, same, foreign | ⟨event, isAck, mine⟩⟩ :=
      (mem_notices_iff uplink found read key).mp noticed
    · exact ⟨kind, known kind other foreign, same⟩
    · exact ⟨kind, found.returned_of_acknowledged isAck mine, same⟩

end Ended

/-- **Consumed one-shots are cleared** by the first flush that starts after they were returned, and
nothing else is, exactly when the flush is fortunate: in every run in which every POST
succeeds this holds of each flush that has ended, and a flush that has not has at no time posted
the key of a kind that was never returned, unless it had an acknowledgement of that kind from
elsewhere. -/
theorem consumed_cleared_iff (spool : Option (List (Stamped PyStr))) (activities : List Activity)
    (dispatch : Dispatch)
    (started : dispatch ∈ ((clearing uplink node).run (.fresh node spool) activities).flushes) :
    (dispatch.stage = .ended → (dispatch.Answers ↔ dispatch.Fortunate uplink)) ∧
      ((∀ kind, kind ≠ .replan → dispatch.Foreign uplink kind → kind ∈ dispatch.ever) →
        ∀ key ∈ dispatch.posted, ∃ kind ∈ dispatch.ever, kind.key = key) := by
  have sound := sound_run uplink node spool activities
  have found := sound.found dispatch started
  have progress := sound.progress dispatch started
  exact ⟨progress.answers_iff uplink found, progress.posted_returned uplink found⟩

/-! ### A flush on its own -/

/-- The keys of the notices among some requests. -/
def noticesOf (requests : List Request) : List PyStr :=
  requests.filterMap fun
    | .consumed key => some key
    | .telemetry _ _ _ => none

theorem requests_saveSpool (disk : Disk) (events : List (Stamped Value)) (buffers : Buffers) :
    (final (saveSpool uplink disk events) buffers).requests = buffers.requests := by
  obtain ⟨spool, same⟩ := saveSpool_writes uplink disk events buffers
  rw [same]

/-- When every POST succeeds, the notices of all events are posted in order. -/
theorem noticesOf_notify {weather : Weather}
    (noticed : ∀ index, (weather.notices index).answer = .ok ()) {events : List Value}
    (kinds : ∀ event ∈ events, HasKind event) (buffers : Buffers) :
    noticesOf (final (notify weather events) buffers).requests =
      noticesOf buffers.requests ++ events.filterMap noticeOf := by
  have entries : events.zipIdx.flatMap (fun item => (noticeOf item.1).toList) =
      events.filterMap noticeOf := by
    rw [List.filterMap_eq_flatMap_toList]
    conv_rhs => rw [← List.zipIdx_map_fst 0 events, List.flatMap_map]
  rw [← entries]
  refine logged_forM (fun state : Buffers => noticesOf state.requests)
    (fun item : Value × Nat => (noticeOf item.1).toList) ?_ buffers
  rintro ⟨event, index⟩ member state
  obtain ⟨text, item⟩ := kinds event (List.fst_mem_of_mem_zipIdx member)
  have notice : noticeOf event = consumedKey text := by
    rw [noticeOf, item]
    rfl
  have computed : outcome (computing (event.item "kind")) state = .ok text := by
    rw [item]
    rfl
  simp only [notice, succeeds_bind, computed, final_bind_ok computed, Except.ok.injEq,
    exists_eq_left']
  cases consumedKey text with
  | none => exact ⟨succeeds_pure _ _, (List.append_nil _).symm⟩
  | some key =>
    have posts : outcome (observe (post (.consumed key) (weather.notices index))) state =
        .ok (.ok ()) := congrArg Except.ok (noticed index)
    refine ⟨succeeds_bind.mpr ⟨_, posts, succeeds_pure _ _⟩, ?_⟩
    refine (congrArg (fun left : Buffers => noticesOf left.requests) (final_bind_ok posts)).trans ?_
    show noticesOf (final (post (.consumed key) (weather.notices index)) state).requests = _
    rw [requests_post]
    simp [noticesOf]

/-- Looking at all its events, a flush posts their notices and ends. -/
theorem iterate_notice (events : List Value) {dispatch : Dispatch}
    (stage : dispatch.stage = .noticing events) :
    Dispatch.notice^[events.length + 1] dispatch =
      { dispatch with
        stage := .ended
        posted := dispatch.posted ++ events.filterMap noticeOf } := by
  induction events generalizing dispatch with
  | nil =>
    show dispatch.notice = _
    unfold Dispatch.notice
    simp [stage]
  | cons event rest inductionHypothesis =>
    rw [List.length_cons, Function.iterate_succ_apply]
    have step : dispatch.notice =
        { dispatch with
          stage := .noticing rest
          posted := dispatch.posted ++ (noticeOf event).toList } := by
      unfold Dispatch.notice
      simp [stage]
    rw [step, inductionHypothesis rfl]
    cases noticed : noticeOf event <;> simp [noticed]

theorem flushes_run_notices (count : Nat) {channel : Channel} {dispatch : Dispatch}
    (alone : channel.flushes = [dispatch]) :
    ((clearing uplink node).run channel (List.replicate count (.notice 0))).flushes =
      [Dispatch.notice^[count] dispatch] := by
  induction count generalizing channel dispatch with
  | zero => exact alone
  | succ count inductionHypothesis =>
    rw [List.replicate_succ, Machine.run_cons, Function.iterate_succ_apply]
    refine inductionHypothesis ?_
    show (channel.notice 0).flushes = _
    unfold Channel.notice
    simp [alone]

/-- What a flush on its own posts after it has taken its events. -/
theorem noticesOf_deliver {weather : Weather} (sent : (weather.postings 0).answer = .ok ())
    (noticed : ∀ index, (weather.notices index).answer = .ok ()) {batch : Batch}
    (kinds : ∀ event ∈ batch.events, HasKind event) (buffers : Buffers) :
    noticesOf (final (deliver uplink weather batch) buffers).requests =
      noticesOf buffers.requests ++
        match outcome (saveSpool uplink weather.disk []) buffers with
        | .ok _ => batch.events.filterMap noticeOf
        | .error _ => [] := by
  let request := Request.telemetry weather.idempotencyKey uplink.runId batch.lines
  let left := final (post request (weather.postings 0)) buffers
  have posts : outcome (observe (post request (weather.postings 0))) buffers = .ok (.ok ()) :=
    congrArg Except.ok sent
  have telemetry : outcome (observe (postTelemetry uplink weather batch.lines)) buffers =
      .ok (.ok ()) ∧ final (postTelemetry uplink weather batch.lines) buffers = left := by
    have attempts : List.range telemetryAttempts = [0, 1, 2] := rfl
    unfold postTelemetry
    rw [outcome_observe, attempts, postAttempts, outcome_bind_ok posts, final_bind_ok posts]
    exact ⟨rfl, rfl⟩
  have requests : noticesOf (acknowledge batch.durable left).requests =
      noticesOf buffers.requests := by
    show noticesOf left.requests = _
    rw [requests_post]
    simp [noticesOf, request]
  have spool : (acknowledge batch.durable left).spool = buffers.spool :=
    (awaited_post request (weather.postings 0) buffers).spool
  have clears : Succeeds (saveSpool uplink weather.disk []) (acknowledge batch.durable left) ↔
      Succeeds (saveSpool uplink weather.disk []) buffers := by
    rw [succeeds_clear, succeeds_clear, spool]
  unfold deliver
  rw [final_bind_ok telemetry.1, final_observe, telemetry.2]
  show noticesOf (final (do
    modify (acknowledge batch.durable)
    saveSpool uplink weather.disk []
    notify weather batch.events : TelemetryMethod Unit) left).requests = _
  rw [final_bind, outcome_modify, final_modify, final_bind]
  cases cleared : outcome (saveSpool uplink weather.disk []) buffers with
  | ok value =>
    obtain ⟨⟨⟩, succeeded⟩ := clears.mpr ⟨value, cleared⟩
    simp only [succeeded]
    rw [noticesOf_notify noticed kinds, requests_saveSpool, requests]
  | error fault =>
    cases succeeded : outcome (saveSpool uplink weather.disk [])
        (acknowledge batch.durable left) with
    | ok value =>
      obtain ⟨_, same⟩ := clears.mp ⟨value, succeeded⟩
      cases cleared.symm.trans same
    | error fault =>
      show noticesOf (final (saveSpool uplink weather.disk []) _).requests = _
      rw [requests_saveSpool, requests, List.append_nil]

theorem deliver_ended {channel : Channel} {dispatch : Dispatch} (disk : Disk)
    (alone : channel.flushes = [dispatch]) (ended : dispatch.stage = .ended) :
    channel.deliver uplink 0 disk = channel := by
  unfold Channel.deliver
  simp [alone, ended]

/-- The steps of the first flush of a channel, with so many events to look at. -/
def flushSteps (weather : Weather) (extra : List Value) (pulse : Pulse) (count : Nat) :
    List Activity :=
  .start weather extra pulse :: .deliver 0 weather.disk :: List.replicate count (.notice 0)

/-- A flush on its own posts, when every POST succeeds, the notices that it posts step by step. -/
theorem flush_alone {weather : Weather} (sent : (weather.postings 0).answer = .ok ())
    (noticed : ∀ index, (weather.notices index).answer = .ok ()) (extra : List Value)
    (pulse : Pulse) {channel : Channel} (sound : channel.Sound uplink)
    (alone : channel.flushes = []) :
    ∃ count dispatch,
      ((clearing uplink node).run channel (flushSteps weather extra pulse count)).flushes =
        [dispatch] ∧ dispatch.stage = .ended ∧
      noticesOf (final (flush uplink weather extra pulse) channel.buffers).requests =
        noticesOf channel.buffers.requests ++ dispatch.posted := by
  let opened (stage : Stage) : Dispatch :=
    ⟨channel.buffers, weather, extra, pulse, channel.due, channel.ever, none, stage, []⟩
  have ended (started : (channel.start uplink weather extra pulse).flushes = [opened .ended]) :
      ((clearing uplink node).run channel (flushSteps weather extra pulse 0)).flushes =
        [opened .ended] := by
    show ((channel.start uplink weather extra pulse).deliver uplink 0 weather.disk).flushes = _
    rw [deliver_ended uplink weather.disk started rfl, started]
  cases able : weather.httpx with
  | false =>
    have raised : final (flush uplink weather extra pulse) channel.buffers = channel.buffers := by
      unfold flush
      simp only [able, Bool.not_false, if_true]
      rfl
    refine ⟨0, opened .ended, ended ?_, rfl, by rw [raised, List.append_nil]⟩
    unfold Channel.start
    simp [able, alone, opened]
  | true =>
    have flushed := flush_of_httpx uplink weather extra pulse able
    have untouched : (final (gather uplink weather extra pulse) channel.buffers).requests =
        channel.buffers.requests := by
      rcases gather_writes uplink weather extra pulse channel.buffers with same | ⟨seq, took⟩
      · rw [same]
      · rw [took]
    cases gathered : outcome (gather uplink weather extra pulse) channel.buffers with
    | error fault =>
      refine ⟨0, opened .ended, ended ?_, rfl, ?_⟩
      · unfold Channel.start
        simp [able, alone, gathered, opened]
      · rw [flushed, final_bind, gathered, untouched, List.append_nil]
    | ok batch =>
      have posted := noticesOf_deliver uplink sent noticed
        (hasKind_of_gathered uplink sound.accounts gathered)
        (final (gather uplink weather extra pulse) channel.buffers)
      have delivered : ((channel.start uplink weather extra pulse).deliver uplink 0
          weather.disk).flushes = [{ opened (match outcome (saveSpool uplink weather.disk [])
              (final (gather uplink weather extra pulse) channel.buffers) with
            | .ok _ => .noticing batch.events
            | .error _ => .ended) with
          clearing := some
            (final (gather uplink weather extra pulse) channel.buffers, weather.disk) }] := by
        unfold Channel.start Channel.deliver
        simp [able, alone, gathered, opened]
      rw [flushed, final_bind_ok gathered, posted, untouched]
      cases cleared : outcome (saveSpool uplink weather.disk [])
          (final (gather uplink weather extra pulse) channel.buffers) with
      | error fault =>
        rw [cleared] at delivered
        exact ⟨0, _, delivered, rfl, rfl⟩
      | ok value =>
        rw [cleared] at delivered
        have looked := flushes_run_notices uplink node (batch.events.length + 1) delivered
        rw [iterate_notice batch.events rfl] at looked
        exact ⟨batch.events.length + 1, _, looked, rfl, rfl⟩

/-! ### A replan and an injection -/

/-- A client of an open test bench. -/
def benchUplink : Uplink := { trialUplink with nodeId := "node", spoolPath := none }

/-- Everything works. -/
def fairWeather : Weather where
  clock _ := "2026-01-01T00:00:00+00:00"
  idempotencyKey := "5e"
  postings _ := {}

/-- A command, its take, and a flush to its end. -/
def takenAndFlushed (command : Value) (take : Take) : Channel :=
  (clearing benchUplink openBench).run (.fresh openBench none)
    (.operation (.message (.delta 1 command .null .null .null)) :: .operation (.take take) ::
      flushSteps fairWeather [] {} 3)

/-- After the take of an injection its key is cleared. -/
theorem injection_cleared :
    ∃ dispatch, (takenAndFlushed (.dict [field "pending_injection" (.dict [idField "x"])])
        .injection).flushes = [dispatch] ∧
      dispatch.due = [.injection] ∧ dispatch.Answers := by
  have run : ∃ dispatch, (takenAndFlushed (.dict [field "pending_injection" (.dict [idField "x"])])
        .injection).flushes = [dispatch] ∧ dispatch.stage = .ended ∧ dispatch.due = [.injection] ∧
      dispatch.Lined benchUplink ∧ dispatch.Cleared benchUplink ∧ dispatch.extra = [] ∧
      dispatch.found.spool = none :=
    ⟨_, rfl, rfl, rfl,
      ⟨rfl, [], rfl, fun _ member => (nomatch member), fun _ member => (nomatch member)⟩,
      ⟨_, _, rfl, fun same => (nomatch same)⟩, rfl, rfl⟩
  obtain ⟨dispatch, flushes, ended, due, lined, cleared, extra, spool⟩ := run
  refine ⟨dispatch, flushes, due, ?_⟩
  refine ((consumed_cleared_iff benchUplink openBench none _ dispatch
    (flushes ▸ List.mem_singleton_self _)).1 ended).mpr ⟨fun _ => ⟨lined, cleared⟩, fun _ _ => ?_⟩
  refine ⟨by rw [due]; decide, ?_⟩
  rintro kind _ ⟨loaded, read, event, member, _⟩
  rw [spool] at read
  cases read
  rw [extra] at member
  cases member

/-- After the take of a replan nothing is cleared. -/
theorem replan_not_cleared :
    ¬ ∀ (uplink : Uplink) (node : Node) (spool : Option (List (Stamped PyStr)))
      (activities : List Activity),
      ∀ dispatch ∈ ((clearing uplink node).run (.fresh node spool) activities).flushes,
        dispatch.stage = .ended → dispatch.Answers := by
  intro always
  have run : ∃ dispatch, (takenAndFlushed (.dict [field "replan" (.dict [idField "r1"])])
      .replan).flushes = [dispatch] ∧ dispatch.stage = .ended ∧ dispatch.due = [.replan] ∧
      dispatch.posted = [] := ⟨_, rfl, rfl, rfl, rfl⟩
  obtain ⟨dispatch, flushes, ended, due, posted⟩ := run
  have answers := always benchUplink openBench none _ dispatch
    (flushes ▸ List.mem_singleton_self _) ended
  have cleared := answers.cleared .replan (due ▸ List.mem_singleton_self _)
  rw [posted] at cleared
  cases cleared

end AxorWrap.Plane
