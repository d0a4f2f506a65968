/-
This file says when a flush that is not acknowledged loses nothing.

The events of the spool stay on their lines whatever happens, for the spool is only
ever replaced by lines that hold all of it. Those of the outbox leave it before the
first request, and come back by one way alone: every request fails in the transport
and the events are restored. So the flush keeps everything exactly when there is
nothing in the outbox, when it stops before it takes anything, or when it gets as far
as restoring and the events can be written.
-/

import AxorWrap.Plane.Telemetry

namespace AxorWrap.Plane

open Python Methods Checks

/-! ### The events held -/

/-- An event as it is held: alive in the outbox, or as a line of text. -/
inductive Form
  | live (event : Value)
  | line (text : PyStr)

def spooled (lines : List (Stamped PyStr)) : List (Stamped Form) :=
  lines.map fun line => ⟨line.stamp, .line line.content⟩

def inMemory (outbox : List (Stamped Value)) : List (Stamped Form) :=
  outbox.map fun event => ⟨event.stamp, .live event.content⟩

/-- The events in the spool and in the outbox, in the order in which they are sent. -/
def Buffers.held (buffers : Buffers) : List (Stamped Form) :=
  spooled buffers.lines ++ inMemory buffers.outbox

/-- Every event held was given its stamp before. -/
def Buffers.Bounded (buffers : Buffers) : Prop :=
  ∀ stamp ∈ stamps buffers.held, stamp < buffers.issued

/-- Two forms of one event: a live event may be written to a line, and a line read and written
again. -/
inductive Rewritten (json : Json) : Form → Form → Prop
  | same (form : Form) : Rewritten json form form
  | saved {event : Value} {text : PyStr} (written : json.dumps event = .ok text) :
      Rewritten json (.live event) (.line text)
  | resaved {event : Value} {text again : PyStr} (read : json.loads text = .ok event)
      (written : json.dumps event = .ok again) : Rewritten json (.line text) (.line again)

/-- The same event, in the same form or in another. -/
def SameEvent (json : Json) (one other : Stamped Form) : Prop :=
  one.stamp = other.stamp ∧ Rewritten json one.content other.content

/-- Every event held before is held after, and in the same order. -/
def Keeps (json : Json) (before after : Buffers) : Prop :=
  List.SublistForall₂ (SameEvent json) before.held after.held

variable {json : Json} {before after : Buffers}

instance : Std.Refl (SameEvent json) := ⟨fun one => ⟨rfl, .same one.content⟩⟩

theorem stamps_held (buffers : Buffers) :
    stamps buffers.held = stamps buffers.lines ++ stamps buffers.outbox := by
  simp [Buffers.held, spooled, inMemory, stamps, Function.comp_def]

theorem Keeps.sublist (keeps : Keeps json before after) :
    (stamps before.held).Sublist (stamps after.held) := by
  obtain ⟨kept, paired, sublist⟩ := List.sublistForall₂_iff.mp keeps
  have same : stamps before.held = stamps kept := by
    unfold stamps
    refine List.forall₂_eq_eq_eq ▸ ?_
    rw [List.forall₂_map_left_iff, List.forall₂_map_right_iff]
    exact paired.imp fun _ _ one => one.1
  rw [same]
  exact sublist.map _

/-- Nothing is lost when what is held only grows. -/
theorem keeps_of_grows (arrivals : List (Stamped Form))
    (grows : after.held = before.held ++ arrivals) : Keeps json before after := by
  refine List.sublistForall₂_iff.mpr ⟨before.held, List.forall₂_same.mpr fun _ _ => refl _, ?_⟩
  rw [grows]
  exact List.sublist_append_left _ _

/-- When the outbox is replaced by new events, those it held are lost. -/
theorem not_keeps_of_replaced (bounded : before.Bounded) (taken : before.outbox ≠ [])
    (lines : after.lines = before.lines)
    (fresh : ∀ stamp ∈ stamps after.outbox, before.issued ≤ stamp) : ¬ Keeps json before after := by
  intro keeps
  obtain ⟨event, rest, outbox⟩ := List.exists_cons_of_ne_nil taken
  have counted := keeps.sublist.count_le event.stamp
  have held : event.stamp ∈ stamps before.outbox := by
    rw [outbox]
    exact List.mem_cons_self
  have missing : event.stamp ∉ stamps after.outbox := fun member =>
    absurd (bounded _ (by rw [stamps_held]; exact List.mem_append_right _ held))
      (not_lt.mpr (fresh _ member))
  have present := List.count_pos_iff.mpr held
  rw [stamps_held, stamps_held, List.count_append, List.count_append, lines,
    List.count_eq_zero.mpr missing] at counted
  omega

/-! ### Events restored -/

theorem forall₂_comp {α β γ : Type} {R : α → β → Prop} {S : β → γ → Prop} {T : α → γ → Prop}
    (joins : ∀ one two three, R one two → S two three → T one three) {first : List α}
    {second : List β} {third : List γ} (left : List.Forall₂ R first second)
    (right : List.Forall₂ S second third) : List.Forall₂ T first third := by
  induction left generalizing third with
  | nil =>
    cases right
    exact .nil
  | cons head _ inductionHypothesis =>
    cases right with
    | cons next rest => exact .cons (joins _ _ _ head next) (inductionHypothesis rest)

/-- What holds of the events converted holds of what each of them is converted to. -/
theorem forall_converted {α β : Type} {conversion : α → Except PyError β} {held : List (Stamped α)}
    {converted : List (Stamped β)} (done : convert conversion held = .ok converted)
    (holds : β → Prop) :
    (∀ one ∈ converted, holds one.content) ↔
      ∀ one ∈ held, ∀ content, conversion one.content = .ok content → holds content := by
  have paired := convert_eq_ok.mp done
  clear done
  induction paired with
  | nil =>
    exact iff_of_true (List.forall_mem_nil _)
      (List.forall_mem_nil _)
  | cons first _ inductionHypothesis =>
    rw [List.forall_mem_cons, List.forall_mem_cons]
    simp only [first.2, Except.ok.injEq, forall_eq']
    exact and_congr_right' inductionHypothesis

section Restored

variable {uplink : Uplink} {disk : Disk} {buffers : Buffers} {loaded : List (Stamped Value)}

/-- What is loaded are the lines of the spool, if the client has one. -/
theorem converted_of_read (read : loadSpool uplink disk buffers.spool = .ok loaded)
    (spools : uplink.spools = true) : convert uplink.json.loads buffers.lines = .ok loaded := by
  unfold loadSpool at read
  unfold Buffers.lines
  cases kept : buffers.spool with
  | none =>
    rw [kept] at read
    cases read
    rfl
  | some lines =>
    rw [kept] at read
    simp only [if_pos spools, bind_eq_ok] at read
    obtain ⟨_, _, converted⟩ := read
    exact converted

theorem loaded_of_not_spools (read : loadSpool uplink disk buffers.spool = .ok loaded)
    (spools : uplink.spools = false) : loaded = [] := by
  unfold loadSpool at read
  split at read
  · rw [if_neg (by simp [spools])] at read
    cases read
    rfl
  · cases read
    rfl

theorem converted_of_saved {events : List (Stamped Value)}
    {spool left : Option (List (Stamped PyStr))} (wrote : saved json disk events spool = .ok left) :
    convert json.dumps events = .ok (left.getD []) := by
  unfold saved at wrote
  cases events with
  | nil =>
    simp only [List.isEmpty_nil, if_true] at wrote
    cases spool with
    | none =>
      cases wrote
      rfl
    | some lines =>
      obtain ⟨_, _, same⟩ := bind_eq_ok.mp wrote
      cases same
      rfl
  | cons event rest =>
    rw [if_neg (by simp)] at wrote
    obtain ⟨_, _, wrote⟩ := bind_eq_ok.mp wrote
    obtain ⟨lines, dumped, wrote⟩ := bind_eq_ok.mp wrote
    obtain ⟨_, _, same⟩ := bind_eq_ok.mp wrote
    cases same
    exact dumped

theorem exists_saved {events : List (Stamped Value)} (nonempty : events ≠ [])
    {spool : Option (List (Stamped PyStr))} :
    (∃ left, saved json disk events spool = .ok left) ↔
      disk.opening = .ok () ∧ disk.replacing = .ok () ∧
        ∀ event ∈ events, ∃ text, json.dumps event.content = .ok text := by
  rw [← exists_convert]
  unfold saved
  rw [if_neg (by simpa using nonempty)]
  cases disk.opening with
  | error error => exact iff_of_false (fun ⟨_, same⟩ => (nomatch same)) fun both => (nomatch both.1)
  | ok value =>
    cases convert json.dumps events with
    | error error =>
      exact iff_of_false (fun ⟨_, same⟩ => (nomatch same)) fun ⟨_, _, _, same⟩ => (nomatch same)
    | ok lines =>
      cases disk.replacing with
      | error error =>
        exact iff_of_false (fun ⟨_, same⟩ => (nomatch same)) fun ⟨_, same, _⟩ => (nomatch same)
      | ok value => exact iff_of_true ⟨_, rfl⟩ ⟨rfl, rfl, _, rfl⟩

/-- The events on the lines of the spool and in the outbox are those on the lines written. -/
theorem sameEvents_written {written : List (Stamped PyStr)}
    (read : convert json.loads buffers.lines = .ok loaded)
    (wrote : convert json.dumps (loaded ++ buffers.outbox) = .ok written) :
    List.Forall₂ (SameEvent json) buffers.held (spooled written) := by
  let Source (form : Stamped Form) (event : Stamped Value) : Prop :=
    form.stamp = event.stamp ∧
      ((∃ text, form.content = .line text ∧ json.loads text = .ok event.content) ∨
        form.content = .live event.content)
  have lines : List.Forall₂ Source (spooled buffers.lines) loaded := by
    unfold spooled
    rw [List.forall₂_map_left_iff]
    exact (convert_eq_ok.mp read).imp fun line event one => ⟨one.1.symm, .inl ⟨_, rfl, one.2⟩⟩
  have events : List.Forall₂ Source (inMemory buffers.outbox) buffers.outbox := by
    unfold inMemory
    rw [List.forall₂_map_left_iff]
    exact List.forall₂_same.mpr fun event _ => ⟨rfl, .inr rfl⟩
  have texts := convert_eq_ok.mp wrote
  unfold Buffers.held spooled at *
  rw [List.forall₂_map_right_iff]
  refine forall₂_comp (fun form event line source text => ?_) (List.rel_append lines events) texts
  refine ⟨source.1.trans text.1.symm, ?_⟩
  obtain ⟨old, isLine, loads⟩ | isLive := source.2
  · rw [isLine]
    exact .resaved loads text.2
  · rw [isLive]
    exact .saved text.2

/-- While a flush waits, what is held only loses what the flush took. -/
theorem held_of_awaited {seq : Nat} {waiting : Buffers}
    (waited : Awaited { buffers with outbox := [], seq := seq } waiting) :
    waiting.held = spooled buffers.lines ++ inMemory waiting.outbox ∧
      ∀ stamp ∈ stamps waiting.outbox, buffers.issued ≤ stamp := by
  refine ⟨?_, fun stamp member => ?_⟩
  · unfold Buffers.held Buffers.lines
    rw [waited.spool]
  · obtain ⟨arrivals, appended, numbered⟩ := waited.outbox
    rw [appended, List.nil_append, numbered] at member
    exact (List.mem_range'_1.mp member).1

/-- The restoring keeps everything exactly when there was nothing to restore from the outbox, or
what there was could be written. -/
theorem keeps_restored_iff (bounded : buffers.Bounded)
    (read : loadSpool uplink disk buffers.spool = .ok loaded) {seq : Nat} {waiting : Buffers}
    (waited : Awaited { buffers with outbox := [], seq := seq } waiting) :
    Keeps uplink.json buffers (final (restore uplink disk (loaded ++ buffers.outbox)) waiting) ↔
      buffers.outbox = [] ∨ (uplink.spools = true → disk.opening = .ok () ∧
        disk.replacing = .ok () ∧ ∀ event ∈ loaded ++ buffers.outbox,
          ∃ text, uplink.json.dumps event.content = .ok text) := by
  obtain ⟨held, fresh⟩ := held_of_awaited waited
  unfold restore
  cases spools : uplink.spools with
  | false =>
    refine iff_of_true (keeps_of_grows (inMemory waiting.outbox) ?_)
      (.inr fun same => nomatch same)
    rw [if_neg Bool.false_ne_true, loaded_of_not_spools read spools, final_modify]
    unfold Buffers.held Buffers.lines inMemory
    rw [waited.spool, List.nil_append, List.map_append, List.append_assoc]
  | true =>
    rw [if_pos rfl, final_saveSpool, if_pos spools]
    cases wrote : saved uplink.json disk (loaded ++ buffers.outbox) waiting.spool with
    | error error =>
      have unwritten : ¬ ∃ left, saved uplink.json disk (loaded ++ buffers.outbox) waiting.spool =
          .ok left := fun ⟨left, same⟩ => (nomatch wrote.symm.trans same)
      by_cases empty : buffers.outbox = []
      · refine iff_of_true (keeps_of_grows (inMemory waiting.outbox) ?_) (.inl empty)
        rw [held, Buffers.held, empty]
        simp [inMemory]
      · rw [exists_saved (by simp [empty])] at unwritten
        refine iff_of_false ?_ fun either => either.elim empty fun able => unwritten (able rfl)
        refine not_keeps_of_replaced bounded empty ?_ fresh
        unfold Buffers.lines
        rw [waited.spool]
    | ok left =>
      have written := converted_of_saved wrote
      refine iff_of_true ?_ ?_
      · refine List.sublistForall₂_iff.mpr
          ⟨spooled (left.getD []), sameEvents_written (converted_of_read read spools) written, ?_⟩
        exact List.sublist_append_left _ _
      · by_cases empty : buffers.outbox = []
        · exact .inl empty
        · exact .inr fun _ => (exists_saved (by simp [empty])).mp ⟨left, wrote⟩

end Restored

/-! ### The flush -/

section Flush

variable (uplink : Uplink) (weather : Weather) (extra : List Value) (pulse : Pulse)
  (buffers : Buffers)

/-- The spool file, when there is one, can be read, and each of its lines is JSON. -/
def SpoolReadable (disk : Disk) : Prop :=
  uplink.spools = true → ∀ lines, buffers.spool = some lines →
    disk.reading = .ok () ∧ ∀ line ∈ lines, ∃ event, uplink.json.loads line.content = .ok event

/-- The flush gets as far as restoring, and can restore: every event has a kind, every request
fails in the transport and no wait is cut short, and the events can be written to the spool, if
there is one. -/
structure Recovers : Prop where
  numbered : ∀ event ∈ buffers.outbox, HasKind event.content
  extra : ∀ event ∈ extra, HasKind event
  failed : ∀ attempt < telemetryAttempts, weather.Fails attempt
  spooled : uplink.spools = true → ∀ line ∈ buffers.lines, ∀ event,
    uplink.json.loads line.content = .ok event →
      HasKind event ∧ ∃ text, uplink.json.dumps event = .ok text
  written : uplink.spools = true → weather.disk.opening = .ok () ∧
    weather.disk.replacing = .ok () ∧
      ∀ event ∈ buffers.outbox, ∃ text, uplink.json.dumps event.content = .ok text

variable {uplink weather extra buffers}

theorem spoolReadable_iff {disk : Disk} :
    SpoolReadable uplink buffers disk ↔
      ∃ loaded, loadSpool uplink disk buffers.spool = .ok loaded := by
  unfold SpoolReadable loadSpool
  cases uplink.spools with
  | false =>
    refine iff_of_true (fun same => nomatch same) ?_
    cases buffers.spool <;> exact ⟨_, rfl⟩
  | true =>
    cases buffers.spool with
    | none => exact iff_of_true (fun _ _ same => nomatch same) ⟨_, rfl⟩
    | some lines =>
      simp only [true_imp_iff, Option.some.injEq, forall_eq', if_true, bind_eq_ok]
      rw [← exists_convert]
      exact ⟨fun ⟨reads, loaded, converted⟩ => ⟨loaded, (), reads, converted⟩,
        fun ⟨loaded, _, reads, converted⟩ => ⟨reads, loaded, converted⟩⟩

/-- What is asked of the events loaded is asked of the lines of the spool. -/
theorem recovers_iff {loaded : List (Stamped Value)}
    (read : loadSpool uplink weather.disk buffers.spool = .ok loaded) :
    Recovers uplink weather extra buffers ↔
      ((∀ event ∈ loaded, HasKind event.content) ∧
        (∀ event ∈ buffers.outbox, HasKind event.content) ∧ ∀ event ∈ extra, HasKind event) ∧
      (∀ attempt < telemetryAttempts, weather.Fails attempt) ∧
      (uplink.spools = true → weather.disk.opening = .ok () ∧
        weather.disk.replacing = .ok () ∧ ∀ event ∈ loaded ++ buffers.outbox,
          ∃ text, uplink.json.dumps event.content = .ok text) := by
  cases spools : uplink.spools with
  | false =>
    rw [loaded_of_not_spools read spools]
    constructor
    · intro recovers
      exact ⟨⟨List.forall_mem_nil _, recovers.numbered, recovers.extra⟩,
        recovers.failed, fun same => nomatch same⟩
    · rintro ⟨⟨_, numbered, extra⟩, failed, _⟩
      exact ⟨numbered, extra, failed, fun same => (nomatch spools.symm.trans same),
        fun same => (nomatch spools.symm.trans same)⟩
  | true =>
    have lines (holds : Value → Prop) := forall_converted (converted_of_read read spools) holds
    simp only [true_imp_iff, List.forall_mem_append, lines HasKind,
      lines fun event => ∃ text, uplink.json.dumps event = .ok text]
    constructor
    · intro recovers
      exact ⟨⟨fun line member event loads => (recovers.spooled spools line member event loads).1,
          recovers.numbered, recovers.extra⟩, recovers.failed,
        (recovers.written spools).1, (recovers.written spools).2.1,
        fun line member event loads => (recovers.spooled spools line member event loads).2,
        (recovers.written spools).2.2⟩
    · rintro ⟨⟨kinds, numbered, extra⟩, failed, opens, replaces, texts, dumped⟩
      exact ⟨numbered, extra, failed,
        fun _ line member event loads =>
          ⟨kinds line member event loads, texts line member event loads⟩,
        fun _ => ⟨opens, replaces, dumped⟩⟩

variable (uplink weather extra buffers)

/-- A flush that is not acknowledged keeps every event, in the same order, exactly when the outbox
is empty, when it stops before it takes anything, or when it restores what it took. -/
theorem unacknowledged_keeps_iff (bounded : buffers.Bounded)
    (unacknowledged : (final (flush uplink weather extra pulse) buffers).acknowledged =
      buffers.acknowledged) :
    Keeps uplink.json buffers (final (flush uplink weather extra pulse) buffers) ↔
      buffers.outbox = [] ∨ weather.httpx = false ∨ ¬ SpoolReadable uplink buffers weather.disk ∨
        Recovers uplink weather extra buffers := by
  have loses (able : weather.httpx = true) {loaded : List (Stamped Value)}
      (read : loadSpool uplink weather.disk buffers.spool = .ok loaded)
      (fails : ¬ Recovers uplink weather extra buffers) (seq : Nat) {left : Buffers}
      (waited : Awaited { buffers with outbox := [], seq := seq } left) :
      Keeps uplink.json buffers left ↔ buffers.outbox = [] ∨ weather.httpx = false ∨
        ¬ SpoolReadable uplink buffers weather.disk ∨ Recovers uplink weather extra buffers := by
    obtain ⟨held, fresh⟩ := held_of_awaited waited
    by_cases empty : buffers.outbox = []
    · refine iff_of_true (keeps_of_grows (inMemory left.outbox) ?_) (.inl empty)
      rw [held, Buffers.held, empty]
      simp [inMemory]
    · refine iff_of_false (not_keeps_of_replaced bounded empty ?_ fresh) ?_
      · unfold Buffers.lines
        rw [waited.spool]
      · simp [empty, able, spoolReadable_iff, read, fails]
  cases ends_of_unacknowledged uplink weather extra pulse buffers unacknowledged with
  | untouched unable same =>
    rw [same]
    refine iff_of_true (keeps_of_grows [] (List.append_nil _).symm) (.inr ?_)
    exact unable.imp_right fun unread => .inl fun readable =>
      (spoolReadable_iff.mp readable).elim unread
  | unlined able loaded read unlined seq taken =>
    exact loses able read (fun recovers => unlined ((recovers_iff read).mp recovers).1) seq
      (taken ▸ Std.Refl.refl _)
  | interrupted able loaded read interrupted seq waited =>
    obtain ⟨attempt, within, survives⟩ := interrupted
    exact loses able read (fun recovers => survives (recovers.failed attempt within)) seq waited
  | restored able loaded read lined failed seq waiting waited restores =>
    rw [restores, keeps_restored_iff bounded read waited, recovers_iff read,
      and_iff_right lined, and_iff_right failed]
    refine or_congr_right ?_
    simp [able, spoolReadable_iff, read]

end Flush

/-! ### One acknowledgement in the outbox -/

/-- The acknowledgement of a replan. -/
def replanAck (id : PyStr) : Value :=
  .dict [field "kind" (.str "replan_applied"), field "payload" (.dict [field "id" (.str id)])]

/-- The text of the acknowledgement. -/
def replanText (id : PyStr) : PyStr :=
  PyStr.ofString "\x7b\"kind\": \"replan_applied\", \"payload\": \x7b\"id\": \"" ++ id ++
    PyStr.ofString "\"\x7d\x7d"

/-- `json` on the acknowledgements of two replans. -/
def trialJson : Json where
  dumps event :=
    if event.eq (replanAck "r1") then .ok (replanText "r1")
    else if event.eq (replanAck "r2") then .ok (replanText "r2")
    else .error .typeError
  loads text :=
    if text = replanText "r1" then .ok (replanAck "r1")
    else if text = replanText "r2" then .ok (replanAck "r2")
    else .error .valueError

def trialUplink : Uplink where
  nodeId := "n0"
  runId := "n0-1f"
  spoolPath := some "spool.jsonl"
  json := trialJson

/-- A session that has just acknowledged a replan. -/
def acking : Buffers := append {} (replanAck "r1")

/-- Every request ends so. -/
def endingAs (fault : Fault) : Weather where
  clock _ := "2026-01-01T00:00:00+00:00"
  idempotencyKey := "5e"
  postings _ := { answer := .error fault }

theorem bounded_acking : acking.Bounded := by
  intro stamp member
  rw [stamps_held] at member
  cases List.mem_singleton.mp member
  exact Nat.zero_lt_one

/-- One replan is acknowledged in the spool, the next in the outbox. -/
def backlog : Buffers :=
  append { spool := some [⟨0, replanText "r1"⟩], issued := 1 } (replanAck "r2")

theorem bounded_backlog : backlog.Bounded := by
  intro stamp member
  rw [stamps_held] at member
  change stamp ∈ [0, 1] at member
  simp only [List.mem_cons, List.not_mem_nil, or_false] at member
  rcases member with rfl | rfl
  · exact Nat.zero_lt_two
  · exact Nat.one_lt_two

theorem unacknowledged_keeps_spooled :
    Keeps trialJson backlog (final (flush trialUplink (endingAs .transport) [] {}) backlog) := by
  have recovers : Recovers trialUplink (endingAs .transport) [] backlog :=
    { numbered := by
        rintro event (_ | ⟨_, ⟨⟩⟩)
        exact ⟨_, rfl⟩
      extra := List.forall_mem_nil _
      failed := fun _ _ => ⟨rfl, fun _ => rfl⟩
      spooled := by
        rintro _ line (_ | ⟨_, ⟨⟩⟩) event loads
        cases loads.symm.trans (rfl : trialJson.loads (replanText "r1") = .ok (replanAck "r1"))
        exact ⟨⟨_, rfl⟩, _, rfl⟩
      written := fun _ => ⟨rfl, rfl, by
        rintro event (_ | ⟨_, ⟨⟩⟩)
        exact ⟨_, rfl⟩⟩ }
  exact (unacknowledged_keeps_iff trialUplink (endingAs .transport) [] {} backlog bounded_backlog
    rfl).mpr (.inr (.inr (.inr recovers)))

/-- A task that is cancelled while it waits for the answer loses the acknowledgement. -/
theorem cancelled_loses :
    ¬ ∀ uplink weather extra pulse buffers, buffers.Bounded →
      (final (flush uplink weather extra pulse) buffers).acknowledged = buffers.acknowledged →
      Keeps uplink.json buffers (final (flush uplink weather extra pulse) buffers) := by
  intro keeps
  have kept := (keeps trialUplink (endingAs .cancelled) [] {} acking bounded_acking rfl).sublist
  have lost : stamps (final (flush trialUplink (endingAs .cancelled) [] {}) acking).held = [] := rfl
  rw [lost] at kept
  exact absurd kept (by decide)

end AxorWrap.Plane
