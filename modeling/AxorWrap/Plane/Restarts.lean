/-
This file says that what is once in the spool is not lost when the process ends.

A process that starts again finds the spool of the one before it, while its outbox is empty and
its counter is back at zero. It takes a run id of its own: the backend knows an event by run, node
and number, and would take the events of the new process for those of the old one. So the lines of
the spool stay there, through every flush and every restart and in their order, until the backend
has stored all of them; and what was acknowledged is stored.

A process may be killed in the middle of a flush. On disk that comes to a flush that is cancelled,
or that meets an error of the disk, and a restart after it.
-/

import AxorWrap.Plane.Resending
import Mathlib.Logic.Relation

namespace AxorWrap.Plane

open Python Methods Checks Scripts Machines Dedup

/-! ### One process after another -/

/-- An act of a process, or its end and the start of the next one under another run id. -/
inductive Episode
  | act (act : Act)
  | restart (runId : PyStr)

/-- A process, by its run id, with what it and the backend hold. -/
structure Life where
  runId : PyStr
  relay : Relay

/-- The client of the process with this run id. -/
def Uplink.inRun (uplink : Uplink) (runId : PyStr) : Uplink := { uplink with runId := runId }

variable (uplink : Uplink)

/-- The next process has the spool file, and nothing of what the last one had in memory. -/
def Life.next (life : Life) : Episode → Life
  | .act act => { life with relay := life.relay.next (uplink.inRun life.runId) act }
  | .restart runId =>
    { runId := runId
      relay :=
        { life.relay with
          buffers := { life.relay.buffers with outbox := [], seq := 0 } } }

/-- Processes that follow each other, each episode answered without a value. -/
def living : Machine Life Episode Unit where
  answer _ _ := ()
  next := Life.next uplink

/-- The lines of the spool file. -/
def Life.lines (life : Life) : List (Stamped PyStr) := life.relay.buffers.lines

def actsOf (episodes : List Episode) : List Act :=
  episodes.filterMap fun
    | .act act => some act
    | .restart _ => none

/-- The run ids under which processes start. -/
def runIdsOf (episodes : List Episode) : List PyStr :=
  episodes.filterMap fun
    | .act _ => none
    | .restart runId => some runId

/-! ### Lines that stay -/

/-- A line read and written again. -/
def Again (json : Json) (old new : PyStr) : Prop :=
  ∃ event, json.loads old = .ok event ∧ json.dumps event = .ok new

/-- The same event, on a line that was written again any number of times. -/
def SameLine (json : Json) (old new : Stamped PyStr) : Prop :=
  old.stamp = new.stamp ∧ Relation.ReflTransGen (Again json) old.content new.content

/-- The lines lead the spool, in their order. -/
def Leads (json : Json) (lines spool : List (Stamped PyStr)) : Prop :=
  ∃ kept, List.Forall₂ (SameLine json) lines kept ∧ kept <+: spool

section Leads

variable {json : Json} {first second third : List (Stamped PyStr)}

theorem forall₂_of_prefix {α β : Type} {R : α → β → Prop} {items front : List α} {images : List β}
    (paired : List.Forall₂ R items images) (isPrefix : front <+: items) :
    ∃ others, List.Forall₂ R front others ∧ others <+: images := by
  refine ⟨images.take front.length, ?_, List.take_prefix _ _⟩
  rw [List.prefix_iff_eq_take.mp isPrefix]
  convert List.forall₂_take front.length paired using 2
  rw [List.length_take, min_eq_left isPrefix.length_le]

theorem Leads.refl (lines : List (Stamped PyStr)) : Leads json lines lines :=
  ⟨lines, List.forall₂_same.mpr fun _ _ => ⟨rfl, .refl⟩, List.prefix_rfl⟩

theorem Leads.trans (one : Leads json first second) (two : Leads json second third) :
    Leads json first third := by
  obtain ⟨kept, paired, leads⟩ := one
  obtain ⟨again, rewritten, leadsAgain⟩ := two
  obtain ⟨left, last, isPrefix⟩ := forall₂_of_prefix rewritten leads
  refine ⟨left, forall₂_comp (fun old line new early late => ?_) paired last,
    isPrefix.trans leadsAgain⟩
  exact ⟨early.1.trans late.1, early.2.trans late.2⟩

theorem Leads.stamps (leads : Leads json first second) : stamps first <+: stamps second := by
  obtain ⟨kept, paired, isPrefix⟩ := leads
  have same : Plane.stamps first = Plane.stamps kept := by
    unfold Plane.stamps
    refine List.forall₂_eq_eq_eq ▸ ?_
    rw [List.forall₂_map_left_iff, List.forall₂_map_right_iff]
    exact paired.imp fun _ _ one => one.1
  rw [same]
  exact isPrefix.map _

end Leads

/-! ### The lines of one flush -/

section Deliver

variable {uplink} {weather : Weather} {buffers waiting : Buffers} {loaded : List (Stamped Value)}
  {seq : Nat} {batch : Batch}

theorem lines_awaited (waited : Awaited { buffers with outbox := [], seq := seq } waiting) :
    waiting.lines = buffers.lines := by
  unfold Buffers.lines
  rw [waited.spool]

/-- Restoring writes the lines again, with what was in the outbox behind them. -/
theorem leads_restored (read : loadSpool uplink weather.disk buffers.spool = .ok loaded)
    (waited : Awaited { buffers with outbox := [], seq := seq } waiting) :
    Leads uplink.json buffers.lines
      (final (restore uplink weather.disk (loaded ++ buffers.outbox)) waiting).lines := by
  have stays : Leads uplink.json buffers.lines waiting.lines := by
    rw [lines_awaited waited]
    exact Leads.refl _
  unfold restore
  cases spools : uplink.spools with
  | false => exact stays
  | true =>
    rw [if_pos rfl, final_saveSpool, if_pos spools]
    cases wrote : saved uplink.json weather.disk (loaded ++ buffers.outbox) waiting.spool with
    | error error => exact stays
    | ok left =>
      have reads := convert_eq_ok.mp (converted_of_read read spools)
      obtain ⟨kept, written, isPrefix⟩ := forall₂_of_prefix
        (convert_eq_ok.mp (converted_of_saved wrote)) (List.prefix_append loaded buffers.outbox)
      refine ⟨kept, forall₂_comp (fun line event again one two => ?_) reads written, isPrefix⟩
      exact ⟨one.1.symm.trans two.1.symm, .single ⟨_, one.2, two.2⟩⟩

/-- A flush that lined up its events leaves their lines where they are, unless it is
acknowledged with all of them; and without a spool even then. -/
theorem deliver_ends (read : loadSpool uplink weather.disk buffers.spool = .ok loaded)
    (durable : batch.durable = loaded ++ buffers.outbox) (seq : Nat) :
    let left := final (deliver uplink weather batch) { buffers with outbox := [], seq := seq }
    (left.acknowledged = buffers.acknowledged ∧ Leads uplink.json buffers.lines left.lines) ∨
      weather.Acknowledges ∧ left.acknowledged = buffers.acknowledged ++ [stamps batch.durable] ∧
        (uplink.spools = false → Leads uplink.json buffers.lines left.lines) := by
  intro left
  let taken : Buffers := { buffers with outbox := [], seq := seq }
  have waited : Awaited taken (final (postTelemetry uplink weather batch.lines) taken) :=
    awaited_postAttempts _ _ _ _
  have stays : Leads uplink.json buffers.lines
      (final (postTelemetry uplink weather batch.lines) taken).lines := by
    rw [lines_awaited waited]
    exact Leads.refl _
  have made : left = final (deliver uplink weather batch) taken := rfl
  unfold deliver at made
  rw [final_bind, outcome_observe, final_observe] at made
  match ended : outcome (postTelemetry uplink weather batch.lines) taken with
  | .error .transport =>
    rw [ended] at made
    refine .inl ⟨?_, ?_⟩
    · rw [made]
      show (final (restore uplink weather.disk batch.durable) _).acknowledged = _
      unfold restore
      split
      · exact (acknowledged_saveSpool _ _ _ _).trans waited.acknowledged
      · exact waited.acknowledged
    · rw [made]
      show Leads _ _ (final (restore uplink weather.disk batch.durable) _).lines
      rw [durable]
      exact leads_restored read waited
  | .error .cancelled =>
    rw [ended] at made
    exact .inl ⟨made ▸ waited.acknowledged, made ▸ stays⟩
  | .error (.python error) =>
    rw [ended] at made
    exact .inl ⟨made ▸ waited.acknowledged, made ▸ stays⟩
  | .ok () =>
    rw [ended] at made
    refine .inr ⟨(outcome_postAttempts_eq_ok _ _ _ _).mp ended, ?_, fun spools => ?_⟩
    · rw [made]
      exact (acknowledged_delivered _ _ _ _ _).trans (congrArg (· ++ _) waited.acknowledged)
    · have unsaved (state : Buffers) :
          final (saveSpool uplink weather.disk []) state = state := by
        rw [final_saveSpool, if_neg (by simp [spools])]
      rw [made]
      show Leads _ _ (final (do
        modify (acknowledge batch.durable)
        saveSpool uplink weather.disk []
        notify weather batch.events : TelemetryMethod Unit) _).lines
      rw [final_bind, outcome_modify, final_modify, final_bind, unsaved]
      cases outcome (saveSpool uplink weather.disk []) _ with
      | error fault => exact stays
      | ok value =>
        have told := awaited_notify weather batch.events
          (acknowledge batch.durable (final (postTelemetry uplink weather batch.lines) taken))
        unfold Buffers.lines at stays ⊢
        rw [told.spool]
        exact stays

end Deliver

/-! ### The backend and a process -/

/-- The numbers that the backend knows of the run are behind the counter, and what is acknowledged
is stored. -/
structure Life.Sound (life : Life) : Prop where
  counted : ∀ record ∈ life.relay.backend.records, record.runId = life.runId →
    ∃ seq < life.relay.buffers.seq, record.identity = identityOf (uplink.inRun life.runId) seq
  acknowledged : ∀ stamp ∈ life.relay.buffers.acknowledged.flatten,
    stamp ∈ stored life.relay.backend

/-- The keys and the run ids to come are new. -/
structure Life.Fresh (life : Life) (episodes : List Episode) : Prop where
  keys : (keysDrawn (actsOf episodes)).Nodup
  unusedKeys : ∀ key ∈ keysDrawn (actsOf episodes), key ∉ life.relay.backend.keys
  runs : (life.runId :: runIdsOf episodes).Nodup
  unusedRuns : ∀ record ∈ life.relay.backend.records, record.runId ∉ runIdsOf episodes

/-- What was stored is stored, and the lines of the spool lead it or are stored as well. -/
structure Life.Carries (life after : Life) : Prop where
  stored : ∀ stamp ∈ stored life.relay.backend, stamp ∈ stored after.relay.backend
  lines : Leads uplink.json life.lines after.lines ∨
    ∀ stamp ∈ stamps life.lines, stamp ∈ Plane.stored after.relay.backend

variable {uplink} {life after : Life}

theorem Life.Carries.refl (life : Life) : life.Carries uplink life :=
  ⟨fun _ member => member, .inl (Leads.refl _)⟩

theorem Life.Carries.trans {third : Life} (one : life.Carries uplink after)
    (two : after.Carries uplink third) : life.Carries uplink third := by
  refine ⟨fun stamp member => two.stored stamp (one.stored stamp member), ?_⟩
  rcases one.lines with leads | sent
  · rcases two.lines with again | sent
    · exact .inl (leads.trans again)
    · exact .inr fun stamp member => sent stamp (leads.stamps.subset member)
  · exact .inr fun stamp member => two.stored stamp (sent stamp member)

/-- A batch of the run, numbered on from the counter, is new to the backend. -/
theorem Life.Sound.submitted (sound : life.Sound uplink) {key : PyStr}
    (fresh : key ∉ life.relay.backend.keys) {records : List Record} {count : Nat}
    (numbered : records.map Record.identity =
      (List.range' life.relay.buffers.seq count).map (identityOf (uplink.inRun life.runId))) :
    life.relay.backend.submit Record.identity key records =
      ⟨life.relay.backend.keys ++ [key], life.relay.backend.records ++ records⟩ := by
  refine submit_new fresh (fun record member known => ?_) ?_
  · have identity := List.mem_map_of_mem (f := Record.identity) member
    rw [numbered] at identity
    obtain ⟨number, within, same⟩ := List.mem_map.mp identity
    obtain ⟨old, isOld, again⟩ := List.mem_map.mp known
    have run : old.runId = life.runId := congrArg Prod.fst (again.trans same.symm)
    obtain ⟨before, earlier, identified⟩ := sound.counted old isOld run
    have equal := identityOf_injective (same.trans (again.symm.trans identified))
    have := (List.mem_range'_1.mp within).1
    omega
  · rw [numbered]
    exact List.Nodup.map identityOf_injective List.nodup_range'

/-- What an act of a process keeps: the process stays sound, what was held is carried on, and what
is new in the backend is of its run. -/
structure Life.Keeps (uplink : Uplink) (life after : Life) : Prop where
  sound : after.Sound uplink
  carries : life.Carries uplink after
  records : ∀ record ∈ after.relay.backend.records,
    record ∈ life.relay.backend.records ∨ record.runId = life.runId

/-- The backend has received nothing new. -/
theorem Life.Sound.unstored (sound : life.Sound uplink) {left : Buffers}
    (acknowledged : left.acknowledged = life.relay.buffers.acknowledged)
    (counted : life.relay.buffers.seq ≤ left.seq)
    (leads : Leads uplink.json life.lines left.lines) :
    life.Keeps uplink ⟨life.runId, ⟨left, life.relay.backend⟩⟩ where
  sound :=
    { counted := fun record member run => by
        obtain ⟨number, before, same⟩ := sound.counted record member run
        exact ⟨number, before.trans_le counted, same⟩
      acknowledged := by
        rw [acknowledged]
        exact sound.acknowledged }
  carries := ⟨fun _ member => member, .inl leads⟩
  records := fun _ member => .inl member

/-- The backend has stored the batch of a flush, which is acknowledged or keeps its lines. -/
theorem Life.Sound.received (sound : life.Sound uplink) {batch : Batch} {left : Buffers}
    {keys : List PyStr} (enough : batch.durable.length ≤ batch.lines.length)
    (numbered : (batch.records life.runId).map Record.identity =
      (List.range' life.relay.buffers.seq batch.lines.length).map
        (identityOf (uplink.inRun life.runId)))
    (seq : left.seq = life.relay.buffers.seq + batch.lines.length)
    (acknowledged : left.acknowledged = life.relay.buffers.acknowledged ∨
      left.acknowledged = life.relay.buffers.acknowledged ++ [stamps batch.durable])
    (lines : Leads uplink.json life.lines left.lines ∨
      ∀ stamp ∈ stamps life.lines, stamp ∈ stamps batch.durable) :
    life.Keeps uplink ⟨life.runId,
      ⟨left, ⟨keys, life.relay.backend.records ++ batch.records life.runId⟩⟩⟩ := by
  have stores : stored ⟨keys, life.relay.backend.records ++ batch.records life.runId⟩ =
      stored life.relay.backend ++ stamps batch.durable := by
    rw [← (records_spec enough life.runId).1]
    exact List.filterMap_append
  have ofRun : ∀ record ∈ batch.records life.runId, record.runId = life.runId := by
    intro record member
    obtain ⟨_, _, rfl⟩ := List.mem_map.mp member
    rfl
  refine ⟨⟨fun record member run => ?_, fun stamp member => ?_⟩,
    ⟨fun stamp member => ?_, lines.imp_right fun sent stamp member => ?_⟩,
    fun record member => (List.mem_append.mp member).imp_right (ofRun record)⟩
  · show ∃ number < left.seq, _
    rw [seq]
    rcases List.mem_append.mp member with old | new
    · obtain ⟨number, before, same⟩ := sound.counted record old run
      exact ⟨number, before.trans_le (Nat.le_add_right _ _), same⟩
    · have identity := List.mem_map_of_mem (f := Record.identity) new
      rw [numbered] at identity
      obtain ⟨number, within, same⟩ := List.mem_map.mp identity
      exact ⟨number, (List.mem_range'_1.mp within).2, same.symm⟩
  · rw [stores, List.mem_append]
    rcases acknowledged with same | same
    · exact .inl (sound.acknowledged stamp (same ▸ member))
    · change stamp ∈ left.acknowledged.flatten at member
      rw [same, List.flatten_append, List.mem_append, List.flatten_singleton] at member
      exact member.imp_left (sound.acknowledged stamp)
  · rw [stores]
    exact List.mem_append_left _ member
  · show stamp ∈ stored _
    rw [stores]
    exact List.mem_append_right _ (sent stamp member)

/-! ### The episodes -/

/-- A flush that lined up its events. -/
theorem Life.Sound.delivered (sound : life.Sound uplink) {passage : Passage} {extra : List Value}
    {pulse : Pulse} (fresh : passage.weather.idempotencyKey ∉ life.relay.backend.keys)
    {batch : Batch} (gathered : outcome (gather (uplink.inRun life.runId) passage.weather extra
      pulse) life.relay.buffers = .ok batch) :
    life.Keeps uplink ⟨life.runId,
      ⟨final (deliver (uplink.inRun life.runId) passage.weather batch)
        (final (gather (uplink.inRun life.runId) passage.weather extra pulse) life.relay.buffers),
      life.relay.backend.receive (uplink.inRun life.runId) passage batch⟩⟩ := by
  obtain ⟨loaded, _, read, _, _, _⟩ := gathered_ok _ _ _ _ _ gathered
  obtain ⟨⟨seq, taken⟩, _, batches⟩ := gather_of_read _ _ extra pulse _ read
  have durable := batches batch gathered
  obtain ⟨enough, moved, numbered⟩ := gathered_lines _ gathered
  have ends := deliver_ends read durable seq
  have counted := uncounted_deliver (uplink.inRun life.runId) passage.weather batch
    (final (gather (uplink.inRun life.runId) passage.weather extra pulse) life.relay.buffers)
  rw [Uncounted, moved] at counted
  rw [← taken] at ends
  obtain ⟨received, unreceived⟩ := receive_eq (uplink.inRun life.runId) life.relay.backend passage
    batch
  by_cases reaches : passage.Reaches
  · have identities := (records_spec enough life.runId).2.trans (numbered none)
    rw [received reaches]
    have stores := sound.submitted fresh identities
    rw [show (uplink.inRun life.runId).runId = life.runId from rfl, stores]
    refine sound.received enough identities counted (ends.imp And.left fun both => both.2.1) ?_
    rcases ends with ⟨_, leads⟩ | ⟨_, _, unspooled⟩
    · exact .inl leads
    · cases spools : uplink.spools with
      | false => exact .inl (unspooled spools)
      | true =>
        refine .inr fun stamp member => ?_
        rw [durable, stamps_append, stamps_convert (converted_of_read read spools)]
        exact List.mem_append_left _ member
  · rw [unreceived reaches]
    have unacknowledged := ends.resolve_right fun both =>
      reaches (Passage.reaches_of_acknowledges both.1)
    exact sound.unstored unacknowledged.1 (counted ▸ Nat.le_add_right _ _) unacknowledged.2

theorem Life.Sound.flushed (sound : life.Sound uplink) (passage : Passage) (extra : List Value)
    (pulse : Pulse) (fresh : passage.weather.idempotencyKey ∉ life.relay.backend.keys) :
    life.Keeps uplink (life.next uplink (.act (.flush passage extra pulse))) := by
  unfold Life.next Relay.next
  dsimp only
  cases able : passage.weather.httpx with
  | false =>
    unfold flush
    rw [able]
    exact sound.unstored rfl le_rfl (Leads.refl _)
  | true =>
    rw [flush_of_httpx _ passage.weather extra pulse able, final_bind, if_pos rfl]
    cases gathered : outcome (gather (uplink.inRun life.runId) passage.weather extra pulse)
        life.relay.buffers with
    | error fault =>
      have grown := @grown_gather (uplink.inRun life.runId) passage.weather extra pulse
        life.relay.buffers
      rcases gather_writes (uplink.inRun life.runId) passage.weather extra pulse
        life.relay.buffers with same | ⟨seq, taken⟩
      · simp only [same]
        exact sound.unstored rfl le_rfl (Leads.refl _)
      · simp only [taken] at grown ⊢
        exact sound.unstored rfl grown (Leads.refl _)
    | ok batch => exact sound.delivered fresh gathered

/-- An act of the process keeps what it holds, and draws no key that is to come. -/
theorem Life.Sound.acted (sound : life.Sound uplink) {act : Act} {rest : List Episode}
    (fresh : life.Fresh (.act act :: rest)) :
    life.Keeps uplink (life.next uplink (.act act)) ∧
      (life.next uplink (.act act)).Fresh rest := by
  have split : keysDrawn (actsOf (.act act :: rest)) = keysDrawn [act] ++ keysDrawn (actsOf rest) :=
    List.filterMap_append (l := [act])
  have distinct := fresh.keys
  have unused := fresh.unusedKeys
  rw [split] at distinct unused
  rw [List.nodup_append] at distinct
  have keeps : life.Keeps uplink (life.next uplink (.act act)) := by
    cases act with
    | append event => exact sound.unstored rfl le_rfl (Leads.refl _)
    | flush passage extra pulse =>
      exact sound.flushed passage extra pulse
        (unused _ (List.mem_append_left _ (List.mem_singleton_self _)))
  refine ⟨keeps, distinct.2.1, fun key drawn known => ?_, fresh.runs, fun record member => ?_⟩
  · rcases mem_keys_next known with old | new
    · exact unused key (List.mem_append_right _ drawn) old
    · exact distinct.2.2 key new key drawn rfl
  · rcases keeps.records record member with old | run
    · exact fresh.unusedRuns record old
    · rw [run]
      exact (List.nodup_cons.mp fresh.runs).1

/-- Under a run id of its own a process starts with no number that the backend knows. -/
theorem Life.Sound.restarted (sound : life.Sound uplink) {runId : PyStr} {rest : List Episode}
    (fresh : life.Fresh (.restart runId :: rest)) :
    (life.next uplink (.restart runId)).Sound uplink ∧
      (life.next uplink (.restart runId)).Fresh rest := by
  refine ⟨⟨fun record member run => ?_, sound.acknowledged⟩, fresh.keys, fresh.unusedKeys,
    (List.nodup_cons.mp fresh.runs).2, fun record member later => ?_⟩
  · exact absurd (run ▸ List.mem_cons_self) (fresh.unusedRuns record member)
  · exact fresh.unusedRuns record member (List.mem_cons_of_mem _ later)

/-- The episodes before the last ones keep what is held. -/
theorem Life.Sound.ran {episodes rest : List Episode} (sound : life.Sound uplink)
    (fresh : life.Fresh (episodes ++ rest)) :
    ((living uplink).run life episodes).Sound uplink ∧
      life.Carries uplink ((living uplink).run life episodes) ∧
        ((living uplink).run life episodes).Fresh rest := by
  induction episodes generalizing life with
  | nil => exact ⟨sound, Life.Carries.refl life, fresh⟩
  | cons episode others inductionHypothesis =>
    have step : (life.next uplink episode).Sound uplink ∧
        life.Carries uplink (life.next uplink episode) ∧
          (life.next uplink episode).Fresh (others ++ rest) := by
      cases episode with
      | act act =>
        obtain ⟨keeps, left⟩ := sound.acted fresh
        exact ⟨keeps.sound, keeps.carries, left⟩
      | restart runId =>
        obtain ⟨sound, left⟩ := sound.restarted fresh
        exact ⟨sound, ⟨fun _ member => member, .inl (Leads.refl _)⟩, left⟩
    obtain ⟨sound, carries, left⟩ := step
    obtain ⟨sound, later, last⟩ := inductionHypothesis sound left
    exact ⟨sound, carries.trans later, last⟩

variable (uplink)

/-- **The spool outlives its processes.** When every flush draws a key of its own and every process
a run id of its own, the lines that are in the spool at any time lead it ever after, or are all
stored by the backend; and what is acknowledged is stored. -/
theorem spool_survives (start : Life) (unstored : start.relay.backend = {})
    (unacknowledged : start.relay.buffers.acknowledged = []) (earlier later : List Episode)
    (keys : (keysDrawn (actsOf (earlier ++ later))).Nodup)
    (runs : (start.runId :: runIdsOf (earlier ++ later)).Nodup) :
    let found := (living uplink).run start earlier
    let left := (living uplink).run found later
    (Leads uplink.json found.lines left.lines ∨
        ∀ stamp ∈ stamps found.lines, stamp ∈ stored left.relay.backend) ∧
      ∀ stamp ∈ left.relay.buffers.acknowledged.flatten, stamp ∈ stored left.relay.backend := by
  intro found left
  have initially : start.Sound uplink := by
    refine ⟨fun record member => ?_, fun stamp member => ?_⟩
    · rw [unstored] at member
      cases member
    · rw [unacknowledged] at member
      cases member
  have fresh : start.Fresh (earlier ++ later) := by
    refine ⟨keys, fun key _ known => ?_, runs, fun record member => ?_⟩
    · rw [unstored] at known
      cases known
    · rw [unstored] at member
      cases member
  obtain ⟨sound, _, rest⟩ := initially.ran fresh
  rw [← List.append_nil later] at rest
  obtain ⟨soundLeft, carries, _⟩ := sound.ran rest
  exact ⟨carries.lines, soundLeft.acknowledged⟩

/-! ### A process that is started again -/

/-- A process before its first event. -/
def newborn : Life := ⟨"n0-1f", ⟨{}, {}⟩⟩

/-- An acknowledgement is spooled, for the plane cannot be reached. -/
def outage : List Episode :=
  [.act (.append (replanAck "r1")), .act (.flush (unanswered false) [] {})]

/-- The next process starts when the plane can be reached again. -/
def comeback : List Episode := [.restart "n0-2e", .act (.flush answering [] {})]

theorem spool_survives_comeback :
    let found := (living trialUplink).run newborn outage
    let left := (living trialUplink).run found comeback
    (Leads trialJson found.lines left.lines ∨
        ∀ stamp ∈ stamps found.lines, stamp ∈ stored left.relay.backend) ∧
      ∀ stamp ∈ left.relay.buffers.acknowledged.flatten, stamp ∈ stored left.relay.backend :=
  spool_survives trialUplink newborn rfl rfl outage comeback (by decide +kernel)
    (by decide +kernel)

/-- Every request is answered, under another key. -/
def answeringAgain : Passage where
  weather := { answering.weather with idempotencyKey := "7a" }
  reaches _ := true
  answered _ _ := rfl

/-- A process that starts again under the run id it had: what it sends is taken for known. -/
example :
    let left := ((living trialUplink).run newborn [.act (.append (replanAck "r1")),
      .act (.flush answering [] {}), .restart "n0-1f", .act (.append (replanAck "r2")),
      .act (.flush answeringAgain [] {})]).relay
    left.buffers.acknowledged = [[0], [1]] ∧ stored left.backend = [0] := by
  decide +kernel

end AxorWrap.Plane
