/-
This file states what the desired state of a node is for, with no code in sight.
A posture is a version, a stop, a pause and a budget cap; a command asks for any
of the last three. Stop absorbs whatever comes after it, the cap only falls, and
a command no newer than the posture is nothing at all.

Two facts carry the plane protocol. A command only ever narrows a posture, so a
run of commands does. And where a run of fresh ascending commands ends has a
closed form: it is stopped when one of them stops it, paused as the last of them
up to that stop says, and capped by the least cap among those.
-/

import Mathlib.Data.Int.ConditionallyCompleteOrder
import Mathlib.Data.List.Sort
import Mathlib.Order.ConditionallyCompleteLattice.Basic

namespace AxorWrap.Plane

/-- What a command asks for. A field it leaves alone is `none`. -/
structure Desired where
  stop : Option Bool := none
  pause : Option Bool := none
  cap : Option Int := none
deriving DecidableEq, Repr

/-- The lattice fields of a node. A cap of `none` is no cap. -/
structure Posture where
  version : Int
  stopped : Bool
  paused : Bool
  cap : Option Int
deriving DecidableEq, Repr

/-! ### Caps -/

/-- A cap as a bound, with no cap as infinity. -/
def limit : Option Int → WithTop Int
  | none => ⊤
  | some cap => cap

/-- A requested cap replaces the one in force unless it is higher. -/
def tighten : Option Int → Option Int → Option Int
  | current, none => current
  | none, some requested => some requested
  | some cap, some requested => if requested > cap then some cap else some requested

/-- Tightening is the minimum. -/
theorem limit_tighten (current requested : Option Int) :
    limit (tighten current requested) = min (limit current) (limit requested) := by
  cases current with
  | none => cases requested <;> simp [tighten, limit]
  | some cap =>
    cases requested with
    | none => simp [tighten, limit]
    | some requested =>
      show limit (if requested > cap then some cap else some requested) =
        min (limit (some cap)) (limit (some requested))
      split
      · next above => exact (min_eq_left (WithTop.coe_le_coe.mpr (le_of_lt above))).symm
      · next within => exact (min_eq_right (WithTop.coe_le_coe.mpr (not_lt.mp within))).symm

/-! ### One command -/

/-- The fields after a command that is neither stale nor absorbed. -/
def Posture.set (posture : Posture) (desired : Desired) : Posture :=
  { posture with
    stopped := desired.stop.getD posture.stopped
    paused := desired.pause.getD posture.paused
    cap := tighten posture.cap desired.cap }

/-- The posture after a command. -/
def Posture.command (posture : Posture) (version : Int) (desired : Desired) : Posture :=
  if version ≤ posture.version then posture
  else if posture.stopped then { posture with version := version }
  else { posture.set desired with version := version }

/-- The posture after a list of commands. -/
def Posture.run (posture : Posture) (commands : List (Int × Desired)) : Posture :=
  commands.foldl (fun posture command => posture.command command.1 command.2) posture

theorem Posture.run_nil (posture : Posture) : posture.run [] = posture := rfl

theorem Posture.run_cons (posture : Posture) (command : Int × Desired)
    (rest : List (Int × Desired)) :
    posture.run (command :: rest) = (posture.command command.1 command.2).run rest := rfl

theorem Posture.run_append (posture : Posture) (first second : List (Int × Desired)) :
    posture.run (first ++ second) = (posture.run first).run second :=
  List.foldl_append

theorem Posture.command_stale {posture : Posture} {version : Int} {desired : Desired}
    (stale : version ≤ posture.version) : posture.command version desired = posture :=
  if_pos stale

theorem Posture.command_stopped {posture : Posture} {version : Int} {desired : Desired}
    (fresh : posture.version < version) (stopped : posture.stopped = true) :
    posture.command version desired = { posture with version := version } := by
  unfold Posture.command
  rw [if_neg (not_le.mpr fresh), if_pos stopped]

theorem Posture.command_fresh {posture : Posture} {version : Int} {desired : Desired}
    (fresh : posture.version < version) (running : posture.stopped = false) :
    posture.command version desired = { posture.set desired with version := version } := by
  unfold Posture.command
  rw [if_neg (not_le.mpr fresh), if_neg (by rw [running]; exact Bool.false_ne_true)]

/-- A command raises the version to its own, and never lowers it. -/
theorem Posture.command_version (posture : Posture) (version : Int) (desired : Desired) :
    (posture.command version desired).version = max posture.version version := by
  unfold Posture.command
  split
  · next stale => exact (max_eq_left stale).symm
  · next fresh => split <;> exact (max_eq_right (le_of_not_ge fresh)).symm

/-! ### Narrowing -/

/-- `after` is at least as narrow as `before`, and a stopped `before` is fixed but for its
version. -/
structure Posture.Narrows (before after : Posture) : Prop where
  version : before.version ≤ after.version
  stopped : before.stopped = true → after.stopped = true
  cap : limit after.cap ≤ limit before.cap
  absorbed : before.stopped = true → after.paused = before.paused ∧ after.cap = before.cap

instance : Std.Refl Posture.Narrows where
  refl _ := ⟨le_rfl, id, le_rfl, fun _ => ⟨rfl, rfl⟩⟩

instance : IsTrans Posture Posture.Narrows where
  trans _ _ _ first second :=
    { version := first.version.trans second.version
      stopped := fun stopped => second.stopped (first.stopped stopped)
      cap := second.cap.trans first.cap
      absorbed := fun stopped =>
        ⟨(second.absorbed (first.stopped stopped)).1.trans (first.absorbed stopped).1,
          (second.absorbed (first.stopped stopped)).2.trans (first.absorbed stopped).2⟩ }

/-- A command only narrows. -/
theorem Posture.narrows_command (posture : Posture) (version : Int) (desired : Desired) :
    posture.Narrows (posture.command version desired) := by
  by_cases stale : version ≤ posture.version
  · rw [Posture.command_stale stale]
    exact Std.Refl.refl posture
  have fresh : posture.version < version := not_le.mp stale
  cases stopped : posture.stopped with
  | true =>
    rw [Posture.command_stopped fresh stopped]
    exact ⟨le_of_lt fresh, id, le_rfl, fun _ => ⟨rfl, rfl⟩⟩
  | false =>
    rw [Posture.command_fresh fresh stopped]
    refine ⟨le_of_lt fresh, ?_, ?_, ?_⟩
    · rw [stopped]
      exact fun impossible => absurd impossible Bool.false_ne_true
    · exact (limit_tighten posture.cap desired.cap).trans_le (min_le_left _ _)
    · rw [stopped]
      exact fun impossible => absurd impossible Bool.false_ne_true

/-- A run of commands only narrows. -/
theorem Posture.narrows_run (posture : Posture) (commands : List (Int × Desired)) :
    posture.Narrows (posture.run commands) := by
  induction commands generalizing posture with
  | nil => exact Std.Refl.refl posture
  | cons command rest inductionHypothesis =>
    exact IsTrans.trans _ _ _ (posture.narrows_command command.1 command.2)
      (inductionHypothesis _)

/-! ### Where a run ends -/

/-- The commands up to and including the first that stops. -/
def upToStop : List Desired → List Desired
  | [] => []
  | desired :: rest => if desired.stop = some true then [desired] else desired :: upToStop rest

/-- Whether one of the commands stops. -/
def anyStop (commands : List Desired) : Bool :=
  commands.any fun desired => desired.stop = some true

/-- The last pause the commands ask for, or the one in force. -/
def lastPause (paused : Bool) (commands : List Desired) : Bool :=
  commands.foldl (fun paused desired => desired.pause.getD paused) paused

/-- The least cap among the one in force and those the commands ask for. -/
def leastCap (cap : Option Int) (commands : List Desired) : Option Int :=
  commands.foldl (fun cap desired => tighten cap desired.cap) cap

/-- The stop, the pause and the cap a running posture ends with after fresh commands: read off
the commands, with no posture in between. -/
def settlement (paused : Bool) (cap : Option Int) (commands : List Desired) :
    Bool × Bool × Option Int :=
  (anyStop commands, lastPause paused (upToStop commands), leastCap cap (upToStop commands))

/-- The stop, the pause and the cap of a posture. -/
def Posture.settled (posture : Posture) : Bool × Bool × Option Int :=
  (posture.stopped, posture.paused, posture.cap)

/-- A stopped posture keeps its fields through any run. -/
theorem Posture.settled_run_of_stopped (posture : Posture) (stopped : posture.stopped = true)
    (commands : List (Int × Desired)) : (posture.run commands).settled = posture.settled := by
  have narrows := posture.narrows_run commands
  unfold Posture.settled
  rw [(narrows.absorbed stopped).1, (narrows.absorbed stopped).2, narrows.stopped stopped, stopped]

/-- A running posture ends an ascending run of fresh commands with the settlement
of the commands. The induction is on the commands; each that does not stop leaves a running posture
below the rest. -/
theorem Posture.settled_run (posture : Posture) (running : posture.stopped = false)
    (commands : List (Int × Desired))
    (fresh : ∀ command ∈ commands, posture.version < command.1)
    (ascending : commands.Pairwise fun first second => first.1 < second.1) :
    (posture.run commands).settled =
      settlement posture.paused posture.cap (commands.map Prod.snd) := by
  induction commands generalizing posture with
  | nil =>
    simp [Posture.run_nil, Posture.settled, settlement, running, anyStop, upToStop, lastPause,
      leastCap]
  | cons command rest inductionHypothesis =>
    obtain ⟨above, restAscending⟩ := List.pairwise_cons.mp ascending
    rw [Posture.run_cons, Posture.command_fresh (fresh command List.mem_cons_self) running]
    by_cases stops : command.2.stop = some true
    · rw [Posture.settled_run_of_stopped _ (by simp [Posture.set, stops])]
      simp [Posture.settled, Posture.set, settlement, anyStop, upToStop, lastPause, leastCap, stops]
    · have stillRunning : command.2.stop.getD posture.stopped = false := by
        rw [running]
        match stop : command.2.stop with
        | none => rfl
        | some false => rfl
        | some true => exact absurd stop stops
      rw [inductionHypothesis _ stillRunning (fun other member => above other member)
        restAscending]
      simp [Posture.set, settlement, anyStop, upToStop, lastPause, leastCap, stops]

/-! ### Skipping what is stale -/

/-- The newest version after some commands. -/
def newest (version : Int) (commands : List (Int × Desired)) : Int :=
  commands.foldl (fun newest command => max newest command.1) version

theorem le_newest (version : Int) (commands : List (Int × Desired)) :
    version ≤ newest version commands := by
  induction commands generalizing version with
  | nil => exact le_rfl
  | cons command rest inductionHypothesis =>
    exact (le_max_left version command.1).trans (inductionHypothesis _)

theorem le_newest_of_mem {version : Int} {commands : List (Int × Desired)}
    {command : Int × Desired} (member : command ∈ commands) :
    command.1 ≤ newest version commands := by
  induction commands generalizing version with
  | nil => exact absurd member List.not_mem_nil
  | cons head rest inductionHypothesis =>
    rcases List.mem_cons.mp member with rfl | later
    · exact (le_max_right version command.1).trans (le_newest _ rest)
    · exact inductionHypothesis later

theorem Posture.version_run (posture : Posture) (commands : List (Int × Desired)) :
    (posture.run commands).version = newest posture.version commands := by
  induction commands generalizing posture with
  | nil => rfl
  | cons command rest inductionHypothesis =>
    rw [Posture.run_cons, inductionHypothesis, Posture.command_version]
    rfl

/-- Commands up to a version already reached can be left out of a run. -/
theorem Posture.run_filter {posture : Posture} {reached : Int}
    (below : reached ≤ posture.version) (commands : List (Int × Desired)) :
    posture.run (commands.filter fun command => reached < command.1) = posture.run commands := by
  induction commands generalizing posture with
  | nil => rfl
  | cons command rest inductionHypothesis =>
    have still : reached ≤ (posture.command command.1 command.2).version :=
      below.trans (posture.narrows_command command.1 command.2).version
    by_cases fresh : reached < command.1
    · rw [List.filter_cons_of_pos (by simpa using fresh), Posture.run_cons, Posture.run_cons,
        inductionHypothesis still]
    · rw [List.filter_cons_of_neg (by simpa using fresh), Posture.run_cons,
        Posture.command_stale ((not_lt.mp fresh).trans below), inductionHypothesis below]

/-- Where an ascending run ends, from any posture. -/
theorem Posture.settled_run_ascending (posture : Posture) (commands : List (Int × Desired))
    (ascending : commands.Pairwise fun first second => first.1 < second.1) :
    (posture.run commands).settled =
      if posture.stopped then posture.settled
      else settlement posture.paused posture.cap
        ((commands.filter fun command => posture.version < command.1).map Prod.snd) := by
  split
  · next stopped => exact posture.settled_run_of_stopped stopped commands
  · next running =>
    rw [← Posture.run_filter le_rfl, Posture.settled_run posture (Bool.eq_false_iff.mpr running) _
      (fun command member => of_decide_eq_true (List.mem_filter.mp member).2)
      (ascending.sublist List.filter_sublist)]

/-! ### Catching up from a part -/

/-- The commands that take hold when a part of those sent is received first and all of them come
after: the part, and what is newer than its newest. -/
def reaching (version : Int) (received sent : List (Int × Desired)) : List (Int × Desired) :=
  (received.filter fun command => version < command.1) ++
    sent.filter fun command => newest version received < command.1

section Reaching

variable {version : Int} {received sent : List (Int × Desired)}

theorem ascending_reaching (part : received.Sublist sent)
    (ascending : sent.Pairwise fun first second => first.1 < second.1) :
    (reaching version received sent).Pairwise fun first second => first.1 < second.1 := by
  refine List.pairwise_append.mpr ⟨(ascending.sublist part).sublist List.filter_sublist,
    ascending.sublist List.filter_sublist, fun first inFirst second inSecond => ?_⟩
  exact (le_newest_of_mem (List.mem_filter.mp inFirst).1).trans_lt
    (of_decide_eq_true (List.mem_filter.mp inSecond).2)

/-- Receiving a part and then everything ends where the commands that take hold end. -/
theorem Posture.settled_run_part (posture : Posture) (part : received.Sublist sent)
    (ascending : sent.Pairwise fun first second => first.1 < second.1) :
    (posture.run (received ++ sent)).settled =
      if posture.stopped then posture.settled
      else settlement posture.paused posture.cap
        ((reaching posture.version received sent).map Prod.snd) := by
  have taken : posture.run (received ++ sent) =
      posture.run (reaching posture.version received sent) := by
    unfold reaching
    rw [Posture.run_append, Posture.run_append, Posture.run_filter le_rfl,
      Posture.run_filter (Posture.version_run posture received).ge]
  have fresh : (reaching posture.version received sent).filter
      (fun command => posture.version < command.1) = reaching posture.version received sent := by
    refine List.filter_eq_self.mpr fun command member => decide_eq_true ?_
    rcases List.mem_append.mp member with inReceived | inSent
    · exact of_decide_eq_true (List.mem_filter.mp inReceived).2
    · exact (le_newest _ received).trans_lt (of_decide_eq_true (List.mem_filter.mp inSent).2)
  rw [taken, Posture.settled_run_ascending _ _ (ascending_reaching part ascending), fresh]

/-- When nothing older than the newest received was lost, everything fresh takes hold. -/
theorem reaching_eq_of_none_lost (part : received.Sublist sent)
    (ascending : sent.Pairwise fun first second => first.1 < second.1)
    (noneLost : ∀ command ∈ sent, version < command.1 →
      command ∈ received ∨ newest version received < command.1) :
    reaching version received sent = sent.filter fun command => version < command.1 := by
  have sorted : (reaching version received sent).Pairwise fun first second => first.1 < second.1 :=
    ascending_reaching part ascending
  have sortedSent : (sent.filter fun command => version < command.1).Pairwise
      fun first second => first.1 < second.1 := ascending.sublist List.filter_sublist
  have nodup {commands : List (Int × Desired)}
      (ascending : commands.Pairwise fun first second => first.1 < second.1) : commands.Nodup :=
    ascending.imp fun below same => absurd (congrArg Prod.fst same) (ne_of_lt below)
  refine List.Perm.eq_of_pairwise
    (fun first second _ _ below above => absurd above (lt_asymm below)) sorted sortedSent
    ((List.perm_ext_iff_of_nodup (nodup sorted) (nodup sortedSent)).mpr
      fun command => ?_)
  simp only [reaching, List.mem_append, List.mem_filter, decide_eq_true_eq]
  constructor
  · rintro (⟨inReceived, fresh⟩ | ⟨inSent, newer⟩)
    · exact ⟨part.subset inReceived, fresh⟩
    · exact ⟨inSent, (le_newest _ _).trans_lt newer⟩
  · rintro ⟨inSent, fresh⟩
    rcases noneLost command inSent fresh with inReceived | newer
    · exact .inl ⟨inReceived, fresh⟩
    · exact .inr ⟨inSent, newer⟩

end Reaching

end AxorWrap.Plane
