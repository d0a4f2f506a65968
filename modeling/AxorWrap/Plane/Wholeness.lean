/-
This file says when a command is applied whole or not at all. The fields of a command are written
one after another, each as soon as it is read, and the version is taken before all of them.

So a command that raises has always done something: its version is spent. One that is refused for
its cap has by then set its flags, and is without effect exactly when the flags it carries are in
force already. A command that is stale or absorbed touches nothing but the version.
-/

import AxorWrap.Plane.Returning
import AxorWrap.Plane.Rearming

namespace AxorWrap.Plane

open Python Methods

variable (node : Node)

/-- The stop, the pause, the cap and the pending directives are what they were. -/
structure Untouched (before after : Session) : Prop where
  stopped : after.stopped = before.stopped
  paused : after.paused = before.paused
  budgetCapCalls : after.budgetCapCalls = before.budgetCapCalls
  pending : ∀ kind, after.pending kind = before.pending kind

/-- A command that is not answered with `applied` leaves the session untouched, and one that raises
leaves the version to a corrected command as well. -/
structure AppliedWhole (session : Session) (version : Int) (state : Value) : Prop where
  refused : ∀ effect, outcome (apply node version state) session = .ok effect →
    effect.kind ≠ .applied → Untouched session (final (apply node version state) session)
  raised : ∀ error, outcome (apply node version state) session = .error error →
    Untouched session (final (apply node version state) session) ∧
      (final (apply node version state) session).appliedVersion = session.appliedVersion

/-- The flags the command carries are in force already. -/
structure Quiet (state : Value) (session : Session) : Prop where
  stopped : ∀ flag, derivedFlag "stopped" state = .ok (some flag) → flag = session.stopped
  paused : ∀ flag, derivedFlag "paused" state = .ok (some flag) → flag = session.paused

/-! ### A refused widening -/

theorem pending_flags (state : Value) (session : Session) (kind : OneShot) :
    (final (applyPaused state) (final (applyStopped state) session)).pending kind =
      session.pending kind := by
  simp only [applyPaused, applyStopped, final_assign]
  cases wanted (derivedFlag "paused" state) <;> cases wanted (derivedFlag "stopped" state) <;>
    cases kind <;> rfl

/-- A command that returns is refused exactly when it widens, and arms nothing then. -/
theorem refused_iff_widens {version : Int} {state : Value} {session : Session}
    {effect : AppliedEffect}
    (answered : outcome (applyFields node version state) session = .ok effect) :
    (effect.kind ≠ .applied ↔
        ∃ requested, requestedCap node state = .ok requested ∧
          Widens requested session.budgetCapCalls) ∧
      (effect.kind ≠ .applied → ∀ kind,
        (final (applyFields node version state) session).pending kind = session.pending kind) := by
  unfold applyFields at answered ⊢
  obtain ⟨_, stopped, answered⟩ := outcome_bind_eq_ok.mp answered
  obtain ⟨_, paused, answered⟩ := outcome_bind_eq_ok.mp answered
  obtain ⟨verdict, budgeted, answered⟩ := outcome_bind_eq_ok.mp answered
  rw [final_bind_ok stopped, final_bind_ok paused, final_bind_ok budgeted]
  obtain ⟨requested, read, widens⟩ := widens_of_judged node budgeted
  rw [cap_flags] at widens
  have wide : (∃ requested, requestedCap node state = .ok requested ∧
      Widens requested session.budgetCapCalls) ↔ Widens requested session.budgetCapCalls := by
    rw [read]
    constructor
    · rintro ⟨_, same, wide⟩
      cases same
      exact wide
    · intro wide
      exact ⟨requested, rfl, wide⟩
  rw [wide, ← widens]
  cases verdict with
  | some refusal =>
    obtain ⟨_, _, _, _, _, isWidening⟩ := outcome_applyBudget_some node budgeted
    rw [outcome_report_return] at answered
    cases answered
    refine ⟨iff_of_true (fun same => ?_) rfl, fun _ kind => ?_⟩
    · rw [isWidening] at same
      cases same
    · have kept := (pending_applyBudget node state _ kind).trans
        (pending_flags state session kind)
      rw [final_report_return]
      split
      · exact kept
      · exact Eq.trans (by cases kind <;> rfl) kept
  | none =>
    have applied : effect.kind = .applied := by
      simp only [applyOneShots, outcome_bind_eq_ok] at answered
      obtain ⟨_, _, _, _, _, _, _, _, reported⟩ := answered
      cases reported
      rfl
    refine ⟨iff_of_false (fun other => other applied) fun same => ?_,
      fun other => absurd applied other⟩
    cases same

/-- The value asked of a field is the one it has, or none is asked. -/
theorem getD_wanted_eq_iff {α : Type} {computed : Except PyError (Option α)} {current : α} :
    (wanted computed).getD current = current ↔
      ∀ value, computed = .ok (some value) → value = current := by
  match computed with
  | .error _ => exact iff_of_true rfl fun _ same => nomatch same
  | .ok none => exact iff_of_true rfl fun _ same => nomatch same
  | .ok (some value) =>
    refine ⟨fun same other isOther => ?_, fun each => each value rfl⟩
    cases isOther
    exact same

/-- A cap that is refused stays what it was. -/
theorem tighten_of_widens {requested cap : Option Int} (widens : Widens requested cap) :
    tighten cap requested = cap := by
  obtain ⟨more, current, rfl, rfl, above⟩ := widens
  exact if_pos above

/-- A refused widening leaves a running session untouched exactly when its flags are quiet. -/
theorem untouched_iff_quiet {version : Int} {state : Value} {session : Session}
    {effect : AppliedEffect}
    (answered : outcome (applyFields node version state) session = .ok effect)
    (refused : effect.kind ≠ .applied) :
    Untouched session (final (applyFields node version state) session) ↔ Quiet state session := by
  obtain ⟨widens, arms⟩ := refused_iff_widens node answered
  obtain ⟨requested, read, wide⟩ := widens.mp refused
  have posture := posture_applyFields node version state session
  generalize final (applyFields node version state) session = after at posture arms ⊢
  have stopped : after.stopped = (wanted (derivedFlag "stopped" state)).getD session.stopped :=
    congrArg Posture.stopped posture
  have paused : after.paused = (wanted (derivedFlag "paused" state)).getD session.paused :=
    congrArg Posture.paused posture
  have cap : after.budgetCapCalls = session.budgetCapCalls := by
    refine (congrArg Posture.cap posture).trans ?_
    show tighten session.budgetCapCalls (wanted (requestedCap node state)) = _
    rw [read]
    exact tighten_of_widens wide
  constructor
  · intro untouched
    exact ⟨getD_wanted_eq_iff.mp (stopped.symm.trans untouched.stopped),
      getD_wanted_eq_iff.mp (paused.symm.trans untouched.paused)⟩
  · intro quiet
    exact ⟨stopped.trans (getD_wanted_eq_iff.mpr quiet.stopped),
      paused.trans (getD_wanted_eq_iff.mpr quiet.paused), cap, arms refused⟩

/-! ### A command -/

/-- A version is no part of what a command touches. -/
theorem untouched_setVersion_iff {version : Int} {session after : Session} :
    Untouched (setVersion version session) after ↔ Untouched session after := by
  constructor
  · intro same
    exact ⟨same.1, same.2, same.3, fun kind =>
      (same.4 kind).trans (pending_setVersion version session kind)⟩
  · intro same
    exact ⟨same.1, same.2, same.3, fun kind =>
      (same.4 kind).trans (pending_setVersion version session kind).symm⟩

/-- A command that is not new leaves everything. -/
theorem appliedWhole_of_stale {session : Session} {version : Int} (state : Value)
    (stale : version ≤ session.appliedVersion) : AppliedWhole node session version state := by
  obtain ⟨answered, left⟩ := apply_stale node stale state
  refine ⟨fun _ _ _ => ?_, fun _ raised => ?_⟩
  · rw [left]
    exact ⟨rfl, rfl, rfl, fun _ => rfl⟩
  · cases answered.symm.trans raised

/-- A new command to a session that has stopped moves the version, and nothing else. -/
theorem appliedWhole_of_stopped {session : Session} {version : Int} (state : Value)
    (fresh : ¬ version ≤ session.appliedVersion) (stopped : session.stopped = true) :
    AppliedWhole node session version state := by
  have answers := outcome_apply node version state session
  have leaves := final_apply node version state session
  rw [if_neg fresh, if_pos stopped] at answers leaves
  refine ⟨fun _ _ _ => ?_, fun _ raised => ?_⟩
  · rw [leaves]
    exact ⟨rfl, rfl, rfl, fun kind => by cases kind <;> rfl⟩
  · cases answers.symm.trans raised

/-- A command is applied whole or not at all exactly when it is stale or absorbed, or every field
it comes to can be read and, if it widens, its flags are in force already. -/
theorem appliedWhole_iff (session : Session) (version : Int) (state : Value) :
    AppliedWhole node session version state ↔
      version ≤ session.appliedVersion ∨ session.stopped = true ∨
        (Readable node state session.budgetCapCalls ∧
          ((∃ requested, requestedCap node state = .ok requested ∧
            Widens requested session.budgetCapCalls) → Quiet state session)) := by
  by_cases stale : version ≤ session.appliedVersion
  · exact iff_of_true (appliedWhole_of_stale node state stale) (.inl stale)
  cases stopped : session.stopped with
  | true => exact iff_of_true (appliedWhole_of_stopped node state stale stopped) (.inr (.inl rfl))
  | false =>
    have answers := outcome_apply node version state session
    have leaves := final_apply node version state session
    rw [if_neg stale, if_neg (Bool.eq_false_iff.mp stopped)] at answers leaves
    have fresh : session.appliedVersion < version := not_le.mp stale
    have reads := succeeds_applyFields node version state (setVersion version session)
    simp only [stale, Bool.false_eq_true, false_or]
    constructor
    · intro whole
      have readable : Readable node state session.budgetCapCalls := by
        refine reads.mp ?_
        cases came : outcome (applyFields node version state) (setVersion version session) with
        | ok effect => exact ⟨effect, came⟩
        | error error =>
          have spent := (wrote_applyFields node version state (setVersion version session)).version
          have kept := (whole.raised error (answers.trans came)).2
          rw [leaves, spent] at kept
          exact absurd kept fresh.ne'
      refine ⟨readable, fun widens => ?_⟩
      obtain ⟨effect, came⟩ := reads.mpr readable
      have refused := (refused_iff_widens node came).1.mpr widens
      have untouched := whole.refused effect (answers.trans came) refused
      rw [leaves, ← untouched_setVersion_iff] at untouched
      obtain ⟨flagsStopped, flagsPaused⟩ := (untouched_iff_quiet node came refused).mp untouched
      exact ⟨flagsStopped, flagsPaused⟩
    · rintro ⟨readable, quiet⟩
      obtain ⟨effect, came⟩ := reads.mpr readable
      refine ⟨fun other answered refused => ?_, fun _ raised => ?_⟩
      · cases (answers.trans came).symm.trans answered
        obtain ⟨flagsStopped, flagsPaused⟩ :=
          quiet ((refused_iff_widens node came).1.mp refused)
        rw [leaves, ← untouched_setVersion_iff]
        exact (untouched_iff_quiet node came refused).mpr ⟨flagsStopped, flagsPaused⟩
      · cases (answers.trans came).symm.trans raised

/-- A stop that comes with a cap that is refused takes effect all the same. -/
theorem refused_stop_takes_effect :
    ¬ AppliedWhole openNode { budgetCapCalls := some 100 } 1
      (.dict [field "stopped" (.bool true), field "budget_cap_calls" (.int 500)]) := by
  intro whole
  have untouched := whole.refused (wideningEffect 500 100) rfl (fun same => nomatch same)
  exact absurd untouched.stopped (by decide)

end AxorWrap.Plane
