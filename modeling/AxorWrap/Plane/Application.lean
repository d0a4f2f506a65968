/-
This file says once what a single `_apply` does. Later files cite its results and
never open the method again.

There are three answers. A stale version changes nothing. A stopped node takes
the version and reports. Otherwise the fields are written one after another, and
what is written is a function of the command alone: each field afterwards is
either what it was or the value the command derives for it. This last fact holds
wherever the method ends, at its report, at a refused widening, or at a raise
between two writes.

On the lattice fields the method refines the commands of `Posture`.
-/

import AxorWrap.Plane.Session
import AxorWrap.Plane.Posture

namespace AxorWrap.Plane

open Python Methods

variable (node : Node)

/-! ### The three answers -/

theorem final_report (effect : AppliedEffect) (version : Int) (session : Session) :
    final (report effect version) session =
      if effect.kind = .applied then session
      else appendEvent (reportEvent effect version) session := by
  unfold report
  split <;> rfl

theorem outcome_report (effect : AppliedEffect) (version : Int) (session : Session) :
    outcome (report effect version) session = .ok () := by
  unfold report
  split <;> rfl

/-- A report followed by its effect. -/
theorem outcome_report_return (effect : AppliedEffect) (version : Int) (session : Session) :
    outcome (do report effect version; return effect) session = .ok effect := by
  rw [outcome_bind, outcome_report]
  rfl

theorem final_report_return (effect : AppliedEffect) (version : Int) (session : Session) :
    final (do report effect version; return effect) session =
      if effect.kind = .applied then session
      else appendEvent (reportEvent effect version) session := by
  rw [final_bind, outcome_report]
  exact final_report effect version session

theorem outcome_apply (version : Int) (state : Value) (session : Session) :
    outcome (apply node version state) session =
      if version ≤ session.appliedVersion then .ok (staleEffect version)
      else if session.stopped then .ok absorbedEffect
      else outcome (applyFields node version state)
        (setVersion version session) := by
  unfold apply
  rw [outcome_bind, outcome_get, final_get]
  by_cases stale : version ≤ session.appliedVersion
  · simp only [if_pos stale, outcome_pure]
  · simp only [if_neg stale, outcome_bind, outcome_modify, final_modify]
    split
    · exact outcome_report_return absorbedEffect version _
    · rfl

theorem final_apply (version : Int) (state : Value) (session : Session) :
    final (apply node version state) session =
      if version ≤ session.appliedVersion then session
      else if session.stopped then
        appendEvent (reportEvent absorbedEffect version) (setVersion version session)
      else final (applyFields node version state) (setVersion version session) := by
  unfold apply
  rw [final_bind, outcome_get, final_get]
  by_cases stale : version ≤ session.appliedVersion
  · simp only [if_pos stale, final_pure]
  · simp only [if_neg stale, final_bind, outcome_modify, final_modify]
    split
    · exact final_report_return absorbedEffect version _
    · rfl

/-! ### Effects -/

/-- The budget step refuses only a request above the cap in force. -/
theorem outcome_applyBudget_some {state : Value} {session : Session} {effect : AppliedEffect}
    (refused : outcome (applyBudget node state) session = .ok (some effect)) :
    ∃ requested cap, requestedCap node state = .ok (some requested) ∧
      session.budgetCapCalls = some cap ∧ requested > cap ∧
      effect = wideningEffect requested cap := by
  unfold applyBudget at refused
  rw [outcome_bind, outcome_lift, final_lift] at refused
  match read : requestedCap node state with
  | .error _ => simp [read] at refused
  | .ok none => simp [read] at refused
  | .ok (some requested) =>
    simp only [read, outcome_bind, outcome_get, final_get] at refused
    cases capped : session.budgetCapCalls with
    | none => simp [capped, Except.map] at refused
    | some cap =>
      rw [capped] at refused
      by_cases above : requested > cap
      · simp only [if_pos above, outcome_pure, Except.ok.injEq, Option.some.injEq] at refused
        exact ⟨requested, cap, rfl, rfl, above, refused.symm⟩
      · simp [if_neg above, Except.map] at refused

/-- Applying a command never answers that a signature is bad. -/
theorem apply_kind {version : Int} {state : Value} {session : Session} {effect : AppliedEffect}
    (returned : outcome (apply node version state) session = .ok effect) :
    effect.kind ≠ .sigInvalid := by
  rw [outcome_apply] at returned
  split at returned
  · cases returned
    exact fun same => by cases same
  split at returned
  · cases returned
    exact fun same => by cases same
  simp only [applyFields, outcome_bind_eq_ok] at returned
  obtain ⟨_, _, _, _, verdict, budget, later⟩ := returned
  cases verdict with
  | some refusal =>
    rw [outcome_report_return] at later
    obtain ⟨_, _, _, _, _, same⟩ := outcome_applyBudget_some node budget
    cases later
    rw [same]
    exact fun same => by cases same
  | none =>
    simp only [applyOneShots, outcome_bind_eq_ok] at later
    obtain ⟨_, _, _, _, _, _, _, _, reported⟩ := later
    cases reported
    exact fun same => by cases same

/-! ### What a command derives -/

/-- A `dict` never raises on a flag. -/
theorem derivedFlag_dict (key : PyStr) (entries : Entries) :
    derivedFlag key (.dict entries) = .ok ((Entries.lookup entries key).map Value.truthy) := by
  unfold derivedFlag Value.contains Value.item
  cases found : Entries.lookup entries key <;> simp [found, bind, Except.bind, pure, Except.pure]

theorem outcome_applyStopped (entries : Entries) (session : Session) :
    outcome (applyStopped (.dict entries)) session = .ok () := by
  rw [applyStopped, outcome_assign, derivedFlag_dict]
  rfl

theorem outcome_applyPaused (entries : Entries) (session : Session) :
    outcome (applyPaused (.dict entries)) session = .ok () := by
  rw [applyPaused, outcome_assign, derivedFlag_dict]
  rfl

/-- The directive a key derives is of that key's kind. -/
theorem derivedDirective_kind {kind : OneShot} {state : Value} {directive : Directive}
    (derived : derivedDirective node kind state = .ok (some directive)) :
    directive.kind = kind := by
  unfold derivedDirective at derived
  cases read : state.get kind.key .null with
  | error error => simp [read, bind, Except.bind] at derived
  | ok source =>
    simp only [read, bind, Except.bind] at derived
    split at derived
    · cases built : directiveOf node kind source with
      | error error => simp [built] at derived
      | ok other =>
        simp only [built, pure, Except.pure, Except.ok.injEq, Option.some.injEq] at derived
        subst derived
        cases kind <;> simp only [directiveOf, Functor.map, Except.map] at built <;>
          split at built <;> cases built <;> rfl
    · simp [pure, Except.pure] at derived

/-- Arming a directive touches the pending field of its kind. -/
theorem pending_arm (directive : Directive) (session : Session) (kind : OneShot) :
    (arm directive session).pending kind =
      if directive.kind = kind then some directive else session.pending kind := by
  cases directive <;> cases kind <;> rfl

theorem pending_setVersion (version : Int) (session : Session) (kind : OneShot) :
    (setVersion version session).pending kind = session.pending kind := by
  cases kind <;> rfl

section Arm

variable (directive : Directive) (session : Session)

@[simp] theorem arm_appliedVersion :
    (arm directive session).appliedVersion = session.appliedVersion := by
  cases directive <;> rfl

@[simp] theorem arm_stopped : (arm directive session).stopped = session.stopped := by
  cases directive <;> rfl

@[simp] theorem arm_paused : (arm directive session).paused = session.paused := by
  cases directive <;> rfl

@[simp] theorem arm_budgetCapCalls :
    (arm directive session).budgetCapCalls = session.budgetCapCalls := by
  cases directive <;> rfl

@[simp] theorem arm_consumedIds : (arm directive session).consumedIds = session.consumedIds := by
  cases directive <;> rfl

@[simp] theorem arm_outbox : (arm directive session).outbox = session.outbox := by
  cases directive <;> rfl

end Arm

/-! ### What is written -/

/-- What is appended to an outbox in two parts is appended to it. -/
theorem appended_trans {allowed : OutboxEvent → Prop} {first second third : List OutboxEvent}
    (one : ∃ events, second = first ++ events ∧ ∀ event ∈ events, allowed event)
    (two : ∃ events, third = second ++ events ∧ ∀ event ∈ events, allowed event) :
    ∃ events, third = first ++ events ∧ ∀ event ∈ events, allowed event := by
  obtain ⟨early, rfl, earlyAllowed⟩ := one
  obtain ⟨late, rfl, lateAllowed⟩ := two
  exact ⟨early ++ late, List.append_assoc first early late,
    List.forall_mem_append.mpr ⟨earlyAllowed, lateAllowed⟩⟩

/-- `after` is `before` with some fields replaced by what the command derives for them, and
with reports appended to the outbox. -/
structure Wrote (state : Value) (before after : Session) : Prop where
  version : after.appliedVersion = before.appliedVersion
  stopped : KeptOr (fun value => derivedFlag "stopped" state = .ok (some value))
    before.stopped after.stopped
  paused : KeptOr (fun value => derivedFlag "paused" state = .ok (some value))
    before.paused after.paused
  cap : KeptOr (fun value => value.isSome ∧ requestedCap node state = .ok value)
    before.budgetCapCalls after.budgetCapCalls
  pending : ∀ kind,
    KeptOr (fun value => value.isSome ∧ derivedDirective node kind state = .ok value)
      (before.pending kind) (after.pending kind)
  consumed : after.consumedIds = before.consumedIds
  outbox : ∃ reports, after.outbox = before.outbox ++ reports ∧
    ∀ event ∈ reports, event.kind = .stateApplied

instance (state : Value) : Std.Refl (Wrote node state) where
  refl session := ⟨rfl, .refl _, .refl _, .refl _, fun _ => .refl _, rfl, [], by simp⟩

instance (state : Value) : IsTrans Session (Wrote node state) where
  trans _ _ _ first second :=
    ⟨second.version.trans first.version, first.stopped.trans second.stopped,
      first.paused.trans second.paused, first.cap.trans second.cap,
      fun kind => (first.pending kind).trans (second.pending kind),
      second.consumed.trans first.consumed, appended_trans first.outbox second.outbox⟩

theorem wrote_report (state : Value) (effect : AppliedEffect) (version : Int)
    (session : Session) : Wrote node state session (final (report effect version) session) := by
  rw [final_report]
  split
  · exact Std.Refl.refl session
  · exact { (Std.Refl.refl session : Wrote node state session session) with
      outbox := ⟨[reportEvent effect version], rfl, by simp [reportEvent]⟩ }

theorem wrote_report_return (state : Value) (effect : AppliedEffect) (version : Int)
    (session : Session) :
    Wrote node state session (final (do report effect version; return effect) session) :=
  related_bind (wrote_report node state effect version session) fun _ _ => Std.Refl.refl _

/-- The budget step keeps the cap or writes the one requested. -/
theorem wrote_applyBudget (state : Value) (session : Session) :
    Wrote node state session (final (applyBudget node state) session) := by
  unfold applyBudget
  rw [final_bind, outcome_lift, final_lift]
  cases requested : requestedCap node state with
  | error error => exact Std.Refl.refl session
  | ok request =>
    cases request with
    | none => exact Std.Refl.refl session
    | some cap =>
      have written : Wrote node state session { session with budgetCapCalls := some cap } :=
        { (Std.Refl.refl session : Wrote node state session session) with
          cap := .inr ⟨rfl, requested⟩ }
      simp only [final_bind, outcome_get, final_get]
      cases session.budgetCapCalls with
      | none => exact written
      | some current =>
        by_cases above : cap > current
        · simp only [if_pos above]
          exact Std.Refl.refl session
        · simp only [if_neg above]
          exact written

theorem wrote_armOneShot (kind : OneShot) (state : Value) (session : Session) :
    Wrote node state session (final (armOneShot node kind state) session) := by
  refine related_assign fun directive derived => ?_
  refine ⟨arm_appliedVersion directive session, .inl (arm_stopped directive session),
    .inl (arm_paused directive session), .inl (arm_budgetCapCalls directive session),
    fun other => ?_, arm_consumedIds directive session,
    [], by simp [arm_outbox], by simp⟩
  rw [pending_arm, derivedDirective_kind node derived]
  split
  · next same => exact .inr ⟨rfl, same ▸ derived⟩
  · exact .refl _

/-- However `applyFields` ends, it wrote what the command derives and nothing else. -/
theorem wrote_applyFields (version : Int) (state : Value) (session : Session) :
    Wrote node state session (final (applyFields node version state) session) := by
  unfold applyFields
  refine related_bind (related_assign fun value derived => ?_) fun _ _ => ?_
  · exact { (Std.Refl.refl session : Wrote node state session session) with
      stopped := .inr derived }
  refine related_bind (related_assign fun value derived => ?_) fun _ _ => ?_
  · exact { (Std.Refl.refl _ : Wrote node state _ _) with paused := .inr derived }
  refine related_bind (wrote_applyBudget node state _) fun verdict _ => ?_
  cases verdict with
  | some effect => exact wrote_report_return node state effect version _
  | none =>
    unfold applyOneShots
    refine related_bind (wrote_armOneShot node .replan state _) fun _ _ => ?_
    refine related_bind (wrote_armOneShot node .injection state _) fun _ _ => ?_
    refine related_bind (wrote_armOneShot node .excision state _) fun _ _ => ?_
    exact wrote_report_return node state _ version _

/-- `_apply` raises the version to the command's, and for the rest writes what the command
derives. -/
theorem wrote_apply (version : Int) (state : Value) (session : Session) :
    Wrote node state (setVersion (max session.appliedVersion version) session)
      (final (apply node version state) session) := by
  rw [final_apply]
  by_cases stale : version ≤ session.appliedVersion
  · rw [if_pos stale, max_eq_left stale]
    exact Std.Refl.refl session
  rw [if_neg stale, max_eq_right (le_of_not_ge stale)]
  cases session.stopped with
  | true =>
    rw [if_pos rfl]
    exact { (Std.Refl.refl _ : Wrote node state _ _) with
      outbox := ⟨[reportEvent absorbedEffect version], rfl, by simp [reportEvent]⟩ }
  | false =>
    rw [if_neg Bool.false_ne_true]
    exact wrote_applyFields node version state _

/-- A stopped node arms nothing. -/
theorem pending_apply_of_stopped (version : Int) (state : Value) {session : Session}
    (stopped : session.stopped = true) (kind : OneShot) :
    (final (apply node version state) session).pending kind = session.pending kind := by
  rw [final_apply, stopped]
  split
  · rfl
  · cases kind <;> rfl

/-- A stale command changes nothing and answers so. -/
theorem apply_stale {version : Int} {session : Session} (stale : version ≤ session.appliedVersion)
    (state : Value) :
    outcome (apply node version state) session = .ok (staleEffect version) ∧
      final (apply node version state) session = session := by
  rw [outcome_apply, final_apply, if_pos stale, if_pos stale]
  exact ⟨rfl, rfl⟩

/-! ### Refinement of the posture -/

/-- The lattice fields of a session. -/
def Session.posture (session : Session) : Posture :=
  ⟨session.appliedVersion, session.stopped, session.paused, session.budgetCapCalls⟩

/-- What a command asks of the lattice. A state that is not a `dict` asks nothing: reading it
raises before the first write. -/
def desiredOf (state : Value) : Desired where
  stop := wanted (derivedFlag "stopped" state)
  pause := wanted (derivedFlag "paused" state)
  cap := wanted (requestedCap node state)

theorem posture_arm (directive : Directive) (session : Session) :
    (arm directive session).posture = session.posture := by
  cases directive <;> rfl

theorem posture_appendEvent (event : OutboxEvent) (session : Session) :
    (appendEvent event session).posture = session.posture := rfl

/-- Two sessions of one posture. -/
def SamePosture (before after : Session) : Prop := after.posture = before.posture

instance : Std.Refl SamePosture where
  refl _ := rfl

instance : IsTrans Session SamePosture where
  trans _ _ _ first second := second.trans first

theorem samePosture_report_return (effect : AppliedEffect) (version : Int) (session : Session) :
    SamePosture session (final (do report effect version; return effect) session) := by
  rw [final_report_return]
  split <;> rfl

theorem samePosture_applyOneShots (version : Int) (state : Value) (session : Session) :
    SamePosture session (final (applyOneShots node version state) session) := by
  have arms (kind : OneShot) (session : Session) :
      SamePosture session (final (armOneShot node kind state) session) :=
    related_assign fun directive _ => posture_arm directive session
  unfold applyOneShots
  refine related_bind (arms .replan session) fun _ _ => ?_
  refine related_bind (arms .injection _) fun _ _ => ?_
  refine related_bind (arms .excision _) fun _ _ => ?_
  exact samePosture_report_return _ version _

/-- Of a state that is not a `dict` nothing is read by a key. -/
theorem wanted_read_other {state : Value} (other : ∀ entries, state ≠ .dict entries) (key : PyStr)
    {α : Type} (read : Value → Except PyError (Option α)) :
    wanted (do if ← state.contains key then read (← state.item key) else return none) = none := by
  cases state with
  | dict entries => exact absurd rfl (other entries)
  | str text =>
    simp only [Value.contains, Value.item, bind, Except.bind]
    split <;> rfl
  | list items =>
    simp only [Value.contains, Value.item, bind, Except.bind]
    split <;> rfl
  | _ => rfl

/-- A state that is not a `dict` derives no flag. -/
theorem wanted_derivedFlag_other {state : Value} (other : ∀ entries, state ≠ .dict entries)
    (key : PyStr) : wanted (derivedFlag key state) = none :=
  wanted_read_other other key _

theorem wanted_requestedCap_other {state : Value} (other : ∀ entries, state ≠ .dict entries) :
    wanted (requestedCap node state) = none :=
  wanted_read_other other _ _

/-- The budget step tightens the cap and touches no other lattice field. -/
theorem posture_applyBudget (state : Value) (session : Session) :
    (final (applyBudget node state) session).posture =
      { session.posture with
        cap := tighten session.budgetCapCalls (wanted (requestedCap node state)) } := by
  unfold applyBudget
  rw [final_bind, outcome_lift, final_lift]
  match requestedCap node state with
  | .error _ => cases capped : session.budgetCapCalls <;> simp [Session.posture, capped, wanted,
      tighten, Except.toOption]
  | .ok none => cases capped : session.budgetCapCalls <;> simp [Session.posture, capped, wanted,
      tighten, Except.toOption]
  | .ok (some requested) =>
    simp only [final_bind, outcome_get, final_get]
    cases capped : session.budgetCapCalls with
    | none => simp [Session.posture, wanted, tighten, Except.toOption]
    | some cap =>
      by_cases above : requested > cap
      · simp [Session.posture, capped, wanted, tighten, Except.toOption, above]
      · simp [Session.posture, wanted, tighten, Except.toOption, above]

/-- What follows the budget step keeps the posture. -/
theorem samePosture_afterBudget (version : Int) (state : Value) (verdict : Option AppliedEffect)
    (session : Session) :
    SamePosture session (final (match verdict with
      | some effect => do report effect version; return effect
      | none => applyOneShots node version state) session) := by
  cases verdict with
  | some effect => exact samePosture_report_return effect version session
  | none => exact samePosture_applyOneShots node version state session

/-- The fields of a command are set as the posture sets them, however the method ends. -/
theorem posture_applyFields (version : Int) (state : Value) (session : Session) :
    (final (applyFields node version state) session).posture =
      session.posture.set (desiredOf node state) := by
  unfold applyFields
  by_cases isDict : ∃ entries, state = .dict entries
  · obtain ⟨entries, rfl⟩ := isDict
    rw [final_bind_ok (outcome_applyStopped entries session),
      final_bind_ok (outcome_applyPaused entries _), final_bind]
    have capped := posture_applyBudget node (.dict entries)
      (final (applyPaused (.dict entries)) (final (applyStopped (.dict entries)) session))
    have flags : (final (applyPaused (.dict entries))
        (final (applyStopped (.dict entries)) session)).posture =
        { session.posture with
          stopped := (wanted (derivedFlag "stopped" (.dict entries))).getD session.stopped
          paused := (wanted (derivedFlag "paused" (.dict entries))).getD session.paused } := by
      simp only [applyStopped, applyPaused, final_assign]
      cases wanted (derivedFlag "stopped" (.dict entries)) <;>
        cases wanted (derivedFlag "paused" (.dict entries)) <;> rfl
    have settled : (final (applyBudget node (.dict entries)) (final (applyPaused (.dict entries))
        (final (applyStopped (.dict entries)) session))).posture =
        session.posture.set (desiredOf node (.dict entries)) := by
      have cap : (final (applyPaused (.dict entries))
          (final (applyStopped (.dict entries)) session)).budgetCapCalls =
          session.budgetCapCalls := congrArg Posture.cap flags
      rw [capped, flags, cap]
      rfl
    rw [← settled]
    cases outcome (applyBudget node (.dict entries)) _ with
    | error error => rfl
    | ok verdict => exact samePosture_afterBudget node version (.dict entries) verdict _
  · have other : ∀ entries, state ≠ .dict entries := fun entries same => isDict ⟨entries, same⟩
    have unset : session.posture.set (desiredOf node state) = session.posture := by
      simp [Posture.set, desiredOf, wanted_derivedFlag_other other,
        wanted_requestedCap_other node other, tighten]
    have flag (key : PyStr) (write : Bool → Session → Session) (session : Session) :
        SamePosture session (final (assign (derivedFlag key state) write) session) := by
      rw [final_assign, wanted_derivedFlag_other other]
      exact Std.Refl.refl session
    rw [unset]
    refine related_bind (R := SamePosture) (flag "stopped" _ session) fun _ _ => ?_
    refine related_bind (flag "paused" _ _) fun _ _ => ?_
    refine related_bind ?_ fun verdict _ => samePosture_afterBudget node version state verdict _
    unfold SamePosture
    rw [posture_applyBudget, wanted_requestedCap_other node other]
    rfl

/-- On the lattice fields `_apply` is a command of the posture, whether it returns or raises. -/
theorem posture_apply (version : Int) (state : Value) (session : Session) :
    (final (apply node version state) session).posture =
      session.posture.command version (desiredOf node state) := by
  rw [final_apply]
  by_cases stale : version ≤ session.appliedVersion
  · rw [if_pos stale, Posture.command_stale stale]
  have fresh : session.posture.version < version := not_le.mp stale
  rw [if_neg stale]
  cases stopped : session.stopped with
  | true =>
    rw [if_pos rfl, posture_appendEvent, Posture.command_stopped fresh stopped]
    rfl
  | false =>
    rw [if_neg Bool.false_ne_true, Posture.command_fresh fresh stopped]
    exact posture_applyFields node version state (setVersion version session)

end AxorWrap.Plane
