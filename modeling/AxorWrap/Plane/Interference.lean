/-
This file says when the one-shots of one kind suppress those of another. The three kinds have
pending fields of their own, but one set of consumed identifiers, so the identifier a take lets go
is taken from all three.

And an excision consumes its identifier before its acknowledgement is built, which raises on a
target that cannot be the key of a `dict`. When the provenance guard lets such a target through,
nothing is returned, and an excision that corrects it under the same identifier is dropped. These
are the only two ways.
-/

import AxorWrap.Plane.Runs
import AxorWrap.Plane.OneShots

namespace AxorWrap.Plane

open Python Methods Checks Machines

variable (node : Node)

/-! ### What a take hands out -/

/-- Every target of an excision can be the key of a `dict`. -/
def Directive.Hashable : Directive → Prop
  | .excision directive => ∀ ref ∈ directive.targetRefs, ∃ key, ref.toKey = .ok key
  | _ => True

/-- The origins of the targets can be told exactly when each target is hashable. -/
theorem targetProvenance_returns_iff (provenance : Provenance) (refs : List Value) :
    (∃ origins, targetProvenance provenance refs = .ok origins) ↔
      ∀ ref ∈ refs, ∃ key, ref.toKey = .ok key := by
  refine foldlM_returns_iff fun entries ref => ?_
  simp only [bind_eq_ok]
  constructor
  · rintro ⟨_, key, hashed, _⟩
    exact ⟨key, hashed⟩
  · rintro ⟨key, hashed⟩
    exact ⟨_, key, hashed, rfl⟩

theorem hands_out_injection {session : Session} {directive : Directive}
    (found : session.pending .injection = some directive) :
    outcome (Take.injection.method node) session = .ok (some directive) ↔
      ¬ directive.Repeated session ∧ Admits node session .injection directive := by
  obtain ⟨injection, pending, rfl⟩ := Option.map_eq_some_iff.mp found
  have named : (Directive.injection injection).Named := fun impossible => nomatch impossible
  have repeated : (Directive.injection injection).Repeated session ↔
      injection.injectionId ∈ session.consumedIds := and_iff_right named
  unfold Take.method takePendingInjection
  rw [outcome_map, outcome_bind_ok (outcome_get session), final_get, pending, repeated]
  simp only [outcome_bind, outcome_modify, final_modify]
  by_cases known : injection.injectionId ∈ session.consumedIds
  · rw [if_pos known]
    exact iff_of_false (fun same => nomatch same) fun all => all.1 known
  rw [if_neg known]
  cases stopped : session.stopped with
  | true =>
    exact iff_of_false (fun same => nomatch same) fun all => nomatch stopped.symm.trans all.2.1
  | false =>
    cases bench : node.testBench with
    | false =>
      exact iff_of_false (fun same => nomatch same) fun all => nomatch bench.symm.trans all.2.2
    | true => exact iff_of_true rfl ⟨known, stopped, bench⟩

theorem hands_out_replan {session : Session} {directive : Directive}
    (found : session.pending .replan = some directive) :
    outcome (Take.replan.method node) session = .ok (some directive) ↔
      ¬ directive.Repeated session ∧ Admits node session .replan directive := by
  obtain ⟨replan, pending, rfl⟩ := Option.map_eq_some_iff.mp found
  have repeated : (Directive.replan replan).Repeated session ↔
      replan.id ≠ [] ∧ replan.id ∈ session.consumedIds :=
    and_congr_left fun _ => ⟨fun named => named rfl, fun named _ => named⟩
  unfold Take.method takePendingReplan
  rw [outcome_map, outcome_bind_ok (outcome_get session), final_get, pending, repeated]
  simp only [outcome_bind, outcome_modify, final_modify]
  by_cases known : replan.id ≠ [] ∧ replan.id ∈ session.consumedIds
  · rw [if_pos known]
    exact iff_of_false (fun same => nomatch same) fun all => all.1 known
  rw [if_neg known]
  cases stopped : session.stopped with
  | true =>
    exact iff_of_false (fun same => nomatch same) fun all => nomatch stopped.symm.trans all.2
  | false =>
    refine iff_of_true ?_ ⟨known, stopped⟩
    by_cases named : replan.id ≠ []
    · simp only [if_pos named]
      rfl
    · simp only [if_neg named]
      rfl

theorem hands_out_excision {provenance : Provenance} {session : Session} {directive : Directive}
    (found : session.pending .excision = some directive) :
    outcome ((Take.excision provenance).method node) session = .ok (some directive) ↔
      ¬ directive.Repeated session ∧ Admits node session (.excision provenance) directive ∧
        directive.Hashable := by
  obtain ⟨excision, pending, rfl⟩ := Option.map_eq_some_iff.mp found
  have named : (Directive.excision excision).Named := by
    intro impossible
    cases impossible
  have repeated : (Directive.excision excision).Repeated session ↔
      excision.excisionId ∈ session.consumedIds := and_iff_right named
  have hashable : (Directive.excision excision).Hashable ↔
      ∃ origins, targetProvenance provenance excision.targetRefs = .ok origins :=
    (targetProvenance_returns_iff provenance excision.targetRefs).symm
  unfold Take.method takePendingExcision
  rw [outcome_map, outcome_bind_ok (outcome_get session), final_get, pending, repeated, hashable]
  simp only [outcome_bind, outcome_modify, final_modify]
  by_cases known : excision.excisionId ∈ session.consumedIds
  · rw [if_pos known]
    refine iff_of_false (fun same => ?_) fun all => all.1 known
    cases same
  rw [if_neg known]
  simp only [outcome_bind, outcome_lift, final_lift, Admits]
  cases node.platform.excisionRefusedRefs excision provenance with
  | error error =>
    refine iff_of_false (fun same => ?_) fun all => ?_
    · cases same
    · cases all.2.1
  | ok refs =>
    cases refs with
    | cons ref refs =>
      refine iff_of_false (fun same => ?_) fun all => ?_
      · cases same
      · cases all.2.1
    | nil =>
      simp only [List.isEmpty_nil, Bool.not_true, Bool.false_eq_true, if_false, outcome_bind,
        outcome_modify, final_modify, outcome_lift, final_lift]
      cases targetProvenance provenance excision.targetRefs with
      | error error =>
        refine iff_of_false (fun same => ?_) fun all => ?_
        · cases same
        · cases all.2.2.choose_spec
      | ok origins => exact iff_of_true rfl ⟨known, trivial, origins, rfl⟩

/-- A pending directive is handed out exactly when it is fresh, admitted and hashable. -/
theorem hands_out_iff {take : Take} {session : Session} {directive : Directive}
    (found : session.pending take.kind = some directive) :
    outcome (take.method node) session = .ok (some directive) ↔
      ¬ directive.Repeated session ∧ Admits node session take directive ∧ directive.Hashable := by
  cases take with
  | excision provenance => exact hands_out_excision node found
  | injection =>
    obtain ⟨injection, _, rfl⟩ := Option.map_eq_some_iff.mp found
    exact (hands_out_injection node found).trans (and_congr_right fun _ => (and_true _).symm.to_iff)
  | replan =>
    obtain ⟨replan, _, rfl⟩ := Option.map_eq_some_iff.mp found
    exact (hands_out_replan node found).trans (and_congr_right fun _ => (and_true _).symm.to_iff)

/-! ### What a run consumes -/

/-- The take of the step let the directive go: it was pending, fresh and admitted. -/
def LetGo (step : Transition Session Operation (Except PyError Answer)) (directive : Directive) :
    Prop :=
  ∃ take, step.operation = .take take ∧ step.before.pending take.kind = some directive ∧
    ¬ directive.Repeated step.before ∧ Admits node step.before take directive

/-- A step consumes the identifier of the directive it lets go, if it counts. -/
theorem consumed_next_iff (session : Session) (operation : Operation) (id : PyStr) :
    id ∈ ((sessionMachine node).next session operation).consumedIds ↔
      id ∈ session.consumedIds ∨
        ∃ directive, LetGo node ((sessionMachine node).transition session operation) directive ∧
          directive.Named ∧ directive.id = id := by
  cases operation with
  | message message =>
    rw [next_message, (reported_message node message session).consumed]
    refine (or_iff_left ?_).symm
    rintro ⟨directive, ⟨take, same, _⟩, _⟩
    cases same
  | take take =>
    rw [next_take]
    have lets : ∀ directive, LetGo node ((sessionMachine node).transition session (.take take))
        directive ↔ session.pending take.kind = some directive ∧ ¬ directive.Repeated session ∧
          Admits node session take directive := by
      refine fun directive => ⟨?_, fun all => ⟨take, rfl, all⟩⟩
      rintro ⟨other, same, all⟩
      cases same
      exact all
    simp only [lets]
    have came := taken node take session
    generalize outcome (take.method node) session = answer at came
    generalize final (take.method node) session = after at came ⊢
    cases came with
    | idle empty => simp [empty]
    | repeated found known => simp [found, known]
    | refused _ found barred => simp [found, barred, appendEvent]
    | unguarded found barred => simp [found, barred]
    | unacknowledged _ found fresh admitted =>
      simp [found, fresh, admitted, mem_consumedIds_spend, or_comm, eq_comm]
    | given _ found fresh admitted =>
      simp [found, fresh, admitted, mem_consumedIds_spend, appendEvent, or_comm, eq_comm]

/-- What is consumed in a reachable state was let go by a step of the run. -/
theorem consumed_run_iff (operations : List Operation) (id : PyStr) :
    id ∈ ((sessionMachine node).run node.initial operations).consumedIds ↔
      ∃ step ∈ (sessionMachine node).history node.initial operations, ∃ directive,
        LetGo node step directive ∧ directive.Named ∧ directive.id = id := by
  let spent (session : Session) (id : PyStr) : Prop := id ∈ session.consumedIds
  let spends (step : Transition Session Operation (Except PyError Answer)) (id : PyStr) : Prop :=
    ∃ directive, LetGo node step directive ∧ directive.Named ∧ directive.id = id
  have grown : spent ((sessionMachine node).run node.initial operations) id ↔
      spent node.initial id ∨
        ∃ step ∈ (sessionMachine node).history node.initial operations, spends step id :=
    (sessionMachine node).spent_run_iff (consumed_next_iff node) node.initial operations id
  have nothing : ¬ spent node.initial id := Finset.notMem_empty id
  exact grown.trans (or_iff_right nothing)

/-- What a step lets go and can acknowledge, it hands out. -/
theorem returned_of_letGo {session : Session} {operation : Operation} {directive : Directive}
    (letGo : LetGo node ((sessionMachine node).transition session operation) directive)
    (hashable : directive.Hashable) :
    returned ((sessionMachine node).transition session operation) = some directive := by
  obtain ⟨take, same, pending, unspent, admits⟩ := letGo
  cases same
  have given : outcome (take.method node) session = .ok (some directive) :=
    (hands_out_iff node pending).mpr ⟨unspent, admits, hashable⟩
  rw [transition_take, returned, given]
  rfl

/-! ### Kinds apart -/

/-- Every target of the excision is known to come from elsewhere than the operator's
configuration. -/
def Unprotected : Take → Directive → Prop
  | .excision provenance, .excision excision =>
    ∀ ref ∈ excision.targetRefs, ∃ name origin, ref = .str name ∧
      provenance.lookup name = some origin ∧ origin ≠ "operator_config"
  | _, _ => True

/-- The provenance guard lets an excision of such targets pass. -/
def GuardPasses : Prop :=
  ∀ (excision : Excision) (provenance : Provenance),
    Unprotected (.excision provenance) (.excision excision) →
      node.platform.excisionRefusedRefs excision provenance = .ok []

/-- Such targets can be looked up. -/
theorem hashable_of_unprotected {take : Take} {directive : Directive}
    (kind : directive.kind = take.kind) (unprotected : Unprotected take directive) :
    directive.Hashable := by
  cases directive with
  | injection => trivial
  | replan => trivial
  | excision excision =>
    cases take with
    | injection => cases kind
    | replan => cases kind
    | excision provenance =>
      intro ref member
      obtain ⟨name, _, rfl, _⟩ := unprotected ref member
      exact ⟨.str name, rfl⟩

/-- No step of the history let go a directive of another kind with this identifier, or one it
could not acknowledge. -/
structure Undisturbed (history : List (Transition Session Operation (Except PyError Answer)))
    (directive : Directive) : Prop where
  apart : ∀ step ∈ history, ∀ other, LetGo node step other → other.Named →
    other.kind ≠ directive.kind → other.id ≠ directive.id
  acknowledged : ∀ step ∈ history, ∀ other, LetGo node step other → other.Named →
    ¬ other.Hashable → other.id ≠ directive.id

/-- A named directive of a fresh name is not taken for repeated exactly when no other take
disturbs it. -/
theorem not_repeated_iff_undisturbed (operations : List Operation) {directive : Directive}
    (named : directive.Named)
    (fresh : ∀ step ∈ (sessionMachine node).history node.initial operations, ∀ other,
      returned step = some other → other.kind = directive.kind → other.id ≠ directive.id) :
    ¬ directive.Repeated ((sessionMachine node).run node.initial operations) ↔
      Undisturbed node ((sessionMachine node).history node.initial operations) directive := by
  unfold Directive.Repeated
  rw [and_iff_right named, consumed_run_iff]
  constructor
  · intro untaken
    have none : ∀ step ∈ (sessionMachine node).history node.initial operations, ∀ other,
        LetGo node step other → other.Named → other.id ≠ directive.id :=
      fun step member other letGo isNamed same =>
        untaken ⟨step, member, other, letGo, isNamed, same⟩
    exact ⟨fun step member other letGo isNamed _ => none step member other letGo isNamed,
      fun step member other letGo isNamed _ => none step member other letGo isNamed⟩
  · rintro ⟨apart, acknowledged⟩ ⟨step, member, other, letGo, isNamed, same⟩
    by_cases sameKind : other.kind = directive.kind
    · by_cases hashable : other.Hashable
      · obtain ⟨_, _, _, made⟩ := (sessionMachine node).mem_history member
        have given : returned step = some other := by
          rw [made] at letGo ⊢
          exact returned_of_letGo node letGo hashable
        exact fresh step member other given sameKind same
      · exact acknowledged step member other letGo isNamed hashable same
    · exact apart step member other letGo isNamed sameKind same

/-- In every state a run reaches on a running test bench, a directive whose identifier was not
handed out before by the take of its kind is handed out exactly when, if it has an identifier,
nothing before has disturbed it. -/
theorem kinds_apart_iff (bench : node.testBench = true) (guard : GuardPasses node)
    (operations : List Operation) (take : Take) (directive : Directive)
    (running : ((sessionMachine node).run node.initial operations).stopped = false)
    (found : ((sessionMachine node).run node.initial operations).pending take.kind =
      some directive)
    (fresh : ∀ step ∈ (sessionMachine node).history node.initial operations, ∀ other,
      returned step = some other → other.kind = directive.kind → other.id ≠ directive.id)
    (unprotected : Unprotected take directive) :
    outcome (take.method node) ((sessionMachine node).run node.initial operations) =
        .ok (some directive) ↔
      (directive.Named →
        Undisturbed node ((sessionMachine node).history node.initial operations) directive) := by
  have hashable := hashable_of_unprotected (kind_of_pending found) unprotected
  have admitted :
      Admits node ((sessionMachine node).run node.initial operations) take directive := by
    cases take with
    | injection =>
      obtain ⟨injection, _, rfl⟩ := Option.map_eq_some_iff.mp found
      exact ⟨running, bench⟩
    | replan =>
      obtain ⟨replan, _, rfl⟩ := Option.map_eq_some_iff.mp found
      exact running
    | excision provenance =>
      obtain ⟨excision, _, rfl⟩ := Option.map_eq_some_iff.mp found
      exact guard excision provenance unprotected
  have undisturbed (named : directive.Named) :=
    not_repeated_iff_undisturbed node operations named fresh
  rw [hands_out_iff node found]
  constructor
  · rintro ⟨unspent, _, _⟩ named
    exact (undisturbed named).mp unspent
  · intro calm
    refine ⟨fun repeated => ?_, admitted, hashable⟩
    exact (undisturbed repeated.1).mpr (calm repeated.1) repeated

/-- A test bench that signs nothing. -/
def openBench : Node := { openNode with testBench := true }

/-- A command that injects a text as `x`. -/
def injectX : Operation :=
  .message (.delta 1 (.dict [field "pending_injection" (.dict [idField "x"])]) .null .null .null)

/-- A command that excises two segments as `x`. -/
def exciseX : Operation :=
  .message (.delta 2 (.dict [field "pending_excision" (.dict [idField "x",
    field "target_refs" (.list [.str "a", .str "b"])])]) .null .null .null)

/-- The excision that command arms. -/
def excisionX : Excision := ⟨"x", [.str "a", .str "b"], [], [], []⟩

/-- Both segments are what tools returned. -/
def segments : Provenance := [("a", "tool_result"), ("b", "tool_result")]

theorem unprotected_excisionX : Unprotected (.excision segments) (.excision excisionX) := by
  intro ref member
  rcases List.mem_pair.mp member with rfl | rfl
  · exact ⟨"a", "tool_result", rfl, rfl, by decide⟩
  · exact ⟨"b", "tool_result", rfl, rfl, by decide⟩

theorem guardPasses_openBench : GuardPasses openBench := by
  intro excision provenance unprotected
  show (excision.targetRefs.mapM Value.toKey >>= fun keys =>
    .ok ((keys.filter (isConfigured provenance)).map Key.toValue)) = .ok []
  have known : ∀ ref ∈ excision.targetRefs, ∃ name origin, ref = .str name ∧
      provenance.lookup name = some origin ∧ origin ≠ "operator_config" := unprotected
  generalize excision.targetRefs = refs at known
  suffices looked : ∃ keys, refs.mapM Value.toKey = .ok keys ∧
      keys.filter (isConfigured provenance) = [] by
    obtain ⟨keys, same, none⟩ := looked
    rw [same]
    exact congrArg (fun passed => Except.ok (List.map Key.toValue passed)) none
  induction refs with
  | nil => exact ⟨[], rfl, rfl⟩
  | cons ref rest inductionHypothesis =>
    obtain ⟨⟨name, origin, rfl, found, elsewhere⟩, others⟩ := List.forall_mem_cons.mp known
    obtain ⟨keys, same, none⟩ := inductionHypothesis others
    refine ⟨.str name :: keys, ?_, ?_⟩
    · rw [List.mapM_cons, same]
      rfl
    · have passes : isConfigured provenance (.str name) = false := by
        simpa [isConfigured, found] using elsewhere
      rw [List.filter_cons_of_neg (by simp [passes]), none]

/-- An excision that nothing disturbed is handed out. -/
theorem excision_handed_out :
    outcome ((Take.excision segments).method openBench)
      ((sessionMachine openBench).run openBench.initial [exciseX]) =
        .ok (some (.excision excisionX)) := by
  refine (kinds_apart_iff openBench rfl guardPasses_openBench [exciseX] (.excision segments) _ rfl
    rfl (fun step member other given => ?_) unprotected_excisionX).mpr
      fun _ => ⟨fun step member other letGo => ?_, fun step member other letGo => ?_⟩
  · cases List.mem_singleton.mp member
    cases given
  all_goals
    cases List.mem_singleton.mp member
    obtain ⟨_, same, _⟩ := letGo
    cases same

/-- An injection that was handed out suppresses an excision of the same identifier, which would
have been handed out without it. -/
theorem injection_suppresses_excision :
    let reached := (sessionMachine openBench).run openBench.initial
      [injectX, .take .injection, exciseX]
    reached.stopped = false ∧ reached.pending .excision = some (.excision excisionX) ∧
      (∀ step ∈ (sessionMachine openBench).history openBench.initial
        [injectX, .take .injection, exciseX], ∀ other,
          returned step = some other → other.kind = .excision → other.id ≠ "x") ∧
      Unprotected (.excision segments) (.excision excisionX) ∧
      outcome ((Take.excision segments).method openBench) reached = .ok none := by
  refine ⟨rfl, rfl, fun step member other given kind => ?_, unprotected_excisionX, rfl⟩
  rcases List.mem_cons.mp member with rfl | member
  · cases given
  rcases List.mem_cons.mp member with rfl | member
  · cases given
    cases kind
  · cases List.mem_singleton.mp member
    cases given

end AxorWrap.Plane
