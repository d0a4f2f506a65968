/-
This file models `axor_wrap/experiment.py`, which reads the assignment of an experiment, and the
constructor of `WrappedToolset` (`axor_wrap/runtime.py`), which it sets up with what it reads.

Lab assigns each trial an arm, and a runtime that chose the arm by itself would be no experiment. So
what is proved here is where everything comes from: the coordinates of a trial from its unit, its
enforcement literally from its arm, and nothing of two arms from anything in which they agree.
-/

import AxorWrap.Compile.Agreement
import AxorWrap.Runtime.Arms
import AxorWrap.Runtime.Coroutines
import AxorWrap.Trace.Trials

namespace AxorWrap.Lab

open Python Checks Methods Machines
open Compile (Unicode Table Kwargs entryOr orEmpty textOf readManifest governorKwargs)
open AxorWrap.Runtime (Setting Tool Governor Code Object Toolset Enforcement)
open Trace (colon rsplit)

/-- What these functions raise: an `AssignmentError` with its text, or an exception of Python. -/
inductive Failure
  | assignment (message : PyStr)
  | python (error : PyError)
deriving DecidableEq, Repr

/-- A computation of the model of Python, which raises no `AssignmentError`. -/
def computing {α : Type} (computed : Except PyError α) : Except Failure α :=
  computed.mapError .python

/-! ### The wrapped toolset -/

variable (S : Setting) (ConsequenceClass : Type)

/-- The code outside this repository: the tables of the interpreter, the consequence classes and
the constructor of a `ToolCallGovernor`, and what polling a predicate runs. -/
structure Surroundings where
  unicode : Unicode
  consequenceClass : PyStr → Option ConsequenceClass
  toolCallGovernor : Kwargs ConsequenceClass → PyStr → Except PyError (Governor S)
  poll : S.Predicate → Code S Bool

/-- A `WrappedToolset`: the gate, and the contract it keeps beside it. -/
structure Wrapped where
  toolset : Toolset S
  manifests : List Value
  policy : Option Entries
  inputs : Option Entries
  config : Kwargs ConsequenceClass

variable {S ConsequenceClass}

/-- `ENFORCEMENT_ON`, `ENFORCEMENT_OFF` -/
def enforcementText : Enforcement → PyStr
  | .on => "on"
  | .off => "off"

def enforcementNamed (text : PyStr) : Option Enforcement :=
  if text = "on" then some .on else if text = "off" then some .off else none

theorem enforcementNamed_eq_some {text : PyStr} {enforcement : Enforcement} :
    enforcementNamed text = some enforcement ↔ text = enforcementText enforcement := by
  unfold enforcementNamed
  constructor
  · intro named
    split at named
    · next on =>
      cases named
      exact on
    · split at named
      · next off =>
        cases named
        exact off
      · cases named
  · rintro rfl
    cases enforcement with
    | on => rfl
    | off => rfl

variable (around : Surroundings S ConsequenceClass)

/-- What `governor_kwargs` reads of manifests that need not be dictionaries: one after another is
read, up to the first that cannot be. -/
def readable (manifests : List Value) : Except PyError (List Entries) :=
  manifests.mapM fun manifest => do
    let entries ← manifest.items
    let _ ← readManifest around.unicode entries
    return entries

/-- `(policy or {}).get`, for what `dict` took. -/
def policyOf (policy : Value) : Except PyError (Option Entries) :=
  if policy.truthy then some <$> policy.items else .ok none

/-- `governor_kwargs` of the arguments of a constructor. -/
def configOf (manifests : List Value) (policy : Value) (inputs : Option Entries) :
    Except PyError (Kwargs ConsequenceClass) := do
  let manifests ← readable around manifests
  governorKwargs around.unicode around.consequenceClass manifests (← policyOf policy) inputs

/-- `dict(policy) if policy else None` -/
def keptPolicy (policy : Value) : Except PyError (Option Entries) :=
  if policy.truthy then some <$> policy.toDict else .ok none

/-- `WrappedToolset.__init__`. -/
def wrappedToolset (tools : List (PyStr × Tool S)) (manifests : List Value) (policy : Value)
    (governor : Option (Governor S)) (enforcement : PyStr) (record : Bool)
    (inputs : Option Entries) (nodeId : PyStr) :
    Except PyError (Wrapped S ConsequenceClass) := do
  let kept ← keptPolicy policy
  let config ← configOf around manifests policy inputs
  let governor ← governor.elim (around.toolCallGovernor config nodeId) .ok
  match enforcementNamed enforcement with
  | none => .error .valueError
  | some enforcement =>
    return {
      toolset := {
        tools := tools
        governor := governor
        poll := around.poll
        enforcement := enforcement
        record := record }
      manifests := manifests
      policy := kept
      inputs := inputs.filter fun inputs => !inputs.isEmpty
      config := config }

/-! ### The assignment -/

/-- `value or []` -/
def orNothing (value : Value) : Value := if value.truthy then value else .list []

/-- `(str(arm["id"]), dict(arm))` -/
def readArm (arm : Value) : Except PyError (PyStr × Entries) := do
  let id ← arm.item "id"
  return (textOf around.unicode id, ← arm.toDict)

/-- `arms`. -/
def arms (assignment : Entries) : Except PyError (Table Entries) := do
  let declared ← (orNothing (entryOr assignment "conditions" .null)).iterate
  let read ← declared.mapM (readArm around)
  return read.foldl (fun table arm => table.insert arm.1 arm.2) ∅

/-- The text of the `AssignmentError` of an arm that does not say whether to enforce. -/
def unclearText (arm : Entries) (value : Value) : PyStr :=
  let interpreter := around.unicode.toInterpreter
  PyStr.ofString "arm " ++ (entryOr arm "id" .null).repr interpreter ++
    PyStr.ofString " declares enforcement " ++ value.repr interpreter ++
    PyStr.ofString "; expected 'on' or 'off'. Refusing to guess — the comparison rests on this " ++
    PyStr.ofString "flag being the only difference between arms"

/-- `enforcement_of`. -/
def enforcementOf (arm : Entries) : Except Failure PyStr :=
  let value := entryOr arm "enforcement" .null
  if value.eq (.str "on") || value.eq (.str "off") then .ok (textOf around.unicode value)
  else .error (.assignment (unclearText around arm value))

/-- The text of the `AssignmentError` of a unit whose arm is not described. -/
def undescribedText (trialUnit arm : PyStr) (declared : Table Entries) : PyStr :=
  let interpreter := around.unicode.toInterpreter
  PyStr.ofString "trial " ++ reprText interpreter trialUnit ++ PyStr.ofString " names arm " ++
    reprText interpreter arm ++ PyStr.ofString ", which the assignment does not describe " ++
    PyStr.ofString "(it declares " ++
    (Value.list ((Compile.sorted declared.keys).map .str)).repr interpreter ++
    PyStr.ofString "). The runtime cannot know which kernel to wrap under or whether to enforce"

/-- `arm_for`. -/
def armFor (assignment : Entries) (trialUnit : PyStr) : Except Failure Entries :=
  match rsplit colon 2 trialUnit with
  | [_, arm, _] => do
    let declared ← computing (arms around assignment)
    match declared.lookup arm with
    | some entries => return entries
    | none => .error (.assignment (undescribedText around trialUnit arm declared))
  | _ => .error (.assignment
      (PyStr.ofString "malformed trial unit " ++ reprText around.unicode.toInterpreter trialUnit))

/-- The loop of `_inputs_for`. -/
def scenarioInputs (scenarioId : PyStr) : List Value → Except PyError Entries
  | [] => .ok []
  | scenario :: rest => do
    let name ← scenario.get "name" .null
    if textOf around.unicode name = scenarioId then
      (orEmpty (← scenario.get "inputs" .null)).toDict
    else scenarioInputs scenarioId rest

/-- `_inputs_for`. -/
def inputsFor (assignment : Entries) (trialUnit : PyStr) : Except PyError Entries :=
  match rsplit colon 2 trialUnit with
  | [scenarioId, _, _] => do
    scenarioInputs around scenarioId
      (← (orNothing (entryOr assignment "scenarios" .null)).iterate)
  | _ => .error .valueError

/-- `planned_trials`. -/
def plannedTrials (assignment : Entries) : Except Failure (List PyStr) :=
  match entryOr assignment "planned_trials" .null with
  | .list units => .ok (units.map (textOf around.unicode))
  | _ => .error (.assignment "assignment carries no planned_trials")

/-- What a caller may pass to `toolset_for_arm` beside the tools, the assignment and the unit. -/
structure Overrides (S : Setting) where
  policy : Option Entries := none
  governor : Option (Governor S) := none
  inputs : Option Entries := none

/-- `policy or arm.get("policy")` -/
def chosenPolicy (policy : Option Entries) (arm : Entries) : Value :=
  match policy with
  | some (entry :: rest) => .dict (entry :: rest)
  | _ => entryOr arm "policy" .null

/-- `toolset_for_arm`. -/
def toolsetForArm (tools : List (PyStr × Tool S)) (assignment : Entries) (trialUnit : PyStr)
    (overrides : Overrides S) : Except Failure (Wrapped S ConsequenceClass) :=
  match entryOr assignment "tool_manifests" .null with
  | .list (manifest :: manifests) => do
    let arm ← armFor around assignment trialUnit
    let enforcement ← enforcementOf around arm
    let inputs ← computing (overrides.inputs.elim (inputsFor around assignment trialUnit) .ok)
    computing (wrappedToolset around tools (manifest :: manifests)
      (chosenPolicy overrides.policy arm) overrides.governor enforcement true (some inputs) [])
  | _ => .error (.assignment
      (PyStr.ofString "assignment carries no tool_manifests — the runtime would have to " ++
        PyStr.ofString "govern against a contract Lab never planned against"))

/-! ### Units and arms -/

/-- The unit is composed of a scenario, an arm and a repeat, in which only the scenario may have
colons. -/
structure Composed (trialUnit scenario arm index : PyStr) : Prop where
  text : trialUnit = scenario ++ colon :: (arm ++ colon :: index)
  arm : colon ∉ arm
  index : colon ∉ index

theorem rsplit_eq_iff {trialUnit scenario arm index : PyStr} :
    rsplit colon 2 trialUnit = [scenario, arm, index] ↔ Composed trialUnit scenario arm index := by
  constructor
  · intro split
    obtain ⟨text, middle, last⟩ := Trace.of_rsplit_two_eq split
    exact ⟨text, middle, last⟩
  · rintro ⟨rfl, middle, last⟩
    exact Trace.rsplit_two_append middle last

/-- The arm that is declared last under an identifier. -/
def lastArm (read : List (PyStr × Entries)) (id : PyStr) : Option Entries :=
  (read.reverse.find? fun arm => arm.1 = id).map Prod.snd

theorem lookup_insertArms (read : List (PyStr × Entries)) (id : PyStr) :
    (read.foldl (fun table arm => table.insert arm.1 arm.2) (∅ : Table Entries)).lookup id =
      lastArm read id := by
  unfold lastArm
  induction read using List.reverseRecOn with
  | nil => rfl
  | append_singleton rest arm inductionHypothesis =>
    rw [List.foldl_concat, List.reverse_concat, List.find?_cons]
    by_cases same : arm.1 = id
    · rw [same, AList.lookup_insert, decide_eq_true rfl]
      rfl
    · rw [AList.lookup_insert_ne (Ne.symm same), inductionHypothesis, decide_eq_false same]

/-- The assignment declares this arm under this identifier. -/
def Declares (assignment : Entries) (arm : PyStr) (entries : Entries) : Prop :=
  ∃ conditions read, (orNothing (entryOr assignment "conditions" .null)).iterate =
      .ok conditions ∧
    conditions.mapM (readArm around) = .ok read ∧ lastArm read arm = some entries

variable {around}

theorem declares_iff {assignment entries : Entries} {arm : PyStr} :
    Declares around assignment arm entries ↔
      ∃ declared, arms around assignment = .ok declared ∧ declared.lookup arm = some entries := by
  unfold arms
  constructor
  · rintro ⟨conditions, read, iterated, each, found⟩
    refine ⟨_, bind_eq_ok.mpr ⟨conditions, iterated, bind_eq_ok.mpr ⟨read, each, rfl⟩⟩, ?_⟩
    rw [lookup_insertArms]
    exact found
  · rintro ⟨declared, gathered, found⟩
    obtain ⟨conditions, iterated, rest⟩ := bind_eq_ok.mp gathered
    obtain ⟨read, each, same⟩ := bind_eq_ok.mp rest
    cases same
    rw [lookup_insertArms] at found
    exact ⟨conditions, read, iterated, each, found⟩

theorem computing_eq_ok {α : Type} {computed : Except PyError α} {value : α} :
    computing computed = .ok value ↔ computed = .ok value := by
  cases computed with
  | error error => exact ⟨fun same => (nomatch same), fun same => (nomatch same)⟩
  | ok result => exact ⟨fun same => by cases same; rfl, fun same => by cases same; rfl⟩

theorem armFor_eq_ok {assignment entries : Entries} {trialUnit : PyStr} :
    armFor around assignment trialUnit = .ok entries ↔
      ∃ scenario arm index, Composed trialUnit scenario arm index ∧
        Declares around assignment arm entries := by
  constructor
  · intro found
    unfold armFor at found
    split at found
    · next scenario arm index split =>
      obtain ⟨declared, gathered, looked⟩ := bind_eq_ok.mp found
      refine ⟨scenario, arm, index, rsplit_eq_iff.mp split,
        declares_iff.mpr ⟨declared, computing_eq_ok.mp gathered, ?_⟩⟩
      cases known : declared.lookup arm with
      | none =>
        rw [known] at looked
        cases looked
      | some entries =>
        rw [known] at looked
        cases looked
        rfl
    · cases found
  · rintro ⟨scenario, arm, index, composed, declares⟩
    obtain ⟨declared, gathered, found⟩ := declares_iff.mp declares
    unfold armFor
    rw [rsplit_eq_iff.mpr composed]
    refine bind_eq_ok.mpr ⟨declared, computing_eq_ok.mpr gathered, ?_⟩
    rw [found]
    rfl

/-- An arm enforces what it literally declares. -/
theorem enforcementOf_eq_ok {arm : Entries} {text : PyStr} :
    enforcementOf around arm = .ok text ↔ ∃ enforcement, text = enforcementText enforcement ∧
      Entries.lookup arm "enforcement" = some (.str (enforcementText enforcement)) := by
  unfold enforcementOf entryOr
  dsimp only
  constructor
  · intro declared
    split at declared
    · next literal =>
      rw [Bool.or_eq_true, Value.eq_str_iff, Value.eq_str_iff] at literal
      cases found : Entries.lookup arm "enforcement" with
      | none =>
        rw [found] at literal
        rcases literal with same | same <;> cases same
      | some value =>
        rw [found] at literal declared
        rcases literal with same | same
        · cases same
          cases declared
          exact ⟨.on, rfl, rfl⟩
        · cases same
          cases declared
          exact ⟨.off, rfl, rfl⟩
    · cases declared
  · rintro ⟨enforcement, rfl, found⟩
    simp only [found, Option.getD_some]
    cases enforcement with
    | on => rfl
    | off => rfl

/-! ### What a toolset is set up with -/

variable (around) in
/-- The inputs of the scenario of this name, unless the caller gives others. -/
def inputsOf (assignment : Entries) (overrides : Overrides S) (scenario : PyStr) :
    Except PyError Entries :=
  match overrides.inputs with
  | some inputs => .ok inputs
  | none => do
    scenarioInputs around scenario (← (orNothing (entryOr assignment "scenarios" .null)).iterate)

theorem inputsFor_composed {assignment : Entries} {overrides : Overrides S}
    {trialUnit scenario arm index : PyStr} (composed : Composed trialUnit scenario arm index) :
    overrides.inputs.elim (inputsFor around assignment trialUnit) .ok =
      inputsOf around assignment overrides scenario := by
  unfold inputsFor inputsOf
  rw [rsplit_eq_iff.mpr composed]
  cases overrides.inputs with
  | none => rfl
  | some inputs => rfl

variable {tools : List (PyStr × Tool S)} {overrides : Overrides S} {assignment : Entries}

/-- A toolset is set up exactly when the assignment carries manifests and declares the arm of the
unit, which says literally whether to enforce, and the constructor returns. -/
theorem toolsetForArm_eq_ok {trialUnit : PyStr} {wrapped : Wrapped S ConsequenceClass} :
    toolsetForArm around tools assignment trialUnit overrides = .ok wrapped ↔
      ∃ manifests scenario arm index entries enforcement inputs,
        Entries.lookup assignment "tool_manifests" = some (.list manifests) ∧ manifests ≠ [] ∧
        Composed trialUnit scenario arm index ∧ Declares around assignment arm entries ∧
        Entries.lookup entries "enforcement" = some (.str (enforcementText enforcement)) ∧
        inputsOf around assignment overrides scenario = .ok inputs ∧
        wrappedToolset around tools manifests (chosenPolicy overrides.policy entries)
          overrides.governor (enforcementText enforcement) true (some inputs) [] =
            .ok wrapped := by
  constructor
  · intro sets
    unfold toolsetForArm at sets
    split at sets
    · next manifest manifests carried =>
      have listed : Entries.lookup assignment "tool_manifests" =
          some (.list (manifest :: manifests)) := by
        unfold entryOr at carried
        cases found : Entries.lookup assignment "tool_manifests" with
        | none =>
          rw [found] at carried
          cases carried
        | some value =>
          rw [found] at carried
          exact congrArg some carried
      obtain ⟨entries, isFor, sets⟩ := bind_eq_ok.mp sets
      obtain ⟨text, declared, sets⟩ := bind_eq_ok.mp sets
      obtain ⟨inputs, given, sets⟩ := bind_eq_ok.mp sets
      obtain ⟨scenario, arm, index, composed, declares⟩ := armFor_eq_ok.mp isFor
      obtain ⟨enforcement, rfl, literal⟩ := enforcementOf_eq_ok.mp declared
      rw [computing_eq_ok, inputsFor_composed composed] at given
      exact ⟨_, scenario, arm, index, entries, enforcement, inputs, listed, List.cons_ne_nil _ _,
        composed, declares, literal, given, computing_eq_ok.mp sets⟩
    · cases sets
  · rintro ⟨manifests, scenario, arm, index, entries, enforcement, inputs, listed, some, composed,
      declares, literal, given, wraps⟩
    obtain ⟨manifest, rest, rfl⟩ := List.exists_cons_of_ne_nil some
    unfold toolsetForArm entryOr
    rw [listed]
    refine bind_eq_ok.mpr ⟨entries, armFor_eq_ok.mpr ⟨scenario, arm, index, composed, declares⟩, ?_⟩
    refine bind_eq_ok.mpr ⟨_, enforcementOf_eq_ok.mpr ⟨enforcement, rfl, literal⟩, ?_⟩
    refine bind_eq_ok.mpr ⟨inputs, ?_, computing_eq_ok.mpr wraps⟩
    rw [computing_eq_ok, inputsFor_composed composed]
    exact given

/-- There is a configuration when the manifests can be read, and they and the overrides compile. -/
theorem exists_configOf {values : List Value} {manifests : List Entries} {policy : Value}
    {kept inputs : Option Entries} {canon : Compile.Canon}
    {overrides : Option (Table ConsequenceClass)} (reads : readable around values = .ok manifests)
    (keeps : policyOf policy = .ok kept)
    (compiles : Compile.compileManifests around.unicode manifests kept inputs = .ok canon)
    (names : Compile.namedOverrides around.unicode around.consequenceClass
      canon.consequenceOverrides = .ok overrides) :
    ∃ config, configOf around values policy inputs = .ok config := by
  unfold configOf governorKwargs
  simp only [reads, keeps, compiles, names, bind, Except.bind, pure, Except.pure]
  exact ⟨_, rfl⟩

theorem wrappedToolset_eq_ok {manifests : List Value} {policy : Value}
    {governor : Option (Governor S)} {enforcement : Enforcement} {record : Bool}
    {inputs : Option Entries} {nodeId : PyStr} {wrapped : Wrapped S ConsequenceClass} :
    wrappedToolset around tools manifests policy governor (enforcementText enforcement) record
        inputs nodeId = .ok wrapped ↔
      ∃ kept config gate, keptPolicy policy = .ok kept ∧
        configOf around manifests policy inputs = .ok config ∧
        governor.elim (around.toolCallGovernor config nodeId) .ok = .ok gate ∧
        wrapped = ⟨⟨tools, gate, around.poll, enforcement, record⟩, manifests, kept,
          inputs.filter fun inputs => !inputs.isEmpty, config⟩ := by
  have named : enforcementNamed (enforcementText enforcement) = some enforcement :=
    enforcementNamed_eq_some.mpr rfl
  unfold wrappedToolset
  simp only [bind_eq_ok, named, pure, Except.pure, Except.ok.injEq]
  constructor
  · rintro ⟨kept, keeps, config, compiles, gate, builds, same⟩
    exact ⟨kept, config, gate, keeps, compiles, builds, same.symm⟩
  · rintro ⟨kept, config, gate, keeps, compiles, builds, same⟩
    exact ⟨kept, keeps, config, compiles, gate, builds, same.symm⟩

/-- **A trial is filed under what it ran under.** When a toolset is set up for a unit and
`trial_of` makes a trial of it, the condition the trial names is the one that literally declares
the enforcement of the toolset, which records. Its configuration is compiled from the manifests of
the assignment, the policy of that condition and the inputs of the scenario the trial names, and its
governor is the one constructed from this configuration. A policy that is not empty, inputs or a
governor that the caller passes take the place of these. -/
theorem filed_as_assigned {trialUnit : PyStr} {wrapped : Wrapped S ConsequenceClass}
    (sets : toolsetForArm around tools assignment trialUnit overrides = .ok wrapped)
    {runId : PyStr} {seed : Option PyStr} {trial : Entries}
    (files : Trace.trialOf around.unicode.toInterpreter trialUnit runId seed = .ok trial) :
    ∃ scenario arm entries inputs,
      Entries.lookup trial "scenario_id" = some (.str scenario) ∧
      Entries.lookup trial "condition_id" = some (.str arm) ∧
      Declares around assignment arm entries ∧
      Entries.lookup entries "enforcement" =
        some (.str (enforcementText wrapped.toolset.enforcement)) ∧
      wrapped.toolset.record = true ∧
      Entries.lookup assignment "tool_manifests" = some (.list wrapped.manifests) ∧
      inputsOf around assignment overrides scenario = .ok inputs ∧
      configOf around wrapped.manifests (chosenPolicy overrides.policy entries) (some inputs) =
        .ok wrapped.config ∧
      overrides.governor.elim (around.toolCallGovernor wrapped.config []) .ok =
        .ok wrapped.toolset.governor := by
  obtain ⟨manifests, scenario, arm, index, entries, enforcement, inputs, listed, _, composed,
    declares, literal, given, wraps⟩ := toolsetForArm_eq_ok.mp sets
  obtain ⟨kept, config, gate, _, compiles, builds, rfl⟩ := wrappedToolset_eq_ok.mp wraps
  obtain ⟨unit, text, rfl⟩ := Trace.trialOf_eq_ok.mp files
  have last : colon ∉ unit.index := Trace.colon_not_mem_of_intOfText unit.numeral
  have split := rsplit_eq_iff.mpr composed
  rw [rsplit_eq_iff.mpr ⟨text.symm, unit.unbroken, last⟩] at split
  simp only [List.cons.injEq, and_true] at split
  obtain ⟨sameScenario, sameArm, _⟩ := split
  subst sameScenario sameArm
  exact ⟨unit.scenario, unit.arm, entries, inputs, rfl, rfl, declares, literal, rfl, listed, given,
    compiles, builds⟩

/-! ### The arms of an experiment -/

/-- The toolset under another enforcement. -/
def Wrapped.arm (wrapped : Wrapped S ConsequenceClass) (enforcement : Enforcement) :
    Wrapped S ConsequenceClass :=
  { wrapped with toolset := wrapped.toolset.arm enforcement }

variable (around assignment overrides) in
/-- A unit of this scenario, whose arm has this policy and declares this enforcement. -/
def PlannedUnder (trialUnit scenario : PyStr) (policy : Value) (enforcement : Enforcement) :
    Prop :=
  ∃ arm index entries, Composed trialUnit scenario arm index ∧
    Declares around assignment arm entries ∧ chosenPolicy overrides.policy entries = policy ∧
    Entries.lookup entries "enforcement" = some (.str (enforcementText enforcement))

section Planned

variable {trialUnit scenario : PyStr} {policy : Value} {enforcement : Enforcement}
  {wrapped : Wrapped S ConsequenceClass}

/-- For a planned unit nothing of the assignment counts but its manifests, the inputs of the
scenario, and the policy and the enforcement of the arm. -/
theorem PlannedUnder.sets_iff
    (planned : PlannedUnder around overrides assignment trialUnit scenario policy enforcement) :
    toolsetForArm around tools assignment trialUnit overrides = .ok wrapped ↔
      ∃ manifests inputs, Entries.lookup assignment "tool_manifests" = some (.list manifests) ∧
        manifests ≠ [] ∧ inputsOf around assignment overrides scenario = .ok inputs ∧
        wrappedToolset around tools manifests policy overrides.governor
          (enforcementText enforcement) true (some inputs) [] = .ok wrapped := by
  obtain ⟨arm, index, entries, composed, declares, rfl, literal⟩ := planned
  rw [toolsetForArm_eq_ok]
  constructor
  · rintro ⟨manifests, otherScenario, otherArm, otherIndex, others, other, inputs, listed, some,
      otherComposed, otherDeclares, otherLiteral, given, wraps⟩
    have split := rsplit_eq_iff.mpr composed
    rw [rsplit_eq_iff.mpr otherComposed] at split
    simp only [List.cons.injEq, and_true] at split
    obtain ⟨rfl, rfl, _⟩ := split
    obtain ⟨declared, gathered, found⟩ := declares_iff.mp declares
    obtain ⟨others, again, otherFound⟩ := declares_iff.mp otherDeclares
    cases gathered.symm.trans again
    cases found.symm.trans otherFound
    have same := literal.symm.trans otherLiteral
    rw [Option.some.injEq, Value.str.injEq] at same
    rw [← same] at wraps
    exact ⟨manifests, inputs, listed, some, given, wraps⟩
  · rintro ⟨manifests, inputs, listed, some, given, wraps⟩
    exact ⟨manifests, scenario, arm, index, entries, enforcement, inputs, listed, some, composed,
      declares, literal, given, wraps⟩

theorem PlannedUnder.enforcement_eq
    (planned : PlannedUnder around overrides assignment trialUnit scenario policy enforcement)
    (sets : toolsetForArm around tools assignment trialUnit overrides = .ok wrapped) :
    wrapped.toolset.enforcement = enforcement := by
  obtain ⟨_, _, _, _, _, wraps⟩ := planned.sets_iff.mp sets
  obtain ⟨_, _, _, _, _, _, rfl⟩ := wrappedToolset_eq_ok.mp wraps
  rfl

/-- Another unit of the scenario, under the same policy, is set up alike but for its enforcement. -/
theorem PlannedUnder.sibling
    (planned : PlannedUnder around overrides assignment trialUnit scenario policy enforcement)
    (sets : toolsetForArm around tools assignment trialUnit overrides = .ok wrapped)
    {sibling : PyStr} {other : Enforcement}
    (siblingPlanned : PlannedUnder around overrides assignment sibling scenario policy other) :
    toolsetForArm around tools assignment sibling overrides = .ok (wrapped.arm other) := by
  obtain ⟨manifests, inputs, listed, some, given, wraps⟩ := planned.sets_iff.mp sets
  obtain ⟨kept, config, gate, keeps, compiles, builds, rfl⟩ := wrappedToolset_eq_ok.mp wraps
  exact siblingPlanned.sets_iff.mpr ⟨manifests, inputs, listed, some, given,
    wrappedToolset_eq_ok.mpr ⟨kept, config, gate, keeps, compiles, builds, rfl⟩⟩

end Planned

/-- **The arms of an experiment differ by their enforcement, up to the first denial.** When two
units of one scenario are planned under one policy, and the arm of the first enforces and that of
the second does not, either both are set up or neither is, and they are alike but for that flag. So
whatever the agent does, from whichever state: either no call is denied in any of the two runs and
they are identical, or calls are denied in both and they part at the first that is. -/
theorem arms_differ_by_enforcement {governed observed scenario : PyStr} {policy : Value}
    (governs : PlannedUnder around overrides assignment governed scenario policy .on)
    (observes : PlannedUnder around overrides assignment observed scenario policy .off) :
    (∀ wrapped, toolsetForArm around tools assignment governed overrides = .ok wrapped ↔
      toolsetForArm around tools assignment observed overrides = .ok (wrapped.arm .off) ∧
        wrapped.toolset.enforcement = .on) ∧
    ∀ wrapped other, toolsetForArm around tools assignment governed overrides = .ok wrapped →
      toolsetForArm around tools assignment observed overrides = .ok other →
      ∀ (programs : S.Program → Code S (Object S)) limit state operations,
        let governedRun := (wrapped.toolset.surface programs).machine limit
        let observedRun := (other.toolset.surface programs).machine limit
        (Runtime.Undenied state (governedRun.run state operations) ∧
          governedRun.history state operations = observedRun.history state operations ∧
          governedRun.run state operations = observedRun.run state operations) ∨
        (¬ Runtime.Undenied state (governedRun.run state operations) ∧
          ¬ Runtime.Undenied state (observedRun.run state operations) ∧
          ∃ earlier operation later moment, operations = earlier ++ operation :: later ∧
            Runtime.PartsAt wrapped.toolset programs limit state earlier operation later
              moment) := by
  refine ⟨fun wrapped => ⟨fun sets => ?_, ?_⟩, ?_⟩
  · exact ⟨governs.sibling sets observes, governs.enforcement_eq sets⟩
  · rintro ⟨sets, enforces⟩
    have again := observes.sibling sets governs
    have same : (wrapped.arm .off).arm .on = wrapped := by
      rcases wrapped with ⟨⟨tools, gate, poll, enforcement, record⟩, manifests, policy, inputs,
        config⟩
      cases enforces
      rfl
    rw [same] at again
    exact again
  · intro wrapped other sets setsOther programs limit state operations governedRun observedRun
    have alike := setsOther.symm.trans (governs.sibling sets observes)
    cases alike
    have enforces := governs.enforcement_eq sets
    have isOn : governedRun = Runtime.armMachine wrapped.toolset programs limit .on := by
      rcases wrapped with ⟨⟨tools, gate, poll, enforcement, record⟩, manifests, policy, inputs,
        config⟩
      cases enforces
      rfl
    have isOff : observedRun = Runtime.armMachine wrapped.toolset programs limit .off := rfl
    rw [isOn, isOff]
    rcases Runtime.agree_or_part wrapped.toolset programs limit state operations with
      alikeRuns | ⟨earlier, operation, later, moment, rfl, parts⟩
    · exact .inl alikeRuns
    · exact .inr ⟨parts.denied .on, parts.denied .off, earlier, operation, later, moment, rfl,
        parts⟩

/-! ### An experiment -/

/-- A governor that denies every call. -/
def denying : Governor Runtime.plainSetting where
  evaluate _ _ := .done { allowed := false, reason := "denied", category := "", verdict := () }
  registerOutput _ _ := .done ()

def plainSurroundings : Surroundings Runtime.plainSetting PyStr where
  unicode := .ascii
  consequenceClass := Compile.consequenceNamed
  toolCallGovernor _ _ := .ok denying
  poll _ := .done true

/-- Two arms of one scenario. -/
def banking : Entries :=
  [(.str "tool_manifests", .list [.dict Compile.sendEmail]),
    (.str "conditions", .list [
      .dict [(.str "id", .str "ungoverned"), (.str "enforcement", .str "off")],
      .dict [(.str "id", .str "governed"), (.str "enforcement", .str "on")]]),
    (.str "scenarios", .list [
      .dict [(.str "name", .str "banking"), (.str "inputs", .dict [(.str "to", .str "alice")])]]),
    (.str "planned_trials", .list [.str "banking:ungoverned:0", .str "banking:governed:0"])]

theorem planned_governed : PlannedUnder plainSurroundings {} banking "banking:governed:0"
    "banking" .null .on :=
  ⟨"governed", "0", [(.str "id", .str "governed"), (.str "enforcement", .str "on")],
    ⟨rfl, by decide, by decide⟩, ⟨_, _, rfl, rfl, rfl⟩, rfl, rfl⟩

theorem planned_ungoverned : PlannedUnder plainSurroundings {} banking "banking:ungoverned:0"
    "banking" .null .off :=
  ⟨"ungoverned", "0", [(.str "id", .str "ungoverned"), (.str "enforcement", .str "off")],
    ⟨rfl, by decide, by decide⟩, ⟨_, _, rfl, rfl, rfl⟩, rfl, rfl⟩

/-- The toolset of the governed arm. -/
def bankingToolset : Toolset Runtime.plainSetting where
  tools := [Runtime.fetch]
  governor := denying
  poll _ := .done true
  enforcement := .on
  record := true

theorem config_banking : ∃ config, configOf plainSurroundings [.dict Compile.sendEmail] .null
    (some [(.str "to", .str "alice")]) = .ok config := by
  have compiles : Compile.compileManifests Compile.Unicode.ascii [Compile.sendEmail] none
      (some [(.str "to", .str "alice")]) =
        .ok (Compile.canonOf Compile.Unicode.ascii [Compile.sendEmailFacts] [] none) :=
    Compile.compileManifests_eq_ok.mpr ⟨[Compile.sendEmailFacts], rfl, [], rfl, none, rfl, rfl⟩
  have names : Compile.namedOverrides Compile.Unicode.ascii plainSurroundings.consequenceClass
      (Compile.canonOf Compile.Unicode.ascii [Compile.sendEmailFacts] []
        none).consequenceOverrides = .ok none := rfl
  exact exists_configOf rfl rfl compiles names

theorem sets_governed : ∃ config, toolsetForArm plainSurroundings [Runtime.fetch] banking
    "banking:governed:0" {} = .ok ⟨bankingToolset, [.dict Compile.sendEmail], none,
      some [(.str "to", .str "alice")], config⟩ := by
  obtain ⟨config, compiles⟩ := config_banking
  exact ⟨config, planned_governed.sets_iff.mpr ⟨_, _, rfl, by decide, rfl,
    wrappedToolset_eq_ok.mpr ⟨none, config, denying, rfl, compiles, rfl, rfl⟩⟩⟩

theorem filed_as_assigned_banking : ∃ config : Kwargs PyStr, ∃ scenario arm entries inputs,
    Entries.lookup (Trace.trialBlock "banking" "governed" "r1" none 0) "scenario_id" =
      some (.str scenario) ∧
    Entries.lookup (Trace.trialBlock "banking" "governed" "r1" none 0) "condition_id" =
      some (.str arm) ∧
    Declares plainSurroundings banking arm entries ∧
    Entries.lookup entries "enforcement" = some (.str (enforcementText .on)) ∧
    bankingToolset.record = true ∧
    Entries.lookup banking "tool_manifests" = some (.list [.dict Compile.sendEmail]) ∧
    inputsOf plainSurroundings banking ({} : Overrides Runtime.plainSetting) scenario =
      .ok inputs ∧
    configOf plainSurroundings [.dict Compile.sendEmail] (chosenPolicy none entries)
      (some inputs) = .ok config ∧
    plainSurroundings.toolCallGovernor config [] = .ok bankingToolset.governor := by
  obtain ⟨config, sets⟩ := sets_governed
  have files : Trace.trialOf plainSurroundings.unicode.toInterpreter "banking:governed:0" "r1"
      none = .ok (Trace.trialBlock "banking" "governed" "r1" none 0) := rfl
  exact ⟨config, filed_as_assigned sets files⟩

/-- The other arm is set up alike. -/
theorem arms_differ_by_enforcement_banking : ∃ config : Kwargs PyStr,
    toolsetForArm plainSurroundings [Runtime.fetch] banking "banking:ungoverned:0" {} =
      .ok (Wrapped.arm ⟨bankingToolset, [.dict Compile.sendEmail], none,
        some [(.str "to", .str "alice")], config⟩ .off) := by
  obtain ⟨config, sets⟩ := sets_governed
  obtain ⟨alike, _⟩ := arms_differ_by_enforcement planned_governed planned_ungoverned
  exact ⟨config, ((alike _).mp sets).1⟩

end AxorWrap.Lab
