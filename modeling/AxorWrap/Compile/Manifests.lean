/-
This file models the compilation of tool manifests into the configuration of a governor:
`compile_manifests`, `_expand` and `governor_kwargs` (`axor_wrap/compile.py`).

The compilation reads a few facts off each manifest and gathers them in lists and tables. What it
reads of one manifest does not depend on the others, so the two parts are kept apart here.
-/

import AxorWrap.Library.Check
import AxorWrap.Python.Value
import Mathlib.Data.Finset.Dedup
import Mathlib.Data.List.AList
import Mathlib.Data.List.Lex

namespace AxorWrap.Compile

open Python Checks

/-- A `dict` with text keys. Nothing below reads the order of its entries. -/
abbrev Table (α : Type) := AList fun _ : PyStr => α

/-- `{key: f(value) for key, value in table.items()}` -/
def Table.mapValues {α β : Type} (f : α → β) (table : Table α) : Table β :=
  ⟨table.entries.map (.map id fun _ => f), List.NodupKeys.map₂ _ _ table.nodupKeys⟩

theorem Table.lookup_mapValues {α β : Type} (f : α → β) (table : Table α) (key : PyStr) :
    (table.mapValues f).lookup key = (table.lookup key).map f :=
  List.dlookup_map₂ key

theorem Table.keys_mapValues {α β : Type} (f : α → β) (table : Table α) :
    (table.mapValues f).keys = table.keys :=
  List.map_map

/-- `sorted(texts)` -/
def sorted (texts : List PyStr) : List PyStr := texts.insertionSort (· ≤ ·)

/-- The Unicode tables of the interpreter, with those of the cases of letters. -/
structure Unicode extends Interpreter where
  lower : PyStr → PyStr
  upper : PyStr → PyStr

variable (unicode : Unicode)

/-- `str(value)` -/
def textOf (value : Value) : PyStr := value.toStr unicode.toInterpreter

/-- `value or {}` -/
def orEmpty (value : Value) : Value := if value.truthy then value else .dict []

/-- `entries.get(key, default)` -/
def entryOr (entries : Entries) (key : PyStr) (fallback : Value) : Value :=
  (Entries.lookup entries key).getD fallback

/-! ### The allowlist -/

/-- `_INPUT_REF` -/
def inputRef : PyStr := "$inputs."

/-- One item of an allowlist: a reference becomes the input it names, and a list is spliced in. -/
def expandItem (inputs : Option Entries) (item : Value) : Except PyError (List Value) :=
  match item with
  | .str text =>
    if text.startsWith inputRef then
      match inputs.bind fun inputs => Entries.lookup inputs (text.drop inputRef.length) with
      | none => .error .valueError
      | some (.list values) => .ok values
      | some value => .ok [value]
    else .ok [item]
  | item => .ok [item]

/-- `_expand` -/
def expand (items : List Value) (inputs : Option Entries) : Except PyError (List Value) :=
  return (← items.mapM (expandItem inputs)).flatten

/-! ### What is read off a manifest -/

/-- The effect classes that make a tool an egress sink. -/
def egressClasses : List PyStr := ["EXPORT", "EXEC"]

/-- `_DEFAULT_ALLOWLIST_ARG` -/
def defaultAllowlistArg : PyStr := "recipient"

structure ToolFacts where
  toolId : PyStr
  isEgress : Bool
  untrustedFields : List PyStr
  isSensitive : Bool
  drivingArgs : List PyStr

/-- What a pass of the loop reads of its manifest. -/
def readManifest (manifest : Entries) : Except PyError ToolFacts := do
  let effect := orEmpty (entryOr manifest "effect" (.dict []))
  let defaultClass ← effect.get "default_class" .null
  let rules ← (← effect.get "resolve" (.list [])).iterate
  let ruleClasses ← rules.mapM fun rule => rule.item "class"
  let classes := (defaultClass :: ruleClasses).map (textOf unicode)
  let fields ← (entryOr manifest "untrusted_fields" (.list [])).iterate
  let args ← (← effect.get "driving_args" (.list [])).iterate
  return {
    toolId := textOf unicode (entryOr manifest "id" .null)
    isEgress := classes.any fun effectClass => effectClass ∈ egressClasses
    untrustedFields := fields.map (textOf unicode)
    isSensitive := (entryOr manifest "sensitive_fields" .null).truthy
    drivingArgs := args.map (textOf unicode) }

/-! ### The compilation -/

/-- A value policy on one argument. -/
structure EnumSpec where
  enum : List PyStr
deriving DecidableEq

structure Canon where
  egressSinks : List PyStr
  untrustedSources : List PyStr
  sensitiveSources : List PyStr
  untrustedFields : Table (List PyStr)
  drivingArgs : Table (List PyStr)
  valuePolicies : Table (Table EnumSpec)
  consequenceOverrides : Table PyStr

/-- The identifiers of the tools of which this holds, sorted. -/
def toolsWith (holds : ToolFacts → Bool) (tools : List ToolFacts) : List PyStr :=
  sorted ((tools.filter holds).map ToolFacts.toolId)

/-- `table[tool] = texts` for each tool with texts, in order. -/
def tableOf (texts : ToolFacts → List PyStr) (tools : List ToolFacts) : Table (List PyStr) :=
  tools.foldl (fun table tool =>
    if (texts tool).isEmpty then table else table.insert tool.toolId (texts tool)) ∅

/-- The overrides a policy declares. -/
def declaredOverrides (policy : Option Entries) : Except PyError Entries :=
  (orEmpty (entryOr (policy.getD []) "criticality_overrides" .null)).items

def overridesOf (declared : Entries) : Table PyStr :=
  declared.foldl (fun table entry => table.insert
    (unicode.lower (textOf unicode entry.1.toValue)) (textOf unicode entry.2)) ∅

/-- The items of the allowlist of a policy, if it has one. -/
def allowlistOf (policy : Option Entries) : Except PyError (Option (List Value)) :=
  let allowlist := entryOr (policy.getD []) "allowlist" .null
  if allowlist.truthy then do return some (← allowlist.iterate) else return none

/-- The texts an allowlist resolves to. -/
def resolvedOf (policy inputs : Option Entries) : Except PyError (Option (List PyStr)) := do
  match ← allowlistOf policy with
  | some items => return some ((← expand items inputs).map (textOf unicode))
  | none => return none

/-- The argument an allowlist is put on. -/
def allowlistArg (driving : Table (List PyStr)) (sink : PyStr) : PyStr :=
  ((driving.lookup sink).getD []).headD defaultAllowlistArg

/-- With an allowlist, each sink takes the texts it resolves to and no others. -/
def policiesOf (egress : List PyStr) (driving : Table (List PyStr)) :
    Option (List PyStr) → Table (Table EnumSpec)
  | none => ∅
  | some resolved => egress.foldl (fun policies sink => policies.insert sink
      (AList.singleton (allowlistArg driving sink) ⟨resolved⟩)) ∅

/-- What the facts of the tools and the parts of the policy are gathered in. -/
def canonOf (tools : List ToolFacts) (declared : Entries) (resolved : Option (List PyStr)) :
    Canon :=
  let egress := toolsWith ToolFacts.isEgress tools
  let driving := tableOf ToolFacts.drivingArgs tools
  { egressSinks := egress
    untrustedSources := toolsWith (fun tool => !tool.untrustedFields.isEmpty) tools
    sensitiveSources := toolsWith ToolFacts.isSensitive tools
    untrustedFields := tableOf (fun tool => sorted tool.untrustedFields) tools
    drivingArgs := driving
    valuePolicies := policiesOf egress driving resolved
    consequenceOverrides := overridesOf unicode declared }

/-- `compile_manifests` -/
def compileManifests (manifests : List Entries) (policy inputs : Option Entries) :
    Except PyError Canon := do
  let tools ← manifests.mapM (readManifest unicode)
  let declared ← declaredOverrides policy
  let resolved ← resolvedOf unicode policy inputs
  return canonOf unicode tools declared resolved

/-! ### The arguments of the governor -/

/-- `enum_predicate(arg, allowed)` -/
structure EnumPredicate where
  arg : PyStr
  allowed : List PyStr
deriving DecidableEq

structure Kwargs (ConsequenceClass : Type) where
  egressSinks : Finset PyStr
  untrustedSources : Finset PyStr
  drivingArgs : Table (List PyStr)
  sensitiveSources : Option (Finset PyStr) := none
  valuePolicies : Option (Table (List EnumPredicate)) := none
  consequenceOverrides : Option (Table ConsequenceClass) := none

/-- The predicates of a sink. -/
def predicatesOf (byArg : Table EnumSpec) : List EnumPredicate :=
  byArg.entries.map fun entry => ⟨entry.1, entry.2.enum⟩

section Governor

variable {ConsequenceClass : Type} (consequenceClass : PyStr → Option ConsequenceClass)

/-- `ConsequenceClass[name.upper()]` -/
def classNamed (name : PyStr) : Except PyError ConsequenceClass :=
  match consequenceClass (unicode.upper name) with
  | some found => .ok found
  | none => .error .keyError

/-- The classes of the overrides. -/
def classesOf (overrides : Table PyStr) : Except PyError (Table ConsequenceClass) := do
  let entries ← overrides.entries.mapM fun entry => do
    return (⟨entry.1, ← classNamed unicode consequenceClass entry.2⟩ :
      Sigma fun _ : PyStr => ConsequenceClass)
  return entries.toAList

/-- The classes of the overrides, when there are any. -/
def namedOverrides (overrides : Table PyStr) : Except PyError (Option (Table ConsequenceClass)) :=
  if overrides.entries.isEmpty then return none
  else return some (← classesOf unicode consequenceClass overrides)

/-- `governor_kwargs` -/
def governorKwargs (manifests : List Entries) (policy inputs : Option Entries) :
    Except PyError (Kwargs ConsequenceClass) := do
  let canon ← compileManifests unicode manifests policy inputs
  let overrides ← namedOverrides unicode consequenceClass canon.consequenceOverrides
  return {
    egressSinks := canon.egressSinks.toFinset
    untrustedSources := canon.untrustedSources.toFinset
    drivingArgs := canon.drivingArgs
    sensitiveSources :=
      if canon.sensitiveSources.isEmpty then none else some canon.sensitiveSources.toFinset
    valuePolicies :=
      if canon.valuePolicies.entries.isEmpty then none
      else some (canon.valuePolicies.mapValues predicatesOf)
    consequenceOverrides := overrides }

end Governor

/-! ### What is in the tables -/

section Filled

variable {tools : List ToolFacts} {holds : ToolFacts → Bool} {texts : ToolFacts → List PyStr}
  {key : PyStr}

theorem mem_sorted {texts : List PyStr} : key ∈ sorted texts ↔ key ∈ texts :=
  (List.perm_insertionSort _ texts).mem_iff

theorem mem_toolsWith :
    key ∈ toolsWith holds tools ↔ ∃ tool ∈ tools, holds tool = true ∧ tool.toolId = key := by
  unfold toolsWith
  rw [mem_sorted, List.mem_map]
  simp only [List.mem_filter, and_assoc]

theorem tableOf_concat (tool : ToolFacts) : tableOf texts (tools ++ [tool]) =
    if (texts tool).isEmpty then tableOf texts tools
    else (tableOf texts tools).insert tool.toolId (texts tool) :=
  List.foldl_concat ..

/-- The texts of a tool are those of the last manifest with its identifier that has any. -/
theorem lookup_tableOf : (tableOf texts tools).lookup key =
    (tools.reverse.find? fun tool => tool.toolId = key && !(texts tool).isEmpty).map texts := by
  induction tools using List.reverseRecOn with
  | nil => rfl
  | append_singleton rest tool inductionHypothesis =>
    rw [tableOf_concat, List.reverse_concat, List.find?_cons]
    cases empty : (texts tool).isEmpty with
    | true => rw [if_pos rfl, inductionHypothesis, Bool.not_true, Bool.and_false]
    | false =>
      rw [if_neg Bool.false_ne_true, Bool.not_false, Bool.and_true]
      by_cases same : tool.toolId = key
      · rw [same, AList.lookup_insert, decide_eq_true rfl]
        rfl
      · rw [AList.lookup_insert_ne (Ne.symm same), inductionHypothesis, decide_eq_false same]

theorem mem_lookup_tableOf {found : List PyStr} : found ∈ (tableOf texts tools).lookup key ↔
    ∃ tool ∈ tools.reverse.find? fun tool => tool.toolId = key && !(texts tool).isEmpty,
      texts tool = found := by
  rw [Option.mem_def, lookup_tableOf]
  exact Option.map_eq_some_iff

/-- Each sink has the one policy of an allowlist, and nothing else has one. -/
theorem lookup_policiesOf {egress : List PyStr} {driving : Table (List PyStr)}
    {resolved : List PyStr} : (policiesOf egress driving (some resolved)).lookup key =
      if key ∈ egress then some (AList.singleton (allowlistArg driving key) ⟨resolved⟩)
      else none := by
  simp only [policiesOf]
  induction egress using List.reverseRecOn with
  | nil => rfl
  | append_singleton rest sink inductionHypothesis =>
    rw [List.foldl_concat]
    by_cases same : sink = key
    · rw [same, AList.lookup_insert, if_pos (List.mem_append_right _ (List.mem_singleton_self _))]
    · rw [AList.lookup_insert_ne (Ne.symm same), inductionHypothesis]
      simp only [List.mem_append, List.mem_singleton, Ne.symm same, or_false]

theorem mem_lookup_policiesOf {egress : List PyStr} {driving : Table (List PyStr)}
    {resolved : Option (List PyStr)} {byArg : Table EnumSpec} :
    byArg ∈ (policiesOf egress driving resolved).lookup key ↔
      ∃ texts, resolved = some texts ∧ key ∈ egress ∧
        byArg = AList.singleton (allowlistArg driving key) ⟨texts⟩ := by
  cases resolved with
  | none => exact ⟨fun wrong => (nomatch wrong), fun ⟨_, wrong, _⟩ => (nomatch wrong)⟩
  | some texts =>
    rw [lookup_policiesOf]
    constructor
    · intro found
      split at found
      · next member =>
        cases found
        exact ⟨texts, rfl, member, rfl⟩
      · cases found
    · rintro ⟨_, same, member, rfl⟩
      cases same
      rw [if_pos member]
      rfl

/-- The tools with texts are those with a manifest that has any. -/
theorem mem_tableOf : key ∈ (tableOf texts tools).keys ↔
    ∃ tool ∈ tools, texts tool ≠ [] ∧ tool.toolId = key := by
  rw [← AList.mem_keys, ← AList.lookup_isSome, lookup_tableOf, Option.isSome_map,
    List.find?_isSome]
  simp only [List.mem_reverse, Bool.and_eq_true, decide_eq_true_eq, Bool.not_eq_true',
    List.isEmpty_eq_false_iff]
  exact exists_congr fun tool => and_congr_right fun _ => and_comm

/-- There are overrides exactly when some are declared. -/
theorem overridesOf_empty_iff {declared : Entries} :
    (overridesOf unicode declared).entries = [] ↔ declared = [] := by
  constructor
  · intro empty
    rcases List.eq_nil_or_concat declared with none | ⟨rest, entry, rfl⟩
    · exact none
    · unfold overridesOf at empty
      rw [List.concat_eq_append, List.foldl_concat, AList.entries_insert] at empty
      exact absurd empty (List.cons_ne_nil _ _)
  · rintro rfl
    rfl

end Filled

/-! ### What a compilation is -/

section Compiled

variable {unicode} {manifests : List Entries} {policy inputs : Option Entries} {canon : Canon}
  {resolved : Option (List PyStr)}

theorem compileManifests_eq_ok : compileManifests unicode manifests policy inputs = .ok canon ↔
    ∃ tools, manifests.mapM (readManifest unicode) = .ok tools ∧
      ∃ declared, declaredOverrides policy = .ok declared ∧
        ∃ resolved, resolvedOf unicode policy inputs = .ok resolved ∧
          canonOf unicode tools declared resolved = canon := by
  unfold compileManifests
  simp only [bind_eq_ok, pure, Except.pure, Except.ok.injEq]

/-- An allowlist that counts has an item. -/
theorem allowlistOf_nonempty {items : List Value} (listed : allowlistOf policy = .ok (some items)) :
    items ≠ [] := by
  simp only [allowlistOf] at listed
  generalize entryOr (policy.getD []) "allowlist" .null = allowlist at listed
  split at listed
  · next truthy =>
    obtain ⟨values, iterated, same⟩ := bind_eq_ok.mp listed
    cases same
    cases allowlist with
    | list values | str text | dict entries =>
      cases iterated
      simpa [Value.truthy] using truthy
    | null | bool flag | int number | float number => cases iterated
  · cases listed

/-- Without inputs nothing is expanded: an allowlist has no reference, or it is refused. -/
theorem expand_without {items expanded : List Value} (expands : expand items none = .ok expanded) :
    expanded = items ∧ ∀ inputs, expand items inputs = .ok items := by
  obtain ⟨lists, each, same⟩ := bind_eq_ok.mp expands
  cases same
  have single : ∀ item values, expandItem none item = .ok values →
      values = [item] ∧ ∀ inputs, expandItem inputs item = .ok [item] := by
    intro item values expanded
    cases item with
    | str text =>
      simp only [expandItem] at expanded ⊢
      by_cases reference : text.startsWith inputRef = true
      · rw [if_pos reference] at expanded
        cases expanded
      · rw [if_neg reference] at expanded
        cases expanded
        exact ⟨rfl, fun _ => if_neg reference⟩
    | null | bool flag | int number | float number | list items | dict entries =>
      cases expanded
      exact ⟨rfl, fun _ => rfl⟩
  have taken := mapM_eq_ok.mp each
  have all : lists = items.map (fun item => [item]) ∧
      ∀ inputs, items.mapM (expandItem inputs) = .ok (items.map fun item => [item]) := by
    clear each expands
    induction taken with
    | nil => exact ⟨rfl, fun _ => rfl⟩
    | cons first _ inductionHypothesis =>
      obtain ⟨rfl, again⟩ := single _ _ first
      obtain ⟨rfl, others⟩ := inductionHypothesis
      refine ⟨rfl, fun inputs => ?_⟩
      rw [List.mapM_cons, again, others]
      rfl
  have flat : (items.map fun item => [item]).flatten = items := by
    rw [← List.flatMap_def, List.flatMap_singleton']
  refine ⟨all.1 ▸ flat, fun inputs => ?_⟩
  unfold expand
  rw [all.2 inputs]
  exact congrArg Except.ok flat

/-- Without inputs the texts of an allowlist are those of its items, and inputs make no
difference. -/
theorem resolvedOf_without (resolves : resolvedOf unicode policy none = .ok resolved) :
    (∃ listed, allowlistOf policy = .ok listed ∧
        resolved = listed.map fun items => items.map (textOf unicode)) ∧
      ∀ inputs, resolvedOf unicode policy inputs = .ok resolved := by
  obtain ⟨listed, isListed, resolves⟩ := bind_eq_ok.mp resolves
  cases listed with
  | none =>
    cases resolves
    refine ⟨⟨none, isListed, rfl⟩, fun inputs => ?_⟩
    unfold resolvedOf
    rw [isListed]
    rfl
  | some items =>
    obtain ⟨expanded, expands, same⟩ := bind_eq_ok.mp resolves
    cases same
    obtain ⟨rfl, always⟩ := expand_without expands
    refine ⟨⟨some expanded, isListed, rfl⟩, fun inputs => ?_⟩
    unfold resolvedOf
    rw [isListed]
    show (expand expanded inputs >>= fun _ => _) = _
    rw [always]
    rfl

/-- What compiles without inputs compiles to the same with any. -/
theorem compileManifests_without (compiled : compileManifests unicode manifests policy none =
    .ok canon) : compileManifests unicode manifests policy inputs = .ok canon := by
  obtain ⟨tools, isRead, declared, isDeclared, resolved, resolves, same⟩ :=
    compileManifests_eq_ok.mp compiled
  exact compileManifests_eq_ok.mpr
    ⟨tools, isRead, declared, isDeclared, resolved, (resolvedOf_without resolves).2 inputs, same⟩

end Compiled

end AxorWrap.Compile
