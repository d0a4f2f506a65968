/-
This file says that the way from a scan to a configuration fails closed. A detected tool is
classified by what its name and its description say, the guess is written into a manifest, and
the manifests are compiled. A tool is left out of the egress sinks only if a heuristic found it to
read or to write; whatever nothing is known about is gated as if it could execute anything.
-/

import AxorWrap.Compile.Agreement
import AxorWrap.Compile.Generate

namespace AxorWrap.Compile

open Python Checks

/-! ### What a scan knows of a tool -/

section Guess

variable (interpreter : LiteralInterpreter) (tool : DetectedTool)

/-- The tool that stands for the use of `subprocess` and `os.system`. -/
def DetectedTool.IsImplicitShell : Prop :=
  tool.framework = PyStr.ofString "implicit" ∧ tool.id = PyStr.ofString "shell"

/-- No heuristic matches the tool, neither by its name nor by its description. -/
structure Unmatched : Prop where
  explicit : ¬ tool.IsImplicitShell
  name : classify interpreter (tokens tool.id) (tokens tool.description)
    (argNames interpreter tool) "name" = none
  description : classify interpreter (tokens tool.description) (tokens tool.description)
    (argNames interpreter tool) "description" = none

/-- The schema of the arguments has a property of this name. -/
def HasProperty (name : PyStr) : Prop :=
  ∃ properties, tool.argsSchema.lookup "properties" = some (.dict properties) ∧
    ∃ property ∈ properties, property.1.toStr interpreter = name

/-- These are the known carriers among the properties, in the order of preference. -/
structure Carriers (names : List PyStr) : Prop where
  ordered : names.Sublist drivingArgOrder
  mem_iff : ∀ name, name ∈ names ↔ name ∈ drivingArgOrder ∧ HasProperty interpreter tool name

/-- The arguments a tool is driven by: its carriers, or `command` for an implicit shell that has
none. -/
inductive Drives : List PyStr → Prop
  | carriers {names : List PyStr} (carriers : Carriers interpreter tool names)
      (some : tool.IsImplicitShell → names ≠ []) : Drives names
  | shell (implicit : tool.IsImplicitShell) (none : Carriers interpreter tool []) :
      Drives ["command"]

/-- A word of the name or the description hints at content from outside. -/
def HasHint : Prop :=
  ∃ word ∈ tokens tool.id ++ tokens tool.description, word ∈ untrustedHints

variable {interpreter tool}

theorem mem_argNames {name : PyStr} :
    name ∈ argNames interpreter tool ↔ HasProperty interpreter tool name := by
  unfold argNames HasProperty
  cases found : tool.argsSchema.lookup "properties" with
  | none =>
    refine iff_of_false List.not_mem_nil ?_
    rintro ⟨_, ⟨⟩, _⟩
  | some value =>
    cases value with
    | dict properties => simp
    | null | bool | int | float | complex | str | bytes | ellipsis | list | tuple | set =>
      refine iff_of_false List.not_mem_nil ?_
      rintro ⟨_, ⟨⟩, _⟩

theorem carriers_filter :
    Carriers interpreter tool (drivingArgOrder.filter (· ∈ argNames interpreter tool)) where
  ordered := List.filter_sublist
  mem_iff name := by rw [List.mem_filter, decide_eq_true_eq, mem_argNames]

/-- A guess has the arguments that drive the tool. -/
theorem drives_inferEffect :
    Drives interpreter tool (inferEffect interpreter tool).drivingArgs := by
  have carriers : Carriers interpreter tool
      (drivingArgOrder.filter (· ∈ argNames interpreter tool)) := carriers_filter
  unfold inferEffect
  dsimp only
  split
  · next implicit =>
    generalize drivingArgOrder.filter (· ∈ argNames interpreter tool) = driving at carriers ⊢
    cases driving with
    | nil => exact .shell implicit carriers
    | cons first rest => exact .carriers carriers fun _ => List.cons_ne_nil first rest
  · next explicit =>
    split
    · exact .carriers carriers fun implicit => absurd implicit explicit
    · exact .carriers carriers fun implicit => absurd implicit explicit

/-- What no heuristic matches is of no known class. -/
theorem Unmatched.unknown (unmatched : Unmatched interpreter tool) :
    (inferEffect interpreter tool).defaultClass = .unknown := by
  have explicit : ¬ (tool.framework = PyStr.ofString "implicit" ∧
      tool.id = PyStr.ofString "shell") := unmatched.explicit
  unfold inferEffect
  dsimp only
  rw [if_neg explicit, unmatched.name, unmatched.description]
  rfl

theorem hasHint_iff :
    (!(common (tokens tool.id ++ tokens tool.description) untrustedHints).isEmpty) = true ↔
      HasHint tool := by
  unfold common HasHint
  rw [Bool.not_eq_true', List.isEmpty_eq_false_iff, Ne, List.filter_eq_nil_iff]
  simp

/-- A guess declares untrusted fields for what reads and is hinted to read content from outside. -/
theorem untrusted_inferEffect :
    (inferEffect interpreter tool).untrustedFields ≠ [] ↔
      (inferEffect interpreter tool).defaultClass = .read ∧ HasHint tool := by
  rw [← hasHint_iff]
  unfold inferEffect
  dsimp only
  split
  · refine iff_of_false (fun declared => declared rfl) ?_
    rintro ⟨⟨⟩, _⟩
  · split
    · refine iff_of_false (fun declared => declared rfl) ?_
      rintro ⟨⟨⟩, _⟩
    · dsimp only
      split
      · next both => exact iff_of_true (List.cons_ne_nil _ _) both
      · next neither => exact iff_of_false (fun declared => declared rfl) neither

end Guess

/-! ### What is compiled -/

/-- What is declared is an egress sink, unless it was found to read or to write. -/
theorem declaredClass_egress_iff {effect : EffectGuess} :
    declaredClass effect ∈ egressClasses ↔
      ¬ (effect.defaultClass = .read ∨ effect.defaultClass = .write) := by
  unfold declaredClass
  cases effect.defaultClass <;> decide

section Compiled

variable (interpreter : LiteralInterpreter)

/-- The manifest that is built of a tool and of what is guessed of it. -/
def scannedManifest (tool : DetectedTool) : LiteralEntries :=
  buildManifest tool (inferEffect interpreter tool)

/-- What the compilation reads of it. -/
def scannedFacts (tool : DetectedTool) : ToolFacts where
  toolId := tool.id
  isEgress := declaredClass (inferEffect interpreter tool) ∈ egressClasses
  untrustedFields := (inferEffect interpreter tool).untrustedFields
  isSensitive := false
  drivingArgs := (inferEffect interpreter tool).drivingArgs

theorem readManifest_scanned (unicode : Unicode) (tool : DetectedTool) :
    readManifest unicode (fieldsOf (scannedManifest interpreter tool)) =
      .ok (scannedFacts interpreter tool) := by
  rw [scannedManifest, buildManifest_eq]
  exact readManifest_parts unicode _

theorem mapM_scanned (unicode : Unicode) (tools : List DetectedTool) :
    (tools.map fun tool => fieldsOf (scannedManifest interpreter tool)).mapM
        (readManifest unicode) = .ok (tools.map (scannedFacts interpreter)) := by
  rw [mapM_eq_ok, List.forall₂_map_left_iff, List.forall₂_map_right_iff, List.forall₂_same]
  exact fun tool _ => readManifest_scanned interpreter unicode tool

variable {interpreter} {tools : List DetectedTool}

/-- Tools with identifiers of their own are listed exactly as each is. -/
theorem mem_toolsWith_scanned (distinct : (tools.map DetectedTool.id).Nodup)
    {holds : ToolFacts → Bool} {tool : DetectedTool} (isTool : tool ∈ tools) :
    tool.id ∈ toolsWith holds (tools.map (scannedFacts interpreter)) ↔
      holds (scannedFacts interpreter tool) = true := by
  rw [mem_toolsWith]
  constructor
  · rintro ⟨_, member, found, sameId⟩
    obtain ⟨other, isOther, rfl⟩ := List.mem_map.mp member
    rw [← List.inj_on_of_nodup_map distinct isOther isTool sameId]
    exact found
  · exact fun found => ⟨_, List.mem_map_of_mem isTool, found, rfl⟩

/-- And a table has for each what it declares. -/
theorem lookup_tableOf_scanned (distinct : (tools.map DetectedTool.id).Nodup)
    {texts : ToolFacts → List PyStr} {tool : DetectedTool} (isTool : tool ∈ tools) :
    ((tableOf texts (tools.map (scannedFacts interpreter))).lookup tool.id).getD [] =
      texts (scannedFacts interpreter tool) := by
  rw [lookup_tableOf]
  cases found : (tools.map (scannedFacts interpreter)).reverse.find? fun other =>
      other.toolId = tool.id && !(texts other).isEmpty with
  | none =>
    have passed := List.find?_eq_none.mp found _
      (List.mem_reverse.mpr (List.mem_map_of_mem isTool))
    have empty : texts (scannedFacts interpreter tool) = [] := by
      simpa [scannedFacts] using passed
    exact empty.symm
  | some last =>
    obtain ⟨other, isOther, rfl⟩ :=
      List.mem_map.mp (List.mem_reverse.mp (List.mem_of_find?_eq_some found))
    have taken := List.find?_some found
    have sameId : other.id = tool.id := of_decide_eq_true (Bool.and_eq_true_iff.mp taken).1
    rw [List.inj_on_of_nodup_map distinct isOther isTool sameId]
    rfl

/-- The configuration of these tools fails closed: what is not gated was found to read or to write,
what drives a tool are its carriers, and what is not trusted reads content from outside. -/
structure FailsClosed (interpreter : LiteralInterpreter) (tools : List DetectedTool)
    (canon : Canon) : Prop where
  egress : ∀ tool ∈ tools, tool.id ∉ canon.egressSinks ↔
    (inferEffect interpreter tool).defaultClass = .read ∨
      (inferEffect interpreter tool).defaultClass = .write
  unmatched : ∀ tool ∈ tools, Unmatched interpreter tool → tool.id ∈ canon.egressSinks
  drivingArgs : ∀ tool ∈ tools,
    Drives interpreter tool ((canon.drivingArgs.lookup tool.id).getD [])
  untrusted : ∀ tool ∈ tools, tool.id ∈ canon.untrustedSources ↔
    (inferEffect interpreter tool).defaultClass = .read ∧ HasHint tool

theorem failsClosed_canonOf (unicode : Unicode) (distinct : (tools.map DetectedTool.id).Nodup)
    (declared : Entries) (resolved : Option (List PyStr)) :
    FailsClosed interpreter tools
      (canonOf unicode (tools.map (scannedFacts interpreter)) declared resolved) := by
  have egress : ∀ tool ∈ tools,
      tool.id ∈ toolsWith ToolFacts.isEgress (tools.map (scannedFacts interpreter)) ↔
        ¬ ((inferEffect interpreter tool).defaultClass = .read ∨
          (inferEffect interpreter tool).defaultClass = .write) := by
    intro tool isTool
    rw [mem_toolsWith_scanned distinct isTool, ← declaredClass_egress_iff]
    exact decide_eq_true_iff
  constructor
  · exact fun tool isTool => (not_congr (egress tool isTool)).trans not_not
  · intro tool isTool unmatched
    refine (egress tool isTool).mpr ?_
    rw [unmatched.unknown]
    rintro (⟨⟨⟩⟩ | ⟨⟨⟩⟩)
  · intro tool isTool
    have looked : ((tableOf ToolFacts.drivingArgs (tools.map (scannedFacts interpreter))).lookup
        tool.id).getD [] = (inferEffect interpreter tool).drivingArgs :=
      lookup_tableOf_scanned distinct isTool
    exact looked ▸ drives_inferEffect
  · intro tool isTool
    rw [← untrusted_inferEffect]
    refine (mem_toolsWith_scanned distinct isTool).trans ?_
    rw [Bool.not_eq_true', List.isEmpty_eq_false_iff]
    rfl

/-- **The way from a scan to a configuration fails closed.** Whatever the tools are that a scan
finds, what is built of each is a valid manifest, and together they compile; and with identifiers
of their own, the configuration leaves no tool open that was not found to read or to write. -/
theorem scan_fails_closed (interpreter : LiteralInterpreter) (unicode : Unicode)
    (tools : List DetectedTool) (distinct : (tools.map DetectedTool.id).Nodup) :
    (∀ tool ∈ tools, validateManifest interpreter (.dict (scannedManifest interpreter tool)) = []) ∧
    (∃ canon, compileManifests unicode
      (tools.map fun tool => fieldsOf (scannedManifest interpreter tool)) none none = .ok canon) ∧
    ∀ policy inputs canon, compileManifests unicode
        (tools.map fun tool => fieldsOf (scannedManifest interpreter tool)) policy inputs =
          .ok canon →
      FailsClosed interpreter tools canon := by
  refine ⟨fun tool _ => ?_, ?_, fun policy inputs canon compiled => ?_⟩
  · rw [scannedManifest, buildManifest_eq]
    exact validateManifest_parts (declaredClass_mem _)
  · exact ⟨_, compileManifests_eq_ok.mpr
      ⟨_, mapM_scanned interpreter unicode tools, _, rfl, _, rfl, rfl⟩⟩
  · obtain ⟨facts, isRead, declared, _, resolved, _, rfl⟩ := compileManifests_eq_ok.mp compiled
    cases (mapM_scanned interpreter unicode tools).symm.trans isRead
    exact failsClosed_canonOf unicode distinct declared resolved

end Compiled

/-! ### Two tools -/

/-- A tool that reads from the web. -/
def searchTool : DetectedTool where
  id := "search_web"
  source := "tools.py"
  description := "Look something up"

/-- A tool that nothing is known about. -/
def oddTool : DetectedTool where
  id := "frobnicate"
  source := "tools.py"
  description := ""

theorem scan_fails_closed_odd :
    ∃ canon, compileManifests .ascii ([searchTool, oddTool].map fun tool =>
        fieldsOf (scannedManifest .trial tool)) none none = .ok canon ∧
      FailsClosed .trial [searchTool, oddTool] canon := by
  obtain ⟨_, ⟨canon, compiled⟩, closed⟩ :=
    scan_fails_closed .trial .ascii [searchTool, oddTool] (by decide)
  exact ⟨canon, compiled, closed none none canon compiled⟩

end AxorWrap.Compile
