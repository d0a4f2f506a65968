/-
This file joins the stages of the command line. `manifest` guesses the effect of each tool that a
scan found, and writes a manifest file for each; `config` reads the directory, compiles what it
finds and prints a governance document; whoever reads the document configures a governor by it.

Each stage is known on its own. The files are the tools in another order, the compilation reads of
a manifest what went into it, and the document says what was compiled where YAML can say it. So
what is read in the end is what was guessed in the beginning.
-/

import AxorWrap.Cli.Coverage
import AxorWrap.Compile.Scanned

namespace AxorWrap.Cli

open Python Methods Checks Compile

/-! ### What is to be read in the end -/

/-- The configuration is what is guessed of the tools. A sink is what was not found to read or to
write, and what is not trusted reads content from outside. -/
structure Guessed (interpreter : LiteralInterpreter) (tools : List DetectedTool)
    (config : Config) : Prop where
  egress : ∀ id, id ∈ config.egressSinks ↔ ∃ tool ∈ tools, tool.id = id ∧
    ¬ ((inferEffect interpreter tool).defaultClass = .read ∨
      (inferEffect interpreter tool).defaultClass = .write)
  untrusted : ∀ id, id ∈ config.untrustedSources ↔ ∃ tool ∈ tools, tool.id = id ∧
    (inferEffect interpreter tool).defaultClass = .read ∧ HasHint tool
  driven : ∀ id args, (id, args) ∈ config.drivingArgs → args ≠ [] ∧
    ∃ tool ∈ tools, tool.id = id ∧ Drives interpreter tool args
  drives : ∀ tool ∈ tools, (inferEffect interpreter tool).drivingArgs ≠ [] →
    ∃ args, (tool.id, args) ∈ config.drivingArgs
  insensitive : config.sensitiveSources = []
  unrestricted : config.valuePolicies = []
  uniform : config.consequenceOverrides = []

/-- It is a matter of the tools, whatever their order. -/
theorem Guessed.perm {interpreter : LiteralInterpreter} {tools others : List DetectedTool}
    {config : Config} (perm : tools.Perm others) (guessed : Guessed interpreter tools config) :
    Guessed interpreter others config where
  egress id := (guessed.egress id).trans
    (exists_congr fun _ => and_congr_left fun _ => perm.mem_iff)
  untrusted id := (guessed.untrusted id).trans
    (exists_congr fun _ => and_congr_left fun _ => perm.mem_iff)
  driven id args member := by
    obtain ⟨some, tool, isTool, rest⟩ := guessed.driven id args member
    exact ⟨some, tool, perm.mem_iff.mp isTool, rest⟩
  drives tool isTool := guessed.drives tool (perm.mem_iff.mpr isTool)
  insensitive := guessed.insensitive
  unrestricted := guessed.unrestricted
  uniform := guessed.uniform

/-- An identifier that YAML can say, also as a key. -/
structure Sayable (id : PyStr) : Prop where
  inPlane : InPlane id
  fits : KeyFits id

/-! ### The directory -/

/-- The entries that JSON has of a manifest are all its fields if it has them all. -/
theorem fieldsOf_of_toEntries {manifest : LiteralEntries} {entries : Entries}
    (built : Literal.toEntries manifest = some entries) : fieldsOf manifest = entries := by
  induction manifest generalizing entries with
  | nil =>
    cases built
    rfl
  | cons field rest inductionHypothesis =>
    obtain ⟨key, literal⟩ := field
    cases key with
    | str key =>
      rw [Literal.toEntries, Option.bind_eq_bind, Option.bind_eq_some_iff] at built
      obtain ⟨value, here, later⟩ := built
      rw [Option.bind_eq_bind, Option.bind_eq_some_iff] at later
      obtain ⟨others, there, same⟩ := later
      cases same
      have first : jsonField (.str key, literal) = some (.str key, value) := by
        rw [jsonField, here]
        rfl
      rw [fieldsOf, List.filterMap_cons_some first, ← inductionHypothesis there]
      rfl
    | null | bool | int | float | complex | bytes | ellipsis | list | tuple | dict | set =>
      cases built

/-- What `config` finds are the manifests of the tools, in the order of their files. -/
theorem exists_ordered {interpreter : LiteralInterpreter} {tools : List DetectedTool}
    {found : List Entries} (same : (found.map some).Perm
      (tools.map fun tool => Literal.toEntries (builtManifest interpreter tool))) :
    ∃ ordered : List DetectedTool, ordered.Perm tools ∧
      found = ordered.map fun tool => fieldsOf (scannedManifest interpreter tool) := by
  have built : List.Forall₂ (fun entries tool =>
      entries = Literal.toEntries (builtManifest interpreter tool))
      (tools.map fun tool => Literal.toEntries (builtManifest interpreter tool)) tools := by
    rw [List.forall₂_map_left_iff, List.forall₂_same]
    exact fun _ _ => rfl
  obtain ⟨ordered, each, perm⟩ := List.perm_comp_forall₂ same built
  refine ⟨ordered, perm, ?_⟩
  rw [List.forall₂_map_left_iff] at each
  clear same built perm
  induction each with
  | nil => rfl
  | cons here _ inductionHypothesis =>
    rw [List.map_cons, ← inductionHypothesis]
    exact congrArg (· :: _) (fieldsOf_of_toEntries here.symm).symm

/-! ### The compilation -/

section Compiled

variable {interpreter : LiteralInterpreter} {unicode : Unicode} {tools : List DetectedTool}

/-- What drives a guessed tool can be said. -/
theorem inPlane_drives {tool : DetectedTool} {args : List PyStr}
    (drives : Drives interpreter tool args) : ∀ arg ∈ args, InPlane arg := by
  cases drives with
  | shell implicit none =>
    intro arg member
    rw [List.mem_singleton.mp member]
    exact inSurrogates_eq_self.mp rfl
  | carriers carriers some =>
    intro arg member
    have known : ∀ name ∈ drivingArgOrder, inSurrogates name = name := by decide
    exact inSurrogates_eq_self.mp (known arg (carriers.ordered.subset member))

/-- A compilation of guesses can be said when their identifiers can be. -/
theorem legible_scanned (sayable : ∀ tool ∈ tools, Sayable tool.id) :
    Legible unicode (tools.map (scannedFacts interpreter)) none where
  overrides := rfl
  ids facts member _ := by
    obtain ⟨tool, isTool, rfl⟩ := List.mem_map.mp member
    exact (sayable tool isTool).inPlane
  drivingKeys facts member _ := by
    obtain ⟨tool, isTool, rfl⟩ := List.mem_map.mp member
    exact (sayable tool isTool).fits
  drivingArgs id facts found := by
    have member := List.mem_reverse.mp (List.mem_of_find?_eq_some (Option.mem_def.mp found))
    obtain ⟨tool, _, rfl⟩ := List.mem_map.mp member
    exact inPlane_drives drives_inferEffect
  sinks items listed := by cases listed

/-- What was compiled of guesses and is configured as compiled is what was guessed. -/
theorem guessed_of_isCompiled {config : Config} (compiled : config.IsCompiled
      (canonOf unicode (tools.map (scannedFacts interpreter)) [] none)) :
    Guessed interpreter tools config where
  egress id := by
    rw [compiled.egressSinks]
    show id ∈ toolsWith ToolFacts.isEgress _ ↔ _
    rw [mem_toolsWith]
    simp only [List.mem_map, exists_exists_and_eq_and, ← declaredClass_egress_iff]
    refine exists_congr fun tool => and_congr_right fun _ => ?_
    exact and_comm.trans (and_congr_right fun _ => decide_eq_true_iff)
  untrusted id := by
    rw [compiled.untrustedSources]
    show id ∈ toolsWith (fun tool => !tool.untrustedFields.isEmpty) _ ↔ _
    rw [mem_toolsWith]
    simp only [List.mem_map, exists_exists_and_eq_and, ← untrusted_inferEffect]
    refine exists_congr fun tool => and_congr_right fun _ => ?_
    refine and_comm.trans (and_congr_right fun _ => ?_)
    rw [Bool.not_eq_true', List.isEmpty_eq_false_iff]
    rfl
  driven id args member := by
    obtain ⟨facts, isLast, rfl⟩ :=
      mem_lookup_tableOf.mp (compiled.drivingArgs.mem_iff.mp member)
    have isTool := List.mem_reverse.mp (List.mem_of_find?_eq_some (Option.mem_def.mp isLast))
    have isTaken := List.find?_some (Option.mem_def.mp isLast)
    have holds := Bool.and_eq_true_iff.mp isTaken
    obtain ⟨tool, inTools, rfl⟩ := List.mem_map.mp isTool
    refine ⟨by simpa using holds.2, tool, inTools, of_decide_eq_true holds.1, ?_⟩
    exact drives_inferEffect
  drives tool isTool driving := by
    have listed : tool.id ∈ (tableOf ToolFacts.drivingArgs
        (tools.map (scannedFacts interpreter))).keys :=
      mem_tableOf.mpr ⟨_, List.mem_map_of_mem isTool, driving, rfl⟩
    obtain ⟨args, found⟩ := exists_lookup (mem_sorted.mpr listed)
    exact ⟨args, compiled.drivingArgs.mem_iff.mpr found⟩
  insensitive := by
    rw [compiled.sensitiveSources]
    refine List.eq_nil_iff_forall_not_mem.mpr fun id member => ?_
    obtain ⟨facts, isTool, sensitive, _⟩ := mem_toolsWith.mp member
    obtain ⟨tool, _, rfl⟩ := List.mem_map.mp isTool
    cases sensitive
  unrestricted := List.perm_nil.mp compiled.valuePolicies
  uniform := List.perm_nil.mp compiled.consequenceOverrides

end Compiled

/-! ### The pipeline -/

/-- **What is printed is what was guessed.** When tools are found whose paths come to different
entries of the directory, whose manifests are plain JSON and whose identifiers YAML can say,
`manifest` succeeds, and then `config` prints a document that reads as the configuration that was
guessed of these tools, no more and no less; and a governor that is given the compilation of the
directory is given the same. -/
theorem printed_as_guessed (interpreter : LiteralInterpreter) (surroundings : Surroundings)
    (version : PyStr) (unicode : Unicode) {ConsequenceClass : Type}
    (consequenceClass : PyStr → Option ConsequenceClass) {tools : List DetectedTool}
    (nonempty : tools ≠ []) (landing : Landing interpreter surroundings tools)
    (sayable : ∀ tool ∈ tools, Sayable tool.id) :
    ∃ written text config,
      Returns (cmdManifest interpreter surroundings version tools) [] exitOk written ∧
      cmdConfig unicode written = .ok (exitOk, text) ∧ readBack text = some config ∧
      Guessed interpreter tools config ∧
      ∀ inputs kwargs, governorKwargs unicode consequenceClass (manifestsIn written) none inputs =
        .ok kwargs → config.IsHandedOver unicode consequenceClass kwargs := by
  obtain ⟨written, returned, _, _, _, found, configures⟩ :=
    @covered_of_landing interpreter surroundings version tools nonempty landing
  obtain ⟨ordered, perm, isFound⟩ := exists_ordered found
  have sayableOrdered : ∀ tool ∈ ordered, Sayable tool.id :=
    fun tool member => sayable tool (perm.subset member)
  let canon := canonOf unicode (ordered.map (scannedFacts interpreter)) [] none
  have compiled : compileManifests unicode (manifestsIn written) none none = .ok canon := by
    rw [isFound]
    exact compileManifests_eq_ok.mpr
      ⟨_, mapM_scanned interpreter unicode ordered, _, rfl, _, rfl, rfl⟩
  have parts : Parts unicode none [] none := ⟨rfl, none, rfl, rfl⟩
  have legible : Legible unicode (ordered.map (scannedFacts interpreter)) none :=
    legible_scanned sayableOrdered
  have isCompiled : canon.asRead.IsCompiled canon :=
    isCompiled_of_sayable (sayable_of_legible parts legible)
  have prints : governanceYaml unicode (manifestsIn written) none =
      .ok (yamlOf (manifestsIn written).length canon) := bind_eq_ok.mpr ⟨canon, compiled, rfl⟩
  refine ⟨written, yamlOf (manifestsIn written).length canon, canon.asRead, returned, ?_,
    (readBack_yamlOf (formed_canonOf parts)).1 (keysFit_of_legible parts legible),
    (guessed_of_isCompiled isCompiled).perm perm, fun inputs kwargs handed =>
      isHandedOver_of_isCompiled (compileManifests_without compiled) isCompiled handed⟩
  rw [configures, prints]
  rfl

/-! ### Two tools -/

theorem landing_search_odd : Landing .trial .flat [searchTool, oddTool] := by
  refine landing_of_slashless (fun _ _ => rfl) (fun _ => rfl) ?_ ?_
  · decide
  · intro tool member
    refine (Literal.survives_iff LiteralInterpreter.trial.toInterpreter _).mp ?_
    simp only [List.mem_cons, List.not_mem_nil, or_false] at member
    rcases member with rfl | rfl
    · exact ⟨_, rfl, rfl⟩
    · exact ⟨_, rfl, rfl⟩

theorem sayable_search_odd : ∀ tool ∈ [searchTool, oddTool], Sayable tool.id := by
  intro tool member
  simp only [List.mem_cons, List.not_mem_nil, or_false] at member
  rcases member with rfl | rfl
  · exact ⟨inSurrogates_eq_self.mp rfl, by decide⟩
  · exact ⟨inSurrogates_eq_self.mp rfl, by decide⟩

theorem printed_as_guessed_odd :
    ∃ written text config,
      Returns (cmdManifest .trial .flat "1" [searchTool, oddTool]) [] exitOk written ∧
      cmdConfig .ascii written = .ok (exitOk, text) ∧ readBack text = some config ∧
      PyStr.ofString "frobnicate" ∈ config.egressSinks ∧
      PyStr.ofString "search_web" ∉ config.egressSinks := by
  obtain ⟨written, text, config, returned, prints, reads, guessed, _⟩ :=
    printed_as_guessed .trial .flat "1" .ascii (fun _ => some ()) (List.cons_ne_nil _ _)
      landing_search_odd sayable_search_odd
  refine ⟨written, text, config, returned, prints, reads, ?_, ?_⟩
  · exact (guessed.egress _).mpr ⟨oddTool, by simp, rfl, by decide +kernel⟩
  · intro isSink
    obtain ⟨tool, member, same, exports⟩ := (guessed.egress _).mp isSink
    simp only [List.mem_cons, List.not_mem_nil, or_false] at member
    rcases member with rfl | rfl
    · exact exports (by decide +kernel)
    · exact absurd same (by decide)

end AxorWrap.Cli
