/-
This file says when `manifest` and then `config` cover every detected tool. Each tool's manifest
must have a file of its own directly in the directory, and be read from there as it was built.

The numbers at the end of stems keep these apart. But a path is made of a stem, and a stem with a
slash in it may lead out of the directory, to an entry that another stem leads to, or nowhere; and
an `args_schema` of literals may hold what JSON does not have. What was written before a tool that
fails is left behind.
-/

import AxorWrap.Cli.Commands

namespace AxorWrap.Cli

open Python Methods Checks Compile Naming

variable (interpreter : LiteralInterpreter) (surroundings : Surroundings) (version : PyStr)

/-! ### Steps -/

/-- Documents are written one after another. -/
def writeSteps : List (Path × Literal) → Method (List File) PyError Unit
  | [] => pure ()
  | step :: rest => do
    writeAndTell interpreter surroundings step.1 step.2
    writeSteps rest

/-- The file is what this step writes. -/
structure WrittenBy (step : Path × Literal) (file : File) : Prop where
  path : file.path = step.1
  placed : surroundings.place step.1 = .ok file.place
  content : ∃ value, step.2.throughJson interpreter.toInterpreter = .ok value ∧
    file.content = some value

/-- The step raises before anything is written. -/
def Refused (step : Path × Literal) : Prop :=
  (∃ error, step.2.throughJson interpreter.toInterpreter = .error error) ∨
    ∃ error, surroundings.place step.1 = .error error

variable {interpreter surroundings version}

/-- A step is refused and writes nothing, or it writes a file and tells of it. -/
theorem writeAndTell_cases (interpreter : LiteralInterpreter) (surroundings : Surroundings)
    (step : Path × Literal) (written : List File) :
    (Refused interpreter surroundings step ∧
        (∃ error, outcome (writeAndTell interpreter surroundings step.1 step.2) written =
          .error error) ∧
        final (writeAndTell interpreter surroundings step.1 step.2) written = written) ∨
      ∃ file, WrittenBy interpreter surroundings step file ∧
        outcome (writeAndTell interpreter surroundings step.1 step.2) written =
          surroundings.announce step.1 ∧
        final (writeAndTell interpreter surroundings step.1 step.2) written =
          written ++ [file] := by
  unfold writeAndTell writeJson
  cases content : step.2.throughJson interpreter.toInterpreter with
  | error error => exact .inl ⟨.inl ⟨error, content⟩, ⟨error, rfl⟩, rfl⟩
  | ok value =>
    cases placed : surroundings.place step.1 with
    | error error => exact .inl ⟨.inr ⟨error, placed⟩, ⟨error, rfl⟩, rfl⟩
    | ok place =>
      refine .inr ⟨⟨step.1, place, some value⟩, ⟨rfl, placed, value, content, rfl⟩, ?_, ?_⟩
      · cases surroundings.announce step.1 <;> rfl
      · cases surroundings.announce step.1 <;> rfl

/-- The file is written by the step, and this is told. -/
def Done (surroundings : Surroundings) (interpreter : LiteralInterpreter)
    (step : Path × Literal) (file : File) : Prop :=
  WrittenBy interpreter surroundings step file ∧ surroundings.announce step.1 = .ok ()

theorem WrittenBy.unique {step : Path × Literal} {file other : File}
    (one : WrittenBy interpreter surroundings step file)
    (two : WrittenBy interpreter surroundings step other) : file = other := by
  obtain ⟨path, placed, value, read, content⟩ := one
  obtain ⟨samePath, samePlaced, sameValue, again, sameContent⟩ := two
  cases read.symm.trans again
  cases file
  cases other
  rw [File.mk.injEq]
  exact ⟨path.trans samePath.symm, Except.ok.inj (placed.symm.trans samePlaced),
    content.trans sameContent.symm⟩

theorem WrittenBy.not_refused {step : Path × Literal} {file : File}
    (here : WrittenBy interpreter surroundings step file) :
    ¬ Refused interpreter surroundings step := by
  obtain ⟨_, placed, _, read, _⟩ := here
  rintro (⟨_, refused⟩ | ⟨_, refused⟩)
  · cases refused.symm.trans read
  · cases refused.symm.trans placed

theorem returns_writeAndTell {step : Path × Literal} {written left : List File} :
    Returns (writeAndTell interpreter surroundings step.1 step.2) written () left ↔
      ∃ file, left = written ++ [file] ∧ Done surroundings interpreter step file := by
  rcases writeAndTell_cases interpreter surroundings step written with
    ⟨refused, ⟨error, raises⟩, _⟩ | ⟨file, here, tells, adds⟩
  · constructor
    · rintro ⟨returned, _⟩
      cases raises.symm.trans returned
    · rintro ⟨file, _, done, _⟩
      exact absurd refused done.not_refused
  · unfold Returns
    rw [tells, adds]
    constructor
    · rintro ⟨told, rfl⟩
      exact ⟨file, rfl, here, told⟩
    · rintro ⟨other, rfl, there, told⟩
      rw [here.unique there]
      exact ⟨told, rfl⟩

/-- The steps are all done exactly when each writes its file and tells of it. -/
theorem returns_writeSteps {steps : List (Path × Literal)} {written left : List File} :
    Returns (writeSteps interpreter surroundings steps) written () left ↔
      ∃ files, left = written ++ files ∧
        List.Forall₂ (Done surroundings interpreter) steps files := by
  induction steps generalizing written with
  | nil =>
    rw [writeSteps, returns_pure]
    constructor
    · rintro ⟨_, rfl⟩
      exact ⟨[], (List.append_nil _).symm, .nil⟩
    · rintro ⟨_, rfl, none⟩
      cases none
      exact ⟨rfl, (List.append_nil _).symm⟩
  | cons step rest inductionHypothesis =>
    rw [writeSteps, returns_bind]
    constructor
    · rintro ⟨_, _, first, later⟩
      obtain ⟨file, rfl, done⟩ := returns_writeAndTell.mp first
      obtain ⟨files, rfl, others⟩ := inductionHypothesis.mp later
      exact ⟨file :: files, List.append_assoc .., .cons done others⟩
    · rintro ⟨_, rfl, done⟩
      cases done with
      | cons done others =>
        refine ⟨(), _, returns_writeAndTell.mpr ⟨_, rfl, done⟩, inductionHypothesis.mpr ?_⟩
        exact ⟨_, List.append_cons .., others⟩

/-- What was written stays. -/
theorem prefix_writeSteps (steps : List (Path × Literal)) (written : List File) :
    written <+: final (writeSteps interpreter surroundings steps) written := by
  induction steps generalizing written with
  | nil => exact List.prefix_rfl
  | cons step rest inductionHypothesis =>
    rw [writeSteps, final_bind]
    rcases writeAndTell_cases interpreter surroundings step written with
      ⟨_, ⟨error, raises⟩, same⟩ | ⟨file, _, tells, adds⟩
    · rw [raises, same]
    · rw [tells, adds]
      cases surroundings.announce step.1 with
      | error error => exact List.prefix_append written [file]
      | ok => exact (List.prefix_append written [file]).trans (inductionHypothesis _)

/-- Nothing was written exactly when the first step was refused. -/
theorem final_writeSteps_eq_nil_iff {step : Path × Literal} {rest : List (Path × Literal)} :
    final (writeSteps interpreter surroundings (step :: rest)) [] = [] ↔
      Refused interpreter surroundings step := by
  rw [writeSteps, final_bind]
  rcases writeAndTell_cases interpreter surroundings step [] with
    ⟨refused, ⟨error, raises⟩, same⟩ | ⟨file, here, tells, adds⟩
  · rw [raises, same]
    exact iff_of_true rfl refused
  · refine iff_of_false (fun nothing => ?_) here.not_refused
    rw [tells, adds] at nothing
    cases told : surroundings.announce step.1 with
    | error error =>
      rw [told] at nothing
      cases nothing
    | ok =>
      rw [told] at nothing
      have none : final (writeSteps interpreter surroundings rest) ([] ++ [file]) = [] := nothing
      have kept :
          [] ++ [file] <+: final (writeSteps interpreter surroundings rest) ([] ++ [file]) :=
        prefix_writeSteps rest _
      rw [none] at kept
      exact absurd (List.prefix_nil.mp kept) (List.cons_ne_nil _ _)

/-! ### The command, step by step -/

/-- What is written for the tools. -/
def manifestSteps : List Detected → List PyStr → List (Path × Literal)
  | [], _ => []
  | tool :: rest, used =>
    let stem := fresh (stemCandidate tool.1.id) used
    (manifestPath stem, .dict (buildManifest tool.1 tool.2)) :: manifestSteps rest (used ++ [stem])

/-- What the sidecar says of the tools. -/
def sidecarOf : List Detected → List PyStr → List Literal
  | [], _ => []
  | tool :: rest, used =>
    let stem := fresh (stemCandidate tool.1.id) used
    sidecarEntry tool (manifestPath stem).name :: sidecarOf rest (used ++ [stem])

/-- The loop does these steps, the sidecar's last. -/
theorem writeManifests_eq (tools : List Detected) (used : List PyStr) (sidecar : List Literal) :
    writeManifests interpreter surroundings version tools used sidecar =
      (do
        writeSteps interpreter surroundings (manifestSteps tools used ++
          [(wrapPath, wrapDocument version (sidecar ++ sidecarOf tools used))])
        return exitOk) := by
  induction tools generalizing used sidecar with
  | nil =>
    rw [writeManifests, manifestSteps, sidecarOf, List.append_nil, List.nil_append, writeSteps]
    simp only [writeSteps, bind_pure_unit]
  | cons tool rest inductionHypothesis =>
    rw [writeManifests, ensureValid_buildManifest]
    dsimp only
    rw [inductionHypothesis, manifestSteps, sidecarOf, List.cons_append, writeSteps, bind_assoc,
      List.append_assoc]
    rfl

/-! ### What covers a tool -/

/-- The manifest of a detected tool. -/
def builtManifest (interpreter : LiteralInterpreter) (tool : DetectedTool) : LiteralEntries :=
  buildManifest tool (inferEffect interpreter tool)

/-- The file has the manifest of the tool, as it was built. -/
def HoldsManifest (interpreter : LiteralInterpreter) (tool : DetectedTool) (file : File) : Prop :=
  ∃ manifest, Literal.toEntries (builtManifest interpreter tool) = some manifest ∧
    file.content = some (.dict manifest)

/-- Each tool has a file of its own with its manifest, directly in the directory; only the sidecar
is written besides; and what is compiled of the directory are the manifests of the tools. -/
def Covered (interpreter : LiteralInterpreter) (tools : List DetectedTool)
    (written : List File) : Prop :=
  (∃ files sidecar, written = files ++ [sidecar] ∧
    List.Forall₂ (HoldsManifest interpreter) tools files) ∧
  (∀ file ∈ written, file.inside = true) ∧ (written.map File.place).Nodup ∧
  ((manifestsIn written).map some).Perm
    (tools.map fun tool => Literal.toEntries (builtManifest interpreter tool)) ∧
  ∀ unicode, cmdConfig unicode written =
    (governanceYaml unicode (manifestsIn written) none).map fun text => (exitOk, text)

/-- The command writes nothing and reports an error, or it covers every tool. -/
def EveryToolCovered (interpreter : LiteralInterpreter) (surroundings : Surroundings)
    (version : PyStr) (tools : List DetectedTool) : Prop :=
  let command := cmdManifest interpreter surroundings version tools
  final command [] = [] ∧ outcome command [] ≠ .ok exitOk ∨
    outcome command [] = .ok exitOk ∧ Covered interpreter tools (final command [])

/-- The paths of the manifests of tools. -/
def manifestPaths (tools : List DetectedTool) : List Path :=
  (allocate (fun tool : DetectedTool => stemCandidate tool.id) tools []).map manifestPath

/-- The file system opens this place at the path, and that it does can be told. -/
def Opens (surroundings : Surroundings) (path : Path) (place : Place) : Prop :=
  surroundings.place path = .ok place ∧ surroundings.announce path = .ok ()

/-- The paths come to entries of the directory that are all different, and the manifests are plain
JSON. -/
structure Landing (interpreter : LiteralInterpreter) (surroundings : Surroundings)
    (tools : List DetectedTool) : Prop where
  entries : ∃ names : List PyStr, names.Nodup ∧
    List.Forall₂ (Opens surroundings) (manifestPaths tools ++ [wrapPath]) (names.map .entry)
  plain : ∀ tool ∈ tools, (Literal.dict (builtManifest interpreter tool)).Plain

/-- The steps for these tools. -/
def stepsFor (interpreter : LiteralInterpreter) (tools : List DetectedTool) :
    List (Path × Literal) :=
  manifestSteps (tools.map fun tool => (tool, inferEffect interpreter tool)) []

theorem map_fst_stepsFor (interpreter : LiteralInterpreter) (tools : List DetectedTool) :
    (stepsFor interpreter tools).map Prod.fst = manifestPaths tools := by
  have each : ∀ used, (manifestSteps (tools.map fun tool => (tool, inferEffect interpreter tool))
      used).map Prod.fst =
        (allocate (fun tool : DetectedTool => stemCandidate tool.id) tools used).map
          manifestPath := by
    induction tools with
    | nil => exact fun _ => rfl
    | cons tool rest inductionHypothesis =>
      intro used
      rw [List.map_cons, manifestSteps, allocate, List.map_cons, List.map_cons,
        inductionHypothesis]
  exact each []

theorem map_snd_stepsFor (tools : List DetectedTool) :
    (stepsFor interpreter tools).map Prod.snd =
      tools.map fun tool => .dict (builtManifest interpreter tool) := by
  have each : ∀ used, (manifestSteps (tools.map fun tool => (tool, inferEffect interpreter tool))
      used).map Prod.snd = tools.map fun tool => .dict (builtManifest interpreter tool) := by
    induction tools with
    | nil => exact fun _ => rfl
    | cons tool rest inductionHypothesis =>
      intro used
      rw [List.map_cons, manifestSteps, List.map_cons, List.map_cons, inductionHypothesis]
      rfl
  exact each []

/-- The step of the sidecar. -/
def wrapStep (interpreter : LiteralInterpreter) (version : PyStr) (tools : List DetectedTool) :
    Path × Literal :=
  (wrapPath, wrapDocument version
    (sidecarOf (tools.map fun tool => (tool, inferEffect interpreter tool)) []))

/-- What the command does when there are tools. -/
theorem cmdManifest_eq {tools : List DetectedTool} (some : tools ≠ []) :
    cmdManifest interpreter surroundings version tools =
      (do
        writeSteps interpreter surroundings
          (stepsFor interpreter tools ++ [wrapStep interpreter version tools])
        return exitOk) := by
  unfold cmdManifest scanOrFail
  rw [if_neg (by simpa using some)]
  exact writeManifests_eq _ _ _

/-- The command succeeds exactly when all its steps are done. -/
theorem returns_cmdManifest {tools : List DetectedTool} (some : tools ≠ []) {written : List File} :
    Returns (cmdManifest interpreter surroundings version tools) [] exitOk written ↔
      List.Forall₂ (Done surroundings interpreter)
        (stepsFor interpreter tools ++ [wrapStep interpreter version tools]) written := by
  rw [cmdManifest_eq some, returns_bind]
  constructor
  · rintro ⟨_, _, returned, made⟩
    obtain ⟨_, rfl⟩ := returns_pure.mp made
    obtain ⟨files, rfl, done⟩ := returns_writeSteps.mp returned
    exact done
  · intro done
    exact ⟨(), written, returns_writeSteps.mpr ⟨written, rfl, done⟩, returns_pure.mpr ⟨rfl, rfl⟩⟩

/-- The command leaves nothing behind exactly when its first step is refused. -/
theorem final_cmdManifest_eq_nil_iff {tool : DetectedTool} {rest : List DetectedTool} :
    final (cmdManifest interpreter surroundings version (tool :: rest)) [] = [] ↔
      Refused interpreter surroundings
        (manifestPath tool.id, .dict (builtManifest interpreter tool)) := by
  have first : fresh (stemCandidate tool.id) [] = tool.id := fresh_of_free List.not_mem_nil
  have steps : stepsFor interpreter (tool :: rest) ++
      [wrapStep interpreter version (tool :: rest)] =
      (manifestPath tool.id, .dict (builtManifest interpreter tool)) ::
        (manifestSteps (rest.map fun tool => (tool, inferEffect interpreter tool)) [tool.id] ++
          [wrapStep interpreter version (tool :: rest)]) := by
    rw [stepsFor, List.map_cons, manifestSteps, first]
    rfl
  rw [cmdManifest_eq (List.cons_ne_nil _ _), steps, final_bind, ← final_writeSteps_eq_nil_iff]
  split <;> rfl

/-! ### Covering needs a landing -/

/-- What each file holds that is written for a tool. -/
theorem contents_of_done {tools : List DetectedTool} {files : List File}
    (done : List.Forall₂ (Done surroundings interpreter) (stepsFor interpreter tools) files) :
    List.Forall₂ (fun tool file => ∃ value,
      (Literal.dict (builtManifest interpreter tool)).throughJson interpreter.toInterpreter =
        .ok value ∧ file.content = some value) tools files := by
  have read : List.Forall₂ (fun (document : Literal) (file : File) => ∃ value,
      document.throughJson interpreter.toInterpreter = .ok value ∧ file.content = some value)
      ((stepsFor interpreter tools).map Prod.snd) files :=
    List.forall₂_map_left_iff.mpr (done.imp fun _ _ each => each.1.content)
  rw [map_snd_stepsFor] at read
  exact List.forall₂_map_left_iff.mp read

theorem exists_names {written : List File} (inside : ∀ file ∈ written, file.inside = true) :
    ∃ names : List PyStr, written.map File.place = names.map .entry := by
  induction written with
  | nil => exact ⟨[], rfl⟩
  | cons file rest inductionHypothesis =>
    obtain ⟨here, later⟩ := List.forall_mem_cons.mp inside
    obtain ⟨names, same⟩ := inductionHypothesis later
    obtain ⟨path, place, content⟩ := file
    cases place with
    | entry name => exact ⟨name :: names, by rw [List.map_cons, same]; rfl⟩
    | elsewhere location => cases here

theorem landing_of_covered {tools : List DetectedTool} {written : List File}
    (done : List.Forall₂ (Done surroundings interpreter)
      (stepsFor interpreter tools ++ [wrapStep interpreter version tools]) written)
    (covered : Covered interpreter tools written) : Landing interpreter surroundings tools := by
  obtain ⟨⟨files, sidecar, rfl, holds⟩, inside, distinct, _, _⟩ := covered
  obtain ⟨earlier, last, same, doneManifests, _⟩ := forall₂_concat_left.mp done
  obtain ⟨rfl, _⟩ := List.append_inj' same rfl
  refine ⟨?_, fun tool member => ?_⟩
  · obtain ⟨names, places⟩ := exists_names inside
    rw [places] at distinct
    refine ⟨names, distinct.of_map _, ?_⟩
    have opened : List.Forall₂ (Opens surroundings)
        ((stepsFor interpreter tools ++ [wrapStep interpreter version tools]).map Prod.fst)
        ((files ++ [sidecar]).map File.place) :=
      List.forall₂_map_left_iff.mpr (List.forall₂_map_right_iff.mpr
        (done.imp fun _ _ each => ⟨each.1.placed, each.2⟩))
    rw [places, List.map_append, map_fst_stepsFor] at opened
    exact opened
  · obtain ⟨file, _, ⟨manifest, built, content⟩, value, read, same⟩ :=
      exists_of_mem_left (forall₂_both holds (contents_of_done doneManifests)) member
    cases content.symm.trans same
    refine (Literal.survives_iff interpreter.toInterpreter _).mp ⟨.dict manifest, read, ?_⟩
    rw [Literal.toValue, built]
    rfl

/-! ### Covering from a landing -/

/-- Every document that is written at opened places is. -/
theorem exists_done {steps : List (Path × Literal)} {places : List Place}
    (opened : List.Forall₂ (Opens surroundings) (steps.map Prod.fst) places)
    (read : ∀ step ∈ steps, ∃ value,
      step.2.throughJson interpreter.toInterpreter = .ok value) :
    ∃ written, List.Forall₂ (Done surroundings interpreter) steps written ∧
      written.map File.place = places := by
  induction steps generalizing places with
  | nil =>
    cases opened
    exact ⟨[], .nil, rfl⟩
  | cons step rest inductionHypothesis =>
    obtain ⟨place, others, here, later, rfl⟩ := List.forall₂_cons_left_iff.mp opened
    obtain ⟨⟨value, content⟩, readLater⟩ := List.forall_mem_cons.mp read
    obtain ⟨written, done, rfl⟩ := inductionHypothesis later readLater
    refine ⟨⟨step.1, place, some value⟩ :: written, .cons ⟨?_, here.2⟩ done, rfl⟩
    exact ⟨rfl, here.1, value, content, rfl⟩

/-- The sidecar is always JSON, and no manifest. -/
theorem throughJson_wrapDocument (interpreter : LiteralInterpreter) (version : PyStr)
    (tools : List Detected) (used : List PyStr) :
    ∃ data, (wrapDocument version (sidecarOf tools used)).throughJson interpreter.toInterpreter =
        .ok (.dict data) ∧ Entries.lookup data "schema_version" = none := by
  have listed : ∃ values, Literal.throughJsonItems interpreter.toInterpreter
      (sidecarOf tools used) = .ok values := by
    induction tools generalizing used with
    | nil => exact ⟨[], rfl⟩
    | cons tool rest inductionHypothesis =>
      obtain ⟨values, read⟩ := inductionHypothesis (used ++ [fresh (stemCandidate tool.1.id) used])
      rw [sidecarOf, Literal.throughJsonItems]
      exact ⟨_, bind_eq_ok.mpr ⟨_, rfl, bind_eq_ok.mpr ⟨values, read, rfl⟩⟩⟩
  obtain ⟨values, read⟩ := listed
  refine ⟨[
    (.str "generated_by", .str (joinSurrogates (PyStr.ofString "axor-wrap " ++ version))),
    (.str "manifest_schema", .str schemaVersion),
    (.str "tools", .list values)], ?_, rfl⟩
  unfold wrapDocument
  simp only [Literal.throughJson, Literal.throughJsonEntries, Literal.jsonKey, read]
  rfl

/-- Every path that is written at names a JSON file. -/
theorem suffix_path {tools : List DetectedTool} {step : Path × Literal}
    (member : step ∈ stepsFor interpreter tools ++ [wrapStep interpreter version tools]) :
    PyStr.ofString ".json" <:+ step.1.name := by
  have ends : ∀ text : PyStr,
      PyStr.ofString ".json" <:+ (Path.ofText (text ++ PyStr.ofString ".json")).name :=
    fun _ => suffix_name (by decide) (by decide)
  rcases List.mem_append.mp member with inManifests | isWrap
  · have inPaths : step.1 ∈ manifestPaths tools := by
      rw [← map_fst_stepsFor interpreter]
      exact List.mem_map_of_mem inManifests
    obtain ⟨stem, _, same⟩ := List.mem_map.mp inPaths
    have joined : stem ++ PyStr.ofString ".manifest.json" =
        (stem ++ PyStr.ofString ".manifest") ++ PyStr.ofString ".json" := by
      rw [List.append_assoc]
      rfl
    rw [← same, manifestPath, joined]
    exact ends _
  · rw [List.mem_singleton.mp isWrap]
    exact ends "wrap"

/-- Files at entries of their own are all listed. -/
theorem jsonFiles_perm {tools : List DetectedTool} {written : List File}
    (done : List.Forall₂ (Done surroundings interpreter)
      (stepsFor interpreter tools ++ [wrapStep interpreter version tools]) written)
    (inside : ∀ file ∈ written, file.inside = true) (distinct : (written.map File.place).Nodup) :
    (jsonFiles written).Perm written := by
  have named : ∀ file ∈ written, decide (PyStr.ofString ".json" <:+ file.path.name) = true := by
    intro file member
    obtain ⟨step, inSteps, here, _⟩ := exists_of_mem_right done member
    rw [here.path]
    exact decide_eq_true (suffix_path inSteps)
  unfold jsonFiles
  rw [directory_of_nodup inside distinct, List.filter_eq_self.mpr named]
  exact List.perm_insertionSort _ _

/-- What is built starts with its version. -/
theorem toEntries_versioned {fields : LiteralEntries} {manifest : Entries}
    (built : Literal.toEntries ((.str "schema_version", .str schemaVersion) :: fields) =
      some manifest) :
    ∃ others, manifest = (.str "schema_version", .str schemaVersion) :: others := by
  rw [Literal.toEntries, Option.bind_eq_bind, Option.bind_eq_some_iff] at built
  obtain ⟨_, version, rest⟩ := built
  cases version
  rw [Option.bind_eq_bind, Option.bind_eq_some_iff] at rest
  obtain ⟨others, _, same⟩ := rest
  cases same
  exact ⟨others, rfl⟩

/-- A file with a manifest is read as it. -/
theorem readManifestFile_of_holds {tool : DetectedTool} {file : File}
    (holds : HoldsManifest interpreter tool file) : ∃ manifest,
      readManifestFile file = some manifest ∧
        Literal.toEntries (builtManifest interpreter tool) = some manifest := by
  obtain ⟨manifest, built, content⟩ := holds
  refine ⟨manifest, ?_, built⟩
  obtain ⟨others, rfl⟩ := toEntries_versioned built
  unfold readManifestFile
  rw [content]
  rfl

/-- What is read of the files of tools is what was built of these, in order. -/
theorem map_readManifestFile {tools : List DetectedTool} {files : List File}
    (holds : List.Forall₂ (HoldsManifest interpreter) tools files) :
    (files.filterMap readManifestFile).map some =
      tools.map fun tool => Literal.toEntries (builtManifest interpreter tool) := by
  induction holds with
  | nil => rfl
  | cons here _ inductionHypothesis =>
    obtain ⟨manifest, read, built⟩ := readManifestFile_of_holds here
    rw [List.filterMap_cons, read, List.map_cons, inductionHypothesis, List.map_cons, built]

/-- Every document that is to be written is read back as a value. -/
theorem throughJson_steps {tools : List DetectedTool}
    (survives : ∀ tool ∈ tools, Literal.Survives interpreter.toInterpreter
      (.dict (builtManifest interpreter tool))) :
    ∀ step ∈ stepsFor interpreter tools ++ [wrapStep interpreter version tools],
      ∃ value, step.2.throughJson interpreter.toInterpreter = .ok value := by
  refine List.forall_mem_append.mpr ⟨fun step member => ?_, List.forall_mem_singleton.mpr ?_⟩
  · have inDocuments := List.mem_map_of_mem (f := Prod.snd) member
    rw [map_snd_stepsFor] at inDocuments
    obtain ⟨tool, inTools, same⟩ := List.mem_map.mp inDocuments
    obtain ⟨value, written, _⟩ := survives tool inTools
    exact ⟨value, same ▸ written⟩
  · obtain ⟨data, wrapped, _⟩ := throughJson_wrapDocument interpreter version
      (tools.map fun tool => (tool, inferEffect interpreter tool)) []
    exact ⟨_, wrapped⟩

/-- Where every path lands, files are written at entries of their own. -/
theorem exists_written {tools : List DetectedTool}
    (landing : Landing interpreter surroundings tools)
    (survives : ∀ tool ∈ tools, Literal.Survives interpreter.toInterpreter
      (.dict (builtManifest interpreter tool))) :
    ∃ written, List.Forall₂ (Done surroundings interpreter)
        (stepsFor interpreter tools ++ [wrapStep interpreter version tools]) written ∧
      (∀ file ∈ written, file.inside = true) ∧ (written.map File.place).Nodup := by
  obtain ⟨names, distinct, opened⟩ := landing.entries
  have opens : List.Forall₂ (Opens surroundings)
      ((stepsFor interpreter tools ++ [wrapStep interpreter version tools]).map Prod.fst)
      (names.map .entry) := by
    rw [List.map_append, map_fst_stepsFor]
    exact opened
  obtain ⟨written, done, places⟩ := exists_done opens (throughJson_steps survives)
  refine ⟨written, done, fun file member => ?_, ?_⟩
  · have inPlaces : file.place ∈ names.map Place.entry := places ▸ List.mem_map_of_mem member
    obtain ⟨name, _, same⟩ := List.mem_map.mp inPlaces
    rw [File.inside, ← same]
  · rw [places]
    exact distinct.map fun _ _ => Place.entry.inj

/-- A file that the sidecar was written to is read as no manifest. -/
theorem readManifestFile_sidecar {tools : List DetectedTool} {sidecar : File}
    (done : Done surroundings interpreter (wrapStep interpreter version tools) sidecar) :
    readManifestFile sidecar = none := by
  obtain ⟨data, wrapped, unversioned⟩ := throughJson_wrapDocument interpreter version
    (tools.map fun tool => (tool, inferEffect interpreter tool)) []
  obtain ⟨_, again, content⟩ := done.1.content
  cases wrapped.symm.trans again
  unfold readManifestFile
  rw [content]
  dsimp only
  rw [unversioned]

/-- Where the paths land and the manifests are plain, the command succeeds and covers the tools. -/
theorem covered_of_landing {tools : List DetectedTool} (nonempty : tools ≠ [])
    (landing : Landing interpreter surroundings tools) :
    ∃ written, Returns (cmdManifest interpreter surroundings version tools) [] exitOk written ∧
      Covered interpreter tools written := by
  have survives : ∀ tool ∈ tools, Literal.Survives interpreter.toInterpreter
      (.dict (builtManifest interpreter tool)) :=
    fun tool member => (Literal.survives_iff _ _).mpr (landing.plain tool member)
  obtain ⟨written, done, inside, apart⟩ := exists_written landing survives
  have listed := jsonFiles_perm done inside apart
  obtain ⟨files, sidecar, rfl, doneManifests, doneSidecar⟩ := forall₂_concat_left.mp done
  have holds : List.Forall₂ (HoldsManifest interpreter) tools files := by
    refine (List.forall₂_and_left _ _).mpr ⟨survives, contents_of_done doneManifests⟩ |>.imp ?_
    rintro tool file ⟨⟨value, written, valued⟩, _, again, content⟩
    cases written.symm.trans again
    obtain ⟨manifest, built, rfl⟩ := Option.map_eq_some_iff.mp valued
    exact ⟨manifest, built, content⟩
  have found : ((manifestsIn (files ++ [sidecar])).map some).Perm
      (tools.map fun tool => Literal.toEntries (builtManifest interpreter tool)) := by
    have read := (listed.filterMap readManifestFile).map some
    rw [List.filterMap_append, List.filterMap_cons, readManifestFile_sidecar doneSidecar,
      List.filterMap_nil, List.append_nil, map_readManifestFile holds] at read
    exact read
  refine ⟨files ++ [sidecar], (returns_cmdManifest nonempty).mpr done,
    ⟨files, sidecar, rfl, holds⟩, inside, apart, found, fun unicode => ?_⟩
  have nonempty : manifestsIn (files ++ [sidecar]) ≠ [] := by
    intro none
    rw [none] at found
    exact nonempty (List.map_eq_nil_iff.mp (List.nil_perm.mp found))
  unfold cmdConfig
  rw [if_neg (by simpa using nonempty)]
  cases governanceYaml unicode (manifestsIn (files ++ [sidecar])) none <;> rfl

/-! ### Names without slashes -/

theorem slashless_stemCandidate {id : PyStr} (slashless : 47 ∉ id) (number : Nat) :
    47 ∉ stemCandidate id number := by
  cases number with
  | zero => exact slashless
  | succ number =>
    rw [stemCandidate, List.mem_append, List.mem_append, not_or, not_or]
    refine ⟨⟨slashless, by decide⟩, fun digit => ?_⟩
    exact absurd (digit_of_mem_natText digit).1 (by decide)

/-- The name of the manifest of a stem. -/
def manifestName (stem : PyStr) : PyStr := stem ++ PyStr.ofString ".manifest.json"

theorem slashless_manifestName {stem : PyStr} (slashless : 47 ∉ stem) : 47 ∉ manifestName stem := by
  rw [manifestName, List.mem_append, not_or]
  exact ⟨slashless, by decide⟩

theorem long_manifestName (stem : PyStr) : 14 ≤ (manifestName stem).length := by
  rw [manifestName, List.length_append]
  exact Nat.le_add_left _ _

/-- Where the file system takes every name as it is, identifiers without slashes land: the numbers
keep their stems apart. -/
theorem landing_of_slashless {tools : List DetectedTool}
    (takes : ∀ name : PyStr, 47 ∉ name → surroundings.entry name = .ok name)
    (tells : ∀ path, surroundings.announce path = .ok ())
    (slashless : ∀ tool ∈ tools, 47 ∉ tool.id)
    (plain : ∀ tool ∈ tools, (Literal.dict (builtManifest interpreter tool)).Plain) :
    Landing interpreter surroundings tools := by
  let stems := allocate (fun tool : DetectedTool => stemCandidate tool.id) tools []
  have stemless : ∀ stem ∈ stems, 47 ∉ stem := by
    intro stem member
    obtain ⟨tool, inTools, number, rfl⟩ := mem_allocate member
    exact slashless_stemCandidate (slashless tool inTools) number
  have distinct : stems.Nodup :=
    (nodup_allocate (fun tool : DetectedTool => stemCandidate_injective tool.id) tools []).1
  have opens : ∀ name : PyStr, 47 ∉ name → 2 ≤ name.length →
      Opens surroundings (Path.ofText name) (.entry name) := by
    intro name free long
    rw [ofText_slashless free long]
    refine ⟨?_, tells _⟩
    simp only [Surroundings.place, takes name free]
    rfl
  refine ⟨⟨stems.map manifestName ++ [PyStr.ofString "wrap.json"], ?_, ?_⟩, plain⟩
  · refine List.nodup_append.mpr ⟨distinct.map fun _ _ => List.append_cancel_right,
      List.nodup_singleton _, fun name member other inWrap => ?_⟩
    obtain ⟨stem, _, rfl⟩ := List.mem_map.mp member
    intro same
    have long := long_manifestName stem
    rw [same, List.mem_singleton.mp inWrap] at long
    exact absurd long (by decide)
  · rw [List.map_append, List.map_map]
    refine List.rel_append (List.forall₂_map_left_iff.mpr (List.forall₂_map_right_iff.mpr ?_))
      (.cons (opens "wrap.json" (by decide) (by decide)) .nil)
    refine List.forall₂_same.mpr fun stem member => ?_
    exact opens _ (slashless_manifestName (stemless stem member))
      (Nat.le_trans (by decide) (long_manifestName stem))

/-! ### Exactness -/

/-- **Every detected tool is covered** exactly when there is none, or the first is refused before
anything is written, or all paths come to different entries of the directory and all manifests are
plain JSON. -/
theorem everyToolCovered_iff (interpreter : LiteralInterpreter) (surroundings : Surroundings)
    (version : PyStr) (tools : List DetectedTool) :
    EveryToolCovered interpreter surroundings version tools ↔
      tools = [] ∨
      (∃ tool rest, tools = tool :: rest ∧
        Refused interpreter surroundings
          (manifestPath tool.id, .dict (builtManifest interpreter tool))) ∨
      Landing interpreter surroundings tools := by
  cases tools with
  | nil => exact iff_of_true (.inl ⟨rfl, fun same => nomatch same⟩) (.inl rfl)
  | cons tool rest =>
    have nonempty : tool :: rest ≠ [] := List.cons_ne_nil _ _
    have left : final (cmdManifest interpreter surroundings version (tool :: rest)) [] = [] ↔
        Refused interpreter surroundings
          (manifestPath tool.id, .dict (builtManifest interpreter tool)) :=
      final_cmdManifest_eq_nil_iff
    constructor
    · rintro (⟨nothing, _⟩ | ⟨returned, covered⟩)
      · exact .inr (.inl ⟨tool, rest, rfl, left.mp nothing⟩)
      · have done := (returns_cmdManifest nonempty).mp ⟨returned, rfl⟩
        exact .inr (.inr (landing_of_covered done covered))
    · rintro (none | ⟨_, _, same, refused⟩ | landing)
      · exact absurd none nonempty
      · cases same
        refine .inl ⟨left.mpr refused, fun returned => ?_⟩
        have done := (returns_cmdManifest nonempty).mp ⟨returned, rfl⟩
        rw [left.mpr refused] at done
        cases done
      · obtain ⟨written, ⟨returned, rfl⟩, covered⟩ := covered_of_landing nonempty landing
        exact .inr ⟨returned, covered⟩

/-! ### A slash in a name -/

/-- A file system whose directory has none in it: no longer path comes to a file. -/
def Surroundings.flat : Surroundings where
  entry name := .ok name
  walk _ := .error (.other "FileNotFoundError")
  announce _ := .ok ()

/-- A tool of a registry, which takes anything. -/
def registryTool (id : PyStr) : DetectedTool where
  id := id
  source := "tools.py:1 anthropic:registry"
  description := "a tool"
  argsSchema := anyObject
  framework := "anthropic"

/-- The manifest of the first tool is left behind when that of the second has no place. -/
theorem slash_not_covered :
    ¬ EveryToolCovered .trial .flat "1" [registryTool "files", registryTool "files/read"] := by
  have ran : (final (cmdManifest .trial .flat "1"
      [registryTool "files", registryTool "files/read"]) []).length = 1 ∧
      (outcome (cmdManifest .trial .flat "1"
        [registryTool "files", registryTool "files/read"]) []).isOk = false := by
    decide +kernel
  rintro (⟨nothing, _⟩ | ⟨returned, _⟩)
  · rw [nothing] at ran
    exact absurd ran.1 (by decide)
  · rw [returned] at ran
    exact absurd ran.2 (by decide)

end AxorWrap.Cli
