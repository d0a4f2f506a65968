/-
This file models two commands: `_cmd_manifest`, which writes a manifest for each detected tool, and
`_cmd_config`, which compiles the manifests it finds in a directory (`axor_wrap/cli.py`).

A manifest is written at a path that its tool's identifier names. A name that was used gets a
number at its end.
-/

import AxorWrap.Cli.Files
import AxorWrap.Compile.Generate
import AxorWrap.Compile.Governance
import AxorWrap.Library.Naming

namespace AxorWrap.Cli

open Python Methods Compile Naming

def exitOk : Nat := 0

/-- Nothing was found, or the input is bad. -/
def exitEmpty : Nat := 2

/-! ### Names -/

/-- The stems that a tool can be given: its identifier, and this with a number from two on. -/
def stemCandidate (id : PyStr) : Nat → PyStr
  | 0 => id
  | number + 1 => id ++ PyStr.ofString "-" ++ natText (number + 2)

/-- `out / f"{stem}.manifest.json"` -/
def manifestPath (stem : PyStr) : Path := .ofText (stem ++ PyStr.ofString ".manifest.json")

/-- `out / "wrap.json"` -/
def wrapPath : Path := .ofText "wrap.json"

theorem stemCandidate_injective (id : PyStr) : Function.Injective (stemCandidate id) := by
  have longer : ∀ number, stemCandidate id (number + 1) ≠ id := by
    intro number same
    have length := congrArg List.length same
    rw [stemCandidate, List.length_append, List.length_append] at length
    have dash : (PyStr.ofString "-").length = 1 := rfl
    omega
  intro first second same
  cases first with
  | zero =>
    cases second with
    | zero => rfl
    | succ number => exact absurd same.symm (longer number)
  | succ one =>
    cases second with
    | zero => exact absurd same (longer one)
    | succ number =>
      have numbers := natText_injective (List.append_cancel_left same)
      omega

/-! ### `manifest` -/

section Manifest

variable (interpreter : LiteralInterpreter) (surroundings : Surroundings) (version : PyStr)

/-- A tool, with the guess of its effect. -/
abbrev Detected := DetectedTool × EffectGuess

/-- `_scan_or_fail`, of the tools that the scan found. -/
def scanOrFail (tools : List DetectedTool) : Option (List Detected) :=
  if tools.isEmpty then none else some (tools.map fun tool => (tool, inferEffect interpreter tool))

/-- What the sidecar says of a tool. -/
def sidecarEntry (tool : Detected) (manifest : PyStr) : Literal := .dict [
  (.str "id", .str tool.1.id),
  (.str "manifest", .str manifest),
  (.str "framework", .str tool.1.framework),
  (.str "source", .str tool.1.source),
  (.str "schema_confidence", .str tool.1.schemaConfidence),
  (.str "effect_guess", .dict [
    (.str "class", .str tool.2.defaultClass.text),
    (.str "confidence", .str tool.2.confidence.text),
    (.str "reason", .str tool.2.reason)])]

def wrapDocument (sidecar : List Literal) : Literal := .dict [
  (.str "generated_by", .str (PyStr.ofString "axor-wrap " ++ version)),
  (.str "manifest_schema", .str schemaVersion),
  (.str "tools", .list sidecar)]

/-- A document is written, and that it was is told. -/
def writeAndTell (path : Path) (document : Literal) : Method (List File) PyError Unit := do
  writeJson interpreter.toInterpreter surroundings path document
  liftM (surroundings.announce path)

/-- The loop of `_cmd_manifest`, and the sidecar after it. -/
def writeManifests :
    List Detected → List PyStr → List Literal → Method (List File) PyError Nat
  | [], _, sidecar => do
    writeAndTell interpreter surroundings wrapPath (wrapDocument version sidecar)
    return exitOk
  | tool :: rest, used, sidecar =>
    match ensureValid interpreter (buildManifest tool.1 tool.2) with
    | .error _ => return exitEmpty
    | .ok manifest => do
      let stem := fresh (stemCandidate tool.1.id) used
      let path := manifestPath stem
      writeAndTell interpreter surroundings path (.dict manifest)
      writeManifests rest (used ++ [stem]) (sidecar ++ [sidecarEntry tool path.name])

/-- `_cmd_manifest`, into an empty directory. -/
def cmdManifest (tools : List DetectedTool) : Method (List File) PyError Nat :=
  match scanOrFail interpreter tools with
  | none => return exitEmpty
  | some detected => writeManifests interpreter surroundings version detected [] []

end Manifest

/-! ### `config` -/

/-- A JSON object with the schema version of a manifest. -/
def readManifestFile (file : File) : Option Entries :=
  match file.content with
  | some (.dict data) =>
    match Entries.lookup data "schema_version" with
    | some (.str version) => if version = schemaVersion then some data else none
    | _ => none
  | _ => none

/-- The manifests that `_cmd_config` finds after these writes. -/
def manifestsIn (written : List File) : List Entries :=
  (jsonFiles written).filterMap readManifestFile

/-- `_cmd_config`: the exit code, and what is printed. -/
def cmdConfig (unicode : Unicode) (written : List File) : Except PyError (Nat × PyStr) :=
  let manifests := manifestsIn written
  if manifests.isEmpty then return (exitEmpty, [])
  else return (exitOk, ← governanceYaml unicode manifests none)

end AxorWrap.Cli
