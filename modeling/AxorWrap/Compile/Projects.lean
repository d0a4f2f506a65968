/-
This file models the scan of a project: `scan_project` (`axor_wrap/detect.py`), of the same
project at two places.

The files are sorted by their whole paths, and named by what follows the root, so that neither
depends on where the project lies. The filter of vendored directories does: it looks at all parts
of a path, also at those of the root. A project below a directory with such a name is scanned as if
it had no files.
-/

import AxorWrap.Compile.Detect
import AxorWrap.Library.Sorting

namespace AxorWrap.Compile

open Python

/-! ### The scan of a project -/

def skipDirs : List PyStr :=
  [".git", "__pycache__", ".venv", "venv", "node_modules", ".tox", ".mypy_cache", ".ruff_cache",
    "dist", "build", ".eggs"]

/-- A scanner that can parse what is read of a file. -/
structure Reader extends Scanner where
  /-- `ast.parse(content.decode("utf-8"))` -/
  parse : Bytes → Except PyError Node

/-- What is at a path: bytes, or an error where they cannot be read. -/
structure SourceFile where
  path : List PyStr
  content : Except PyError Bytes

/-- What a root is. Of a directory all paths below it are listed, in some order. -/
inductive Place
  | file (content : Except PyError Bytes)
  | directory (below : List SourceFile)

/-- `str(path)` -/
def pathText : List PyStr → PyStr
  | [] => "."
  | first :: rest =>
    if first = PyStr.ofString "/" then first ++ PyStr.join "/" rest
    else PyStr.join "/" (first :: rest)

/-- The path relative to the base, or as it is where it is not below the base. -/
def relativeText (base path : List PyStr) : PyStr :=
  pathText ((path.dropPrefix? base).getD path)

/-- One of the parts of the path is a vendored directory. -/
def isVendored (path : List PyStr) : Bool := path.any fun part => skipDirs.contains part

/-- The name of the path matches `*.py`. -/
def isPython (path : List PyStr) : Bool := (PyStr.ofString ".py").isSuffixOf (path.getLastD [])

/-- `root / path` -/
def SourceFile.under (root : List PyStr) (file : SourceFile) : SourceFile where
  path := root ++ file.path
  content := file.content

/-- `root.rglob("*.py")` -/
def rglob (root : List PyStr) (below : List SourceFile) : List SourceFile :=
  (below.filter fun file => isPython file.path).map (SourceFile.under root)

/-- `files`, of a root that is a directory. -/
def filesOf (root : List PyStr) (below : List SourceFile) : List SourceFile :=
  ((rglob root below).filter fun file => !isVendored file.path).insertionSort
    fun first second => first.path ≤ second.path

/-- The errors of a file that cannot be parsed. -/
def skippedErrors : List PyError :=
  [.other "SyntaxError", .other "UnicodeDecodeError", .other "OSError"]

/-- The tools of a file that is named by a text. One that cannot be parsed has none. -/
def scanContent (reader : Reader) (rel : PyStr) (content : Except PyError Bytes) :
    Except PyError (List DetectedTool) :=
  match content >>= reader.parse with
  | .error error => if error ∈ skippedErrors then .ok [] else .error error
  | .ok tree => scanModule reader.toScanner rel tree

/-- One turn of the loop of `scan_project`. -/
def scanFile (reader : Reader) (base : List PyStr) (file : SourceFile) :
    Except PyError (List DetectedTool) :=
  scanContent reader (relativeText base file.path) file.content

/-- `scan_project` -/
def scanProject (reader : Reader) (root : List PyStr) : Place → Except PyError (List DetectedTool)
  | .file content => do
    let tools ← [{ path := root, content }].mapM (scanFile reader root.dropLast)
    return tools.flatten
  | .directory below => do
    let tools ← (filesOf root below).mapM (scanFile reader root)
    return tools.flatten

/-! ### Projects and where they lie -/

/-- A project: its files, with paths of their own below the root. -/
structure Project where
  files : List SourceFile
  distinct : (files.map SourceFile.path).Nodup

/-- A project at a place, whose files are listed in any order. -/
structure Checkout (project : Project) where
  root : List PyStr
  below : List SourceFile
  listed : below.Perm project.files

variable {project : Project}

/-- What a scan of the checkout returns. -/
def Checkout.scan (checkout : Checkout project) (reader : Reader) :
    Except PyError (List DetectedTool) :=
  scanProject reader checkout.root (.directory checkout.below)

/-- A file of the project is skipped at the place exactly if it lies in a vendored directory of the
project. -/
def Checkout.SkipsVendored (checkout : Checkout project) : Prop :=
  ∀ file ∈ project.files, isPython file.path = true →
    (file.under checkout.root ∉ filesOf checkout.root checkout.below ↔
      isVendored file.path = true)

/-- The scans of two checkouts return the same, and skip what is vendored. -/
structure LocationFree (reader : Reader) (first second : Checkout project) : Prop where
  same : first.scan reader = second.scan reader
  skips : first.SkipsVendored ∧ second.SkipsVendored

/-- No part of the root is a vendored directory, or the whole project is vendored. -/
def Checkout.Harmless (checkout : Checkout project) : Prop :=
  isVendored checkout.root = false ∨
    ∀ file ∈ project.files, isPython file.path = true → isVendored file.path = true

/-! ### What is skipped -/

section Skipped

variable {root : List PyStr} {file : SourceFile}

theorem isVendored_append (root path : List PyStr) :
    isVendored (root ++ path) = (isVendored root || isVendored path) := List.any_append

theorem under_injective (root : List PyStr) : Function.Injective (SourceFile.under root) := by
  rintro ⟨path, content⟩ ⟨otherPath, otherContent⟩ same
  injection same with paths contents
  exact congrArg₂ SourceFile.mk (List.append_cancel_left paths) contents

/-- A file of the project is scanned if it is a Python file, and its whole path is not vendored. -/
theorem under_mem_filesOf {below : List SourceFile} :
    file.under root ∈ filesOf root below ↔
      file ∈ below ∧ isPython file.path = true ∧ isVendored (root ++ file.path) = false := by
  rw [filesOf, List.mem_insertionSort, List.mem_filter, rglob,
    List.mem_map_of_injective (under_injective root), List.mem_filter, and_assoc]
  simp [SourceFile.under]

theorem skipsVendored_iff (checkout : Checkout project) :
    checkout.SkipsVendored ↔ checkout.Harmless := by
  have skipped (file : SourceFile) (member : file ∈ project.files)
      (python : isPython file.path = true) :
      file.under checkout.root ∉ filesOf checkout.root checkout.below ↔
        isVendored checkout.root = true ∨ isVendored file.path = true := by
    rw [under_mem_filesOf, and_iff_right (checkout.listed.mem_iff.mpr member),
      and_iff_right python, Bool.not_eq_false, isVendored_append, Bool.or_eq_true]
  unfold Checkout.SkipsVendored Checkout.Harmless
  cases vendored : isVendored checkout.root with
  | false =>
    refine iff_of_true (fun file member python => ?_) (.inl rfl)
    rw [skipped file member python, vendored]
    simp
  | true =>
    rw [or_iff_right Bool.true_eq_false.mp]
    refine forall₃_congr fun file member python => ?_
    rw [skipped file member python]
    exact iff_true_left (.inl vendored)

end Skipped

/-! ### What is scanned -/

/-- The files of a project that are to be scanned, in their order. -/
def Project.scanned (project : Project) : List SourceFile :=
  (project.files.filter fun file => isPython file.path && !isVendored file.path).insertionSort
    fun first second => first.path ≤ second.path

/-- At a harmless place the files of the project are scanned, in their order. -/
theorem filesOf_eq {checkout : Checkout project} (harmless : checkout.Harmless) :
    filesOf checkout.root checkout.below =
      project.scanned.map (SourceFile.under checkout.root) := by
  have vendored (file : SourceFile) (member : file ∈ checkout.below)
      (python : isPython file.path = true) :
      isVendored (checkout.root ++ file.path) = isVendored file.path := by
    rw [isVendored_append]
    rcases harmless with clean | all
    · rw [clean, Bool.false_or]
    · rw [all file (checkout.listed.mem_iff.mp member) python, Bool.or_true]
  have kept : (rglob checkout.root checkout.below).filter (fun file => !isVendored file.path) =
      (checkout.below.filter fun file => isPython file.path && !isVendored file.path).map
        (SourceFile.under checkout.root) := by
    rw [rglob, List.filter_map, List.filter_filter]
    refine congrArg _ (List.filter_congr fun file member => ?_)
    rw [Function.comp_apply, Bool.and_comm]
    cases python : isPython file.path with
    | false => rw [Bool.false_and, Bool.false_and]
    | true =>
      show (true && !isVendored (checkout.root ++ file.path)) = _
      rw [vendored file member python]
  rw [filesOf, kept, Project.scanned, ← List.map_insertionSort
    (fun first second : SourceFile => first.path ≤ second.path)]
  · refine congrArg _ (Sorting.insertionSort_eq_of_perm SourceFile.path
      (checkout.listed.filter _) ?_)
    exact project.distinct.sublist (List.filter_sublist.map _)
  · intro first _ second _
    exact (Sorting.append_le_append_iff checkout.root).symm

/-- Below the base a path is named by what follows it. -/
theorem relativeText_append (base path : List PyStr) :
    relativeText base (base ++ path) = pathText path := by
  have dropped : (base ++ path).dropPrefix? base = some path :=
    List.dropPrefix?_append_of_beq path (beq_self_eq_true base)
  rw [relativeText, dropped, Option.getD_some]

/-- A file is scanned under the name that it has in the project. -/
theorem scanFile_under (reader : Reader) (root : List PyStr) (file : SourceFile) :
    scanFile reader root (file.under root) = scanFile reader [] file := by
  have text : relativeText root (root ++ file.path) = relativeText [] file.path :=
    (relativeText_append root file.path).trans (relativeText_append [] file.path).symm
  show scanContent reader (relativeText root (root ++ file.path)) file.content = _
  rw [text]
  rfl

/-- At a harmless place the scan depends on the project alone. -/
theorem scan_eq {checkout : Checkout project} (harmless : checkout.Harmless) (reader : Reader) :
    checkout.scan reader = (do
      let tools ← project.scanned.mapM (scanFile reader [])
      return tools.flatten) := by
  have each : scanFile reader checkout.root ∘ SourceFile.under checkout.root =
      scanFile reader [] := funext (scanFile_under reader checkout.root)
  show ((filesOf checkout.root checkout.below).mapM _ >>= fun tools => pure tools.flatten) = _
  rw [filesOf_eq harmless, List.mapM_map, each]

/-- **Where a project lies does not matter exactly if neither root has a vendored directory among
its parts, unless all files of the project are vendored.** -/
theorem locationFree_iff (reader : Reader) (first second : Checkout project) :
    LocationFree reader first second ↔ first.Harmless ∧ second.Harmless := by
  constructor
  · intro free
    exact ⟨(skipsVendored_iff first).mp free.skips.1, (skipsVendored_iff second).mp free.skips.2⟩
  · rintro ⟨harmless, harmlessToo⟩
    refine ⟨(scan_eq harmless reader).trans (scan_eq harmlessToo reader).symm, ?_, ?_⟩
    · exact (skipsVendored_iff first).mpr harmless
    · exact (skipsVendored_iff second).mpr harmlessToo

/-- `{'name': 'search', 'description': 'Search the web.', 'input_schema': SCHEMA}` -/
def searchDisplay : DictDisplay Node where
  lineno := 1
  items := [(some (.constant (.str "name")), .constant (.str "search")),
    (some (.constant (.str "description")), .constant (.str "Search the web.")),
    (some (.constant (.str "input_schema")), .name "SCHEMA")]

/-- A module that is the statement of a registry with one tool. -/
def registryModule : Node := .other [.expr (.dict searchDisplay)]

/-- The text of this module is all that the reader is given. -/
def registryReader : Reader where
  toScanner := Scanner.trial
  parse _ := .ok registryModule

/-- The text of the module. -/
def agentText : String :=
  "\x7b'name': 'search', 'description': 'Search the web.', 'input_schema': SCHEMA\x7d"

def agentFile : SourceFile where
  path := ["agent.py"]
  content := .ok agentText.toUTF8.toList

def agentProject : Project where
  files := [agentFile]
  distinct := by decide

/-- The project in `/srv/agent`. -/
def served : Checkout agentProject where
  root := ["/", "srv", "agent"]
  below := [agentFile]
  listed := .refl _

/-- The project in `/build/agent`. -/
def built : Checkout agentProject where
  root := ["/", "build", "agent"]
  below := [agentFile]
  listed := .refl _

/-- Below a directory that is called `build` a tool is not found, which elsewhere is. -/
theorem built_blind :
    (∃ tools, served.scan registryReader = .ok tools ∧ tools ≠ []) ∧
      built.scan registryReader = .ok [] ∧ ¬ LocationFree registryReader served built := by
  have evaluable : ∀ node ∈ registryModule.walk, Evaluable Scanner.trial node := by
    intro node _
    cases node with
    | dict display =>
      rintro _ _ _ ⟨⟩
      exact .inl rfl
    | _ => trivial
  have inWalk : .dict searchDisplay ∈ registryModule.walk :=
    Node.mem_walk_of_child (Node.mem_walk_of_child (Node.mem_walk_self _) (.head _)) (.head _)
  obtain ⟨tools, scanned⟩ : ∃ tools,
      scanModule Scanner.trial (pathText agentFile.path) registryModule = .ok tools :=
    scanModule_returns_iff.mpr evaluable
  have found : tools ≠ [] := List.ne_nil_of_mem (mem_of_scanModule scanned inWalk rfl)
  have servedScan : served.scan registryReader = .ok tools := by
    have content : scanFile registryReader [] agentFile = .ok tools := scanned
    rw [scan_eq (.inl (by decide))]
    show ([agentFile].mapM (scanFile registryReader []) >>= fun tools => pure tools.flatten) = _
    rw [List.mapM_cons, List.mapM_nil, content]
    exact congrArg Except.ok (List.append_nil tools)
  have builtScan : built.scan registryReader = .ok [] := rfl
  refine ⟨⟨tools, servedScan, found⟩, builtScan, fun free => found ?_⟩
  exact Except.ok.inj (servedScan.symm.trans (free.same.trans builtScan))

end AxorWrap.Compile
