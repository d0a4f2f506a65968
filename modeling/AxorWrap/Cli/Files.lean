/-
This file models the files that the command line writes and reads: paths that are joined to the
output directory (`pathlib`, on POSIX), JSON written at a path, and what is then listed in the
directory.

The file system decides what a path leads to. A single name is an entry of the directory, which
other names may stand for too, or it is refused; a longer path and an absolute one are walked, and
may come to any place or to none. A file that was opened takes what is written to it.
-/

import AxorWrap.Library.Method
import AxorWrap.Python.Literal
import Mathlib.Data.List.Lex

namespace AxorWrap.Cli

open Python Methods

/-! ### Paths -/

/-- A path that is joined to a directory. -/
structure Path where
  absolute : Bool
  parts : List PyStr
deriving DecidableEq

/-- What stands between two slashes is a part of a path unless it is empty or a single dot. -/
def isPart (text : PyStr) : Bool := !(text.isEmpty || text = PyStr.ofString ".")

/-- The path that a text is. -/
def Path.ofText (text : PyStr) : Path where
  absolute := text.head? = some 47
  parts := (text.splitOn 47).filter isPart

/-- `path.name` -/
def Path.name (path : Path) : PyStr := path.parts.getLastD []

theorem isPart_of_long {text : PyStr} (long : 2 ≤ text.length) : isPart text = true := by
  unfold isPart
  rw [Bool.not_eq_true', Bool.or_eq_false_iff, List.isEmpty_eq_false_iff, decide_eq_false_iff_not]
  refine ⟨fun empty => ?_, fun dot => ?_⟩
  · exact absurd (empty ▸ long) (by decide)
  · exact absurd (dot ▸ long) (by decide)

theorem splitOn_slashless {text : PyStr} (slashless : 47 ∉ text) : text.splitOn 47 = [text] := by
  refine List.splitOnP_eq_singleton fun point member => ?_
  exact beq_eq_false_iff_ne.mpr fun same => slashless (same ▸ member)

/-- A text without slashes is a single name. -/
theorem ofText_slashless {text : PyStr} (slashless : 47 ∉ text) (long : 2 ≤ text.length) :
    Path.ofText text = ⟨false, [text]⟩ := by
  have relative : text.head? ≠ some 47 := fun same => slashless (List.mem_of_mem_head? same)
  rw [Path.ofText, splitOn_slashless slashless, decide_eq_false relative, List.filter_cons,
    if_pos (isPart_of_long long)]
  rfl

/-- The last part of a path keeps the end of its text. -/
theorem suffix_name {text ending : PyStr} (slashless : 47 ∉ ending) (long : 2 ≤ ending.length) :
    ending <:+ (Path.ofText (text ++ ending)).name := by
  have split : ∃ first last, (text ++ ending).splitOn 47 = first ++ [last ++ ending] := by
    induction text with
    | nil =>
      exact ⟨[], [], by rw [List.nil_append, splitOn_slashless slashless]; rfl⟩
    | cons point rest inductionHypothesis =>
      obtain ⟨first, last, split⟩ := inductionHypothesis
      rw [List.cons_append, List.splitOn, List.splitOnP_cons_eq_if_modifyHead, ← List.splitOn,
          split]
      split
      · exact ⟨[] :: first, last, rfl⟩
      · cases first with
        | nil => exact ⟨[], point :: last, rfl⟩
        | cons part first => exact ⟨(point :: part) :: first, last, rfl⟩
  obtain ⟨first, last, split⟩ := split
  have kept : isPart (last ++ ending) = true := by
    refine isPart_of_long ?_
    rw [List.length_append]
    omega
  unfold Path.name Path.ofText
  rw [split, List.filter_append, List.filter_cons, if_pos kept]
  simp

/-! ### Writing -/

/-- A place of the file system. -/
inductive Place
  | entry (name : PyStr)
  | elsewhere (location : PyStr)
deriving DecidableEq

/-- The file system around the directory, and the standard output. -/
structure Surroundings where
  entry : PyStr → Except PyError PyStr
  walk : Path → Except PyError Place
  announce : Path → Except PyError Unit

/-- The place that is opened at a path. -/
def Surroundings.place (surroundings : Surroundings) (path : Path) : Except PyError Place :=
  match path.absolute, path.parts with
  | false, [name] => return .entry (← surroundings.entry name)
  | _, _ => surroundings.walk path

/-- What was written, where, and at which path. The content is the value of a JSON text. -/
structure File where
  path : Path
  place : Place
  content : Option Value

def File.inside (file : File) : Bool :=
  match file.place with
  | .entry _ => true
  | .elsewhere _ => false

section Writing

variable (interpreter : Interpreter) (surroundings : Surroundings)

/-- `path.write_text(json.dumps(literal, indent=2) + "\n")` -/
def writeJson (path : Path) (literal : Literal) : Method (List File) PyError Unit := do
  let content ← liftM (literal.throughJson interpreter)
  let place ← liftM (surroundings.place path)
  modify fun written => written ++ [⟨path, place, some content⟩]

end Writing

/-! ### The directory -/

/-- An entry that is written again keeps its name. -/
def keep (kept : List File) (file : File) : List File :=
  if kept.any fun old => old.place = file.place then
    kept.map fun old =>
      if old.place = file.place then { old with content := file.content } else old
  else kept ++ [file]

/-- The entries of the directory, which was empty. -/
def directory (written : List File) : List File := (written.filter File.inside).foldl keep []

/-- `sorted(directory.glob("*.json"))` -/
def jsonFiles (written : List File) : List File :=
  ((directory written).filter fun file => PyStr.ofString ".json" <:+ file.path.name).insertionSort
    fun first second => first.path.name ≤ second.path.name

/-- Files at places of their own are all there. -/
theorem directory_of_nodup {written : List File} (inside : ∀ file ∈ written, file.inside = true)
    (distinct : (written.map File.place).Nodup) : directory written = written := by
  have adds : ∀ kept : List File, ((kept ++ written).map File.place).Nodup →
      written.foldl keep kept = kept ++ written := by
    clear inside distinct
    induction written with
    | nil => exact fun kept _ => (List.append_nil kept).symm
    | cons file rest inductionHypothesis =>
      intro kept distinct
      have fresh : ¬ (kept.any fun old => old.place = file.place) = true := by
        intro again
        obtain ⟨old, member, same⟩ := List.any_eq_true.mp again
        rw [List.map_append, List.map_cons] at distinct
        have apart := (List.nodup_append.mp distinct).2.2 old.place (List.mem_map_of_mem member)
          file.place List.mem_cons_self
        exact apart (of_decide_eq_true same)
      rw [List.foldl_cons, keep, if_neg fresh, inductionHypothesis, List.append_assoc]
      · rfl
      · rw [List.append_assoc]
        exact distinct
  unfold directory
  rw [List.filter_eq_self.mpr inside]
  exact adds [] distinct

end AxorWrap.Cli
