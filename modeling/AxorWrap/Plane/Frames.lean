/-
This file says when the frames of a stream are read apart. The client reads a stream line by line,
with a register for the name of the event and one for its data, and both are reset at the end of a
frame; but only of a frame with data. A frame that has none leaves its name behind, and the next
frame with data and no name of its own is dispatched under it.

So the frames are compared to those of a reference, which splits the stream at its blank lines
first and reads each frame on its own.
-/

import AxorWrap.Plane.Subscription
import Mathlib.Data.List.TakeWhile

namespace AxorWrap.Plane

open Python Methods Checks Scripts

/-! ### What is dispatched -/

/-- How a stream ends. -/
def Ending.conclude : Ending → ClientMethod Consumed
  | .closed => return .closed
  | .failed => throw .transport
  | .live => return .live

/-- The frames that `_consume_sse` dispatches, from what it has read of the one being sent. -/
def framesRead (interpreter : Interpreter) :
    List PyStr → (eventName : PyStr) → (dataLines : List PyStr) → List Frame
  | [], _, _ => []
  | raw :: rest, eventName, dataLines =>
    let strip := PyStr.strip interpreter
    let line := raw.rstripNewlines
    if line.startsWith "event:" then
      framesRead interpreter rest (strip (line.drop 6)) dataLines
    else if line.startsWith "data:" then
      framesRead interpreter rest eventName (dataLines ++ [strip (line.drop 5)])
    else if line.isEmpty && !dataLines.isEmpty then
      ⟨eventName, PyStr.join "\n" dataLines⟩ :: framesRead interpreter rest [] []
    else
      framesRead interpreter rest eventName dataLines

/-- Before `stop` is set, consuming a stream is dispatching these frames one after another. -/
theorem consumeSse_eq (client : Client) (ending : Ending) (texts : List PyStr) (eventName : PyStr)
    (dataLines : List PyStr) :
    consumeSse client ending (texts.map fun raw => { raw := raw }) eventName dataLines =
      (framesRead client.node.platform.interpreter texts eventName dataLines).forM
        (handle client) >>= fun _ => ending.conclude := by
  induction texts generalizing eventName dataLines with
  | nil => cases ending <;> rfl
  | cons raw rest inductionHypothesis =>
    rw [List.map_cons, consumeSse, framesRead, if_neg Bool.false_ne_true]
    dsimp only
    split_ifs with event data complete
    · exact inductionHypothesis _ _
    · exact inductionHypothesis _ _
    · show _ = (handle client _ >>= fun _ =>
        (framesRead _ rest [] []).forM (handle client)) >>= _
      rw [bind_assoc]
      exact congrArg (handle client _ >>= ·) (funext fun _ => inductionHypothesis _ _)
    · exact inductionHypothesis _ _

/-! ### Frames on their own -/

section Reference

variable (interpreter : Interpreter)

/-- The value of a line `event: value`. -/
def eventValue (line : PyStr) : Option PyStr :=
  if line.startsWith "event:" then some (PyStr.strip interpreter (line.drop 6)) else none

/-- The value of a line `data: value`. -/
def dataValue (line : PyStr) : Option PyStr :=
  if line.startsWith "data:" then some (PyStr.strip interpreter (line.drop 5)) else none

/-- The lines of each frame that a blank line completes, after those read of the first. -/
def framesSplit (begun : List PyStr) : List PyStr → List (List PyStr)
  | [] => []
  | line :: rest =>
    if line.isEmpty then begun :: framesSplit [] rest else framesSplit (begun ++ [line]) rest

def eventsOf (lines : List PyStr) : List PyStr := lines.filterMap (eventValue interpreter)

def dataOf (lines : List PyStr) : List PyStr := lines.filterMap (dataValue interpreter)

/-- The last event value among these lines, or else this one. -/
def nameFrom (inherited : PyStr) (lines : List PyStr) : PyStr :=
  (eventsOf interpreter lines).getLast?.getD inherited

/-- What a frame is on its own, if it has data. -/
def frameOf (lines : List PyStr) : Option Frame :=
  if dataOf interpreter lines = [] then none
  else some ⟨nameFrom interpreter [] lines, PyStr.join "\n" (dataOf interpreter lines)⟩

/-- The frames of a stream, each read on its own. -/
def framesApart (texts : List PyStr) : List Frame :=
  (framesSplit [] (texts.map PyStr.rstripNewlines)).filterMap (frameOf interpreter)

/-- What is read of frames in a row when a frame without data leaves its name behind. -/
def framesInRow (inherited : PyStr) : List (List PyStr) → List Frame
  | [] => []
  | lines :: rest =>
    if dataOf interpreter lines = [] then framesInRow (nameFrom interpreter inherited lines) rest
    else ⟨nameFrom interpreter inherited lines, PyStr.join "\n" (dataOf interpreter lines)⟩ ::
      framesInRow [] rest

variable {interpreter}

theorem eventsOf_concat (lines : List PyStr) (line : PyStr) :
    eventsOf interpreter (lines ++ [line]) =
      eventsOf interpreter lines ++ (eventValue interpreter line).toList := by
  unfold eventsOf
  rw [List.filterMap_append]
  cases value : eventValue interpreter line <;> simp [value]

theorem dataOf_concat (lines : List PyStr) (line : PyStr) :
    dataOf interpreter (lines ++ [line]) =
      dataOf interpreter lines ++ (dataValue interpreter line).toList := by
  unfold dataOf
  rw [List.filterMap_append]
  cases value : dataValue interpreter line <;> simp [value]

theorem nameFrom_concat (inherited : PyStr) (lines : List PyStr) (line : PyStr) :
    nameFrom interpreter inherited (lines ++ [line]) =
      (eventValue interpreter line).getD (nameFrom interpreter inherited lines) := by
  unfold nameFrom
  rw [eventsOf_concat]
  cases eventValue interpreter line <;> simp

/-! ### The two registers -/

/-- An event line is no data line. -/
theorem dataValue_of_event {line : PyStr} (event : line.startsWith "event:" = true) :
    dataValue interpreter line = none := by
  cases line with
  | nil => rfl
  | cons point rest =>
    have first := (Bool.and_eq_true_iff.mp event).1
    refine if_neg fun data => ?_
    have other := (Bool.and_eq_true_iff.mp data).1
    exact absurd ((eq_of_beq first).trans (eq_of_beq other).symm) (by decide)

/-- Line by line or frame by frame, what is read is the same. -/
theorem framesRead_eq (texts begun : List PyStr) (inherited : PyStr) :
    framesRead interpreter texts (nameFrom interpreter inherited begun)
        (dataOf interpreter begun) =
      framesInRow interpreter inherited
        (framesSplit begun (texts.map PyStr.rstripNewlines)) := by
  induction texts generalizing begun inherited with
  | nil => rfl
  | cons raw rest inductionHypothesis =>
    have goesOn := inductionHypothesis (begun ++ [raw.rstripNewlines]) inherited
    rw [nameFrom_concat, dataOf_concat] at goesOn
    rw [List.map_cons, framesRead, framesSplit]
    generalize raw.rstripNewlines = line at goesOn ⊢
    by_cases event : line.startsWith "event:" = true
    · rw [dataValue_of_event event, eventValue, if_pos event] at goesOn
      have notBlank : ¬ line.isEmpty = true := by
        intro blank
        rw [List.isEmpty_iff.mp blank] at event
        cases event
      rw [if_pos event, if_neg notBlank, ← goesOn, Option.toList_none, List.append_nil]
      rfl
    rw [if_neg event]
    rw [eventValue, if_neg event, Option.getD_none] at goesOn
    by_cases data : line.startsWith "data:" = true
    · rw [dataValue, if_pos data] at goesOn
      have notBlank : ¬ line.isEmpty = true := by
        intro blank
        rw [List.isEmpty_iff.mp blank] at data
        cases data
      rw [if_pos data, if_neg notBlank, ← goesOn]
      rfl
    rw [if_neg data]
    rw [dataValue, if_neg data, Option.toList_none, List.append_nil] at goesOn
    by_cases blank : line.isEmpty = true
    · rw [if_pos blank, framesInRow, blank, Bool.true_and]
      by_cases silent : dataOf interpreter begun = []
      · rw [if_pos silent, silent, if_neg (by simp)]
        exact inductionHypothesis [] (nameFrom interpreter inherited begun)
      · rw [if_neg silent, if_pos (by simpa using silent)]
        exact congrArg (_ :: ·) (inductionHypothesis [] [])
    · rw [if_neg blank, if_neg (by simp [blank]), goesOn]

/-! ### Names that are left behind -/

variable (interpreter) in
/-- The name in the register after these frames. -/
def nameLeft (inherited : PyStr) (frames : List (List PyStr)) : PyStr :=
  frames.foldl (fun inherited lines =>
    if dataOf interpreter lines = [] then nameFrom interpreter inherited lines else []) inherited

variable (interpreter) in
/-- A frame has data but no name, and the last name in the frames without data right before it is
not empty. -/
def Inherits (frames : List (List PyStr)) : Prop :=
  ∃ earlier silent lines later name, frames = earlier ++ silent ++ lines :: later ∧
    (∀ before ∈ silent, dataOf interpreter before = []) ∧
    (eventsOf interpreter silent.flatten).getLast? = some name ∧ name ≠ [] ∧
    dataOf interpreter lines ≠ [] ∧ eventsOf interpreter lines = []

theorem nameLeft_of_silent {first : List PyStr} (silent : dataOf interpreter first = [])
    (inherited : PyStr) (rest : List (List PyStr)) :
    nameLeft interpreter inherited (first :: rest) =
      nameLeft interpreter (nameFrom interpreter inherited first) rest := by
  rw [nameLeft, List.foldl_cons, if_pos silent, nameLeft]

theorem nameLeft_of_data {first : List PyStr} (data : dataOf interpreter first ≠ [])
    (inherited : PyStr) (rest : List (List PyStr)) :
    nameLeft interpreter inherited (first :: rest) = nameLeft interpreter [] rest := by
  rw [nameLeft, List.foldl_cons, if_neg data, nameLeft]

/-- What holds at each place of a list holds at the first, and at each place of the rest. -/
theorem forall_place_cons {α : Type} {first : α} {rest : List α} {holds : List α → α → Prop} :
    (∀ before item after, first :: rest = before ++ item :: after → holds before item) ↔
      holds [] first ∧
        ∀ before item after, rest = before ++ item :: after → holds (first :: before) item := by
  constructor
  · intro each
    exact ⟨each [] first rest rfl, fun before item after split =>
      each (first :: before) item after (congrArg (first :: ·) split)⟩
  · rintro ⟨head, tail⟩ before item after split
    cases before with
    | nil =>
      cases split
      exact head
    | cons other before =>
      cases split
      exact tail before item after rfl

/-- Frames in a row are read as they are apart when no name is left to a frame that has data but
no name. -/
theorem framesInRow_eq_iff {frames : List (List PyStr)} {inherited : PyStr} :
    framesInRow interpreter inherited frames = frames.filterMap (frameOf interpreter) ↔
      ∀ before lines after, frames = before ++ lines :: after → dataOf interpreter lines ≠ [] →
        eventsOf interpreter lines = [] → nameLeft interpreter inherited before = [] := by
  induction frames generalizing inherited with
  | nil =>
    refine iff_of_true rfl fun before lines after split => ?_
    cases before <;> cases split
  | cons first rest inductionHypothesis =>
    rw [framesInRow, List.filterMap_cons, frameOf, forall_place_cons]
    by_cases silent : dataOf interpreter first = []
    · simp only [nameLeft_of_silent silent]
      rw [if_pos silent, if_pos silent, inductionHypothesis,
        and_iff_right fun data => absurd silent data]
    · simp only [nameLeft_of_data silent]
      rw [if_neg silent, if_neg silent, ← inductionHypothesis, List.cons.injEq]
      refine and_congr_left fun _ => ?_
      rw [Frame.mk.injEq, and_iff_left rfl, nameFrom, nameFrom]
      cases last : (eventsOf interpreter first).getLast? with
      | none =>
        rw [List.getLast?_eq_none_iff.mp last]
        exact ⟨fun same _ _ => same, fun same => same silent rfl⟩
      | some name =>
        refine iff_of_true rfl fun _ nameless => ?_
        rw [nameless] at last
        cases last

theorem nameFrom_append (inherited : PyStr) (first second : List PyStr) :
    nameFrom interpreter inherited (first ++ second) =
      nameFrom interpreter (nameFrom interpreter inherited first) second := by
  unfold nameFrom eventsOf
  rw [List.filterMap_append, List.getLast?_append]
  cases (second.filterMap (eventValue interpreter)).getLast? <;> rfl

/-- Frames without data leave the last name among them. -/
theorem nameLeft_silent {silent : List (List PyStr)}
    (dataless : ∀ lines ∈ silent, dataOf interpreter lines = []) (inherited : PyStr) :
    nameLeft interpreter inherited silent = nameFrom interpreter inherited silent.flatten := by
  induction silent generalizing inherited with
  | nil => rfl
  | cons lines rest inductionHypothesis =>
    rw [List.forall_mem_cons] at dataless
    rw [List.flatten_cons, nameFrom_append, ← inductionHypothesis dataless.2,
      nameLeft_of_silent dataless.1]

/-- A name is left behind by frames without data, the last in a row. -/
theorem nameLeft_ne_nil_iff {before : List (List PyStr)} :
    nameLeft interpreter [] before ≠ [] ↔
      ∃ earlier silent name, before = earlier ++ silent ∧
        (∀ lines ∈ silent, dataOf interpreter lines = []) ∧
        (eventsOf interpreter silent.flatten).getLast? = some name ∧ name ≠ [] := by
  constructor
  · induction before using List.reverseRecOn with
    | nil => exact fun left => absurd rfl left
    | append_singleton before lines inductionHypothesis =>
      intro left
      rw [nameLeft, List.foldl_append, List.foldl_cons, List.foldl_nil] at left
      by_cases dataless : dataOf interpreter lines = []
      · rw [if_pos dataless] at left
        have only : ∀ other ∈ [lines], dataOf interpreter other = [] := fun other member =>
          List.mem_singleton.mp member ▸ dataless
        cases last : (eventsOf interpreter lines).getLast? with
        | some name =>
          rw [nameFrom, last] at left
          refine ⟨before, [lines], name, rfl, only, ?_, left⟩
          rw [List.flatten_cons, List.flatten_nil, List.append_nil, last]
        | none =>
          rw [nameFrom, last] at left
          obtain ⟨earlier, silent, name, rfl, quiet, isLast, nonempty⟩ := inductionHypothesis left
          refine ⟨earlier, silent ++ [lines], name, List.append_assoc .., ?_, ?_, nonempty⟩
          · exact List.forall_mem_append.mpr ⟨quiet, only⟩
          · have nameless := List.getLast?_eq_none_iff.mp last
            rw [eventsOf] at nameless isLast ⊢
            rw [List.flatten_append, List.filterMap_append, List.flatten_cons, List.flatten_nil,
              List.append_nil, nameless, List.append_nil, isLast]
      · rw [if_neg dataless] at left
        exact absurd rfl left
  · rintro ⟨earlier, silent, name, rfl, quiet, isLast, nonempty⟩
    have left := nameLeft_silent quiet (nameLeft interpreter [] earlier)
    rw [nameFrom, isLast, Option.getD_some] at left
    rw [nameLeft, List.foldl_append]
    exact fun empty => nonempty (left.symm.trans empty)

theorem framesRead_eq_framesApart_iff {texts : List PyStr} :
    framesRead interpreter texts [] [] = framesApart interpreter texts ↔
      ¬ Inherits interpreter (framesSplit [] (texts.map PyStr.rstripNewlines)) := by
  have inRow : framesRead interpreter texts [] [] = framesInRow interpreter []
      (framesSplit [] (texts.map PyStr.rstripNewlines)) := framesRead_eq texts [] []
  rw [inRow, framesApart, framesInRow_eq_iff]
  constructor
  · rintro each ⟨earlier, silent, lines, later, name, split, quiet, isLast, nonempty, data, none⟩
    exact nameLeft_ne_nil_iff.mpr ⟨earlier, silent, name, rfl, quiet, isLast, nonempty⟩
      (each _ lines later split data none)
  · intro apart before lines after split data none
    by_contra left
    obtain ⟨earlier, silent, name, rfl, quiet, isLast, nonempty⟩ := nameLeft_ne_nil_iff.mp left
    exact apart ⟨earlier, silent, lines, after, name, split, quiet, isLast, nonempty, data, none⟩

/-! ### A stream as it is written -/

/-- The lines of these events: a name, the data, and a blank line for each. -/
def streamOf (events : List Frame) : List PyStr :=
  events.flatMap fun event =>
    [PyStr.ofString "event: " ++ event.eventName, PyStr.ofString "data: " ++ event.text, []]

variable (interpreter) in
/-- No blanks are around the name and the data of an event. -/
structure Frame.Stripped (event : Frame) : Prop where
  eventName : PyStr.strip interpreter event.eventName = event.eventName
  text : PyStr.strip interpreter event.text = event.text

theorem strip_space (text : PyStr) :
    PyStr.strip interpreter (32 :: text) = PyStr.strip interpreter text := by
  unfold PyStr.strip
  rw [List.dropWhile_cons_of_pos (show isBlank interpreter 32 = true from rfl)]

/-- A text without blanks around it ends in no newline, and nor does a line that ends in it. -/
theorem rstripNewlines_append (head : PyStr) {text : PyStr}
    (stripped : PyStr.strip interpreter text = text) :
    (head ++ 32 :: text).rstripNewlines = head ++ 32 :: text := by
  unfold PyStr.rstripNewlines
  rw [List.reverse_eq_iff, List.reverse_append, List.reverse_cons]
  cases reversed : text.reverse with
  | nil => rfl
  | cons last rest =>
    unfold PyStr.strip at stripped
    rw [← List.reverse_inj, List.reverse_reverse, reversed] at stripped
    have notBlank := List.head?_dropWhile_not (isBlank interpreter)
      (text.dropWhile (isBlank interpreter)).reverse
    rw [stripped] at notBlank
    refine List.dropWhile_cons_of_neg fun newline => ?_
    have isNewline : last = 10 := Fin.ext (of_decide_eq_true newline)
    rw [isNewline] at notBlank
    cases notBlank

/-- Events that are written are read as they were. -/
theorem framesRead_streamOf {events : List Frame}
    (stripped : ∀ event ∈ events, event.Stripped interpreter) :
    framesRead interpreter (streamOf events) [] [] = events := by
  induction events with
  | nil => rfl
  | cons event rest inductionHypothesis =>
    rw [List.forall_mem_cons] at stripped
    obtain ⟨eventName, text⟩ := event
    have named : (PyStr.ofString "event: " ++ eventName).rstripNewlines =
        PyStr.ofString "event: " ++ eventName :=
      rstripNewlines_append (PyStr.ofString "event:") stripped.1.eventName
    have filled : (PyStr.ofString "data: " ++ text).rstripNewlines =
        PyStr.ofString "data: " ++ text :=
      rstripNewlines_append (PyStr.ofString "data:") stripped.1.text
    have name : PyStr.strip interpreter ((PyStr.ofString "event: " ++ eventName).drop 6) =
        eventName := (strip_space eventName).trans stripped.1.eventName
    have data : PyStr.strip interpreter ((PyStr.ofString "data: " ++ text).drop 5) = text :=
      (strip_space text).trans stripped.1.text
    have written : streamOf (⟨eventName, text⟩ :: rest) =
        (PyStr.ofString "event: " ++ eventName) :: (PyStr.ofString "data: " ++ text) :: [] ::
          streamOf rest := rfl
    have isEvent : (PyStr.ofString "event: " ++ eventName).startsWith "event:" = true := rfl
    have notEvent : ¬ (PyStr.ofString "data: " ++ text).startsWith "event:" = true :=
      Bool.false_ne_true
    have isData : (PyStr.ofString "data: " ++ text).startsWith "data:" = true := rfl
    have joined : PyStr.join "\n" [text] = text := by simp [PyStr.join, List.intercalate]
    rw [written, framesRead, named, if_pos isEvent, name, framesRead, filled, if_neg notEvent,
      if_pos isData, data]
    exact congrArg₂ (fun text later => ⟨eventName, text⟩ :: later) joined
      (inductionHypothesis stripped.2)

end Reference

/-- The frames that are dispatched are those of the stream, each read on its own; and events that
are written one after another are dispatched just so. -/
structure Independent (interpreter : Interpreter) (texts : List PyStr) : Prop where
  frames : framesRead interpreter texts [] [] = framesApart interpreter texts
  written : ∀ events : List Frame, (∀ event ∈ events, event.Stripped interpreter) →
    texts = streamOf events → framesRead interpreter texts [] [] = events

/-- **The frames of a stream are independent** exactly when none inherits a name. Consuming the
stream is dispatching the frames that are read of it, in order. -/
theorem independent_iff (client : Client) (texts : List PyStr) :
    (∀ ending : Ending,
      consumeSse client ending (texts.map fun raw => { raw := raw }) [] [] =
        (framesRead client.node.platform.interpreter texts [] []).forM (handle client) >>=
          fun _ => ending.conclude) ∧
    (Independent client.node.platform.interpreter texts ↔
      ¬ Inherits client.node.platform.interpreter
        (framesSplit [] (texts.map PyStr.rstripNewlines))) := by
  refine ⟨fun ending => consumeSse_eq client ending texts [] [], ?_⟩
  rw [← framesRead_eq_framesApart_iff]
  refine ⟨Independent.frames, fun frames => ⟨frames, ?_⟩⟩
  rintro events stripped rfl
  exact framesRead_streamOf stripped

/-- A frame with a name and no data, and then one with data and no name. -/
theorem not_always_independent :
    ¬ Independent asciiInterpreter ["event: snapshot", "", "data: \x7b\x7d", ""] := by
  intro independent
  have names := congrArg (List.map Frame.eventName) independent.frames
  exact absurd names (by decide)

end AxorWrap.Plane
