/-
This file says when the traces of two trials have different ids. A planned unit is a text of three
parts, `scenario:arm:repeat`, and `trial_of` splits it from the right, so that a scenario may have
colons in its name.

The id that a trace has by default joins the coordinates with underscores. The repeat is read off
its end again, but where the scenario ends and the arm begins is not; and the repeat is a number,
which has several spellings.
-/

import AxorWrap.Trace.Pairing
import Mathlib.Data.List.TakeWhile

namespace AxorWrap.Trace

open Python Methods Checks

/-! ### Splitting from the right -/

/-- `text.rpartition(separator)`, where the separator is in the text. -/
def rpartition (separator : CodePoint) : PyStr → Option (PyStr × PyStr)
  | [] => none
  | point :: rest =>
    match rpartition separator rest with
    | some (before, after) => some (point :: before, after)
    | none => if point = separator then some ([], rest) else none

/-- `text.rsplit(separator, limit)` -/
def rsplit (separator : CodePoint) : Nat → PyStr → List PyStr
  | 0, text => [text]
  | limit + 1, text =>
    match rpartition separator text with
    | some (before, after) => rsplit separator limit before ++ [after]
    | none => [text]

section Splitting

variable {separator : CodePoint}

theorem rpartition_eq_none {text : PyStr} :
    rpartition separator text = none ↔ separator ∉ text := by
  induction text with
  | nil => exact iff_of_true rfl List.not_mem_nil
  | cons point rest inductionHypothesis =>
    rw [rpartition, List.mem_cons, not_or, ← inductionHypothesis]
    cases rpartition separator rest with
    | some parts =>
      refine iff_of_false (Option.some_ne_none _) fun kept => ?_
      cases kept.2
    | none =>
      by_cases same : point = separator
      · dsimp only
        rw [if_pos same]
        exact iff_of_false (Option.some_ne_none _) fun kept => kept.1 same.symm
      · dsimp only
        rw [if_neg same]
        exact iff_of_true rfl ⟨Ne.symm same, rfl⟩

/-- A text is split at the last separator. -/
theorem rpartition_append {before after : PyStr} (last : separator ∉ after) :
    rpartition separator (before ++ separator :: after) = some (before, after) := by
  induction before with
  | nil => rw [List.nil_append, rpartition, rpartition_eq_none.mpr last, if_pos rfl]
  | cons point rest inductionHypothesis => rw [List.cons_append, rpartition, inductionHypothesis]

theorem of_rpartition_eq_some {text before after : PyStr}
    (split : rpartition separator text = some (before, after)) :
    text = before ++ separator :: after ∧ separator ∉ after := by
  induction text generalizing before with
  | nil => cases split
  | cons point rest inductionHypothesis =>
    rw [rpartition] at split
    cases later : rpartition separator rest with
    | some parts =>
      rw [later] at split
      cases split
      obtain ⟨same, last⟩ := inductionHypothesis later
      exact ⟨congrArg (point :: ·) same, last⟩
    | none =>
      rw [later] at split
      dsimp only at split
      by_cases same : point = separator
      · rw [if_pos same] at split
        cases split
        exact ⟨congrArg (· :: _) same, rpartition_eq_none.mp later⟩
      · rw [if_neg same] at split
        cases split

/-- A text is split in three at its last two separators. -/
theorem rsplit_two_append {first second third : PyStr} (middle : separator ∉ second)
    (last : separator ∉ third) :
    rsplit separator 2 (first ++ separator :: (second ++ separator :: third)) =
      [first, second, third] := by
  rw [← List.cons_append, ← List.append_assoc, rsplit, rpartition_append last]
  dsimp only
  rw [rsplit, rpartition_append middle]
  rfl

theorem of_rsplit_two_eq {text first second third : PyStr}
    (split : rsplit separator 2 text = [first, second, third]) :
    text = first ++ separator :: (second ++ separator :: third) ∧
      separator ∉ second ∧ separator ∉ third := by
  rw [rsplit] at split
  cases outer : rpartition separator text with
  | none =>
    rw [outer] at split
    cases split
  | some parts =>
    obtain ⟨before, after⟩ := parts
    rw [outer] at split
    dsimp only at split
    rw [rsplit] at split
    obtain ⟨rfl, last⟩ := of_rpartition_eq_some outer
    cases inner : rpartition separator before with
    | none =>
      rw [inner] at split
      cases split
    | some parts =>
      obtain ⟨head, tail⟩ := parts
      rw [inner] at split
      cases split
      obtain ⟨rfl, middle⟩ := of_rpartition_eq_some inner
      exact ⟨by rw [List.append_assoc, List.cons_append], middle, last⟩

end Splitting

/-! ### Numerals -/

section Numerals

variable {interpreter : Interpreter}

theorem mem_of_intDigits {text : PyStr} {value count : Nat} {read : Nat × Nat}
    (digits : intDigits interpreter value count text = some read) {point : CodePoint}
    (member : point ∈ text) : (intDigit interpreter point).isSome = true ∨ point.val = 95 := by
  fun_induction intDigits interpreter value count text with
  | case1 => cases member
  | case2 _ _ _ _ _ isDigit inductionHypothesis =>
    rcases List.mem_cons.mp member with rfl | later
    · exact .inl (Option.isSome_iff_exists.mpr ⟨_, isDigit⟩)
    · exact inductionHypothesis digits later
  | case4 _ _ _ _ underscore _ _ _ isDigit inductionHypothesis =>
    rcases List.mem_cons.mp member with rfl | later
    · exact .inr underscore
    rcases List.mem_cons.mp later with rfl | later
    · exact .inl (Option.isSome_iff_exists.mpr ⟨_, isDigit⟩)
    · exact inductionHypothesis digits later
  | case3 | case5 | case6 => cases digits

theorem mem_of_intNumeral {text : PyStr} {number : Nat}
    (numeral : intNumeral interpreter text = some number) {point : CodePoint}
    (member : point ∈ text) : (intDigit interpreter point).isSome = true ∨ point.val = 95 := by
  cases text with
  | nil => cases member
  | cons first rest =>
    rw [intNumeral] at numeral
    cases isDigit : intDigit interpreter first with
    | none =>
      rw [isDigit] at numeral
      cases numeral
    | some digit =>
      rw [isDigit] at numeral
      dsimp only at numeral
      cases digits : intDigits interpreter digit 1 rest with
      | none =>
        rw [digits] at numeral
        cases numeral
      | some read =>
        rcases List.mem_cons.mp member with rfl | later
        · exact .inl (Option.isSome_iff_exists.mpr ⟨_, isDigit⟩)
        · exact mem_of_intDigits digits later

/-- What is no blank is not dropped from an end. -/
theorem mem_dropWhile {holds : CodePoint → Bool} {text : PyStr} {point : CodePoint}
    (member : point ∈ text) (stays : holds point = false) : point ∈ text.dropWhile holds := by
  rw [← List.takeWhile_append_dropWhile (p := holds) (l := text)] at member
  rcases List.mem_append.mp member with taken | dropped
  · rw [List.mem_takeWhile_imp taken] at stays
    cases stays
  · exact dropped

def colon : CodePoint := 58

theorem colon_not_mem_of_intNumeral {text : PyStr} {number : Nat}
    (numeral : intNumeral interpreter text = some number) : colon ∉ text := by
  intro member
  rcases mem_of_intNumeral numeral member with isDigit | underscore
  · cases isDigit
  · exact absurd underscore (by decide)

/-- A text with a colon is no number. -/
theorem colon_not_mem_of_intOfText {text : PyStr} {number : Int}
    (isNumber : intOfText interpreter text = some number) : colon ∉ text := by
  intro member
  have stays : intSpace interpreter colon = false := rfl
  have inside : colon ∈ ((text.dropWhile (intSpace interpreter)).reverse.dropWhile
      (intSpace interpreter)).reverse :=
    List.mem_reverse.mpr (mem_dropWhile (List.mem_reverse.mpr (mem_dropWhile member stays)) stays)
  have read : ∀ text, intNumeral interpreter text ≠ none → colon ∉ text := fun text isRead =>
    colon_not_mem_of_intNumeral (Option.ne_none_iff_exists'.mp isRead).choose_spec
  unfold intOfText at isNumber
  dsimp only at isNumber
  generalize ((text.dropWhile (intSpace interpreter)).reverse.dropWhile
    (intSpace interpreter)).reverse = core at isNumber inside
  cases core with
  | nil => cases inside
  | cons first rest =>
    dsimp only at isNumber
    have apart : ∀ sign : CodePoint, sign ≠ colon → first = sign → colon ∈ rest :=
      fun sign differs same => (List.mem_cons.mp inside).resolve_left fun here =>
        differs (same.symm.trans here.symm)
    split at isNumber
    · next minus =>
      refine read rest (fun none => ?_) (apart 45 (by decide) (Fin.ext minus))
      rw [none] at isNumber
      cases isNumber
    · split at isNumber
      · next plus =>
        refine read rest (fun none => ?_) (apart 43 (by decide) (Fin.ext plus))
        rw [none] at isNumber
        cases isNumber
      · refine read (first :: rest) (fun none => ?_) inside
        rw [none] at isNumber
        cases isNumber

end Numerals

/-! ### Trials -/

/-- `f"{number:03d}"`: the sign, then zeros up to a width of three. -/
def paddedText (number : Int) : PyStr :=
  let sign : PyStr := if number < 0 then "-" else ""
  let digits := natText number.natAbs
  sign ++ List.replicate (3 - sign.length - digits.length) 48 ++ digits

/-- The `trial` block of these coordinates. -/
def trialBlock (scenarioId conditionId runId : PyStr) (seed : Option PyStr) (repeatIndex : Int) :
    Entries :=
  [(.str "run_id", .str runId), (.str "scenario_id", .str scenarioId),
    (.str "condition_id", .str conditionId),
    (.str "seed", .str (seed.getD (PyStr.ofString "s" ++ paddedText repeatIndex))),
    (.str "repeat_index", .int repeatIndex)]

/-- `trial_of`. An error is the text of its `TraceBuildError`. -/
def trialOf (interpreter : Interpreter) (trialUnit runId : PyStr) (seed : Option PyStr) :
    Except PyStr Entries :=
  let malformed := PyStr.ofString "malformed trial unit " ++ reprText interpreter trialUnit
  match rsplit colon 2 trialUnit with
  | [scenarioId, conditionId, index] =>
    match intOfText interpreter index with
    | some repeatIndex => .ok (trialBlock scenarioId conditionId runId seed repeatIndex)
    | none => .error malformed
  | _ => .error malformed

/-- The parts a unit is composed of: an arm without a colon, and a repeat that is a number. -/
structure TrialUnit (interpreter : Interpreter) where
  scenario : PyStr
  arm : PyStr
  index : PyStr
  number : Int
  unbroken : colon ∉ arm
  numeral : intOfText interpreter index = some number

section Trials

variable {kernel : Kernel}

/-- `scenario:arm:repeat` -/
def TrialUnit.text {interpreter : Interpreter} (unit : TrialUnit interpreter) : PyStr :=
  unit.scenario ++ colon :: (unit.arm ++ colon :: unit.index)

/-- The trial block of a unit. -/
def TrialUnit.trial {interpreter : Interpreter} (unit : TrialUnit interpreter) (runId : PyStr)
    (seed : Option PyStr) : Entries :=
  trialBlock unit.scenario unit.arm runId seed unit.number

theorem trialOf_text {interpreter : Interpreter} (unit : TrialUnit interpreter) (runId : PyStr)
    (seed : Option PyStr) :
    trialOf interpreter unit.text runId seed = .ok (unit.trial runId seed) := by
  unfold trialOf TrialUnit.text
  rw [rsplit_two_append unit.unbroken (colon_not_mem_of_intOfText unit.numeral)]
  dsimp only
  rw [unit.numeral]
  rfl

/-- `trial_of` takes apart what is composed of three parts, and nothing else. -/
theorem trialOf_eq_ok {interpreter : Interpreter} {trialUnit runId : PyStr} {seed : Option PyStr}
    {trial : Entries} :
    trialOf interpreter trialUnit runId seed = .ok trial ↔
      ∃ unit : TrialUnit interpreter, unit.text = trialUnit ∧ unit.trial runId seed = trial := by
  constructor
  · intro taken
    unfold trialOf at taken
    dsimp only at taken
    split at taken
    case h_1 scenario arm index split =>
      obtain ⟨composed, unbroken, _⟩ := of_rsplit_two_eq split
      cases numeral : intOfText interpreter index with
      | none =>
        rw [numeral] at taken
        cases taken
      | some number =>
        rw [numeral] at taken
        exact ⟨⟨scenario, arm, index, number, unbroken, numeral⟩, composed.symm,
          Except.ok.inj taken⟩
    case h_2 => cases taken
  · rintro ⟨unit, rfl, rfl⟩
    exact trialOf_text unit runId seed

/-! ### Default ids -/

/-- The middle of the id of a unit, in which the scenario and the arm are joined. -/
def TrialUnit.joined {interpreter : Interpreter} (unit : TrialUnit interpreter) : PyStr :=
  unit.scenario ++ PyStr.ofString "_" ++ unit.arm

theorem defaultTraceId_trial (unit : TrialUnit kernel.interpreter) (runId : PyStr)
    (seed : Option PyStr) :
    defaultTraceId kernel (unit.trial runId seed) =
      PyStr.ofString "t_" ++ runId ++ PyStr.ofString "_" ++ unit.joined ++ PyStr.ofString "_" ++
        seed.getD (PyStr.ofString "s" ++ paddedText unit.number) ++
        95 :: 114 :: intText unit.number := by
  have spelled : defaultTraceId kernel (unit.trial runId seed) =
      PyStr.ofString "t_" ++ runId ++ PyStr.ofString "_" ++ unit.scenario ++
        PyStr.ofString "_" ++ unit.arm ++ PyStr.ofString "_" ++
        seed.getD (PyStr.ofString "s" ++ paddedText unit.number) ++ PyStr.ofString "_r" ++
        intText unit.number := rfl
  rw [spelled, TrialUnit.joined]
  simp only [List.append_assoc]
  rfl

/-- Two default ids of a run are the same exactly when the repeats are the same number and the
scenarios and arms come to the same text. -/
theorem defaultTraceId_eq_iff {first second : TrialUnit kernel.interpreter} {runId : PyStr}
    {seed : Option PyStr} :
    defaultTraceId kernel (first.trial runId seed) =
        defaultTraceId kernel (second.trial runId seed) ↔
      first.joined = second.joined ∧ first.number = second.number := by
  constructor
  · intro same
    have last : ∀ number : Int, (95 : CodePoint) ∉ 114 :: intText number := by
      intro number member
      rcases List.mem_cons.mp member with here | later
      · exact absurd here (by decide)
      rcases mem_intText later with minus | digit
      · exact absurd minus (by decide)
      · exact absurd digit.2 (by decide)
    rw [defaultTraceId_trial, defaultTraceId_trial] at same
    have split := congrArg (rpartition 95) same
    rw [rpartition_append (last first.number), rpartition_append (last second.number)] at split
    have parts := Prod.mk.inj (Option.some.inj split)
    have numbers := intText_injective (List.cons.inj parts.2).2
    have before := parts.1
    rw [numbers] at before
    exact ⟨List.append_cancel_left (List.append_cancel_right (List.append_cancel_right before)),
      numbers⟩
  · rintro ⟨joined, number⟩
    rw [defaultTraceId_trial, defaultTraceId_trial, joined, number]

variable {V : Type} {objects : Objects V}

variable (kernel objects) in
/-- `build_trace` gives a trace of this trial this id, where it is given none. -/
def GivesId (trial : Entries) (traceId : PyStr) : Prop :=
  ∃ material document, material.trial = trial ∧ given material.traceId = none ∧
    buildTrace kernel objects material = .ok document ∧ document.traceId = traceId

theorem traceId_of_returned {material : Material V} {document : Document V}
    (returned : buildTrace kernel objects material = .ok document) :
    document.traceId = (given material.traceId).getD (defaultTraceId kernel material.trial) := by
  obtain ⟨_, _, assembled⟩ := assembled_of_returned returned
  obtain ⟨_, _, _, rest⟩ := returns_bind.mp ⟨assembled, rfl⟩
  obtain ⟨_, _, _, last⟩ := returns_bind.mp rest
  obtain ⟨_, _, _, filled⟩ := returns_bind.mp last
  rw [← (returns_pure.mp filled).1]

/-- A session without a call. -/
def idle (V : Type) (trial : Entries) : Material V where
  calls := []
  traceEvents := []
  manifests := []
  enforcement := "on"
  trial := trial

theorem givesId_iff {trial : Entries} {traceId : PyStr} :
    GivesId kernel objects trial traceId ↔ traceId = defaultTraceId kernel trial := by
  constructor
  · rintro ⟨material, document, rfl, none, returned, rfl⟩
    rw [traceId_of_returned returned, none]
    rfl
  · rintro rfl
    exact ⟨idle V trial, _, rfl, rfl, rfl, rfl⟩

/-! ### Siblings -/

variable (kernel objects) in
/-- What is asked of two planned units of a run: each is taken apart into the parts it was composed
of, and the trials of two different ones get two ids. -/
structure ToldApart (runId : PyStr) (seed : Option PyStr) (first second : PyStr) : Prop where
  recovers : ∀ unit : TrialUnit kernel.interpreter, unit.text = first ∨ unit.text = second →
    ∃ trial, trialOf kernel.interpreter unit.text runId seed = .ok trial ∧
      Entries.lookup trial "scenario_id" = some (.str unit.scenario) ∧
      Entries.lookup trial "condition_id" = some (.str unit.arm) ∧
      Entries.lookup trial "repeat_index" = some (.int unit.number)
  apart : first ≠ second → ∀ firstTrial secondTrial,
    trialOf kernel.interpreter first runId seed = .ok firstTrial →
    trialOf kernel.interpreter second runId seed = .ok secondTrial →
    ∀ firstId secondId, GivesId kernel objects firstTrial firstId →
      GivesId kernel objects secondTrial secondId → firstId ≠ secondId

variable (kernel) in
/-- Both units can be taken apart, into the same number of a repeat, and into scenarios and arms
that are the same text once an underscore joins them. -/
def Coincide (first second : PyStr) : Prop :=
  ∃ one other : TrialUnit kernel.interpreter, one.text = first ∧ other.text = second ∧
    one.joined = other.joined ∧ one.number = other.number

theorem recovered (unit : TrialUnit kernel.interpreter) (runId : PyStr) (seed : Option PyStr) :
    ∃ trial, trialOf kernel.interpreter unit.text runId seed = .ok trial ∧
      Entries.lookup trial "scenario_id" = some (.str unit.scenario) ∧
      Entries.lookup trial "condition_id" = some (.str unit.arm) ∧
      Entries.lookup trial "repeat_index" = some (.int unit.number) :=
  ⟨unit.trial runId seed, trialOf_text unit runId seed, rfl, rfl, rfl⟩

/-- **A unit is always taken apart into its own parts, but two units of a run get two ids exactly
when they do not coincide.** They do coincide when an underscore is in the scenario of one and in
the arm of the other, or when one repeat is spelled in two ways. -/
theorem toldApart_iff (kernel : Kernel) (objects : Objects V) (runId : PyStr) (seed : Option PyStr)
    (first second : PyStr) :
    ToldApart kernel objects runId seed first second ↔
      first = second ∨ ¬ Coincide kernel first second := by
  constructor
  · intro told
    refine or_iff_not_imp_left.mpr fun different => ?_
    rintro ⟨one, other, rfl, rfl, joined, number⟩
    exact told.apart different _ _ (trialOf_text one runId seed) (trialOf_text other runId seed)
      _ _ (givesId_iff.mpr rfl) (givesId_iff.mpr rfl) (defaultTraceId_eq_iff.mpr ⟨joined, number⟩)
  · intro condition
    refine ⟨fun unit _ => recovered unit runId seed, ?_⟩
    intro different firstTrial secondTrial takenFirst takenSecond firstId secondId givenFirst
      givenSecond same
    obtain ⟨one, rfl, rfl⟩ := trialOf_eq_ok.mp takenFirst
    obtain ⟨other, rfl, rfl⟩ := trialOf_eq_ok.mp takenSecond
    rw [givesId_iff.mp givenFirst, givesId_iff.mp givenSecond] at same
    obtain ⟨joined, number⟩ := defaultTraceId_eq_iff.mp same
    exact condition.resolve_left different ⟨one, other, rfl, rfl, joined, number⟩

end Trials

/-- Two scenarios and two arms that are the same once joined. -/
theorem toldApart_not_always :
    ¬ ToldApart Kernel.trial (Objects.json Kernel.trial) "r_demo" none "a:b_c:0" "a_b:c:0" := by
  intro told
  exact told.apart (by decide) _ _ rfl rfl _ _ (givesId_iff.mpr rfl) (givesId_iff.mpr rfl) rfl

/-- So do two spellings of a number. -/
example :
    ¬ ToldApart Kernel.trial (Objects.json Kernel.trial) "r_demo" none "x:y:1" "x:y:01" := by
  intro told
  exact told.apart (by decide) _ _ rfl rfl _ _ (givesId_iff.mpr rfl) (givesId_iff.mpr rfl) rfl

end AxorWrap.Trace
