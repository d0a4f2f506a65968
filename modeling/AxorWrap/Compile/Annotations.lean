/-
This file models how a scan infers the types of arguments: `_annotation_type` and
`_schema_from_function` (`axor_wrap/detect.py`).

Of a union it reads one side: the first that is not the constant `None`. That is right of
`str | None`, which is what it was written for. Of `str | int` it publishes a text, with high
confidence. What it infers holds of all the annotation admits exactly if the annotation has no
second type, or has none where it is read.
-/

import AxorWrap.Compile.Schema

namespace AxorWrap.Compile

open Python

/-! ### Annotations -/

/-- An `ast.expr`, as far as an annotation is read. -/
inductive Expr
  | name (id : PyStr)
  /-- The constant `None`. -/
  | none
  | subscript (value slice : Expr)
  /-- `left | right` -/
  | union (left right : Expr)
  | other
deriving DecidableEq, Repr

def hintToJson : List (PyStr × SchemaType) :=
  [("str", .string), ("int", .integer), ("float", .number), ("bool", .boolean)]

def containerHints : List (PyStr × SchemaType) :=
  [("list", .array), ("tuple", .array), ("set", .array), ("dict", .object)]

/-- `_annotation_type` of an annotation that is there. -/
def annotationType : Expr → Option SchemaType
  | .name id => hintToJson.lookup id <|> containerHints.lookup id
  | .subscript (.name base) slice =>
    if base = PyStr.ofString "Optional" then annotationType slice else containerHints.lookup base
  | .union left right =>
    if left ≠ .none then annotationType left
    else if right ≠ .none then annotationType right
    else none
  | _ => none

/-! ### Signatures -/

/-- An `ast.arg` -/
structure Arg where
  arg : PyStr
  annotation : Option Expr := none

/-- The `ast.arguments` of a function. The defaults are those of the last positional parameters. -/
structure Arguments where
  posonlyargs : List Arg := []
  args : List Arg := []
  vararg : Option Arg := none
  kwonlyargs : List Arg := []
  kwDefaults : List (Option Expr) := []
  kwarg : Option Arg := none
  defaults : List Expr := []
  fit : defaults.length ≤ posonlyargs.length + args.length := by decide

def confidenceHigh : PyStr := "high"

def confidenceLow : PyStr := "low"

/-- `params` -/
def paramsOf (args : Arguments) : List Arg :=
  (args.posonlyargs ++ args.args ++ args.kwonlyargs).filter fun param =>
    param.arg ∉ [PyStr.ofString "self", PyStr.ofString "cls"]

/-- `properties[name] = prop` -/
def setProperty : List (PyStr × LiteralEntries) → PyStr → LiteralEntries →
    List (PyStr × LiteralEntries)
  | [], name, prop => [(name, prop)]
  | property :: rest, name, prop =>
    if property.1 = name then (name, prop) :: rest else property :: setProperty rest name prop

/-- One turn of the loop over `params`: `properties`, and `confidence`. -/
def inferParam (inferred : List (PyStr × LiteralEntries) × PyStr) (param : Arg) :
    List (PyStr × LiteralEntries) × PyStr :=
  match param.annotation.bind annotationType with
  | none => (setProperty inferred.1 param.arg [], confidenceLow)
  | some jsonType =>
    (setProperty inferred.1 param.arg [(.str "type", .str jsonType.text)], inferred.2)

/-- `optional` -/
def optionalOf (args : Arguments) : List PyStr :=
  let defaultsStart := args.posonlyargs.length + args.args.length - args.defaults.length
  ((args.posonlyargs ++ args.args).drop defaultsStart).map Arg.arg ++
    (args.kwonlyargs.zip args.kwDefaults).filterMap fun pair => pair.2.map fun _ => pair.1.arg

/-- `_schema_from_function`, of the signature of the function. -/
def schemaFromFunction (args : Arguments) : LiteralEntries × PyStr :=
  let params := paramsOf args
  let (properties, confidence) := params.foldl inferParam ([], confidenceHigh)
  let confidence :=
    if args.vararg.isSome || args.kwarg.isSome then confidenceLow else confidence
  let required := (params.map Arg.arg).filter (· ∉ optionalOf args)
  let schema := if properties.isEmpty then
    [(.str "type", .str "object"), (.str "properties", .dict []), (.str "required", .list [])]
  else
    [(.str "type", .str "object"),
      (.str "properties", .dict (properties.map fun property =>
        (.str property.1, .dict property.2))),
      (.str "required", .list (required.map .str))]
  (schema, confidence)

/-! ### What an annotation admits -/

/-- An alternative that an annotation admits. -/
inductive Alternative
  | none
  | json (type : SchemaType)
  | unknown
deriving DecidableEq, Repr

/-- The alternative of a hint that may be known. -/
def Alternative.ofHint : Option SchemaType → Alternative
  | .none => .unknown
  | .some type => .json type

/-- The alternatives an annotation admits, in the order they are written. -/
def Expr.admits : Expr → List Alternative
  | .name id => [.ofHint (hintToJson.lookup id <|> containerHints.lookup id)]
  | .none => [.none]
  | .subscript (.name base) slice =>
    if base = PyStr.ofString "Optional" then .none :: slice.admits
    else [.ofHint (containerHints.lookup base)]
  | .subscript _ _ => [.unknown]
  | .union left right => left.admits ++ right.admits
  | .other => [.unknown]

/-- Of a parameter without an annotation nothing is known. -/
def admitted : Option Expr → List Alternative
  | none => [.unknown]
  | some expr => expr.admits

/-- All that is admitted, but `None`, is of this type. -/
def AllOf (declared : Option Expr) (type : SchemaType) : Prop :=
  ∀ alternative ∈ admitted declared, alternative ≠ .none → alternative = .json type

/-- The annotation is known, and of a single type. -/
def SingleTyped (declared : Option Expr) : Prop :=
  ∃ type, .json type ∈ admitted declared ∧ AllOf declared type

/-- The type an annotation begins with. A constant `None` before it is passed over. -/
inductive BeginsWith : Expr → SchemaType → Prop
  | hint {id : PyStr} {type : SchemaType}
      (known : (hintToJson.lookup id <|> containerHints.lookup id) = some type) :
      BeginsWith (.name id) type
  | container {base : PyStr} {slice : Expr} {type : SchemaType}
      (known : containerHints.lookup base = some type) :
      BeginsWith (.subscript (.name base) slice) type
  | optional {inner : Expr} {type : SchemaType} (begins : BeginsWith inner type) :
      BeginsWith (.subscript (.name "Optional") inner) type
  | left {left right : Expr} {type : SchemaType} (begins : BeginsWith left type) :
      BeginsWith (.union left right) type
  | right {right : Expr} {type : SchemaType} (begins : BeginsWith right type) :
      BeginsWith (.union .none right) type

/-- There is an annotation, and it begins with a known type. -/
def Typed (declared : Option Expr) : Prop :=
  ∃ expr type, declared = some expr ∧ BeginsWith expr type

/-- `Optional` is no container. -/
theorem lookup_optional : containerHints.lookup (PyStr.ofString "Optional") = none := by decide

theorem optional_ne {base : PyStr} {type : SchemaType}
    (known : containerHints.lookup base = some type) : base ≠ PyStr.ofString "Optional" := by
  rintro rfl
  rw [lookup_optional] at known
  cases known

theorem BeginsWith.ne_none {expr : Expr} {type : SchemaType}
    (begins : BeginsWith expr type) : expr ≠ .none := by
  rintro rfl
  cases begins

theorem BeginsWith.mem_admits {expr : Expr} {type : SchemaType}
    (begins : BeginsWith expr type) : .json type ∈ expr.admits := by
  induction begins with
  | hint known =>
    rw [Expr.admits, known]
    exact List.mem_singleton_self _
  | container known =>
    rw [Expr.admits, if_neg (optional_ne known), known]
    exact List.mem_singleton_self _
  | optional begins inductionHypothesis =>
    rw [Expr.admits, if_pos rfl]
    exact List.mem_cons_of_mem _ inductionHypothesis
  | left begins inductionHypothesis => exact List.mem_append_left _ inductionHypothesis
  | right begins inductionHypothesis => exact List.mem_append_right _ inductionHypothesis

/-- What is admitted has one type at most that is all of it. -/
theorem AllOf.eq {declared : Option Expr} {type other : SchemaType}
    (all : AllOf declared type) (member : .json other ∈ admitted declared) : other = type := by
  have same : Alternative.json other = .json type := all _ member (by rintro ⟨⟩)
  injection same

/-! ### What is inferred of it -/

/-- The inference reads the type the annotation begins with. -/
theorem annotationType_eq_some_iff {expr : Expr} {type : SchemaType} :
    annotationType expr = some type ↔ BeginsWith expr type := by
  constructor
  · intro inferred
    fun_induction annotationType expr with
    | case1 id => exact .hint inferred
    | case2 slice inductionHypothesis => exact .optional (inductionHypothesis inferred)
    | case3 base slice other => exact .container inferred
    | case4 left right present inductionHypothesis => exact .left (inductionHypothesis inferred)
    | case5 left right absent present inductionHypothesis =>
      rw [not_not.mp absent]
      exact .right (inductionHypothesis inferred)
    | case6 left right absent neither => cases inferred
    | case7 expr unnamed subscripted joined => cases inferred
  · intro begins
    induction begins with
    | hint known => exact known
    | container known => rw [annotationType, if_neg (optional_ne known), known]
    | optional begins inductionHypothesis => rw [annotationType, if_pos rfl, inductionHypothesis]
    | left begins inductionHypothesis =>
      rw [annotationType, if_pos begins.ne_none, inductionHypothesis]
    | right begins inductionHypothesis =>
      rw [annotationType, if_neg (not_not.mpr rfl), if_pos begins.ne_none, inductionHypothesis]

theorem typed_iff {declared : Option Expr} :
    Typed declared ↔ ∃ type, declared.bind annotationType = some type := by
  simp only [Typed, Option.bind_eq_some_iff, annotationType_eq_some_iff]
  tauto

/-- A type that is inferred is among what is admitted. -/
theorem mem_admitted {declared : Option Expr} {type : SchemaType}
    (inferred : declared.bind annotationType = some type) :
    .json type ∈ admitted declared := by
  obtain ⟨expr, rfl, begins⟩ := Option.bind_eq_some_iff.mp inferred
  exact (annotationType_eq_some_iff.mp begins).mem_admits

/-- The type that is inferred, if any, is all that the annotation admits. -/
def NeverInvents (declared : Option Expr) : Prop :=
  ∀ type, declared.bind annotationType = some type → AllOf declared type

theorem neverInvents_iff {declared : Option Expr} :
    NeverInvents declared ↔ (Typed declared → SingleTyped declared) := by
  rw [typed_iff]
  constructor
  · rintro honest ⟨type, inferred⟩
    exact ⟨type, mem_admitted inferred, honest type inferred⟩
  · intro single type inferred
    obtain ⟨other, member, all⟩ := single ⟨type, inferred⟩
    rw [all.eq (mem_admitted inferred)]
    exact all

/-! ### What is published -/

/-- The signature has `*args` or `**kwargs`. -/
def Open (args : Arguments) : Prop := args.vararg ≠ none ∨ args.kwarg ≠ none

theorem low_ne_high : confidenceLow ≠ confidenceHigh := by decide

/-- One turn keeps the confidence if the annotation has a type. -/
theorem inferParam_high_iff {inferred : List (PyStr × LiteralEntries) × PyStr} {param : Arg} :
    (inferParam inferred param).2 = confidenceHigh ↔
      inferred.2 = confidenceHigh ∧ Typed param.annotation := by
  rw [typed_iff]
  unfold inferParam
  cases param.annotation.bind annotationType with
  | none =>
    refine iff_of_false low_ne_high ?_
    rintro ⟨_, _, ⟨⟩⟩
  | some type => exact (and_iff_left ⟨type, rfl⟩).symm

/-- The loop ends with high confidence if every annotation has a type. -/
theorem foldl_inferParam_high_iff {params : List Arg}
    {inferred : List (PyStr × LiteralEntries) × PyStr} :
    (params.foldl inferParam inferred).2 = confidenceHigh ↔
      inferred.2 = confidenceHigh ∧ ∀ param ∈ params, Typed param.annotation := by
  induction params generalizing inferred with
  | nil => simp
  | cons param rest inductionHypothesis =>
    rw [List.foldl_cons, inductionHypothesis, inferParam_high_iff, List.forall_mem_cons, and_assoc]

theorem confident_iff {args : Arguments} :
    (schemaFromFunction args).2 = confidenceHigh ↔
      ¬ Open args ∧ ∀ param ∈ paramsOf args, Typed param.annotation := by
  have stars : (args.vararg.isSome || args.kwarg.isSome) = true ↔ Open args := by
    rw [Bool.or_eq_true, Option.isSome_iff_ne_none, Option.isSome_iff_ne_none, Open]
  show (if args.vararg.isSome || args.kwarg.isSome then confidenceLow
    else ((paramsOf args).foldl inferParam ([], confidenceHigh)).2) = confidenceHigh ↔ _
  by_cases escapes : Open args
  · rw [if_pos (stars.mpr escapes)]
    exact iff_of_false low_ne_high fun sure => sure.1 escapes
  · rw [if_neg (mt stars.mp escapes), foldl_inferParam_high_iff]
    exact and_congr_left fun _ => iff_of_true rfl escapes

/-- High confidence is reported only if the parameter list is not open, and every parameter that
is published is known and of a single type. -/
def HonestConfidence (args : Arguments) : Prop :=
  (schemaFromFunction args).2 = confidenceHigh →
    ¬ Open args ∧ ∀ param ∈ paramsOf args, SingleTyped param.annotation

/-- **What is inferred of an annotation is all that it admits, and what is published with high
confidence is known and of a single type, unless an annotation begins with one known type and
admits another.** -/
theorem honest_iff (declared : Option Expr) (args : Arguments) :
    (NeverInvents declared ↔ ¬ Typed declared ∨ SingleTyped declared) ∧
    (HonestConfidence args ↔
      Open args ∨ (∃ param ∈ paramsOf args, ¬ Typed param.annotation) ∨
        ∀ param ∈ paramsOf args, SingleTyped param.annotation) := by
  refine ⟨neverInvents_iff.trans imp_iff_not_or, ?_⟩
  unfold HonestConfidence
  rw [confident_iff]
  constructor
  · intro honest
    by_cases escapes : Open args
    · exact .inl escapes
    · by_cases typed : ∀ param ∈ paramsOf args, Typed param.annotation
      · exact .inr (.inr (honest ⟨escapes, typed⟩).2)
      · push Not at typed
        exact .inr (.inl typed)
  · rintro cases ⟨closed, typed⟩
    refine ⟨closed, ?_⟩
    rcases cases with escapes | ⟨param, member, untyped⟩ | single
    · exact absurd escapes closed
    · exact absurd (typed param member) untyped
    · exact single

/-- `str | int` -/
def textOrNumber : Expr := .union (.name "str") (.name "int")

/-- Of `str | int` a text is published, with high confidence. -/
theorem text_invented :
    ¬ NeverInvents (some textOrNumber) ∧
      ¬ HonestConfidence { args := [{ arg := "amount", annotation := some textOrNumber }] } := by
  have number : Alternative.json .integer ∈ admitted (some textOrNumber) := by decide
  constructor
  · intro honest
    have same := (honest .string (by decide)).eq number
    cases same
  · intro honest
    obtain ⟨_, single⟩ := honest (by decide)
    obtain ⟨type, _, all⟩ := single _ (List.mem_singleton_self _)
    have first : SchemaType.string = type := all.eq (by decide)
    have second : SchemaType.integer = type := all.eq number
    rw [← first] at second
    cases second

end AxorWrap.Compile
