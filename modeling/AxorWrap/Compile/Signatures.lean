/-
This file proves that a scan tells the mandatory parameters of a function from the optional ones
(`_schema_from_function`, `axor_wrap/detect.py`).

The parser keeps no default with its parameter. The defaults of the positional parameters are one
list, which belongs to the last of them; those of the keyword parameters are a list of its own,
with a hole for each parameter that has none. What is proved is that the schema, which counts
from these lists, says of each parameter what the signature says.
-/

import AxorWrap.Compile.Annotations
import AxorWrap.Python.Syntax

namespace AxorWrap.Compile

open Python

/-! ### Signatures as they are parsed -/

/-- The `ast.arg` of a parameter. -/
def argOf (param : Param Expr) : Arg where
  arg := param.arg
  annotation := param.annotation

/-- The `ast.arg` of a variadic parameter. -/
def variadicOf (param : PyStr × Option Expr) : Arg where
  arg := param.1
  annotation := param.2

/-- The positional parameters. -/
def positional (signature : Signature Expr) : List (Param Expr) :=
  signature.posonlyargs ++ signature.args

/-- All parameters but the variadic ones. -/
def parameters (signature : Signature Expr) : List (Param Expr) :=
  positional signature ++ signature.kwonlyargs

/-- The `ast.arguments` of a signature. -/
def argumentsOf (signature : Signature Expr) : Arguments where
  posonlyargs := signature.posonlyargs.map argOf
  args := signature.args.map argOf
  vararg := signature.vararg.map variadicOf
  kwonlyargs := signature.kwonlyargs.map argOf
  kwDefaults := signature.kwonlyargs.map Param.default
  kwarg := signature.kwarg.map variadicOf
  defaults := (positional signature).filterMap Param.default
  fit := by
    rw [List.length_map, List.length_map, ← List.length_append]
    exact List.length_filterMap_le _ _

/-- No positional parameter without a default follows one with a default. -/
def Admissible (signature : Signature Expr) : Prop :=
  (positional signature).Pairwise fun first second =>
    first.default.isSome → second.default.isSome

/-- The parameters that a schema is to publish. -/
def published (signature : Signature Expr) : List (Param Expr) :=
  (parameters signature).filter fun param =>
    param.arg ∉ [PyStr.ofString "self", PyStr.ofString "cls"]

/-- The schema publishes the parameters, and requires those of them that have no default. -/
structure MarksMandatory (signature : Signature Expr) (schema : LiteralEntries) : Prop where
  properties : ∃ properties, schema.lookup "properties" = some (.dict properties) ∧
    properties.map Prod.fst = (published signature).map fun param => .str param.arg
  required : schema.lookup "required" = some (.list
    (((published signature).filter fun param => param.default.isNone).map fun param =>
      .str param.arg))

/-! ### Defaults and their parameters -/

/-- The positional defaults belong to the parameters that have one. -/
theorem drop_eq_filter {params : List (Param Expr)}
    (admissible : params.Pairwise fun first second =>
      first.default.isSome → second.default.isSome) :
    params.drop (params.length - (params.filterMap Param.default).length) =
      params.filter fun param => param.default.isSome := by
  induction admissible with
  | nil => rfl
  | @cons param rest later pairwise inductionHypothesis =>
    cases present : param.default with
    | none =>
      have fewer := List.length_filterMap_le Param.default rest
      rw [List.filterMap_cons_none present, List.length_cons, Nat.succ_sub fewer,
        List.drop_succ_cons, inductionHypothesis, List.filter_cons_of_neg (by simp [present])]
    | some default =>
      have all : ∀ other ∈ param :: rest, other.default.isSome :=
        List.forall_mem_cons.mpr
          ⟨by simp [present], fun other member => later other member (by simp [present])⟩
      have many : ((param :: rest).filterMap Param.default).length = (param :: rest).length :=
        List.filterMap_length_eq_length.mpr all
      rw [many, Nat.sub_self, List.drop_zero, List.filter_eq_self.mpr all]

/-- The keyword defaults belong to the parameters that have one. -/
theorem zip_filterMap (params : List (Param Expr)) :
    (((params.map argOf).zip (params.map Param.default)).filterMap fun pair =>
      pair.2.map fun _ => pair.1.arg) =
      (params.filter fun param => param.default.isSome).map Param.arg := by
  induction params with
  | nil => rfl
  | cons param rest inductionHypothesis =>
    rw [List.map_cons, List.map_cons, List.zip_cons_cons]
    cases present : param.default with
    | none =>
      rw [List.filterMap_cons_none (by simp), inductionHypothesis,
        List.filter_cons_of_neg (by simp [present])]
    | some default =>
      rw [List.filterMap_cons_some (by simp; rfl), inductionHypothesis,
        List.filter_cons_of_pos (by simp [present])]
      rfl

/-- `optional` has the names of the parameters with a default. -/
theorem optionalOf_argumentsOf {signature : Signature Expr} (admissible : Admissible signature) :
    optionalOf (argumentsOf signature) =
      ((parameters signature).filter fun param => param.default.isSome).map Param.arg := by
  have dropped : ((signature.posonlyargs.map argOf ++ signature.args.map argOf).drop
      ((signature.posonlyargs.map argOf).length + (signature.args.map argOf).length -
        ((positional signature).filterMap Param.default).length)).map Arg.arg =
      ((positional signature).filter fun param => param.default.isSome).map Param.arg := by
    rw [← List.length_append, ← List.map_append, List.length_map, ← List.map_drop, List.map_map,
      ← drop_eq_filter admissible]
    rfl
  show _ ++ _ = _
  rw [parameters, List.filter_append, List.map_append]
  exact congrArg₂ (· ++ ·) dropped (zip_filterMap _)

/-! ### Every list of arguments -/

/-- Parameters with their defaults. -/
def withDefaults (params : List Arg) (defaults : List (Option Expr)) : List (Param Expr) :=
  (params.zip defaults).map fun pair =>
    { arg := pair.1.arg, annotation := Arg.annotation pair.1, default := pair.2 }

theorem map_argOf_withDefaults {params : List Arg} {defaults : List (Option Expr)}
    (parallel : params.length = defaults.length) :
    (withDefaults params defaults).map argOf = params := by
  rw [withDefaults, List.map_map]
  exact List.map_fst_zip (Nat.le_of_eq parallel)

theorem map_default_withDefaults {params : List Arg} {defaults : List (Option Expr)}
    (parallel : params.length = defaults.length) :
    (withDefaults params defaults).map Param.default = defaults := by
  rw [withDefaults, List.map_map]
  exact List.map_snd_zip (Nat.le_of_eq parallel.symm)

/-- The defaults of the positional parameters, with a hole for each that has none. -/
def padded (args : Arguments) : List (Option Expr) :=
  List.replicate (args.posonlyargs.length + args.args.length - args.defaults.length) none ++
    args.defaults.map some

theorem length_padded (args : Arguments) :
    (padded args).length = args.posonlyargs.length + args.args.length := by
  rw [padded, List.length_append, List.length_replicate, List.length_map,
    Nat.sub_add_cancel args.fit]

/-- The signature of any `ast.arguments`. -/
def signatureOf (args : Arguments) : Signature Expr where
  posonlyargs := withDefaults args.posonlyargs ((padded args).take args.posonlyargs.length)
  args := withDefaults args.args ((padded args).drop args.posonlyargs.length)
  vararg := args.vararg.map fun param => (param.arg, param.annotation)
  kwonlyargs := withDefaults args.kwonlyargs args.kwDefaults
  kwarg := args.kwarg.map fun param => (param.arg, param.annotation)

theorem map_default_positional (args : Arguments) :
    (positional (signatureOf args)).map Param.default = padded args := by
  have length := length_padded args
  rw [positional, signatureOf, List.map_append, map_default_withDefaults,
    map_default_withDefaults, List.take_append_drop]
  · rw [List.length_drop]
    omega
  · rw [List.length_take]
    omega

theorem filterMap_default_positional (args : Arguments) :
    (positional (signatureOf args)).filterMap Param.default = args.defaults := by
  calc (positional (signatureOf args)).filterMap Param.default
      = (padded args).filterMap id := by
        rw [← map_default_positional, List.filterMap_map, Function.id_comp]
    _ = args.defaults := by
        rw [padded, List.filterMap_append, List.filterMap_replicate_of_none rfl,
          List.filterMap_map, Function.id_comp, List.filterMap_some, List.nil_append]

theorem admissible_signatureOf (args : Arguments) : Admissible (signatureOf args) := by
  have holes : (padded args).Pairwise fun first second => first.isSome → second.isSome := by
    rw [padded, List.pairwise_append, List.pairwise_map]
    refine ⟨List.pairwise_replicate.mpr (.inr id), List.pairwise_of_forall fun _ _ _ => rfl, ?_⟩
    intro hole member _ _ present
    rw [List.eq_of_mem_replicate member] at present
    cases present
  rwa [← map_default_positional, List.pairwise_map] at holes

attribute [ext] Arguments

/-- Whatever `ast.arguments` the parser builds, they are those of a signature, in which no parameter
without a default comes after one that has one. -/
theorem argumentsOf_signatureOf {args : Arguments}
    (parallel : args.kwonlyargs.length = args.kwDefaults.length) :
    Admissible (signatureOf args) ∧ argumentsOf (signatureOf args) = args := by
  refine ⟨admissible_signatureOf args, ?_⟩
  have length := length_padded args
  have variadic (param : Option Arg) :
      (param.map fun param => (param.arg, param.annotation)).map variadicOf = param := by
    cases param with
    | none => rfl
    | some param => rfl
  ext1
  · refine map_argOf_withDefaults ?_
    rw [List.length_take]
    omega
  · refine map_argOf_withDefaults ?_
    rw [List.length_drop]
    omega
  · exact variadic _
  · exact map_argOf_withDefaults parallel
  · exact map_default_withDefaults parallel
  · exact variadic _
  · exact filterMap_default_positional args

/-! ### The schema -/

/-- A property with a new name is the last. -/
theorem setProperty_new {properties : List (PyStr × LiteralEntries)} {name : PyStr}
    {prop : LiteralEntries} (new : name ∉ properties.map Prod.fst) :
    setProperty properties name prop = properties ++ [(name, prop)] := by
  induction properties with
  | nil => rfl
  | cons property rest inductionHypothesis =>
    rw [List.map_cons, List.mem_cons, not_or] at new
    rw [setProperty, if_neg (Ne.symm new.1), inductionHypothesis new.2, List.cons_append]

theorem inferParam_keys {inferred : List (PyStr × LiteralEntries) × PyStr} {param : Arg}
    (new : param.arg ∉ inferred.1.map Prod.fst) :
    (inferParam inferred param).1.map Prod.fst = inferred.1.map Prod.fst ++ [param.arg] := by
  have added (prop : LiteralEntries) : (setProperty inferred.1 param.arg prop).map Prod.fst =
      inferred.1.map Prod.fst ++ [param.arg] := by
    rw [setProperty_new new, List.map_append, List.map_singleton]
  unfold inferParam
  split
  · exact added _
  · exact added _

/-- The loop makes a property of each parameter. -/
theorem foldl_inferParam_keys {params : List Arg}
    {inferred : List (PyStr × LiteralEntries) × PyStr}
    (distinct : (inferred.1.map Prod.fst ++ params.map Arg.arg).Nodup) :
    (params.foldl inferParam inferred).1.map Prod.fst =
      inferred.1.map Prod.fst ++ params.map Arg.arg := by
  induction params generalizing inferred with
  | nil => exact (List.append_nil _).symm
  | cons param rest inductionHypothesis =>
    have new : param.arg ∉ inferred.1.map Prod.fst := by
      intro member
      exact (List.nodup_append.mp distinct).2.2 _ member _ List.mem_cons_self rfl
    have keys := inferParam_keys new
    rw [List.foldl_cons, inductionHypothesis, keys, List.append_assoc]
    · rfl
    · rwa [keys, List.append_assoc]

/-- The schema has all properties, and all names that are not optional. Where there are no
properties there are no such names. -/
theorem schemaFromFunction_eq {args : Arguments}
    (distinct : ((paramsOf args).map Arg.arg).Nodup) :
    ∃ properties : LiteralEntries, (schemaFromFunction args).1 =
      [(.str "type", .str "object"), (.str "properties", .dict properties),
        (.str "required", .list ((((paramsOf args).map Arg.arg).filter
          (· ∉ optionalOf args)).map .str))] ∧
      properties.map Prod.fst = ((paramsOf args).map Arg.arg).map .str := by
  have keys : ((paramsOf args).foldl inferParam ([], confidenceHigh)).1.map Prod.fst =
      (paramsOf args).map Arg.arg := foldl_inferParam_keys distinct
  refine ⟨((paramsOf args).foldl inferParam ([], confidenceHigh)).1.map fun property =>
    (.str property.1, .dict property.2), ?_, ?_⟩
  · show (if _ then _ else _) = _
    split
    · next empty =>
      rw [List.isEmpty_iff] at empty
      rw [← keys, empty]
      rfl
    · rfl
  · rw [← keys, List.map_map, List.map_map]
    rfl

theorem paramsOf_argumentsOf (signature : Signature Expr) :
    paramsOf (argumentsOf signature) = (published signature).map argOf := by
  have all : (argumentsOf signature).posonlyargs ++ (argumentsOf signature).args ++
      (argumentsOf signature).kwonlyargs = (parameters signature).map argOf := by
    rw [parameters, positional, List.map_append, List.map_append]
    rfl
  rw [paramsOf, all, List.filter_map]
  rfl

variable {signature : Signature Expr}

/-- The published names. -/
theorem map_paramsOf : (paramsOf (argumentsOf signature)).map Arg.arg =
    (published signature).map Param.arg := by
  rw [paramsOf_argumentsOf, List.map_map]
  rfl

/-- A parameter is optional if it has a default. -/
theorem mem_optionalOf_iff (admissible : Admissible signature)
    (distinct : ((parameters signature).map Param.arg).Nodup) {param : Param Expr}
    (member : param ∈ parameters signature) :
    param.arg ∈ optionalOf (argumentsOf signature) ↔ param.default.isSome := by
  rw [optionalOf_argumentsOf admissible, List.mem_map]
  constructor
  · rintro ⟨other, optional, same⟩
    obtain ⟨otherMember, present⟩ := List.mem_filter.mp optional
    rwa [← List.inj_on_of_nodup_map distinct otherMember member same]
  · intro present
    exact ⟨param, List.mem_filter.mpr ⟨member, present⟩, rfl⟩

/-- **The keys of the properties are the parameters but `self` and `cls`, and required are, in
the order of the signature, those of them that have no default.** -/
theorem schemaFromFunction_marksMandatory (signature : Signature Expr)
    (admissible : Admissible signature)
    (distinct : ((parameters signature).map Param.arg).Nodup) :
    MarksMandatory signature (schemaFromFunction (argumentsOf signature)).1 := by
  have kept : (published signature).Sublist (parameters signature) := List.filter_sublist
  obtain ⟨properties, same, keys⟩ :=
    schemaFromFunction_eq (map_paramsOf ▸ distinct.sublist (kept.map _))
  have mandatory : ((published signature).map Param.arg).filter
      (· ∉ optionalOf (argumentsOf signature)) =
        ((published signature).filter fun param => param.default.isNone).map Param.arg := by
    rw [List.filter_map]
    refine congrArg _ (List.filter_congr fun param member => ?_)
    have optional := mem_optionalOf_iff admissible distinct (kept.mem member)
    rw [Bool.eq_iff_iff, Function.comp_apply, decide_eq_true_iff, optional]
    simp
  rw [map_paramsOf, mandatory, List.map_map] at same
  rw [map_paramsOf, List.map_map] at keys
  rw [same]
  exact ⟨⟨properties, rfl, keys⟩, rfl⟩

/-- `def search(self, query, /, limit, order=None, *, cursor, strict=None)` -/
def searchSignature : Signature Expr where
  posonlyargs := [{ arg := "self" }, { arg := "query" }]
  args := [{ arg := "limit" }, { arg := "order", default := some .none }]
  kwonlyargs := [{ arg := "cursor" }, { arg := "strict", default := some .none }]

theorem searchSignature_marksMandatory :
    MarksMandatory searchSignature (schemaFromFunction (argumentsOf searchSignature)).1 := by
  refine schemaFromFunction_marksMandatory searchSignature ?_ (by decide)
  unfold Admissible
  decide

end AxorWrap.Compile
