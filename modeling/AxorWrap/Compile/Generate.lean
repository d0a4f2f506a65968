/-
This file models the manifests that the package makes: `build_manifest` and `harness_manifest`
(`axor_wrap/manifest.py`), with what the compilation and the trace read of them.

An `args_schema` may hold literals that JSON does not have. The readers of a manifest never ask
for it.
-/

import AxorWrap.Compile.Roles
import AxorWrap.Compile.Schema

namespace AxorWrap.Compile

open Python Checks

/-! ### Building -/

/-- `EFFECT_CLASSES` -/
def effectClasses : List PyStr := ["READ", "WRITE", "EXPORT", "EXEC"]

def unknownFallback : PyStr := "EXEC"

/-- A list of texts. -/
def textList (texts : List PyStr) : Literal := .list (texts.map .str)

/-- `{"type": "object"}` -/
def anyObject : LiteralEntries := [(.str "type", .str "object")]

/-- The schema of the arguments, which also carries the description of the tool. -/
def describedSchema (tool : DetectedTool) : LiteralEntries :=
  let argsSchema := if tool.argsSchema.isEmpty then anyObject else tool.argsSchema
  if !tool.description.isEmpty && (argsSchema.lookup "description").isNone then
    argsSchema ++ [(.str "description", .str tool.description)]
  else argsSchema

/-- The fields that every manifest has, in order. -/
def commonFields (id : PyStr) (argsSchema : LiteralEntries) (defaultClass : PyStr)
    (drivingArgs : List PyStr) : LiteralEntries := [
  (.str "schema_version", .str schemaVersion),
  (.str "id", .str id),
  (.str "args_schema", .dict argsSchema),
  (.str "effect", .dict [
    (.str "default_class", .str defaultClass),
    (.str "driving_args", textList drivingArgs)]),
  (.str "side_effecting", .bool (defaultClass ≠ PyStr.ofString "READ"))]

/-- The class that a guess is declared as. -/
def declaredClass (effect : EffectGuess) : PyStr :=
  if effect.defaultClass.text ∈ effectClasses then effect.defaultClass.text else unknownFallback

/-- `build_manifest` -/
def buildManifest (tool : DetectedTool) (effect : EffectGuess) : LiteralEntries :=
  commonFields tool.id (describedSchema tool) (declaredClass effect) effect.drivingArgs ++
    if effect.untrustedFields.isEmpty then []
    else [(.str "untrusted_fields", textList effect.untrustedFields)]

/-- `harness_manifest` -/
def harnessManifest (interpreter : LiteralInterpreter) (toolId effectClass : PyStr)
    (drivingArgs : List PyStr) (untrusted sensitive : Bool) (argsSchema : Option LiteralEntries) :
    Except ManifestValidationError LiteralEntries :=
  if effectClass ∉ effectClasses then
    .error ⟨toolId, [PyStr.ofString "effect_class must be one of " ++
      (Value.list ((sorted effectClasses).map .str)).repr interpreter.toInterpreter]⟩
  else
    let given := argsSchema.getD []
    ensureValid interpreter
      (commonFields toolId (if given.isEmpty then anyObject else given) effectClass drivingArgs ++
        ((if untrusted then [(.str "untrusted_fields", textList ["result"])] else []) ++
          if sensitive then [(.str "sensitive_fields", textList ["result"])] else []))

/-! ### The parts of a manifest -/

/-- What goes into a manifest, however it is made. -/
structure ManifestParts where
  id : PyStr
  argsSchema : LiteralEntries
  defaultClass : PyStr
  drivingArgs : List PyStr
  untrusted : List PyStr := []
  sensitive : List PyStr := []

/-- A list of field paths, if there are any. -/
def declaredPaths (key : PyStr) (paths : List PyStr) : LiteralEntries :=
  if paths.isEmpty then [] else [(.str key, textList paths)]

def ManifestParts.manifest (parts : ManifestParts) : LiteralEntries :=
  commonFields parts.id parts.argsSchema parts.defaultClass parts.drivingArgs ++
    (declaredPaths "untrusted_fields" parts.untrusted ++
      declaredPaths "sensitive_fields" parts.sensitive)

/-- The parts of what is built of a tool. -/
def builtParts (tool : DetectedTool) (effect : EffectGuess) : ManifestParts where
  id := tool.id
  argsSchema := describedSchema tool
  defaultClass := declaredClass effect
  drivingArgs := effect.drivingArgs
  untrusted := effect.untrustedFields

theorem buildManifest_eq (tool : DetectedTool) (effect : EffectGuess) :
    buildManifest tool effect = (builtParts tool effect).manifest := by
  rw [ManifestParts.manifest, buildManifest, declaredPaths, declaredPaths]
  exact congrArg _ (List.append_nil _).symm

/-- The parts of what is made for a bare callable. -/
def harnessParts (toolId effectClass : PyStr) (drivingArgs : List PyStr)
    (untrusted sensitive : Bool) (argsSchema : Option LiteralEntries) : ManifestParts where
  id := toolId
  argsSchema := if (argsSchema.getD []).isEmpty then anyObject else argsSchema.getD []
  defaultClass := effectClass
  drivingArgs := drivingArgs
  untrusted := if untrusted then ["result"] else []
  sensitive := if sensitive then ["result"] else []

/-! ### What is made is valid -/

variable {interpreter : LiteralInterpreter}

theorem check_effect {defaultClass : PyStr} (known : defaultClass ∈ effectClasses)
    (drivingArgs : List PyStr) (path : PyStr) :
    check interpreter (.dict [(.str "default_class", .str defaultClass),
      (.str "driving_args", textList drivingArgs)]) effectSchema path = [] := by
  have named : ∀ path, check interpreter (.str defaultClass) (.oneOf effectClasses) path = [] := by
    intro path
    have among : (effectClasses.any fun text => isText text (.str defaultClass)) = true :=
      List.any_eq_true.mpr ⟨defaultClass, known, decide_eq_true rfl⟩
    show enumFaults interpreter _ path (some effectClasses) ++ [] = []
    rw [enumFaults, if_pos among]
    rfl
  refine check_dict interpreter path ⟨rfl, rfl⟩ rfl ?_ ?_
  · exact List.forall_mem_cons.mpr ⟨rfl, List.forall_mem_singleton.mpr rfl⟩
  · refine List.forall_mem_cons.mpr ⟨⟨_, rfl, named⟩, List.forall_mem_singleton.mpr ⟨_, rfl, ?_⟩⟩
    exact check_texts interpreter drivingArgs

theorem mem_declaredPaths {key : PyStr} {paths : List PyStr} {field : Literal × Literal}
    (member : field ∈ declaredPaths key paths) : field = (.str key, textList paths) := by
  unfold declaredPaths at member
  split at member
  · cases member
  · exact List.mem_singleton.mp member

/-- A manifest of a known class passes the check. -/
theorem validateManifest_parts {parts : ManifestParts}
    (known : parts.defaultClass ∈ effectClasses) :
    validateManifest interpreter (.dict parts.manifest) = [] := by
  refine check_dict interpreter "$" ⟨rfl, rfl⟩ rfl ?_ ?_
  · simp only [List.forall_mem_cons]
    exact ⟨rfl, rfl, rfl, rfl, rfl, List.forall_mem_nil _⟩
  unfold ManifestParts.manifest
  simp only [List.forall_mem_append]
  refine ⟨?_, fun field member => ?_, fun field member => ?_⟩
  · simp only [commonFields, List.forall_mem_cons]
    exact ⟨⟨_, rfl, fun _ => rfl⟩, ⟨_, rfl, fun _ => rfl⟩,
      ⟨_, rfl, check_object interpreter parts.argsSchema⟩,
      ⟨_, rfl, check_effect known parts.drivingArgs⟩,
      ⟨_, rfl, fun _ => rfl⟩, List.forall_mem_nil _⟩
  · rw [mem_declaredPaths member]
    exact ⟨.texts, rfl, check_texts interpreter parts.untrusted⟩
  · rw [mem_declaredPaths member]
    exact ⟨.texts, rfl, check_texts interpreter parts.sensitive⟩

theorem ensureValid_parts {parts : ManifestParts} (known : parts.defaultClass ∈ effectClasses) :
    ensureValid interpreter parts.manifest = .ok parts.manifest := by
  unfold ensureValid
  rw [validateManifest_parts known]
  rfl

theorem declaredClass_mem (effect : EffectGuess) : declaredClass effect ∈ effectClasses := by
  unfold declaredClass
  split
  · next declared => exact declared
  · decide

/-- What is built of a tool passes the check. -/
theorem ensureValid_buildManifest (tool : DetectedTool) (effect : EffectGuess) :
    ensureValid interpreter (buildManifest tool effect) = .ok (buildManifest tool effect) := by
  rw [buildManifest_eq]
  exact ensureValid_parts (declaredClass_mem effect)

/-- A manifest for a bare callable is made exactly when its class is known. -/
theorem harnessManifest_eq_ok {toolId effectClass : PyStr} {drivingArgs : List PyStr}
    {untrusted sensitive : Bool} {argsSchema : Option LiteralEntries} {manifest : LiteralEntries} :
    harnessManifest interpreter toolId effectClass drivingArgs untrusted sensitive argsSchema =
        .ok manifest ↔
      effectClass ∈ effectClasses ∧
        (harnessParts toolId effectClass drivingArgs untrusted sensitive argsSchema).manifest =
          manifest := by
  unfold harnessManifest
  by_cases known : effectClass ∈ effectClasses
  · have made : (harnessParts toolId effectClass drivingArgs untrusted sensitive
        argsSchema).manifest =
        commonFields toolId (if (argsSchema.getD []).isEmpty then anyObject else argsSchema.getD [])
            effectClass drivingArgs ++
          ((if untrusted then [(.str "untrusted_fields", textList ["result"])] else []) ++
            if sensitive then [(.str "sensitive_fields", textList ["result"])] else []) := by
      cases untrusted <;> cases sensitive <;> rfl
    rw [if_neg (not_not_intro known)]
    dsimp only
    rw [← made, ensureValid_parts known, Except.ok.injEq]
    exact (and_iff_right known).symm
  · rw [if_pos known]
    exact ⟨fun same => (nomatch same), fun ⟨member, _⟩ => absurd member known⟩

/-! ### What is read of a manifest -/

/-- A field of a manifest, if JSON has it. -/
def jsonField : Literal × Literal → Option (Key × Value)
  | (.str key, value) => value.toValue.map fun value => (.str key, value)
  | _ => none

/-- The fields of a manifest that JSON has. -/
def fieldsOf (manifest : LiteralEntries) : Entries := manifest.filterMap jsonField

theorem toValues_texts (texts : List PyStr) :
    Literal.toValues (texts.map .str) = some (texts.map .str) := by
  induction texts with
  | nil => rfl
  | cons text rest inductionHypothesis =>
    rw [List.map_cons, Literal.toValues, inductionHypothesis]
    rfl

theorem toValue_textList (texts : List PyStr) :
    (textList texts).toValue = some (.list (texts.map .str)) := by
  rw [textList, Literal.toValue, toValues_texts]
  rfl

theorem fieldsOf_declaredPaths (key : PyStr) (paths : List PyStr) :
    fieldsOf (declaredPaths key paths) =
      if paths.isEmpty then [] else [(.str key, .list (paths.map .str))] := by
  unfold declaredPaths fieldsOf
  split
  · rfl
  · rw [List.filterMap_cons, jsonField, toValue_textList]
    rfl

/-- The `effect` of a manifest. -/
def ManifestParts.effect (parts : ManifestParts) : Value :=
  .dict [
    (.str "default_class", .str parts.defaultClass),
    (.str "driving_args", .list (parts.drivingArgs.map .str))]

/-- A reader of anything but the `args_schema` finds it in these fields. -/
theorem lookup_fieldsOf (parts : ManifestParts) {key : PyStr}
    (other : PyStr.ofString "args_schema" ≠ key) :
    Entries.lookup (fieldsOf parts.manifest) key =
      Entries.lookup ([
        (.str "schema_version", .str schemaVersion),
        (.str "id", .str parts.id),
        (.str "effect", parts.effect),
        (.str "side_effecting", .bool (parts.defaultClass ≠ PyStr.ofString "READ"))] ++
        (fieldsOf (declaredPaths "untrusted_fields" parts.untrusted) ++
          fieldsOf (declaredPaths "sensitive_fields" parts.sensitive))) key := by
  have effect : Literal.toValue (.dict [
      (.str "default_class", .str parts.defaultClass),
      (.str "driving_args", textList parts.drivingArgs)]) = some parts.effect := by
    simp only [Literal.toValue, Literal.toEntries, toValue_textList]
    rfl
  have skipped : ∀ value rest,
      Entries.lookup ((.str "args_schema", value) :: rest) key = Entries.lookup rest key := by
    intro value rest
    rw [Entries.lookup_cons, Key.eq_str, if_neg (by simpa using other)]
  have passes : ∀ entry {rest others : Entries},
      Entries.lookup rest key = Entries.lookup others key →
      Entries.lookup (entry :: rest) key = Entries.lookup (entry :: others) key := by
    intro entry rest others same
    rw [Entries.lookup_cons, Entries.lookup_cons, same]
  unfold ManifestParts.manifest fieldsOf commonFields
  rw [List.filterMap_append, List.filterMap_append]
  simp only [List.filterMap_cons, jsonField, effect]
  refine passes _ (passes _ ?_)
  cases Literal.toValue (.dict parts.argsSchema) with
  | none => rfl
  | some value => exact skipped _ _

theorem lookup_id (parts : ManifestParts) :
    Entries.lookup (fieldsOf parts.manifest) "id" = some (.str parts.id) :=
  lookup_fieldsOf parts (by decide)

theorem lookup_effect (parts : ManifestParts) :
    Entries.lookup (fieldsOf parts.manifest) "effect" = some parts.effect :=
  lookup_fieldsOf parts (by decide)

/-- The paths that a manifest is read to declare. -/
def readPaths (paths : List PyStr) : Value := .list (paths.map .str)

theorem lookup_untrusted (parts : ManifestParts) :
    (Entries.lookup (fieldsOf parts.manifest) "untrusted_fields").getD (.list []) =
      readPaths parts.untrusted := by
  rw [lookup_fieldsOf parts (by decide), fieldsOf_declaredPaths, fieldsOf_declaredPaths]
  cases parts.untrusted with
  | nil => cases parts.sensitive <;> rfl
  | cons => rfl

theorem lookup_sensitive (parts : ManifestParts) :
    (Entries.lookup (fieldsOf parts.manifest) "sensitive_fields").getD (.list []) =
      readPaths parts.sensitive := by
  rw [lookup_fieldsOf parts (by decide), fieldsOf_declaredPaths, fieldsOf_declaredPaths]
  cases parts.untrusted <;> cases parts.sensitive <;> rfl

theorem isSensitive_parts (parts : ManifestParts) :
    (entryOr (fieldsOf parts.manifest) "sensitive_fields" .null).truthy =
      !parts.sensitive.isEmpty := by
  rw [entryOr, lookup_fieldsOf parts (by decide), fieldsOf_declaredPaths, fieldsOf_declaredPaths]
  cases parts.untrusted <;> cases parts.sensitive <;> rfl

theorem map_toStr_texts (interpreter : Interpreter) (texts : List PyStr) :
    (texts.map Value.str).map (Value.toStr interpreter) = texts := by
  rw [List.map_map]
  exact List.map_id texts

/-- What the compilation reads of a manifest is what went into it. -/
theorem readManifest_parts (unicode : Unicode) (parts : ManifestParts) :
    readManifest unicode (fieldsOf parts.manifest) = .ok {
      toolId := parts.id
      isEgress := parts.defaultClass ∈ egressClasses
      untrustedFields := parts.untrusted
      isSensitive := !parts.sensitive.isEmpty
      drivingArgs := parts.drivingArgs } := by
  have effect : orEmpty (entryOr (fieldsOf parts.manifest) "effect" (.dict [])) = parts.effect := by
    rw [entryOr, lookup_effect]
    rfl
  have untrusted : entryOr (fieldsOf parts.manifest) "untrusted_fields" (.list []) =
      readPaths parts.untrusted := lookup_untrusted parts
  have named : entryOr (fieldsOf parts.manifest) "id" .null = .str parts.id := by
    rw [entryOr, lookup_id]
    rfl
  unfold readManifest
  rw [effect, untrusted, named, isSensitive_parts]
  show Except.ok (ToolFacts.mk parts.id ([parts.defaultClass].any fun name => name ∈ egressClasses)
    ((parts.untrusted.map .str).map (Value.toStr unicode.toInterpreter)) _
    ((parts.drivingArgs.map .str).map (Value.toStr unicode.toInterpreter))) = _
  rw [map_toStr_texts, map_toStr_texts, List.any_cons, List.any_nil, Bool.or_false]

end AxorWrap.Compile
