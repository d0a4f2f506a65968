/-
This file models the check of a manifest against the embedded schema: `_check`,
`validate_manifest` and `ensure_valid` (`axor_wrap/manifest.py`), and
`schemas/tool-manifest.schema.json` itself.

Of the keywords that the check knows, those are here that the embedded schema uses. Its one
reference is to another file, and such a reference is skipped.
-/

import AxorWrap.Python.Literal

namespace AxorWrap.Compile

open Python

/-! ### Schemas -/

/-- The type names of a schema. -/
inductive SchemaType
  | object
  | array
  | string
  | number
  | integer
  | boolean
  | null
deriving DecidableEq, Repr

def SchemaType.text : SchemaType → PyStr
  | .object => "object"
  | .array => "array"
  | .string => "string"
  | .number => "number"
  | .integer => "integer"
  | .boolean => "boolean"
  | .null => "null"

/-- The keywords of a schema. It is closed when it has no additional properties. -/
structure Keywords (S : Type) where
  const : Option PyStr := none
  enum : Option (List PyStr) := none
  type : Option SchemaType := none
  required : List PyStr := []
  properties : Option (List (PyStr × S)) := none
  closed : Bool := false
  items : Option S := none

inductive Schema
  | external
  | of (keywords : Keywords Schema)

/-! ### The check -/

/-- `_is_type` -/
def isType : Literal → SchemaType → Bool
  | .dict _, .object => true
  | .list _, .array => true
  | .str _, .string => true
  | .int _, .number | .float _, .number => true
  | .int _, .integer => true
  | .bool _, .boolean => true
  | .null, .null => true
  | _, _ => false

/-- `type(node).__name__` -/
def typeName : Literal → PyStr
  | .null => "NoneType"
  | .bool _ => "bool"
  | .int _ => "int"
  | .float _ => "float"
  | .complex _ _ => "complex"
  | .str _ => "str"
  | .bytes _ => "bytes"
  | .ellipsis => "ellipsis"
  | .list _ => "list"
  | .tuple _ => "tuple"
  | .set _ => "set"
  | .dict _ => "dict"

/-- `node == text` -/
def isText (text : PyStr) : Literal → Bool
  | .str other => other = text
  | _ => false

variable (interpreter : LiteralInterpreter)

def constFaults (node : Literal) (path : PyStr) : Option PyStr → List PyStr
  | none => []
  | some const =>
    if isText const node then []
    else [path ++ PyStr.ofString ": const mismatch: want " ++
      reprText interpreter.toInterpreter const ++ PyStr.ofString " got " ++
      interpreter.reprLiteral node]

def enumFaults (node : Literal) (path : PyStr) : Option (List PyStr) → List PyStr
  | none => []
  | some texts =>
    if texts.any fun text => isText text node then []
    else [path ++ PyStr.ofString ": not in enum " ++
      (Value.list (texts.map .str)).repr interpreter.toInterpreter ++ PyStr.ofString ": " ++
      interpreter.reprLiteral node]

def requiredFaults (entries : LiteralEntries) (path : PyStr) (required : List PyStr) :
    List PyStr :=
  required.filterMap fun key =>
    if (entries.lookup key).isSome then none
    else some (path ++ PyStr.ofString ": missing required '" ++ key ++ PyStr.ofString "'")

/-- The schema of a property, by its key. -/
def propertyOf (properties : List (PyStr × Schema)) : Literal → Option Schema
  | .str key => properties.lookup key
  | _ => none

mutual

/-- `_check`: the errors it appends. -/
def check : Literal → Schema → PyStr → List PyStr
  | _, .external, _ => []
  | node, .of keywords, path =>
    let faults := constFaults interpreter node path keywords.const ++
      enumFaults interpreter node path keywords.enum
    match keywords.type.filter fun type => !isType node type with
    | some type =>
      faults ++ [path ++ PyStr.ofString ": type " ++ type.text ++ PyStr.ofString ", got " ++
        typeName node]
    | none => faults ++
      match node with
      | .dict entries =>
        requiredFaults entries path keywords.required ++
          if keywords.type = some .object ∨ keywords.properties.isSome = true then
            checkEntries entries (keywords.properties.getD []) keywords.closed path
          else []
      | .list items =>
        match keywords.items with
        | some schema => checkItems items schema path 0
        | none => []
      | _ => []

def checkEntries : List (Literal × Literal) → List (PyStr × Schema) → Bool → PyStr → List PyStr
  | [], _, _, _ => []
  | (key, value) :: rest, properties, closed, path =>
    let here :=
      match propertyOf properties key with
      | some schema =>
        check value schema (path ++ PyStr.ofString "." ++ key.toStr interpreter)
      | none =>
        if closed then
          [path ++ PyStr.ofString ": additional property '" ++ key.toStr interpreter ++
            PyStr.ofString "' not allowed"]
        else []
    here ++ checkEntries rest properties closed path

def checkItems : List Literal → Schema → PyStr → Nat → List PyStr
  | [], _, _, _ => []
  | item :: rest, schema, path, index =>
    check item schema (path ++ PyStr.ofString "[" ++ natText index ++ PyStr.ofString "]") ++
      checkItems rest schema path (index + 1)

end

/-! ### The schema of a manifest -/

/-- A schema of a type and nothing else. -/
def Schema.typed (type : SchemaType) : Schema := .of { type := some type }

/-- A list of texts. -/
def Schema.texts : Schema := .of { type := some .array, items := some (.typed .string) }

def Schema.oneOf (texts : List PyStr) : Schema := .of { enum := some texts }

def schemaVersion : PyStr := "tool-manifest/v1"

def resolveSchema : Schema := .of {
  type := some .object
  required := ["when", "class"]
  closed := true
  properties := some [("when", .external), ("class", .oneOf ["READ", "WRITE", "EXPORT", "EXEC"])] }

def effectSchema : Schema := .of {
  type := some .object
  required := ["default_class", "driving_args"]
  closed := true
  properties := some [
    ("default_class", .oneOf ["READ", "WRITE", "EXPORT", "EXEC"]),
    ("driving_args", .texts),
    ("resolve", .of { type := some .array, items := some resolveSchema })] }

def simulationSchema : Schema := .of {
  type := some .object
  closed := true
  properties := some [
    ("supported", .typed .boolean),
    ("adapter", .typed .string),
    ("real_execution", .of {
      type := some .object
      closed := true
      properties := some [
        ("opt_in", .typed .boolean),
        ("requires", .of {
          type := some .array
          items := some (.oneOf
            ["isolated_test_account", "resource_allowlist", "dry_run_confirmed"]) })] })] }

def resetSchema : Schema := .of {
  type := some .object
  closed := true
  properties := some [
    ("strategy", .oneOf ["stateless", "fixture", "snapshot_restore"]),
    ("fixture_ref", .typed .string)] }

/-- `embedded_schema()` -/
def embeddedSchema : Schema := .of {
  type := some .object
  required := ["schema_version", "id", "args_schema", "effect", "side_effecting"]
  closed := true
  properties := some [
    ("schema_version", .of { const := some schemaVersion }),
    ("id", .typed .string),
    ("args_schema", .typed .object),
    ("result_schema", .typed .object),
    ("effect", effectSchema),
    ("untrusted_fields", .texts),
    ("sensitive_fields", .texts),
    ("side_effecting", .typed .boolean),
    ("simulation", simulationSchema),
    ("reset", resetSchema)] }

/-- `validate_manifest` -/
def validateManifest (manifest : Literal) : List PyStr :=
  check interpreter manifest embeddedSchema "$"

/-- A `ManifestValidationError`. -/
structure ManifestValidationError where
  toolId : PyStr
  errors : List PyStr
deriving DecidableEq

/-- `ensure_valid` -/
def ensureValid (manifest : LiteralEntries) : Except ManifestValidationError LiteralEntries :=
  let errors := validateManifest interpreter (.dict manifest)
  if errors.isEmpty then .ok manifest
  else .error ⟨((manifest.lookup "id").getD .null).toStr interpreter, errors⟩

/-! ### What passes the check -/

/-- An object of any entries passes as an object. -/
theorem check_object (entries : LiteralEntries) (path : PyStr) :
    check interpreter (.dict entries) (.typed .object) path = [] := by
  have opened : checkEntries interpreter entries [] false path = [] := by
    induction entries with
    | nil => rw [checkEntries]
    | cons entry rest inductionHypothesis =>
      obtain ⟨key, value⟩ := entry
      have unnamed : propertyOf [] key = none := by
        cases key <;> rfl
      rw [checkEntries, inductionHypothesis, unnamed]
      rfl
  unfold Schema.typed
  rw [check]
  exact opened

/-- An object passes a schema when it has what is required and all it has passes as a property. -/
theorem check_dict {keywords : Keywords Schema} {entries : LiteralEntries} (path : PyStr)
    (plain : keywords.const = none ∧ keywords.enum = none)
    (isObject : keywords.type = some .object)
    (whole : ∀ key ∈ keywords.required, (entries.lookup key).isSome = true)
    (each : ∀ entry ∈ entries, ∃ schema,
      propertyOf (keywords.properties.getD []) entry.1 = some schema ∧
        ∀ path, check interpreter entry.2 schema path = []) :
    check interpreter (.dict entries) (.of keywords) path = [] := by
  have missing : requiredFaults entries path keywords.required = [] :=
    List.filterMap_eq_nil_iff.mpr fun key member => if_pos (whole key member)
  have faultless : checkEntries interpreter entries (keywords.properties.getD []) keywords.closed
      path = [] := by
    clear whole missing
    induction entries with
    | nil => rw [checkEntries]
    | cons entry rest inductionHypothesis =>
      obtain ⟨⟨schema, found, passes⟩, later⟩ := List.forall_mem_cons.mp each
      rw [checkEntries, inductionHypothesis later, found]
      exact List.append_eq_nil_iff.mpr ⟨passes _, rfl⟩
  have typed : keywords.type.filter (fun type => !isType (.dict entries) type) = none := by
    rw [isObject]
    rfl
  rw [check, plain.1, plain.2, typed, missing, faultless]
  exact ite_self _

theorem check_text (text path : PyStr) :
    check interpreter (.str text) (.typed .string) path = [] := rfl

/-- A list of texts passes as one. -/
theorem check_texts (texts : List PyStr) (path : PyStr) :
    check interpreter (.list (texts.map .str)) .texts path = [] := by
  have each : ∀ index,
      checkItems interpreter (texts.map .str) (.typed .string) path index = [] := by
    induction texts with
    | nil =>
      intro index
      rw [List.map_nil, checkItems]
    | cons text rest inductionHypothesis =>
      intro index
      rw [List.map_cons, checkItems, inductionHypothesis, check_text]
      rfl
  unfold Schema.texts
  rw [check]
  exact each 0

end AxorWrap.Compile
