/-
This file models the scan of a module: `_scan_module` and what it calls
(`axor_wrap/detect.py`).

A scan goes through the syntax tree twice. The first walk collects what names stand for, the
second makes a tool of each node that one of the detectors knows. A detector that does not know a
node is silent; only an `input_schema` that is no literal of a `dict` may raise.
-/

import AxorWrap.Compile.Roles
import AxorWrap.Compile.Signatures
import AxorWrap.Trace.Trials

namespace AxorWrap.Compile

open Python

/-- What a scan takes from the interpreter and its standard library. -/
structure Scanner extends Interpreter where
  /-- `ast.literal_eval` -/
  literalEval : Node → Except PyError Literal
  /-- `inspect.cleandoc` -/
  cleandoc : PyStr → PyStr

/-- A scanner for trials: it evaluates nothing. -/
def Scanner.trial : Scanner where
  isPrintable _ := false
  isSpace _ := false
  decimal _ := none
  floatText _ := []
  literalEval _ := .error .valueError
  cleandoc text := text

def frameworkLangchain : PyStr := "langchain"

def frameworkMcp : PyStr := "mcp"

def frameworkAnthropic : PyStr := "anthropic"

def frameworkImplicit : PyStr := "implicit"

def langchainToolModules : List PyStr :=
  ["langchain_core.tools", "langchain.tools", "langchain.agents"]

def subprocessFuncs : List PyStr := ["run", "Popen", "call", "check_call", "check_output"]

def mcpDefaultObjects : List PyStr := ["mcp", "server", "app"]

/-! ### What is read of a node -/

/-- What `_annotation_type` reads of a node. -/
def exprOf : Node → Expr
  | .name id => .name id
  | .constant .null => .none
  | .subscript value slice => .subscript (exprOf value) (exprOf slice)
  | .bitOr left right => .union (exprOf left) (exprOf right)
  | _ => .other

/-- The text of a node that is a constant text. -/
def constantText : Node → Option PyStr
  | .constant (.str text) => some text
  | _ => none

/-- `_schema_from_function` -/
def schemaOf (fn : FunctionDef Node) : LiteralEntries × PyStr :=
  schemaFromFunction (argumentsOf (fn.signature.map exprOf))

/-- `_kwarg` -/
def kwarg (call : Call Node) (name : PyStr) : Option Node :=
  call.keywords.findSome? fun keyword => if keyword.1 = some name then some keyword.2 else none

/-- `_kwarg_str` -/
def kwargStr (call : Call Node) (name : PyStr) : Option PyStr :=
  (kwarg call name).bind constantText

/-- A point at which `str.splitlines` ends a line. -/
def endsLine (point : CodePoint) : Bool :=
  [10, 11, 12, 13, 28, 29, 30, 0x85, 0x2028, 0x2029].contains point.val

/-- `text.splitlines()`, after a line was begun. Of `\r\n` the second ends the line. -/
def splitLines (line : PyStr) : PyStr → List PyStr
  | [] => if line.isEmpty then [] else [line]
  | point :: rest =>
    if point.val = 13 ∧ rest.head?.map Fin.val = some 10 then splitLines line rest
    else if endsLine point then line :: splitLines [] rest
    else splitLines (line ++ [point]) rest

/-- `f"{rel}:{lineno} {kind}"` -/
def located (rel : PyStr) (lineno : Nat) (kind : PyStr) : PyStr :=
  rel ++ PyStr.ofString ":" ++ natText lineno ++ PyStr.ofString " " ++ kind

/-! ### Names -/

/-- `_ModuleContext` -/
structure ModuleContext where
  toolDecorators : List PyStr := []
  structuredToolNames : List PyStr := []
  toolClassNames : List PyStr := []
  mcpObjects : List PyStr := mcpDefaultObjects
  subprocessAliases : List PyStr := []
  functions : List (PyStr × FunctionDef Node) := []

/-- `alias.asname or alias.name` -/
def boundName (imported : Alias) : PyStr :=
  match imported.asname with
  | some asname => if asname.isEmpty then imported.name else asname
  | none => imported.name

/-- What is imported from a module of langchain. -/
def importTool (ctx : ModuleContext) (imported : Alias) : ModuleContext :=
  if imported.name = PyStr.ofString "tool" then
    { ctx with toolDecorators := boundName imported :: ctx.toolDecorators }
  else if imported.name = PyStr.ofString "StructuredTool" then
    { ctx with structuredToolNames := boundName imported :: ctx.structuredToolNames }
  else if imported.name = PyStr.ofString "Tool" then
    { ctx with toolClassNames := boundName imported :: ctx.toolClassNames }
  else ctx

/-- What is imported from `subprocess`. -/
def importSubprocess (ctx : ModuleContext) (imported : Alias) : ModuleContext :=
  if imported.name ∈ subprocessFuncs then
    { ctx with subprocessAliases := boundName imported :: ctx.subprocessAliases }
  else ctx

/-- The module is one whose tools are known. -/
def isLangchain (module : PyStr) : Bool :=
  langchainToolModules.contains module || module.startsWith "langchain"

/-- The name a constructor is called by. -/
def constructorName : Node → PyStr
  | .name id => id
  | .attribute _ attr => attr
  | _ => []

/-- The name of a target that is a name. -/
def targetName : Node → Option PyStr
  | .name id => some id
  | _ => none

/-- `functions.setdefault(fn.name, fn)` -/
def setDefault (functions : List (PyStr × FunctionDef Node)) (fn : FunctionDef Node) :
    List (PyStr × FunctionDef Node) :=
  if (functions.lookup fn.name).isSome then functions else functions ++ [(fn.name, fn)]

/-- What is imported from a module that has a name. -/
def collectImport (ctx : ModuleContext) (module : PyStr) (names : List Alias) : ModuleContext :=
  if module.isEmpty then ctx
  else if isLangchain module then names.foldl importTool ctx
  else if module = PyStr.ofString "subprocess" then names.foldl importSubprocess ctx
  else ctx

/-- The names that are bound to what `FastMCP` makes. -/
def collectMade (ctx : ModuleContext) (targets : List Node) (made : Call Node) : ModuleContext :=
  if constructorName made.func = PyStr.ofString "FastMCP" then
    { ctx with mcpObjects := targets.filterMap targetName ++ ctx.mcpObjects }
  else ctx

/-- One turn of the loop of `_ModuleContext.collect`. -/
def collectNode (ctx : ModuleContext) : Node → ModuleContext
  | .importFrom (some module) names => collectImport ctx module names
  | .assign targets (.call made) => collectMade ctx targets made
  | .functionDef fn => { ctx with functions := setDefault ctx.functions fn }
  | _ => ctx

/-- `_ModuleContext.collect` -/
def collect (tree : Node) : ModuleContext :=
  let ctx := tree.walk.foldl collectNode {}
  { ctx with structuredToolNames := PyStr.ofString "StructuredTool" :: ctx.structuredToolNames }

/-! ### Detectors -/

section Detectors

variable (scanner : Scanner) (ctx : ModuleContext) (rel : PyStr)

/-- `ast.get_docstring` -/
def docstring (fn : FunctionDef Node) : Option PyStr :=
  match fn.body.head? with
  | some (.expr value) => (constantText value).map scanner.cleandoc
  | _ => none

/-- `_docstring_summary` -/
def docstringSummary (fn : FunctionDef Node) : PyStr :=
  let lines := splitLines [] ((docstring scanner fn).getD [])
  ((lines.map (PyStr.strip scanner.toInterpreter)).find? fun line => !line.isEmpty).getD []

/-- The function that a decorator is, or is made by. -/
def decoratorTarget : Node → Node
  | .call made => made.func
  | decorator => decorator

/-- The name that `@tool("name")` gives. -/
def decoratedName : Node → Option PyStr
  | .call made => made.args.head?.bind constantText
  | _ => none

/-- The name that `@server.tool(name="name")` gives. -/
def decoratedKeyword : Node → Option PyStr
  | .call made => (kwargStr made "name").filter fun name => !name.isEmpty
  | _ => none

/-- One turn of the loop of `_from_decorated_function`. -/
def fromDecorator (fn : FunctionDef Node) (decorator : Node) : Option DetectedTool :=
  match decoratorTarget decorator with
  | .name id =>
    if id ∈ ctx.toolDecorators then some {
      id := (decoratedName decorator).getD fn.name
      source := located rel fn.lineno "langchain:@tool"
      description := docstringSummary scanner fn
      argsSchema := (schemaOf fn).1
      framework := frameworkLangchain
      schemaConfidence := (schemaOf fn).2 }
    else none
  | .attribute (.name owner) attr =>
    if attr = PyStr.ofString "tool" ∧ owner ∈ ctx.mcpObjects then some {
      id := (decoratedKeyword decorator).getD fn.name
      source := located rel fn.lineno
        (PyStr.ofString "mcp:@" ++ owner ++ PyStr.ofString ".tool")
      description := docstringSummary scanner fn
      argsSchema := (schemaOf fn).1
      framework := frameworkMcp
      schemaConfidence := (schemaOf fn).2 }
    else none
  | _ => none

/-- `_from_decorated_function` -/
def fromDecoratedFunction (fn : FunctionDef Node) : Option DetectedTool :=
  fn.decoratorList.findSome? (fromDecorator scanner ctx rel fn)

/-- The function that a reference is to, if it is a name. -/
def resolve (reference : Option Node) : Option (FunctionDef Node) :=
  match reference with
  | some (.name id) => ctx.functions.lookup id
  | _ => none

/-- `first or second` -/
def orElse (first second : PyStr) : PyStr := if first.isEmpty then second else first

/-- `_tool_from_ctor` -/
def toolFromCtor (call : Call Node) (kind : PyStr) : Option DetectedTool :=
  let resolved := resolve ctx (kwarg call "func")
  let description := (kwargStr call "description").getD []
  match (kwargStr call "name").or (resolved.map FunctionDef.name) with
  | none => none
  | some name =>
    match resolved with
    | some fn => some {
        id := name
        source := located rel call.lineno kind
        description := orElse description (docstringSummary scanner fn)
        argsSchema := (schemaOf fn).1
        framework := frameworkLangchain
        schemaConfidence := (schemaOf fn).2 }
    | none => some {
        id := name
        source := located rel call.lineno kind
        description := description
        argsSchema := [(.str "type", .str "object")]
        framework := frameworkLangchain
        schemaConfidence := confidenceLow }

/-- `_from_call` -/
def fromCall (call : Call Node) : Option DetectedTool :=
  match call.func with
  | .attribute (.name owner) attr =>
    if attr = PyStr.ofString "from_function" ∧ owner ∈ ctx.structuredToolNames then
      toolFromCtor scanner ctx rel call "langchain:StructuredTool.from_function"
    else none
  | .name id =>
    if id ∈ ctx.toolClassNames ∨
        id = PyStr.ofString "Tool" ∧ (kwarg call "name").isSome ∧ (kwarg call "func").isSome then
      toolFromCtor scanner ctx rel call "langchain:Tool()"
    else none
  | _ => none

/-- `entries` of `_from_registry_dict`: the values of the keys that are constant texts. -/
def registryEntries (display : DictDisplay Node) : List (PyStr × Node) :=
  display.items.filterMap fun item => (item.1.bind constantText).map fun key => (key, item.2)

/-- `entries[key]`, which is the last value of the key. -/
def registryEntry (display : DictDisplay Node) (key : PyStr) : Option Node :=
  (registryEntries display).reverse.lookup key

/-- `bool(number)` -/
def isNonzero : PyFloat → Bool
  | .finite _ mantissa _ => mantissa != 0
  | .nan | .infinity _ => true

/-- `bool(literal)` -/
def isTruthy : Literal → Bool
  | .null => false
  | .bool flag => flag
  | .int number => number != 0
  | .float number => isNonzero number
  | .complex real imaginary => isNonzero real || isNonzero imaginary
  | .str text => !text.isEmpty
  | .bytes content => !content.isEmpty
  | .ellipsis => true
  | .list items | .tuple items | .set items => !items.isEmpty
  | .dict entries => !entries.isEmpty

/-- `raw_schema`: what is evaluated, or `None` where that fails as it is expected to. -/
def rawSchema (value : Node) : Except PyError Literal :=
  match scanner.literalEval value with
  | .error error =>
    if error = .valueError ∨ error = .other "SyntaxError" then .ok .null else .error error
  | .ok evaluated => .ok evaluated

/-- The name, the description and the `input_schema` of a display that has all three, and a name
that is a constant text. -/
def registryParts (display : DictDisplay Node) : Option (PyStr × PyStr × Node) := do
  let name ← (registryEntry display "name").bind constantText
  let description ← registryEntry display "description"
  let inputSchema ← registryEntry display "input_schema"
  return (name, (constantText description).getD [], inputSchema)

/-- The tool that is made of a display. -/
def registryTool (display : DictDisplay Node) (name description : PyStr) (raw : Literal) :
    DetectedTool :=
  let tool : DetectedTool := {
    id := name
    source := located rel display.lineno "anthropic:registry"
    description := description
    argsSchema := [(.str "type", .str "object")]
    framework := frameworkAnthropic
    schemaConfidence := confidenceLow }
  match raw with
  | .dict schema => { tool with
      argsSchema := schema
      schemaConfidence :=
        if ((LiteralEntries.lookup schema "properties").map isTruthy).getD false then
          confidenceHigh
        else confidenceLow }
  | _ => tool

/-- `_from_registry_dict` -/
def fromRegistryDict (display : DictDisplay Node) : Except PyError (Option DetectedTool) :=
  match registryParts display with
  | none => .ok none
  | some (name, description, inputSchema) => do
    let raw ← rawSchema scanner inputSchema
    return some (registryTool rel display name description raw)

/-- `_subprocess_kind` -/
def subprocessKind (call : Call Node) : Option PyStr :=
  match call.func with
  | .attribute (.name owner) attr =>
    if owner = PyStr.ofString "subprocess" ∧ attr ∈ subprocessFuncs then
      some (PyStr.ofString "subprocess." ++ attr)
    else if owner = PyStr.ofString "os" ∧ attr = PyStr.ofString "system" then some "os.system"
    else none
  | .name id =>
    if id ∈ ctx.subprocessAliases then some (PyStr.ofString "subprocess." ++ id) else none
  | _ => none

/-! ### The scan of a module -/

/-- `out` and `subprocess_hit` of `_scan_module`. -/
structure Findings where
  out : List DetectedTool := []
  subprocessHit : Option (Nat × PyStr) := none

/-- The tool that a detector makes of a node. -/
def toolOf : Node → Except PyError (Option DetectedTool)
  | .functionDef fn => .ok (fromDecoratedFunction scanner ctx rel fn)
  | .call call => .ok (fromCall scanner ctx rel call)
  | .dict display => fromRegistryDict scanner rel display
  | _ => .ok none

/-- The call of a shell that a node is. -/
def hitOf : Node → Option (Nat × PyStr)
  | .call call => (subprocessKind ctx call).map fun kind => (call.lineno, kind)
  | _ => none

/-- What is found of a node is a tool, or else it may be a call of a shell. The first is kept. -/
def Findings.add (found : Findings) (hit : Option (Nat × PyStr)) : Option DetectedTool → Findings
  | some tool => { found with out := found.out ++ [tool] }
  | none => { found with subprocessHit := found.subprocessHit.or hit }

/-- One turn of the loop of `_scan_module`. -/
def scanNode (found : Findings) (node : Node) : Except PyError Findings := do
  let tool ← toolOf scanner ctx rel node
  return found.add (hitOf ctx node) tool

/-- The candidate that stands for all calls of a shell in a module. -/
def shellTool (hit : Nat × PyStr) : DetectedTool where
  id := "shell"
  source := located rel hit.1 (PyStr.ofString "implicit:" ++ hit.2)
  description := PyStr.ofString "Implicit shell capability: module calls " ++ hit.2 ++
    PyStr.ofString " directly (candidate tool, review before wrapping)"
  argsSchema := [(.str "type", .str "object")]
  framework := frameworkImplicit
  schemaConfidence := confidenceLow

/-- `_source_line` -/
def sourceLine (tool : DetectedTool) : Int :=
  let location := tool.source.takeWhile (· ≠ 32)
  (intOfText scanner.toInterpreter ((Trace.rsplit 58 1 location).getLastD [])).getD 0

/-- `_scan_module` -/
def scanModule (tree : Node) : Except PyError (List DetectedTool) := do
  let found ← tree.walk.foldlM (scanNode scanner (collect tree) rel) {}
  let out := found.out ++ found.subprocessHit.toList.map (shellTool rel)
  return out.insertionSort fun first second =>
    sourceLine scanner first ≤ sourceLine scanner second

end Detectors

/-! ### What names stand for -/

/-- The classes whose constructors are known. -/
inductive ToolClass
  | structuredTool
  | tool
deriving DecidableEq

def ToolClass.text : ToolClass → PyStr
  | .structuredTool => "StructuredTool"
  | .tool => "Tool"

/-- The names of a class. -/
def ToolClass.names (ctx : ModuleContext) : ToolClass → List PyStr
  | .structuredTool => ctx.structuredToolNames
  | .tool => ctx.toolClassNames

/-- The node imports the class from langchain, under a name. -/
def Imports (toolClass : ToolClass) (name : PyStr) : Node → Prop
  | .importFrom (some module) names => isLangchain module = true ∧
    ∃ imported ∈ names, imported.name = toolClass.text ∧ boundName imported = name
  | _ => False

/-- The function that a node defines, if it has the name. -/
def definition (name : PyStr) : Node → Option (FunctionDef Node)
  | .functionDef fn => if fn.name = name then some fn else none
  | _ => none

section Collected

variable {ctx : ModuleContext} {name : PyStr} {toolClass : ToolClass}

theorem mem_names_importTool {imported : Alias} :
    name ∈ toolClass.names (importTool ctx imported) ↔
      name ∈ toolClass.names ctx ∨ imported.name = toolClass.text ∧ boundName imported = name := by
  have decorator : PyStr.ofString "tool" ≠ toolClass.text := by cases toolClass <;> decide
  have apart : PyStr.ofString "StructuredTool" ≠ PyStr.ofString "Tool" := by decide
  unfold importTool
  split_ifs with isDecorator isStructured isTool
  · rw [isDecorator]
    exact (or_iff_left fun both => decorator both.1).symm
  · cases toolClass with
    | structuredTool =>
      rw [isStructured]
      simp [ToolClass.names, ToolClass.text, or_comm, eq_comm]
    | tool =>
      rw [isStructured]
      exact (or_iff_left fun both => apart both.1).symm
  · cases toolClass with
    | structuredTool =>
      exact (or_iff_left fun both => isStructured both.1).symm
    | tool =>
      rw [isTool]
      simp [ToolClass.names, ToolClass.text, or_comm, eq_comm]
  · cases toolClass with
    | structuredTool => exact (or_iff_left fun both => isStructured both.1).symm
    | tool => exact (or_iff_left fun both => isTool both.1).symm

theorem names_importSubprocess {imported : Alias} :
    toolClass.names (importSubprocess ctx imported) = toolClass.names ctx := by
  unfold importSubprocess
  cases toolClass <;> split <;> rfl

theorem functions_importTool {imported : Alias} :
    (importTool ctx imported).functions = ctx.functions := by
  unfold importTool
  split_ifs <;> rfl

theorem functions_importSubprocess {imported : Alias} :
    (importSubprocess ctx imported).functions = ctx.functions := by
  unfold importSubprocess
  split <;> rfl

/-- One turn adds the names that the node imports. -/
theorem mem_names_collectNode {node : Node} :
    name ∈ toolClass.names (collectNode ctx node) ↔
      name ∈ toolClass.names ctx ∨ Imports toolClass name node := by
  cases node with
  | importFrom module names =>
    cases module with
    | none => exact (or_iff_left id).symm
    | some module =>
      show name ∈ toolClass.names (collectImport ctx module names) ↔ _ ∨ (_ ∧ _)
      unfold collectImport
      split_ifs with empty isTools isSubprocess
      · rw [List.isEmpty_iff.mp empty]
        exact (or_iff_left fun both => absurd both.1 (by decide)).symm
      · rw [and_iff_right isTools]
        exact Walks.gathered_iff (name ∈ toolClass.names ·) fun _ _ => mem_names_importTool
      · have kept : toolClass.names (names.foldl importSubprocess ctx) = toolClass.names ctx :=
          Walks.kept_eq (fun ctx => toolClass.names ctx) fun _ _ => names_importSubprocess
        rw [kept]
        exact (or_iff_left fun both => isTools both.1).symm
      · exact (or_iff_left fun both => isTools both.1).symm
  | assign targets value =>
    cases value with
    | call made =>
      have kept : toolClass.names (collectMade ctx targets made) = toolClass.names ctx := by
        unfold collectMade
        cases toolClass <;> split <;> rfl
      show name ∈ toolClass.names (collectMade ctx targets made) ↔ _ ∨ False
      rw [kept, or_false]
    | _ => exact (or_iff_left id).symm
  | functionDef fn => cases toolClass <;> exact (or_iff_left id).symm
  | _ => exact (or_iff_left id).symm

theorem lookup_setDefault {functions : List (PyStr × FunctionDef Node)} {fn : FunctionDef Node} :
    (setDefault functions fn).lookup name =
      (functions.lookup name).or (definition name (.functionDef fn)) := by
  show _ = (functions.lookup name).or (if _ then _ else _)
  unfold setDefault
  split
  · next known =>
    obtain ⟨first, found⟩ := Option.isSome_iff_exists.mp known
    by_cases same : fn.name = name
    · rw [← same, found, Option.some_or]
    · rw [if_neg same, Option.or_none]
  · rw [List.lookup_append, List.lookup_cons, List.lookup_nil]
    by_cases same : fn.name = name
    · rw [if_pos same, same, beq_self_eq_true]
    · rw [if_neg same, beq_eq_false_iff_ne.mpr (Ne.symm same)]

/-- One turn keeps the first function of each name. -/
theorem lookup_collectNode {node : Node} :
    (collectNode ctx node).functions.lookup name =
      (ctx.functions.lookup name).or (definition name node) := by
  cases node with
  | importFrom module names =>
    cases module with
    | none => exact Option.or_none.symm
    | some module =>
      have kept : (collectImport ctx module names).functions = ctx.functions := by
        unfold collectImport
        split_ifs
        · rfl
        · exact Walks.kept_eq ModuleContext.functions fun _ _ => functions_importTool
        · exact Walks.kept_eq ModuleContext.functions fun _ _ => functions_importSubprocess
        · rfl
      show (collectImport ctx module names).functions.lookup name = _
      rw [kept]
      exact Option.or_none.symm
  | assign targets value =>
    cases value with
    | call made =>
      have kept : (collectMade ctx targets made).functions = ctx.functions := by
        unfold collectMade
        split <;> rfl
      show (collectMade ctx targets made).functions.lookup name = _
      rw [kept]
      exact Option.or_none.symm
    | _ => exact Option.or_none.symm
  | functionDef fn => exact lookup_setDefault
  | _ => exact Option.or_none.symm

/-- The names of a class are those it is imported under. One is known without an import. -/
theorem mem_names_collect {tree : Node} :
    name ∈ toolClass.names (collect tree) ↔
      (∃ node ∈ tree.walk, Imports toolClass name node) ∨
        toolClass = .structuredTool ∧ name = PyStr.ofString "StructuredTool" := by
  have gathered : name ∈ toolClass.names (tree.walk.foldl collectNode {}) ↔
      name ∈ toolClass.names {} ∨ ∃ node ∈ tree.walk, Imports toolClass name node :=
    Walks.gathered_iff (name ∈ toolClass.names ·) fun _ _ => mem_names_collectNode
  cases toolClass with
  | structuredTool =>
    show name ∈ _ :: _ ↔ _
    rw [List.mem_cons]
    show name = _ ∨ name ∈ ToolClass.names (tree.walk.foldl collectNode {}) .structuredTool ↔ _
    rw [gathered, or_comm]
    simp [ToolClass.names]
  | tool =>
    show name ∈ ToolClass.names (tree.walk.foldl collectNode {}) .tool ↔ _
    rw [gathered]
    simp [ToolClass.names]

/-- A name resolves to the first function of the module that has it. -/
theorem lookup_collect {tree : Node} :
    (collect tree).functions.lookup name = tree.walk.findSome? (definition name) := by
  have found : (tree.walk.foldl collectNode {}).functions.lookup name =
      (List.lookup name []).or (tree.walk.findSome? (definition name)) :=
    Walks.found_eq (fun ctx : ModuleContext => ctx.functions.lookup name) fun ctx node =>
      lookup_collectNode
  exact found.trans Option.none_or

end Collected

/-! ### What a scan returns -/

/-- The `input_schema` of a tool in a registry is evaluated, or that fails as is expected. -/
def Evaluable (scanner : Scanner) : Node → Prop
  | .dict display => ∀ parts, registryParts display = some parts →
    ∀ error, scanner.literalEval parts.2.2 = .error error →
      error = .valueError ∨ error = .other "SyntaxError"
  | _ => True

/-- The tools that are made of a node. -/
def toolsOf (scanner : Scanner) (ctx : ModuleContext) (rel : PyStr) (node : Node) :
    List DetectedTool :=
  ((toolOf scanner ctx rel node).toOption.bind id).toList

section Returned

variable {scanner : Scanner} {ctx : ModuleContext} {rel : PyStr} {tree node : Node}

theorem rawSchema_returns_iff {value : Node} :
    (∃ raw, rawSchema scanner value = .ok raw) ↔
      ∀ error, scanner.literalEval value = .error error →
        error = .valueError ∨ error = .other "SyntaxError" := by
  unfold rawSchema
  cases scanner.literalEval value with
  | ok evaluated => simp
  | error error =>
    by_cases expected : error = .valueError ∨ error = .other "SyntaxError"
    · simp [expected]
    · simp [expected]

/-- A detector returns, if it does not come upon a display that cannot be evaluated. -/
theorem toolOf_returns_iff :
    (∃ tool, toolOf scanner ctx rel node = .ok tool) ↔ Evaluable scanner node := by
  cases node with
  | dict display =>
    show (∃ tool, fromRegistryDict scanner rel display = .ok tool) ↔ ∀ parts, _ → _
    unfold fromRegistryDict
    cases registryParts display with
    | none =>
      refine iff_of_true ⟨none, rfl⟩ ?_
      rintro _ ⟨⟩
    | some parts =>
      have returns : (∃ tool, (rawSchema scanner parts.2.2 >>= fun raw =>
          .ok (some (registryTool rel display parts.1 parts.2.1 raw))) = .ok tool) ↔
          ∃ raw, rawSchema scanner parts.2.2 = .ok raw := by
        simp only [Checks.bind_eq_ok]
        exact ⟨fun ⟨_, raw, made, _⟩ => ⟨raw, made⟩, fun ⟨raw, made⟩ => ⟨_, raw, made, rfl⟩⟩
      refine returns.trans (rawSchema_returns_iff.trans ?_)
      simp only [Option.some.injEq, forall_eq']
  | _ => exact iff_of_true ⟨_, rfl⟩ trivial

theorem scanNode_returns_iff {found : Findings} :
    (∃ later, scanNode scanner ctx rel found node = .ok later) ↔ Evaluable scanner node := by
  rw [← toolOf_returns_iff]
  simp only [scanNode, Checks.bind_eq_ok]
  exact ⟨fun ⟨_, tool, made, _⟩ => ⟨tool, made⟩, fun ⟨tool, made⟩ => ⟨_, tool, made, rfl⟩⟩

/-- A turn of the loop adds the tools that are made of the node. -/
theorem out_of_scanNode {found later : Findings}
    (scanned : scanNode scanner ctx rel found node = .ok later) :
    later.out = found.out ++ toolsOf scanner ctx rel node := by
  obtain ⟨tool, made, added⟩ := Checks.bind_eq_ok.mp scanned
  cases added
  unfold toolsOf
  rw [made]
  cases tool with
  | none => exact (List.append_nil _).symm
  | some tool => rfl

/-- A scan returns if nothing fails unexpectedly. -/
theorem scanModule_returns_iff :
    (∃ tools, scanModule scanner rel tree = .ok tools) ↔
      ∀ node ∈ tree.walk, Evaluable scanner node := by
  have folded : (∃ found, tree.walk.foldlM (scanNode scanner (collect tree) rel) {} =
      .ok found) ↔ ∀ node ∈ tree.walk, Evaluable scanner node := by
    refine Checks.foldlM_returns_iff fun found node => ?_
    exact scanNode_returns_iff
  rw [← folded]
  constructor
  · rintro ⟨_, scanned⟩
    obtain ⟨found, ran, _⟩ := Checks.bind_eq_ok.mp scanned
    exact ⟨found, ran⟩
  · rintro ⟨found, ran⟩
    exact ⟨_, Checks.bind_eq_ok.mpr ⟨found, ran, rfl⟩⟩

/-- A scan returns the tools of all nodes, and the shell if there is one. -/
theorem perm_of_scanModule {tools : List DetectedTool}
    (scanned : scanModule scanner rel tree = .ok tools) :
    ∃ hit : Option (Nat × PyStr), tools.Perm
      (tree.walk.flatMap (toolsOf scanner (collect tree) rel) ++
        hit.toList.map (shellTool rel)) := by
  obtain ⟨found, folded, returned⟩ := Checks.bind_eq_ok.mp scanned
  have out : found.out = tree.walk.flatMap (toolsOf scanner (collect tree) rel) :=
    Checks.output_foldlM (fun _ _ _ scanned => out_of_scanNode scanned) folded
  cases returned
  exact ⟨found.subprocessHit, out ▸ List.perm_insertionSort _ _⟩

/-- The tool that is made of a node is returned. -/
theorem mem_of_scanModule {tools : List DetectedTool} {tool : DetectedTool}
    (scanned : scanModule scanner rel tree = .ok tools) (member : node ∈ tree.walk)
    (made : toolOf scanner (collect tree) rel node = .ok (some tool)) : tool ∈ tools := by
  obtain ⟨hit, perm⟩ := perm_of_scanModule scanned
  refine perm.mem_iff.mpr (List.mem_append_left _ (List.mem_flatMap.mpr ⟨node, member, ?_⟩))
  unfold toolsOf
  rw [made]
  exact List.mem_singleton_self _

end Returned

end AxorWrap.Compile
