/-
This file says what a scan of a module returns (`_scan_module`, `axor_wrap/detect.py`), in terms of
the module and not of the passes over it.

A node declares a tool in one of three ways: it is a function that is marked by a decorator, a call
of a constructor, or a display of a registry. What the names in it stand for is settled by imports
and assignments anywhere in the module, before or after the node. A scan returns each declared tool
once, and the shell of the first call that runs a command and is no tool itself. They come in the
order of their lines.
-/

import AxorWrap.Compile.Constructors
import Mathlib.Data.List.ReduceOption

namespace AxorWrap.Compile

open Python

/-! ### What the other names stand for -/

/-- What a name may stand for, apart from a class. -/
inductive Binding
  /-- `tool` of langchain -/
  | decorator
  /-- a server of MCP -/
  | server
  /-- a function of `subprocess` -/
  | command
deriving DecidableEq

/-- The names that are known to stand for it. -/
def Binding.names (ctx : ModuleContext) : Binding → List PyStr
  | .decorator => ctx.toolDecorators
  | .server => ctx.mcpObjects
  | .command => ctx.subprocessAliases

/-- The node imports one of some things from one of some modules, under a name. -/
def ImportsOne (modules things : PyStr → Prop) (name : PyStr) : Node → Prop
  | .importFrom (some module) names => modules module ∧
    ∃ imported ∈ names, things imported.name ∧ boundName imported = name
  | _ => False

/-- The node binds the name to what `FastMCP` makes. -/
def MakesServer (name : PyStr) : Node → Prop
  | .assign targets (.call made) =>
    constructorName made.func = PyStr.ofString "FastMCP" ∧ .name name ∈ targets
  | _ => False

/-- The node binds the name. -/
def Binding.Binds (name : PyStr) : Binding → Node → Prop
  | .decorator => ImportsOne (isLangchain · = true) (· = PyStr.ofString "tool") name
  | .server => MakesServer name
  | .command => ImportsOne (· = PyStr.ofString "subprocess") (· ∈ subprocessFuncs) name

/-- Somewhere in the module the name is bound. Three names of servers are known without that. -/
def Binding.Known (tree : Node) (name : PyStr) (binding : Binding) : Prop :=
  (∃ node ∈ tree.walk, binding.Binds name node) ∨ binding = .server ∧ name ∈ mcpDefaultObjects

section Bindings

variable {ctx : ModuleContext} {name module : PyStr} {names : List Alias} {tree node : Node}

theorem toolDecorators_importTool {imported : Alias} :
    name ∈ (importTool ctx imported).toolDecorators ↔ name ∈ ctx.toolDecorators ∨
      imported.name = PyStr.ofString "tool" ∧ boundName imported = name := by
  unfold importTool
  split_ifs with isDecorator
  · rw [and_iff_right isDecorator, List.mem_cons, or_comm, eq_comm]
  all_goals exact (or_iff_left fun both => isDecorator both.1).symm

theorem subprocessAliases_importSubprocess {imported : Alias} :
    name ∈ (importSubprocess ctx imported).subprocessAliases ↔ name ∈ ctx.subprocessAliases ∨
      imported.name ∈ subprocessFuncs ∧ boundName imported = name := by
  unfold importSubprocess
  split_ifs with isCommand
  · rw [and_iff_right isCommand, List.mem_cons, or_comm, eq_comm]
  · exact (or_iff_left fun both => isCommand both.1).symm

theorem mem_toolDecorators_collectImport :
    name ∈ (collectImport ctx module names).toolDecorators ↔ name ∈ ctx.toolDecorators ∨
      Binding.decorator.Binds name (.importFrom (some module) names) := by
  show _ ↔ _ ∨ (isLangchain module = true ∧ _)
  unfold collectImport
  split_ifs with empty isTools isSubprocess
  · rw [List.isEmpty_iff.mp empty]
    exact (or_iff_left fun both => absurd both.1 (by decide)).symm
  · rw [and_iff_right isTools]
    exact Walks.gathered_iff (name ∈ ModuleContext.toolDecorators ·) fun _ _ =>
      toolDecorators_importTool
  · have kept : (names.foldl importSubprocess ctx).toolDecorators = ctx.toolDecorators := by
      refine Walks.kept_eq ModuleContext.toolDecorators fun _ _ => ?_
      unfold importSubprocess
      split <;> rfl
    rw [kept]
    exact (or_iff_left fun both => isTools both.1).symm
  · exact (or_iff_left fun both => isTools both.1).symm

theorem mem_subprocessAliases_collectImport :
    name ∈ (collectImport ctx module names).subprocessAliases ↔
      name ∈ ctx.subprocessAliases ∨
        Binding.command.Binds name (.importFrom (some module) names) := by
  show _ ↔ _ ∨ (module = PyStr.ofString "subprocess" ∧ _)
  unfold collectImport
  split_ifs with empty isTools isSubprocess
  · rw [List.isEmpty_iff.mp empty]
    exact (or_iff_left fun both => absurd both.1 (by decide)).symm
  · have kept : (names.foldl importTool ctx).subprocessAliases = ctx.subprocessAliases := by
      refine Walks.kept_eq ModuleContext.subprocessAliases fun _ _ => ?_
      unfold importTool
      split_ifs <;> rfl
    rw [kept]
    -- `subprocess` is no module of langchain.
    refine (or_iff_left fun both => ?_).symm
    rw [both.1] at isTools
    exact absurd isTools (by decide)
  · rw [and_iff_right isSubprocess]
    exact Walks.gathered_iff (name ∈ ModuleContext.subprocessAliases ·) fun _ _ =>
      subprocessAliases_importSubprocess
  · exact (or_iff_left fun both => isSubprocess both.1).symm

theorem mcpObjects_collectImport :
    (collectImport ctx module names).mcpObjects = ctx.mcpObjects := by
  unfold collectImport
  split_ifs
  · rfl
  · refine Walks.kept_eq ModuleContext.mcpObjects fun _ _ => ?_
    unfold importTool
    split_ifs <;> rfl
  · refine Walks.kept_eq ModuleContext.mcpObjects fun _ _ => ?_
    unfold importSubprocess
    split <;> rfl
  · rfl

theorem targetName_eq_some {target : Node} :
    targetName target = some name ↔ target = .name name := by
  unfold targetName
  split
  · rw [Option.some.injEq, Node.name.injEq]
  · next other =>
    refine iff_of_false (Option.some_ne_none name).symm ?_
    rintro rfl
    exact other name rfl

theorem mem_mcpObjects_collectMade {targets : List Node} {made : Call Node} :
    name ∈ (collectMade ctx targets made).mcpObjects ↔
      name ∈ ctx.mcpObjects ∨ MakesServer name (.assign targets (.call made)) := by
  show _ ↔ _ ∨ (constructorName made.func = PyStr.ofString "FastMCP" ∧ _)
  unfold collectMade
  split_ifs with isServer
  · rw [and_iff_right isServer, List.mem_append, List.mem_filterMap, or_comm]
    simp only [targetName_eq_some, exists_eq_right]
  · exact (or_iff_left fun both => isServer both.1).symm

/-- One turn adds the names that the node binds. -/
theorem mem_bindings_collectNode {binding : Binding} :
    name ∈ binding.names (collectNode ctx node) ↔
      name ∈ binding.names ctx ∨ binding.Binds name node := by
  cases node with
  | importFrom module names =>
    cases module with
    | none => cases binding <;> exact (or_iff_left id).symm
    | some module =>
      cases binding with
      | decorator => exact mem_toolDecorators_collectImport
      | command => exact mem_subprocessAliases_collectImport
      | server =>
        show name ∈ (collectImport ctx module names).mcpObjects ↔ _ ∨ False
        rw [mcpObjects_collectImport]
        exact (or_false _).to_iff.symm
  | assign targets value =>
    cases value with
    | call made =>
      cases binding with
      | server => exact mem_mcpObjects_collectMade
      | decorator =>
        have kept : (collectMade ctx targets made).toolDecorators = ctx.toolDecorators := by
          unfold collectMade
          split <;> rfl
        show name ∈ (collectMade ctx targets made).toolDecorators ↔ _ ∨ False
        rw [kept]
        exact (or_false _).to_iff.symm
      | command =>
        have kept : (collectMade ctx targets made).subprocessAliases = ctx.subprocessAliases := by
          unfold collectMade
          split <;> rfl
        show name ∈ (collectMade ctx targets made).subprocessAliases ↔ _ ∨ False
        rw [kept]
        exact (or_false _).to_iff.symm
    | _ => cases binding <;> exact (or_iff_left id).symm
  | _ => cases binding <;> exact (or_iff_left id).symm

/-- The names that are collected are those that the module binds. -/
theorem mem_bindings_collect (binding : Binding) :
    name ∈ binding.names (collect tree) ↔ binding.Known tree name := by
  have gathered : name ∈ binding.names (tree.walk.foldl collectNode {}) ↔
      name ∈ binding.names {} ∨ ∃ node ∈ tree.walk, binding.Binds name node :=
    Walks.gathered_iff (name ∈ binding.names ·) fun _ _ => mem_bindings_collectNode
  unfold Binding.Known
  rw [or_comm, ← show (name ∈ binding.names {} ↔ binding = .server ∧ name ∈ mcpDefaultObjects) by
    cases binding <;> simp [Binding.names], ← gathered]
  cases binding <;> exact Iff.rfl

end Bindings

/-! ### Declarations -/

/-- What marks a function as a tool: `@tool`, or `@server.tool`. -/
inductive Marker
  | langchain
  | server (owner : PyStr)

/-- The decorator is the marker, as it stands or called. -/
def Marker.Marks (tree decorator : Node) : Marker → Prop
  | .langchain => ∃ name, decoratorTarget decorator = .name name ∧ Binding.decorator.Known tree name
  | .server owner => decoratorTarget decorator = .attribute (.name owner) (PyStr.ofString "tool") ∧
    Binding.server.Known tree owner

/-- The name that the decorator gives. -/
def Marker.given (decorator : Node) : Marker → Option PyStr
  | .langchain => decoratedName decorator
  | .server _ => decoratedKeyword decorator

/-- The kind of detector that a source names. -/
def Marker.kind : Marker → PyStr
  | .langchain => "langchain:@tool"
  | .server owner => PyStr.ofString "mcp:@" ++ owner ++ PyStr.ofString ".tool"

def Marker.framework : Marker → PyStr
  | .langchain => frameworkLangchain
  | .server _ => frameworkMcp

/-- The tool that is made of a function. -/
def markedTool (scanner : Scanner) (rel : PyStr) (fn : FunctionDef Node) (decorator : Node)
    (marker : Marker) : DetectedTool where
  id := (marker.given decorator).getD fn.name
  source := located rel fn.lineno marker.kind
  description := docstringSummary scanner fn
  argsSchema := (schemaOf fn).1
  framework := marker.framework
  schemaConfidence := (schemaOf fn).2

/-- The call is one of the constructor. A call of `Tool` may be known by its arguments. -/
def Constructs (tree : Node) (toolClass : ToolClass) (call : Call Node) : Prop :=
  ∃ bound, call.func = toolClass.func bound ∧
    ((∃ node ∈ tree.walk, Imports toolClass bound node) ∨ bound = toolClass.text ∧
      (toolClass = .tool → (kwarg call "name").isSome ∧ (kwarg call "func").isSome))

/-- The reference is to the function: to the first in the module that has the name. -/
def RefersTo (tree : Node) (reference : Option Node) (fn : FunctionDef Node) : Prop :=
  reference = some (.name fn.name) ∧ tree.walk.findSome? (definition fn.name) = some fn

/-- The tool of a constructor whose function is followed. -/
def wrappedTool (scanner : Scanner) (rel : PyStr) (call : Call Node) (kind : PyStr)
    (fn : FunctionDef Node) : DetectedTool where
  id := (kwargStr call "name").getD fn.name
  source := located rel call.lineno kind
  description := orElse ((kwargStr call "description").getD []) (docstringSummary scanner fn)
  argsSchema := (schemaOf fn).1
  framework := frameworkLangchain
  schemaConfidence := (schemaOf fn).2

/-- The tool of a constructor of which only the name is known. -/
def namedTool (rel : PyStr) (call : Call Node) (kind name : PyStr) : DetectedTool where
  id := name
  source := located rel call.lineno kind
  description := (kwargStr call "description").getD []
  argsSchema := [(.str "type", .str "object")]
  framework := frameworkLangchain
  schemaConfidence := confidenceLow

/-- The last value of a key that is a constant text. -/
def LastValue (display : DictDisplay Node) (key : PyStr) (value : Node) : Prop :=
  ∃ before after, display.items = before ++ (some (.constant (.str key)), value) :: after ∧
    ∀ item ∈ after, item.1 ≠ some (.constant (.str key))

/-- The node declares the tool. -/
inductive Declares (scanner : Scanner) (rel : PyStr) (tree : Node) : Node → DetectedTool → Prop
  /-- A function that is marked. The first marker counts. -/
  | decorated {fn : FunctionDef Node} {before after : List Node} {decorator : Node}
      {marker : Marker} (decorators : fn.decoratorList = before ++ decorator :: after)
      (marks : marker.Marks tree decorator)
      (first : ∀ other ∈ before, ∀ marker : Marker, ¬marker.Marks tree other) :
      Declares scanner rel tree (.functionDef fn) (markedTool scanner rel fn decorator marker)
  /-- A call of a constructor with a function that can be followed. -/
  | wrapped {call : Call Node} {toolClass : ToolClass} {fn : FunctionDef Node}
      (constructs : Constructs tree toolClass call)
      (followed : RefersTo tree (kwarg call "func") fn) :
      Declares scanner rel tree (.call call) (wrappedTool scanner rel call toolClass.kind fn)
  /-- A call of a constructor with a name, and with nothing that can be followed. -/
  | named {call : Call Node} {toolClass : ToolClass} {name : PyStr}
      (constructs : Constructs tree toolClass call)
      (unfollowed : ∀ fn, ¬RefersTo tree (kwarg call "func") fn)
      (given : kwargStr call "name" = some name) :
      Declares scanner rel tree (.call call) (namedTool rel call toolClass.kind name)
  /-- A display with the three keys of a registry. -/
  | registered {display : DictDisplay Node} {name : PyStr} {described schema : Node} {raw : Literal}
      (named : LastValue display "name" (.constant (.str name)))
      (description : LastValue display "description" described)
      (inputSchema : LastValue display "input_schema" schema)
      (evaluated : rawSchema scanner schema = .ok raw) :
      Declares scanner rel tree (.dict display)
        (registryTool rel display name ((constantText described).getD []) raw)

/-- The call runs a command. -/
inductive RunsCommand (tree : Node) (call : Call Node) : PyStr → Prop
  | subprocess {name : PyStr} (isFunc : name ∈ subprocessFuncs)
      (called : call.func = .attribute (.name (PyStr.ofString "subprocess")) name) :
      RunsCommand tree call (PyStr.ofString "subprocess." ++ name)
  | system
      (called : call.func = .attribute (.name (PyStr.ofString "os")) (PyStr.ofString "system")) :
      RunsCommand tree call "os.system"
  | imported {name : PyStr} (known : Binding.command.Known tree name)
      (called : call.func = .name name) :
      RunsCommand tree call (PyStr.ofString "subprocess." ++ name)

/-- The node is a call that runs a command, and declares no tool. -/
def RunsShell (scanner : Scanner) (rel : PyStr) (tree node : Node) (hit : Nat × PyStr) : Prop :=
  ∃ call, node = .call call ∧ hit.1 = call.lineno ∧ RunsCommand tree call hit.2 ∧
    ∀ tool, ¬Declares scanner rel tree node tool

/-- The shell of a module is that of the first node that runs one. -/
inductive ShellOf (scanner : Scanner) (rel : PyStr) (tree : Node) : Option DetectedTool → Prop
  | absent (silent : ∀ node ∈ tree.walk, ∀ hit, ¬RunsShell scanner rel tree node hit) :
      ShellOf scanner rel tree none
  | first {before after : List Node} {node : Node} {hit : Nat × PyStr}
      (split : tree.walk = before ++ node :: after) (runs : RunsShell scanner rel tree node hit)
      (silent : ∀ other ∈ before, ∀ hit, ¬RunsShell scanner rel tree other hit) :
      ShellOf scanner rel tree (some (shellTool rel hit))

/-- The tool is found on the line. -/
def FoundAt (rel : PyStr) (tool : DetectedTool) (line : Nat) : Prop :=
  ∃ kind, tool.source = located rel line kind

/-- What a scan is to return: the tool of each node that declares one, and the shell. They are in
the order of the lines, which are read out of the sources, up to the first blank and no more digits
than `int` reads. Where the path has a blank no line is found, and the order is that of the walk. -/
structure ScanOf (scanner : Scanner) (rel : PyStr) (tree : Node) (tools : List DetectedTool) :
    Prop where
  exact : ∃ (made : List (Option DetectedTool)) (shell : Option DetectedTool),
    List.Forall₂ (fun node tool => ∀ declared,
      tool = some declared ↔ Declares scanner rel tree node declared) tree.walk made ∧
    ShellOf scanner rel tree shell ∧ tools.Perm (made.reduceOption ++ shell.toList) ∧
    (32 ∈ rel → tools = made.reduceOption ++ shell.toList)
  ordered : 32 ∉ rel → tools.Pairwise fun first second => ∀ line later,
    FoundAt rel first line → FoundAt rel second later →
      (natText line).length ≤ intMaxStrDigits → (natText later).length ≤ intMaxStrDigits →
        line ≤ later

/-! ### Each detector finds what is declared -/

section Declared

variable {scanner : Scanner} {rel : PyStr} {tree node : Node} {tool : DetectedTool}

theorem fromDecorator_eq_some {fn : FunctionDef Node} {decorator : Node} :
    fromDecorator scanner (collect tree) rel fn decorator = some tool ↔
      ∃ marker : Marker, marker.Marks tree decorator ∧
        markedTool scanner rel fn decorator marker = tool := by
  have decorators (name : PyStr) :
      name ∈ (collect tree).toolDecorators ↔ Binding.decorator.Known tree name :=
    mem_bindings_collect .decorator
  have servers (name : PyStr) :
      name ∈ (collect tree).mcpObjects ↔ Binding.server.Known tree name :=
    mem_bindings_collect .server
  unfold fromDecorator
  constructor
  · intro made
    split at made
    · next name target =>
      rw [Option.ite_none_right_eq_some, decorators] at made
      exact ⟨.langchain, ⟨name, target, made.1⟩, Option.some.inj made.2⟩
    · next owner attr target =>
      rw [Option.ite_none_right_eq_some, servers] at made
      obtain ⟨⟨rfl, known⟩, same⟩ := made
      exact ⟨.server owner, ⟨target, known⟩, Option.some.inj same⟩
    · cases made
  · rintro ⟨marker, marks, rfl⟩
    cases marker with
    | langchain =>
      obtain ⟨name, target, known⟩ := marks
      rw [target]
      exact if_pos ((decorators name).mpr known)
    | server owner =>
      obtain ⟨target, known⟩ := marks
      rw [target]
      exact if_pos ⟨rfl, (servers owner).mpr known⟩

theorem fromDecorator_eq_none {fn : FunctionDef Node} {decorator : Node} :
    fromDecorator scanner (collect tree) rel fn decorator = none ↔
      ∀ marker : Marker, ¬marker.Marks tree decorator := by
  rw [Option.eq_none_iff_forall_ne_some]
  simp only [ne_eq, fromDecorator_eq_some]
  constructor
  · exact fun none marker marks => none _ ⟨marker, marks, rfl⟩
  · rintro none _ ⟨marker, marks, _⟩
    exact none marker marks

/-- A function is taken for a tool by its first marker. -/
theorem fromDecoratedFunction_eq_some {fn : FunctionDef Node} :
    fromDecoratedFunction scanner (collect tree) rel fn = some tool ↔
      Declares scanner rel tree (.functionDef fn) tool := by
  unfold fromDecoratedFunction
  rw [List.findSome?_eq_some_iff]
  simp only [fromDecorator_eq_none, fromDecorator_eq_some]
  constructor
  · rintro ⟨before, decorator, after, split, ⟨marker, marks, rfl⟩, first⟩
    exact .decorated split marks first
  · rintro ⟨split, marks, first⟩
    exact ⟨_, _, _, split, ⟨_, marks, rfl⟩, first⟩

theorem resolve_eq_some {reference : Option Node} {fn : FunctionDef Node} :
    resolve (collect tree) reference = some fn ↔ RefersTo tree reference fn := by
  unfold resolve RefersTo
  split
  · next name =>
    rw [lookup_collect, Option.some.injEq, Node.name.injEq]
    constructor
    · intro found
      have same := name_of_first found
      exact ⟨same.symm, same ▸ found⟩
    · rintro ⟨rfl, found⟩
      exact found
  · next other =>
    refine iff_of_false (Option.some_ne_none fn).symm ?_
    rintro ⟨rfl, _⟩
    exact other fn.name rfl

theorem toolFromCtor_eq_some {call : Call Node} {kind : PyStr} :
    toolFromCtor scanner (collect tree) rel call kind = some tool ↔
      (∃ fn, RefersTo tree (kwarg call "func") fn ∧ wrappedTool scanner rel call kind fn = tool) ∨
        (∀ fn, ¬RefersTo tree (kwarg call "func") fn) ∧
          ∃ name, kwargStr call "name" = some name ∧ namedTool rel call kind name = tool := by
  simp only [← resolve_eq_some]
  unfold toolFromCtor
  cases resolve (collect tree) (kwarg call "func") with
  | some fn => simp [wrappedTool]
  | none => cases kwargStr call "name" <;> simp [namedTool]

theorem fromCall_eq_some {call : Call Node} :
    fromCall scanner (collect tree) rel call = some tool ↔
      ∃ toolClass, Constructs tree toolClass call ∧
        toolFromCtor scanner (collect tree) rel call toolClass.kind = some tool := by
  have names (toolClass : ToolClass) (name : PyStr) : name ∈ toolClass.names (collect tree) ↔
      (∃ node ∈ tree.walk, Imports toolClass name node) ∨
        toolClass = .structuredTool ∧ name = PyStr.ofString "StructuredTool" :=
    mem_names_collect
  have structured (name : PyStr) : name ∈ (collect tree).structuredToolNames ↔ _ :=
    names .structuredTool name
  have classes (name : PyStr) : name ∈ (collect tree).toolClassNames ↔ _ := names .tool name
  unfold fromCall
  constructor
  · intro made
    split at made
    · next owner attr called =>
      rw [Option.ite_none_right_eq_some, structured] at made
      obtain ⟨⟨rfl, known⟩, built⟩ := made
      refine ⟨.structuredTool, ⟨owner, called, known.imp_right ?_⟩, built⟩
      exact fun own => ⟨own.2, nofun⟩
    · next name called =>
      rw [Option.ite_none_right_eq_some, classes] at made
      refine ⟨.tool, ⟨name, called, ?_⟩, made.2⟩
      rcases made.1 with (imported | ⟨⟨⟩, _⟩) | ⟨own, given⟩
      · exact .inl imported
      · exact .inr ⟨own, fun _ => given⟩
    · cases made
  · rintro ⟨toolClass, ⟨bound, called, known⟩, built⟩
    rw [called]
    cases toolClass with
    | structuredTool =>
      refine (if_pos ⟨rfl, (structured bound).mpr ?_⟩).trans built
      exact known.imp_right fun own => ⟨rfl, own.1⟩
    | tool =>
      refine (if_pos ?_).trans built
      rw [classes]
      exact known.imp .inl fun own => ⟨own.1, own.2 rfl⟩

/-- A call is taken for a tool if it is one of a constructor, with a function or a name. -/
theorem fromCall_eq_some_iff {call : Call Node} :
    fromCall scanner (collect tree) rel call = some tool ↔
      Declares scanner rel tree (.call call) tool := by
  simp only [fromCall_eq_some, toolFromCtor_eq_some]
  constructor
  · rintro ⟨toolClass, constructs, ⟨fn, followed, rfl⟩ | ⟨unfollowed, name, given, rfl⟩⟩
    · exact .wrapped constructs followed
    · exact .named constructs unfollowed given
  · intro declares
    cases declares with
    | wrapped constructs followed => exact ⟨_, constructs, .inl ⟨_, followed, rfl⟩⟩
    | named constructs unfollowed given =>
      exact ⟨_, constructs, .inr ⟨unfollowed, _, given, rfl⟩⟩

/-! ### Registries -/

/-- The value of an item that has the key. -/
def valueUnder (key : PyStr) (item : Option Node × Node) : Option Node :=
  if item.1.bind constantText = some key then some item.2 else none

theorem text_of_key {key : Option Node} {text : PyStr} :
    key.bind constantText = some text ↔ key = some (.constant (.str text)) := by
  rw [Option.bind_eq_some_iff]
  simp only [constantText_eq_some, exists_eq_right]

theorem valueUnder_eq_some {key : PyStr} {item : Option Node × Node} {value : Node} :
    valueUnder key item = some value ↔ item = (some (.constant (.str key)), value) := by
  unfold valueUnder
  rw [Option.ite_none_right_eq_some, text_of_key, Option.some.injEq, Prod.ext_iff]

theorem valueUnder_eq_none {key : PyStr} {item : Option Node × Node} :
    valueUnder key item = none ↔ item.1 ≠ some (.constant (.str key)) := by
  unfold valueUnder
  rw [ite_eq_right_iff, text_of_key]
  exact forall_congr' fun _ => iff_false_intro (Option.some_ne_none _)

theorem lookup_entries (key : PyStr) (items : List (Option Node × Node)) :
    (items.filterMap fun item =>
      (item.1.bind constantText).map fun text => (text, item.2)).lookup key =
      items.findSome? (valueUnder key) := by
  induction items with
  | nil => rfl
  | cons item rest inductionHypothesis =>
    rw [List.findSome?_cons]
    cases found : item.1.bind constantText with
    | none =>
      rw [List.filterMap_cons_none (by rw [found]; rfl), inductionHypothesis]
      rw [valueUnder, found, if_neg (Option.some_ne_none key).symm]
    | some text =>
      rw [List.filterMap_cons_some (by rw [found]; rfl), List.lookup_cons, inductionHypothesis]
      rw [valueUnder, found]
      by_cases same : text = key
      · rw [same, if_pos rfl, beq_self_eq_true]
      · rw [if_neg (mt Option.some.inj same), beq_eq_false_iff_ne.mpr (Ne.symm same)]

/-- Of several values of a key the last is read. -/
theorem registryEntry_eq_some {display : DictDisplay Node} {key : PyStr} {value : Node} :
    registryEntry display key = some value ↔ LastValue display key value := by
  unfold registryEntry registryEntries LastValue
  rw [← List.filterMap_reverse, lookup_entries, List.findSome?_eq_some_iff]
  simp only [valueUnder_eq_some, valueUnder_eq_none]
  constructor
  · rintro ⟨after, _, before, split, rfl, last⟩
    refine ⟨before.reverse, after.reverse, ?_, fun item member => ?_⟩
    · rw [← List.reverse_reverse display.items, split]
      simp
    · exact last item (List.mem_reverse.mp member)
  · rintro ⟨before, after, split, last⟩
    refine ⟨after.reverse, _, before.reverse, ?_, rfl, fun item member => ?_⟩
    · rw [split]
      simp
    · exact last item (List.mem_reverse.mp member)

/-- A display is taken for a tool if it has the three keys, and a name that is a literal. -/
theorem fromRegistryDict_eq_some {display : DictDisplay Node} :
    fromRegistryDict scanner rel display = .ok (some tool) ↔
      Declares scanner rel tree (.dict display) tool := by
  unfold fromRegistryDict
  constructor
  · intro made
    cases parts : registryParts display with
    | none =>
      rw [parts] at made
      cases made
    | some found =>
      obtain ⟨name, description, schema⟩ := found
      rw [parts] at made
      obtain ⟨raw, evaluated, returned⟩ := Checks.bind_eq_ok.mp made
      cases returned
      simp only [registryParts, Option.bind_eq_bind, Option.bind_eq_some_iff, constantText_eq_some,
        registryEntry_eq_some] at parts
      obtain ⟨_, ⟨_, named, rfl⟩, described, described', _, inputSchema, same⟩ := parts
      cases same
      exact .registered named described' inputSchema evaluated
  · intro declares
    cases declares with
    | registered named description inputSchema evaluated =>
      rw [← registryEntry_eq_some] at named description inputSchema
      unfold registryParts
      rw [named, description, inputSchema]
      exact Checks.bind_eq_ok.mpr ⟨_, evaluated, rfl⟩

/-- A detector makes of a node the tool that it declares. -/
theorem toolOf_eq_some :
    toolOf scanner (collect tree) rel node = .ok (some tool) ↔
      Declares scanner rel tree node tool := by
  cases node with
  | functionDef fn =>
    show Except.ok _ = Except.ok _ ↔ _
    rw [Except.ok.injEq]
    exact fromDecoratedFunction_eq_some
  | call call =>
    show Except.ok _ = Except.ok _ ↔ _
    rw [Except.ok.injEq]
    exact fromCall_eq_some_iff
  | dict display => exact fromRegistryDict_eq_some
  | _ =>
    refine iff_of_false ?_ ?_
    · rintro ⟨⟩
    · rintro ⟨⟩

/-! ### The shell -/

theorem subprocessKind_eq_some {call : Call Node} {kind : PyStr} :
    subprocessKind (collect tree) call = some kind ↔ RunsCommand tree call kind := by
  have commands (name : PyStr) :
      name ∈ (collect tree).subprocessAliases ↔ Binding.command.Known tree name :=
    mem_bindings_collect .command
  have apart : PyStr.ofString "os" ≠ PyStr.ofString "subprocess" := by decide
  unfold subprocessKind
  constructor
  · intro found
    split at found
    · next owner attr called =>
      split_ifs at found with isSubprocess isSystem
      · cases found
        rw [isSubprocess.1] at called
        exact .subprocess isSubprocess.2 called
      · cases found
        rw [isSystem.1, isSystem.2] at called
        exact .system called
    · next name called =>
      rw [Option.ite_none_right_eq_some, commands] at found
      cases found.2
      exact .imported found.1 called
    · cases found
  · intro runs
    cases runs with
    | subprocess isFunc called =>
      rw [called]
      exact if_pos ⟨rfl, isFunc⟩
    | system called =>
      rw [called]
      exact (if_neg fun both => apart both.1).trans (if_pos ⟨rfl, rfl⟩)
    | imported known called =>
      rw [called]
      exact if_pos ((commands _).mpr known)

/-- What a node leaves to be taken for a shell. -/
def shellHit (scanner : Scanner) (ctx : ModuleContext) (rel : PyStr) (node : Node) :
    Option (Nat × PyStr) :=
  if (toolsOf scanner ctx rel node).isEmpty then hitOf ctx node else none

theorem toolsOf_isEmpty :
    (toolsOf scanner (collect tree) rel node).isEmpty ↔
      ∀ tool, ¬Declares scanner rel tree node tool := by
  simp only [← toolOf_eq_some]
  unfold toolsOf
  cases toolOf scanner (collect tree) rel node with
  | error error => simp [Except.toOption]
  | ok made => cases made <;> simp [Except.toOption]

theorem shellHit_eq_some {hit : Nat × PyStr} :
    shellHit scanner (collect tree) rel node = some hit ↔
      RunsShell scanner rel tree node hit := by
  unfold shellHit RunsShell
  rw [Option.ite_none_right_eq_some, toolsOf_isEmpty]
  constructor
  · rintro ⟨undeclared, found⟩
    unfold hitOf at found
    split at found
    · next call =>
      obtain ⟨kind, runs, rfl⟩ := Option.map_eq_some_iff.mp found
      exact ⟨call, rfl, rfl, subprocessKind_eq_some.mp runs, undeclared⟩
    · cases found
  · rintro ⟨call, rfl, line, runs, undeclared⟩
    refine ⟨undeclared, Option.map_eq_some_iff.mpr ⟨hit.2, subprocessKind_eq_some.mpr runs, ?_⟩⟩
    rw [← line]

theorem shellHit_eq_none :
    shellHit scanner (collect tree) rel node = none ↔
      ∀ hit, ¬RunsShell scanner rel tree node hit := by
  rw [Option.eq_none_iff_forall_ne_some]
  exact forall_congr' fun hit => not_congr shellHit_eq_some

/-- A turn of the loop keeps the first shell. -/
theorem subprocessHit_of_scanNode {ctx : ModuleContext} {found later : Findings}
    (scanned : scanNode scanner ctx rel found node = .ok later) :
    later.subprocessHit = found.subprocessHit.or (shellHit scanner ctx rel node) := by
  obtain ⟨tool, made, added⟩ := Checks.bind_eq_ok.mp scanned
  cases added
  unfold shellHit toolsOf
  rw [made]
  cases tool with
  | none => rfl
  | some tool => exact Option.or_none.symm

/-- The shell that is kept is the first that is run. -/
theorem shellOf_findSome? :
    ShellOf scanner rel tree
      ((tree.walk.findSome? (shellHit scanner (collect tree) rel)).map (shellTool rel)) := by
  cases found : tree.walk.findSome? (shellHit scanner (collect tree) rel) with
  | none =>
    rw [List.findSome?_eq_none_iff] at found
    exact .absent fun node member => shellHit_eq_none.mp (found node member)
  | some hit =>
    obtain ⟨before, node, after, split, runs, silent⟩ := List.findSome?_eq_some_iff.mp found
    exact .first split (shellHit_eq_some.mp runs) fun other member =>
      shellHit_eq_none.mp (silent other member)

/-! ### The order -/

/-- The line that a source names is read back out of it. -/
theorem sourceLine_of_foundAt {line : Nat} (solid : 32 ∉ rel) (found : FoundAt rel tool line)
    (short : (natText line).length ≤ intMaxStrDigits) : sourceLine scanner tool = line := by
  obtain ⟨kind, source⟩ := found
  have location : tool.source.takeWhile (· ≠ 32) = rel ++ 58 :: natText line := by
    have solid' : ∀ point ∈ rel ++ 58 :: natText line, decide (point ≠ 32) = true := by
      intro point member
      rw [List.mem_append, List.mem_cons] at member
      rw [decide_eq_true_eq]
      rintro rfl
      rcases member with inPath | colon | digit
      · exact solid inPath
      · exact absurd colon (by decide)
      · exact absurd (digit_of_mem_natText digit).1 (by decide)
    have cut : tool.source = (rel ++ 58 :: natText line) ++ 32 :: kind := by
      have colon : PyStr.ofString ":" = [58] := rfl
      have blank : PyStr.ofString " " = [32] := rfl
      rw [source, located, colon, blank]
      simp only [List.append_assoc, List.cons_append, List.nil_append]
    rw [cut, List.takeWhile_append_of_pos solid', List.takeWhile_cons_of_neg (by decide),
      List.append_nil]
  have last : (58 : CodePoint) ∉ natText line := fun digit =>
    absurd (digit_of_mem_natText digit).2 (by decide)
  unfold sourceLine
  dsimp only
  rw [location, Trace.rsplit, Trace.rpartition_append last]
  dsimp only
  rw [List.getLastD_concat, intOfText_natText short]
  rfl

/-- Where the path has a blank, all sources look alike up to the first one. -/
theorem sourceLine_of_blank {other : DetectedTool} {line later : Nat} (blank : 32 ∈ rel)
    (found : FoundAt rel tool line) (foundOther : FoundAt rel other later) :
    sourceLine scanner tool = sourceLine scanner other := by
  have location (rest : PyStr) :
      (rel ++ rest).takeWhile (· ≠ 32) = rel.takeWhile (· ≠ 32) := by
    rw [List.takeWhile_append, if_neg]
    intro whole
    have clear := List.takeWhile_eq_self_iff.mp ((List.takeWhile_prefix _).eq_of_length whole)
    exact of_decide_eq_true (clear 32 blank) rfl
  obtain ⟨kind, source⟩ := found
  obtain ⟨kindOther, sourceOther⟩ := foundOther
  unfold sourceLine
  dsimp only
  rw [source, sourceOther, located, located]
  simp only [List.append_assoc]
  rw [location, location]

theorem Declares.foundAt (declares : Declares scanner rel tree node tool) :
    ∃ line, FoundAt rel tool line := by
  cases declares with
  | decorated | wrapped | named => exact ⟨_, _, rfl⟩
  | @registered display =>
    refine ⟨display.lineno, PyStr.ofString "anthropic:registry", ?_⟩
    unfold registryTool
    split <;> rfl

theorem ShellOf.foundAt {shell : Option DetectedTool} (isShell : ShellOf scanner rel tree shell) :
    ∀ tool ∈ shell, ∃ line, FoundAt rel tool line := by
  cases isShell with
  | absent => exact fun _ member => nomatch member
  | first =>
    intro tool member
    cases member
    exact ⟨_, _, rfl⟩

/-- What is all found on lines of a path with a blank stays in its order. -/
theorem insertionSort_of_blank {tools : List DetectedTool} (blank : 32 ∈ rel)
    (found : ∀ tool ∈ tools, ∃ line, FoundAt rel tool line) :
    tools.insertionSort (fun first second =>
      sourceLine scanner first ≤ sourceLine scanner second) = tools := by
  refine List.Pairwise.insertionSort_eq (List.pairwise_of_forall_mem_list ?_)
  intro first inTools second alsoInTools
  obtain ⟨line, atLine⟩ := found first inTools
  obtain ⟨later, atLater⟩ := found second alsoInTools
  exact le_of_eq (sourceLine_of_blank blank atLine atLater)

/-- **A scan returns the tool of each node that declares one, and the shell that the module runs
first if it runs one, in the order of their lines.** It returns unless the schema of a registry
fails in a way that is not expected. -/
theorem scan_returns_declared :
    (∃ tools, scanModule scanner rel tree = .ok tools ∧ ScanOf scanner rel tree tools) ↔
      ∀ node ∈ tree.walk, Evaluable scanner node := by
  refine ⟨fun ⟨tools, scanned, _⟩ => scanModule_returns_iff.mp ⟨tools, scanned⟩, ?_⟩
  intro evaluable
  obtain ⟨tools, scanned⟩ := scanModule_returns_iff.mpr evaluable
  refine ⟨tools, scanned, ?_⟩
  obtain ⟨found, folded, returned⟩ := Checks.bind_eq_ok.mp scanned
  have out : found.out = tree.walk.flatMap (toolsOf scanner (collect tree) rel) :=
    Checks.output_foldlM (fun _ _ _ scanned => out_of_scanNode scanned) folded
  have shell : found.subprocessHit = tree.walk.findSome? (shellHit scanner (collect tree) rel) :=
    Checks.found_foldlM (fun _ _ _ scanned => subprocessHit_of_scanNode scanned) folded
  cases returned
  have isShell : ShellOf scanner rel tree (found.subprocessHit.map (shellTool rel)) :=
    shell ▸ shellOf_findSome?
  have made (node : Node) (declared : DetectedTool) :
      (toolOf scanner (collect tree) rel node).toOption.bind id = some declared ↔
        Declares scanner rel tree node declared := by
    rw [← toolOf_eq_some]
    cases toolOf scanner (collect tree) rel node <;> simp [Except.toOption]
  have walked : found.out ++ found.subprocessHit.toList.map (shellTool rel) =
      (tree.walk.map fun node =>
        (toolOf scanner (collect tree) rel node).toOption.bind id).reduceOption ++
        (found.subprocessHit.map (shellTool rel)).toList := by
    show _ = List.filterMap id _ ++ _
    rw [out, List.filterMap_map, List.filterMap_eq_flatMap_toList]
    cases found.subprocessHit <;> rfl
  rw [walked]
  refine ⟨⟨_, _, ?_, isShell, List.perm_insertionSort _ _, fun blank => ?_⟩, fun solid => ?_⟩
  · rw [List.forall₂_map_right_iff, List.forall₂_same]
    exact fun node _ => made node
  · refine insertionSort_of_blank blank fun tool member => ?_
    rcases List.mem_append.mp member with inMade | inShell
    · obtain ⟨node, _, same⟩ := List.mem_map.mp (List.reduceOption_mem_iff.mp inMade)
      exact ((made node tool).mp same).foundAt
    · exact isShell.foundAt tool (Option.mem_toList.mp inShell)
  · refine (List.pairwise_insertionSort _ _).imp ?_
    intro first second ordered line later atLine atLater short shortLater
    rw [sourceLine_of_foundAt solid atLine short,
      sourceLine_of_foundAt solid atLater shortLater] at ordered
    exact Int.ofNat_le.mp ordered

end Declared

end AxorWrap.Compile
