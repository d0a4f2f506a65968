/-
This file says which tools are found that are declared by a constructor: by
`StructuredTool.from_function(...)` or by `Tool(...)` (`axor_wrap/detect.py`).

The constructors take the function, the name and the description by position or by keyword. The
detector looks among the keywords only. It finds what is declared by keyword, under a name that is
imported from langchain, of a function that is the first of its name; a function that is given by
position it does not find at all.
-/

import AxorWrap.Compile.Detect
import AxorWrap.Library.Naming

namespace AxorWrap.Compile

open Python

/-! ### Declared tools -/

/-- What is called: `S.from_function`, or `T`. -/
def ToolClass.func (bound : PyStr) : ToolClass → Node
  | .structuredTool => .attribute (.name bound) "from_function"
  | .tool => .name bound

/-- The parameters that positional arguments are for, as langchain has them. -/
def ToolClass.positions : ToolClass → List PyStr
  | .structuredTool => ["func", "coroutine", "name", "description"]
  | .tool => ["name", "func", "description"]

/-- The kind of detector that a source names. -/
def ToolClass.kind : ToolClass → PyStr
  | .structuredTool => "langchain:StructuredTool.from_function"
  | .tool => "langchain:Tool()"

/-- The argument is `*args`, or whatever is unpacked. -/
def isStarred : Node → Bool
  | .starred _ => true
  | _ => false

/-- The arguments that are given by keyword. -/
def keywordsOf (call : Call Node) : List (PyStr × Node) :=
  call.keywords.filterMap fun keyword => keyword.1.map fun name => (name, keyword.2)

/-- The arguments whose parameters can be told. -/
def argumentsBound (toolClass : ToolClass) (call : Call Node) : List (PyStr × Node) :=
  toolClass.positions.zip (call.args.takeWhile fun arg => !isStarred arg) ++ keywordsOf call

/-- The text that an expression has when the module runs. -/
structure Meaning where
  text : Node → PyStr
  literal : ∀ name, text (.constant (.str name)) = name

/-- A call that declares a tool, and the function of the module that it wraps. -/
structure Declaration (tree : Node) where
  toolClass : ToolClass
  /-- What the class is called. -/
  bound : PyStr
  call : Call Node
  fn : FunctionDef Node
  called : .call call ∈ tree.walk
  constructs : call.func = toolClass.func bound
  once : ((argumentsBound toolClass call).map Prod.fst).Nodup
  defined : .functionDef fn ∈ tree.walk
  wraps : (PyStr.ofString "func", .name fn.name) ∈ argumentsBound toolClass call

variable {tree : Node}

/-- The name that a tool is given, or that of its function. -/
def Declaration.id (declaration : Declaration tree) (meaning : Meaning) : PyStr :=
  match (argumentsBound declaration.toolClass declaration.call).lookup (PyStr.ofString "name") with
  | none | some (.constant .null) => declaration.fn.name
  | some name => meaning.text name

/-- The scan returns the tool that is declared. -/
def Declaration.Detected (declaration : Declaration tree) (scanner : Scanner) (rel : PyStr)
    (meaning : Meaning) : Prop :=
  ∃ tools, scanModule scanner rel tree = .ok tools ∧ ∃ tool ∈ tools,
    fromCall scanner (collect tree) rel declaration.call = some tool ∧
      tool.id = declaration.id meaning ∧ tool.argsSchema = (schemaOf declaration.fn).1

/-- The class goes by a name that is imported from langchain, or by its own. By its own name alone
`Tool` is known only where a name is given by keyword. -/
def Declaration.Known (declaration : Declaration tree) : Prop :=
  (∃ node ∈ tree.walk, Imports declaration.toolClass declaration.bound node) ∨
    declaration.bound = declaration.toolClass.text ∧
      (declaration.toolClass = .structuredTool ∨
        ∃ value, (some (PyStr.ofString "name"), value) ∈ declaration.call.keywords)

/-- When a declared tool is found. -/
structure Declaration.Recognised (declaration : Declaration tree) (scanner : Scanner)
    (meaning : Meaning) : Prop where
  evaluable : ∀ node ∈ tree.walk, Evaluable scanner node
  known : declaration.Known
  /-- The function is given by keyword. -/
  byKeyword : (some (PyStr.ofString "func"), .name declaration.fn.name) ∈ declaration.call.keywords
  /-- The name is given by keyword and is a literal, or it is that of the function. -/
  named : (∃ name, (some (PyStr.ofString "name"), .constant (.str name)) ∈
      declaration.call.keywords) ∨ declaration.id meaning = declaration.fn.name
  /-- The first function of this name has the schema of this one. -/
  first : ∀ first, tree.walk.findSome? (definition declaration.fn.name) = some first →
    (schemaOf first).1 = (schemaOf declaration.fn).1

/-! ### Arguments -/

section Arguments

variable {call : Call Node} {name : PyStr} {value : Node}

theorem mem_keywordsOf : (name, value) ∈ keywordsOf call ↔ (some name, value) ∈ call.keywords := by
  simp [keywordsOf]

theorem kwarg_eq_lookup : kwarg call name = (keywordsOf call).lookup name := by
  unfold kwarg keywordsOf
  induction call.keywords with
  | nil => rfl
  | cons keyword rest inductionHypothesis =>
    obtain ⟨arg, value⟩ := keyword
    rw [List.findSome?_cons]
    cases arg with
    | none =>
      rw [if_neg (Option.some_ne_none name).symm, List.filterMap_cons_none rfl]
      exact inductionHypothesis
    | some arg =>
      show _ = List.lookup name ((arg, value) :: List.filterMap _ rest)
      rw [List.lookup_cons]
      by_cases same : arg = name
      · rw [same, if_pos rfl, beq_self_eq_true]
      · rw [if_neg (mt Option.some.inj same), beq_eq_false_iff_ne.mpr (Ne.symm same)]
        exact inductionHypothesis

theorem constantText_eq_some {node : Node} {text : PyStr} :
    constantText node = some text ↔ node = .constant (.str text) := by
  unfold constantText
  split
  · simp
  · next other =>
    refine iff_of_false (Option.some_ne_none text).symm ?_
    rintro rfl
    exact other text rfl

end Arguments

section Declared

variable (declaration : Declaration tree)

/-- An argument that is given by keyword is bound. -/
theorem Declaration.kwarg_eq_some {name : PyStr} {value : Node} :
    kwarg declaration.call name = some value ↔ (some name, value) ∈ declaration.call.keywords := by
  have once := declaration.once
  rw [argumentsBound, List.map_append] at once
  rw [kwarg_eq_lookup, Naming.lookup_eq_some_iff_mem (List.nodup_append.mp once).2.1,
    mem_keywordsOf]

/-- The function is found where it is given by keyword: it is the first of its name. -/
theorem Declaration.resolve_eq_some {first : FunctionDef Node} :
    resolve (collect tree) (kwarg declaration.call "func") = some first ↔
      (some (PyStr.ofString "func"), .name declaration.fn.name) ∈ declaration.call.keywords ∧
        tree.walk.findSome? (definition declaration.fn.name) = some first := by
  rw [← lookup_collect, ← declaration.kwarg_eq_some]
  cases found : kwarg declaration.call "func" with
  | none =>
    refine iff_of_false (Option.some_ne_none first).symm ?_
    rintro ⟨⟨⟩, _⟩
  | some value =>
    rw [declaration.kwarg_eq_some, ← mem_keywordsOf] at found
    have same := ((Naming.lookup_eq_some_iff_mem declaration.once).mpr
      (List.mem_append_right _ found)).symm.trans
        ((Naming.lookup_eq_some_iff_mem declaration.once).mpr declaration.wraps)
    rw [Option.some.inj same]
    exact (and_iff_right rfl).symm

/-- A literal that is given by keyword is the name of the tool. -/
theorem Declaration.id_of_kwargStr {meaning : Meaning} {name : PyStr}
    (given : kwargStr declaration.call "name" = some name) : declaration.id meaning = name := by
  obtain ⟨value, found, text⟩ := Option.bind_eq_some_iff.mp given
  rw [constantText_eq_some.mp text, declaration.kwarg_eq_some, ← mem_keywordsOf] at found
  have bound := (Naming.lookup_eq_some_iff_mem declaration.once).mpr
    (List.mem_append_right _ found)
  unfold Declaration.id
  rw [bound]
  exact meaning.literal name

/-- The name that is read is the one that is given, if that is a keyword literal, or the name of
the function. -/
theorem Declaration.named_iff {meaning : Meaning} :
    (kwargStr declaration.call "name").getD declaration.fn.name = declaration.id meaning ↔
      (∃ name, (some (PyStr.ofString "name"), .constant (.str name)) ∈
        declaration.call.keywords) ∨ declaration.id meaning = declaration.fn.name := by
  have literal (name : PyStr) : kwargStr declaration.call "name" = some name ↔
      (some (PyStr.ofString "name"), .constant (.str name)) ∈ declaration.call.keywords := by
    rw [kwargStr, Option.bind_eq_some_iff]
    simp only [constantText_eq_some, exists_eq_right, declaration.kwarg_eq_some]
  simp only [← literal]
  cases given : kwargStr declaration.call "name" with
  | some name => exact iff_of_true (declaration.id_of_kwargStr given).symm (.inl ⟨name, rfl⟩)
  | none => simp [eq_comm]

/-- When the detector takes the call for one of a constructor. -/
def Declaration.Matched (declaration : Declaration tree) (ctx : ModuleContext) : Prop :=
  declaration.bound ∈ declaration.toolClass.names ctx ∨
    declaration.toolClass = .tool ∧ declaration.bound = PyStr.ofString "Tool" ∧
      (kwarg declaration.call "name").isSome ∧ (kwarg declaration.call "func").isSome

theorem Declaration.fromCall_eq_some {scanner : Scanner} {ctx : ModuleContext} {rel : PyStr}
    {tool : DetectedTool} :
    fromCall scanner ctx rel declaration.call = some tool ↔ declaration.Matched ctx ∧
      toolFromCtor scanner ctx rel declaration.call declaration.toolClass.kind = some tool := by
  have constructs := declaration.constructs
  unfold fromCall Declaration.Matched
  rw [constructs]
  cases declaration.toolClass with
  | structuredTool =>
    show (if PyStr.ofString "from_function" = PyStr.ofString "from_function" ∧
      declaration.bound ∈ ctx.structuredToolNames then _ else none) = some tool ↔ _
    rw [Option.ite_none_right_eq_some]
    refine and_congr_left fun _ => ?_
    rw [and_iff_right rfl]
    exact (or_iff_left fun both => ToolClass.noConfusion both.1).symm
  | tool =>
    show (if declaration.bound ∈ ctx.toolClassNames ∨ _ then _ else none) = some tool ↔ _
    rw [Option.ite_none_right_eq_some]
    refine and_congr_left fun _ => or_congr_right ?_
    exact (and_iff_right rfl).symm

/-- A call with a function by keyword is matched if the class is known. -/
theorem Declaration.matched_iff
    (byKeyword : (some (PyStr.ofString "func"), .name declaration.fn.name) ∈
      declaration.call.keywords) :
    declaration.Matched (collect tree) ↔ declaration.Known := by
  have present : kwarg declaration.call "func" = some (.name declaration.fn.name) :=
    declaration.kwarg_eq_some.mpr byKeyword
  unfold Declaration.Matched Declaration.Known
  rw [mem_names_collect, present, Option.isSome_iff_exists]
  simp only [declaration.kwarg_eq_some]
  cases declaration.toolClass with
  | structuredTool => simp [ToolClass.text]
  | tool => simp [ToolClass.text]

end Declared

theorem length_schemaOf (fn : FunctionDef Node) : (schemaOf fn).1.length = 3 := by
  show (if _ then _ else _ : LiteralEntries).length = 3
  split <;> rfl

/-- The tool of a constructor has the schema of a function if that is the one that is resolved. -/
theorem toolFromCtor_iff {scanner : Scanner} {ctx : ModuleContext} {rel kind id : PyStr}
    {call : Call Node} {fn : FunctionDef Node} :
    (∃ tool, toolFromCtor scanner ctx rel call kind = some tool ∧ tool.id = id ∧
      tool.argsSchema = (schemaOf fn).1) ↔
      ∃ first, resolve ctx (kwarg call "func") = some first ∧
        (kwargStr call "name").getD first.name = id ∧ (schemaOf first).1 = (schemaOf fn).1 := by
  unfold toolFromCtor
  cases resolve ctx (kwarg call "func") with
  | none =>
    -- The bare schema of a function that cannot be followed is that of no function.
    have bare (tool : DetectedTool) (same : tool.argsSchema = [(.str "type", .str "object")]) :
        tool.argsSchema ≠ (schemaOf fn).1 := by
      intro inferred
      have length := congrArg List.length (same.symm.trans inferred)
      rw [length_schemaOf] at length
      cases length
    constructor
    · rintro ⟨tool, made, _, inferred⟩
      cases named : kwargStr call "name" with
      | none =>
        rw [named] at made
        cases made
      | some name =>
        rw [named] at made
        cases made
        exact absurd inferred (bare _ rfl)
    · rintro ⟨_, ⟨⟩, _⟩
  | some first =>
    simp only [Option.map_some, Option.or_some]
    constructor
    · rintro ⟨tool, made, named, inferred⟩
      cases made
      exact ⟨first, rfl, named, inferred⟩
    · rintro ⟨_, ⟨⟩, named, inferred⟩
      exact ⟨_, rfl, named, inferred⟩

/-- A function of the module is the first of its name, or comes after that. -/
theorem exists_first {fn : FunctionDef Node} (defined : .functionDef fn ∈ tree.walk) :
    ∃ first, tree.walk.findSome? (definition fn.name) = some first := by
  refine Option.isSome_iff_exists.mp (List.findSome?_isSome_iff.mpr ⟨_, defined, ?_⟩)
  rw [definition, if_pos rfl]
  rfl

theorem name_of_first {name : PyStr} {first : FunctionDef Node}
    (found : tree.walk.findSome? (definition name) = some first) : first.name = name := by
  obtain ⟨node, _, defines⟩ := List.exists_of_findSome?_eq_some found
  unfold definition at defines
  split at defines
  · rw [Option.ite_none_right_eq_some] at defines
    obtain ⟨same, ⟨⟩⟩ := defines
    exact same
  · cases defines

/-- **A tool that is declared by a constructor is found exactly if its function is given by
keyword and is the first of its name, and its name is a keyword literal or that of the
function.** -/
theorem detected_iff (declaration : Declaration tree) (scanner : Scanner) (rel : PyStr)
    (meaning : Meaning) :
    declaration.Detected scanner rel meaning ↔ declaration.Recognised scanner meaning := by
  constructor
  · rintro ⟨tools, scanned, tool, member, made, named, inferred⟩
    obtain ⟨matched, built⟩ := declaration.fromCall_eq_some.mp made
    obtain ⟨first, resolved, given, same⟩ := toolFromCtor_iff.mp ⟨tool, built, named, inferred⟩
    obtain ⟨byKeyword, found⟩ := declaration.resolve_eq_some.mp resolved
    have firstName := name_of_first found
    refine ⟨scanModule_returns_iff.mp ⟨tools, scanned⟩,
      (declaration.matched_iff byKeyword).mp matched, byKeyword, ?_, ?_⟩
    · rw [firstName] at given
      exact declaration.named_iff.mp given
    · intro other foundOther
      cases found.symm.trans foundOther
      exact same
  · intro recognised
    obtain ⟨tools, scanned⟩ := scanModule_returns_iff.mpr recognised.evaluable
    obtain ⟨first, found⟩ := exists_first declaration.defined
    have resolved := declaration.resolve_eq_some.mpr ⟨recognised.byKeyword, found⟩
    have given : (kwargStr declaration.call "name").getD first.name = declaration.id meaning := by
      rw [name_of_first found]
      exact declaration.named_iff.mpr recognised.named
    obtain ⟨tool, built, named, inferred⟩ :=
      toolFromCtor_iff.mpr ⟨first, resolved, given, recognised.first first found⟩
    have made := declaration.fromCall_eq_some.mpr
      ⟨(declaration.matched_iff recognised.byKeyword).mpr recognised.known, built⟩
    exact ⟨tools, scanned, tool, mem_of_scanModule scanned declaration.called
      (congrArg Except.ok made), made, named, inferred⟩

/-- `def search(query: str): ...` -/
def searchFunction : FunctionDef Node where
  lineno := 2
  name := "search"
  signature := { args := [{ arg := "query", annotation := some (.name "str") }] }
  body := [.expr (.constant .ellipsis)]

/-- `StructuredTool.from_function(search)` -/
def searchCall : Call Node where
  lineno := 3
  func := .attribute (.name "StructuredTool") "from_function"
  args := [.name "search"]

/-- A module that imports `StructuredTool`, defines the function, and makes a tool of it. -/
def searchModule : Node :=
  .other [.importFrom (some "langchain_core.tools") [{ name := "StructuredTool" }],
    .functionDef searchFunction, .expr (.call searchCall)]

def positionalSearch : Declaration searchModule where
  toolClass := .structuredTool
  bound := "StructuredTool"
  call := searchCall
  fn := searchFunction
  called := by
    have statement : .expr (.call searchCall) ∈ searchModule.walk :=
      Node.mem_walk_of_child (Node.mem_walk_self _) (.tail _ (.tail _ (.head _)))
    exact Node.mem_walk_of_child statement (.head _)
  constructs := rfl
  once := by decide
  defined := Node.mem_walk_of_child (Node.mem_walk_self _) (.tail _ (.head _))
  wraps := .head _

/-- The names of trials are literals. -/
def Meaning.trial : Meaning where
  text node := (constantText node).getD []
  literal _ := rfl

/-- A function that is given by position is not found. -/
theorem positional_missed :
    ¬ positionalSearch.Detected Scanner.trial "agent.py" Meaning.trial := by
  rintro ⟨_, _, _, _, made, _⟩
  have built := (positionalSearch.fromCall_eq_some.mp made).2
  cases built

end AxorWrap.Compile
