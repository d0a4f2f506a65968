/-
This file models the syntax trees that `ast.parse` builds, and the order in which `ast.walk` goes
through them.

A node has the fields that are read of it somewhere in this package, and all its child nodes: a
call may stand anywhere below a module. Of the child nodes those are left out that have no
children and that nothing reads: contexts, operators and aliases.
-/

import AxorWrap.Library.Walk
import AxorWrap.Python.Literal

namespace AxorWrap.Python

/-! ### Nodes -/

/-- A parameter of a function, with its default if it has one. -/
structure Param (N : Type) where
  arg : PyStr
  annotation : Option N := none
  default : Option N := none

/-- The parameters of a function. The variadic ones have no default. -/
structure Signature (N : Type) where
  posonlyargs : List (Param N) := []
  args : List (Param N) := []
  vararg : Option (PyStr × Option N) := none
  kwonlyargs : List (Param N) := []
  kwarg : Option (PyStr × Option N) := none

/-- The parameter with its nodes read. -/
def Param.map {M N : Type} (read : M → N) (param : Param M) : Param N where
  arg := param.arg
  annotation := param.annotation.map read
  default := param.default.map read

/-- The signature with its nodes read. -/
def Signature.map {M N : Type} (read : M → N) (signature : Signature M) : Signature N where
  posonlyargs := signature.posonlyargs.map (Param.map read)
  args := signature.args.map (Param.map read)
  vararg := signature.vararg.map (Prod.map id (Option.map read))
  kwonlyargs := signature.kwonlyargs.map (Param.map read)
  kwarg := signature.kwarg.map (Prod.map id (Option.map read))

/-- An `ast.FunctionDef` or an `ast.AsyncFunctionDef`. -/
structure FunctionDef (N : Type) where
  lineno : Nat
  name : PyStr
  signature : Signature N
  body : List N
  decoratorList : List N := []
  rest : List N := []

/-- An `ast.Call` -/
structure Call (N : Type) where
  lineno : Nat
  func : N
  args : List N := []
  keywords : List (Option PyStr × N) := []

/-- An `ast.Dict`: keys with values. An unpacked value has no key. -/
structure DictDisplay (N : Type) where
  lineno : Nat
  items : List (Option N × N)

/-- An `ast.alias` -/
structure Alias where
  name : PyStr
  asname : Option PyStr := none

/-- An `ast.AST` -/
inductive Node
  | name (id : PyStr)
  | constant (value : Literal)
  | attribute (value : Node) (attr : PyStr)
  | subscript (value slice : Node)
  /-- `left | right` -/
  | bitOr (left right : Node)
  | starred (value : Node)
  | call (call : Call Node)
  | keyword (arg : Option PyStr) (value : Node)
  | dict (display : DictDisplay Node)
  | functionDef (fn : FunctionDef Node)
  | arguments (signature : Signature Node)
  | arg (arg : PyStr) (hint : Option Node)
  | importFrom (module : Option PyStr) (names : List Alias)
  | assign (targets : List Node) (value : Node)
  /-- A statement that is an expression. -/
  | expr (value : Node)
  | other (children : List Node)

/-! ### The walk -/

/-- The `ast.arg` of a parameter. -/
def Param.node (param : Param Node) : Node := .arg param.arg param.annotation

/-- The `ast.arg` of a variadic parameter. -/
def variadicNode (param : PyStr × Option Node) : Node := .arg param.1 param.2

/-- The child nodes of the parameters: the parameters in order, with the defaults of the keyword
parameters before the last, and those of the positional ones at the end. -/
def Signature.children (signature : Signature Node) : List Node :=
  signature.posonlyargs.map Param.node ++ signature.args.map Param.node ++
    signature.vararg.toList.map variadicNode ++ signature.kwonlyargs.map Param.node ++
    signature.kwonlyargs.filterMap Param.default ++ signature.kwarg.toList.map variadicNode ++
    (signature.posonlyargs ++ signature.args).filterMap Param.default

/-- `ast.iter_child_nodes` -/
def Node.children : Node → List Node
  | .name _ | .constant _ | .importFrom _ _ => []
  | .attribute value _ | .starred value | .keyword _ value | .expr value => [value]
  | .subscript value slice => [value, slice]
  | .bitOr left right => [left, right]
  | .call invoked => invoked.func :: invoked.args ++
      invoked.keywords.map fun pair => .keyword pair.1 pair.2
  | .dict display => display.items.filterMap Prod.fst ++ display.items.map Prod.snd
  | .functionDef fn => .arguments fn.signature :: fn.body ++ fn.decoratorList ++ fn.rest
  | .arguments signature => signature.children
  | .arg _ hint => hint.toList
  | .assign targets value => targets ++ [value]
  | .other children => children

/-- The sizes of some nodes together. -/
noncomputable def weight (nodes : List Node) : Nat := Walks.total sizeOf nodes

@[simp] theorem weight_nil : weight [] = 0 := rfl

@[simp] theorem weight_cons (node : Node) (rest : List Node) :
    weight (node :: rest) = sizeOf node + weight rest := rfl

@[simp] theorem weight_append (first second : List Node) :
    weight (first ++ second) = weight first + weight second :=
  Walks.total_append sizeOf first second

theorem weight_lt (nodes : List Node) : weight nodes < sizeOf nodes := by
  induction nodes with
  | nil => simp
  | cons node rest inductionHypothesis =>
    rw [weight_cons, List.cons.sizeOf_spec]
    omega

theorem weight_keywords (keywords : List (Option PyStr × Node)) :
    weight (keywords.map fun pair => .keyword pair.1 pair.2) < sizeOf keywords := by
  induction keywords with
  | nil => simp
  | cons pair rest inductionHypothesis =>
    obtain ⟨arg, value⟩ := pair
    simp
    omega

theorem weight_items (items : List (Option Node × Node)) :
    weight (items.filterMap Prod.fst) + weight (items.map Prod.snd) < sizeOf items := by
  induction items with
  | nil => simp
  | cons item rest inductionHypothesis =>
    obtain ⟨key, value⟩ := item
    cases key <;> simp <;> omega

theorem weight_params (params : List (Param Node)) :
    weight (params.map Param.node) + weight (params.filterMap Param.default) < sizeOf params := by
  induction params with
  | nil => simp
  | cons param rest inductionHypothesis =>
    obtain ⟨arg, hint, default⟩ := param
    cases default <;> simp [Param.node] <;> omega

theorem weight_variadic (variadic : Option (PyStr × Option Node)) :
    weight (variadic.toList.map variadicNode) < sizeOf variadic := by
  cases variadic with
  | none => simp
  | some param =>
    obtain ⟨arg, hint⟩ := param
    simp [variadicNode]

/-- The children of a node are smaller together than the node. -/
theorem Node.smaller (node : Node) : weight node.children < sizeOf node := by
  cases node with
  | call invoked =>
    obtain ⟨lineno, func, args, keywords⟩ := invoked
    have args := weight_lt args
    have keywords := weight_keywords keywords
    simp [Node.children]
    omega
  | functionDef fn =>
    obtain ⟨lineno, name, signature, body, decoratorList, rest⟩ := fn
    have body := weight_lt body
    have decoratorList := weight_lt decoratorList
    have rest := weight_lt rest
    simp [Node.children]
    omega
  | arguments signature =>
    obtain ⟨posonlyargs, args, vararg, kwonlyargs, kwarg⟩ := signature
    have posonlyargs := weight_params posonlyargs
    have args := weight_params args
    have vararg := weight_variadic vararg
    have kwonlyargs := weight_params kwonlyargs
    have kwarg := weight_variadic kwarg
    simp [Node.children, Signature.children]
    omega
  | dict display =>
    obtain ⟨lineno, items⟩ := display
    have items := weight_items items
    simp [Node.children]
    omega
  | assign targets value =>
    have targets := weight_lt targets
    simp [Node.children]
    omega
  | other children =>
    have children := weight_lt children
    simp [Node.children]
    omega
  | arg arg hint =>
    cases hint with
    | none => simp [Node.children]
    | some hint =>
      simp [Node.children]
      omega
  | _ => simp [Node.children] <;> omega

/-- The nodes of syntax trees. -/
def syntaxGrove : Walks.Grove Node where
  children := Node.children
  smaller := ⟨sizeOf, Node.smaller⟩

/-- `ast.walk` -/
def Node.walk (tree : Node) : List Node := syntaxGrove.walk [tree]

theorem Node.mem_walk_self (tree : Node) : tree ∈ tree.walk :=
  Walks.mem_walk.mpr ⟨tree, List.mem_singleton_self _, .refl⟩

theorem Node.mem_walk_of_child {tree parent child : Node} (member : parent ∈ tree.walk)
    (isChild : child ∈ parent.children) : child ∈ tree.walk :=
  Walks.mem_walk_of_child member isChild

end AxorWrap.Python
