/-
This file models the declarative output of the compilation, `governance_yaml` with `_yaml_list` and
`_q` (`axor_wrap/compile.py`), and what a reader of YAML makes of it.

Every text is quoted by JSON's rules. YAML reads each of its escapes as one point, so a point above
`0xFFFF`, which JSON writes as the escapes of its two surrogates, is read as the surrogates.
-/

import AxorWrap.Compile.Manifests
import AxorWrap.Library.Yaml
import AxorWrap.Python.Json

namespace AxorWrap.Compile

open Python Yaml

/-! ### The text -/

/-- `_q` -/
def q (value : PyStr) : PyStr := dumpsText value

/-- An item of a block list at this depth. -/
def itemLine (depth : Nat) (value : PyStr) : PyStr := blanks depth ++ (45 :: 32 :: q value)

/-- A quoted key of a block map at this depth. -/
def keyLine (depth : Nat) (key : PyStr) : PyStr := blanks depth ++ (q key ++ [58])

/-- A section is left out when it is empty. -/
def sectionLines (key : PyStr) (body : List PyStr) : List PyStr :=
  if body.isEmpty then [] else (key ++ [58]) :: body

/-- `_yaml_list` -/
def yamlList (key : PyStr) (values : List PyStr) : List PyStr :=
  sectionLines key (values.map (itemLine 2))

/-- The driving arguments of a tool. -/
def drivingLines (driving : Table (List PyStr)) (tool : PyStr) : List PyStr :=
  keyLine 2 tool :: ((driving.lookup tool).getD []).map (itemLine 4)

/-- A predicate of a sink. -/
def predicateLines (predicate : EnumPredicate) : List PyStr :=
  (PyStr.ofString "    - arg: " ++ q predicate.arg) :: PyStr.ofString "      kind: enum" ::
    PyStr.ofString "      allowed:" :: predicate.allowed.map (itemLine 8)

/-- The value policies of a sink. -/
def policyLines (policies : Table (Table EnumSpec)) (tool : PyStr) : List PyStr :=
  keyLine 2 tool :: (((policies.lookup tool).elim [] predicatesOf).flatMap predicateLines)

def headerLines (count : Nat) : List PyStr :=
  [PyStr.ofString "# governance.yaml — generated by axor-wrap from " ++ natText count ++
      PyStr.ofString " tool manifest(s)",
    PyStr.ofString "# load with axor_core.config.GovernanceConfig.from_yaml(...) " ++
      PyStr.ofString "(needs axor-core[config])"]

def bodyLines (canon : Canon) : List PyStr :=
  yamlList "untrusted_sources" canon.untrustedSources ++
  yamlList "sensitive_sources" canon.sensitiveSources ++
  yamlList "egress_sinks" canon.egressSinks ++
  sectionLines "driving_args" ((sorted canon.drivingArgs.keys).flatMap
    (drivingLines canon.drivingArgs)) ++
  sectionLines "value_policies" ((sorted canon.valuePolicies.keys).flatMap
    (policyLines canon.valuePolicies))

def yamlOf (count : Nat) (canon : Canon) : PyStr :=
  PyStr.join [10] (headerLines count ++ bodyLines canon) ++ [10]

/-- `governance_yaml` -/
def governanceYaml (unicode : Unicode) (manifests : List Entries) (policy : Option Entries) :
    Except PyError PyStr := do
  let canon ← compileManifests unicode manifests policy none
  return yamlOf manifests.length canon

/-! ### The configuration in a document -/

/-- What a document configures, as far as it is compiled here. -/
structure Config where
  untrustedSources : List PyStr := []
  sensitiveSources : List PyStr := []
  egressSinks : List PyStr := []
  drivingArgs : List (PyStr × List PyStr) := []
  valuePolicies : List (PyStr × List EnumPredicate) := []
  consequenceOverrides : List (PyStr × PyStr) := []

/-- A quoted scalar is a text. -/
def readText : Node → Option PyStr
  | .scalar (.quoted text) => some text
  | _ => none

/-- A list; nothing is an empty one. -/
def readList {α : Type} (read : Node → Option α) : Node → Option (List α)
  | .null => some []
  | .list items => items.mapM read
  | _ => none

/-- A map; nothing is an empty one. -/
def readTable {α : Type} (read : Node → Option α) : Node → Option (List (PyStr × α))
  | .null => some []
  | .map entries => entries.mapM fun entry => do return (entry.1.text, ← read entry.2)
  | _ => none

/-- The predicate of kind `enum`. -/
def readPredicate : Node → Option EnumPredicate
  | .map entries => do
    let arg ← readText (valueAt "arg" entries)
    let allowed ← readList readText (valueAt "allowed" entries)
    match valueAt "kind" entries with
    | .scalar kind => if kind.text = "enum" then return ⟨arg, allowed⟩ else none
    | _ => none
  | _ => none

/-- The configuration in a document; an empty one configures nothing. -/
def readConfig : Node → Option Config
  | .null => some {}
  | .map entries => do
    return {
      untrustedSources := ← readList readText (valueAt "untrusted_sources" entries)
      sensitiveSources := ← readList readText (valueAt "sensitive_sources" entries)
      egressSinks := ← readList readText (valueAt "egress_sinks" entries)
      drivingArgs := ← readTable (readList readText) (valueAt "driving_args" entries)
      valuePolicies := ← readTable (readList readPredicate) (valueAt "value_policies" entries)
      consequenceOverrides := ← readTable readText (valueAt "consequence_overrides" entries) }
  | _ => none

def readBack (text : PyStr) : Option Config := (Yaml.read text).bind readConfig

end AxorWrap.Compile
