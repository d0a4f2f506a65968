/-
This file models the guess of a tool's effect: `infer_effect`, `_classify`, `_tokens` and
`_arg_names` (`axor_wrap/roles.py`), on what the scanner found of the tool.

The sets of the source are lists here. Of a set the code asks only what is in it, and which text
in it comes first.
-/

import AxorWrap.Compile.Manifests
import AxorWrap.Python.Literal

namespace AxorWrap.Compile

open Python

/-! ### A detected tool -/

/-- `DetectedTool` -/
structure DetectedTool where
  id : PyStr
  source : PyStr
  description : PyStr
  argsSchema : LiteralEntries := []
  framework : PyStr := "langchain"
  schemaConfidence : PyStr := "high"

/-! ### Tokens -/

def isUpper (point : CodePoint) : Bool := 65 ≤ point.val && point.val ≤ 90

def isLower (point : CodePoint) : Bool := 97 ≤ point.val && point.val ≤ 122

def isDigit (point : CodePoint) : Bool := 48 ≤ point.val && point.val ≤ 57

/-- A blank goes where a capital follows a small letter or a digit. -/
def spaced : PyStr → PyStr
  | first :: second :: rest =>
    if (isLower first || isDigit first) && isUpper second then
      first :: 32 :: spaced (second :: rest)
    else first :: spaced (second :: rest)
  | text => text

/-- `lower()` of a letter. -/
def lowerLetter (point : CodePoint) : CodePoint := if isUpper point then point + 32 else point

/-- `_tokens` -/
def tokens (text : PyStr) : List PyStr :=
  ((spaced text).splitOnP (fun point => !(isUpper point || isLower point))).filterMap fun word =>
    if word.isEmpty then none else some (word.map lowerLetter)

/-- `first & second` -/
def common (first second : List PyStr) : List PyStr := first.filter (· ∈ second)

/-- `sorted(texts)[0]` -/
def firstOf (texts : List PyStr) : PyStr := (sorted texts).headD []

/-! ### Token sets -/

def execTokens : List PyStr :=
  ["shell", "exec", "execute", "run", "eval", "bash", "sh", "subprocess", "command", "cmd",
    "terminal", "spawn"]

def exportTokens : List PyStr :=
  ["send", "post", "publish", "upload", "slack", "notify", "tweet", "share", "broadcast", "submit",
    "transfer", "pay", "sms", "dm", "forward", "reply"]

def writeTokens : List PyStr :=
  ["write", "update", "create", "insert", "delete", "remove", "set", "save", "edit", "append",
    "add", "move", "rename", "mkdir", "put", "patch"]

def readTokens : List PyStr :=
  ["read", "get", "search", "list", "fetch", "find", "load", "lookup", "view", "browse", "scrape",
    "download", "query", "inbox", "check", "ls", "cat", "crawl", "retrieve"]

def sqlTokens : List PyStr := ["sql", "query", "db", "database"]

def sqlWriteTokens : List PyStr := ["insert", "update", "delete", "drop", "alter", "write"]

/-- The carrier arguments, in order of preference. -/
def drivingArgOrder : List PyStr :=
  ["to", "recipient", "recipients", "url", "channel", "path", "command", "cmd", "address",
    "destination", "target", "email", "file_path"]

def exportCarrierArgs : List PyStr :=
  ["to", "recipient", "recipients", "channel", "url", "address", "destination", "email"]

def untrustedHints : List PyStr :=
  ["web", "search", "fetch", "http", "https", "browse", "scrape", "inbox", "mail", "email",
    "download", "crawl", "url", "feed", "news", "messages", "page"]

def coarseUntrustedField : PyStr := "result.*"

/-! ### The guess -/

/-- The classes of an effect. -/
inductive EffectClass
  | read
  | write
  | «export»
  | exec
  | unknown
deriving DecidableEq, Repr

def EffectClass.text : EffectClass → PyStr
  | .read => "READ"
  | .write => "WRITE"
  | .export => "EXPORT"
  | .exec => "EXEC"
  | .unknown => "UNKNOWN"

inductive Confidence
  | high
  | medium
  | low
deriving DecidableEq, Repr

def Confidence.text : Confidence → PyStr
  | .high => "high"
  | .medium => "medium"
  | .low => "low"

/-- `EffectGuess` -/
structure EffectGuess where
  defaultClass : EffectClass
  confidence : Confidence
  reason : PyStr
  drivingArgs : List PyStr := []
  untrustedFields : List PyStr := []

variable (interpreter : LiteralInterpreter)

/-- The names of the arguments, if the schema has properties. -/
def argNames (tool : DetectedTool) : List PyStr :=
  match tool.argsSchema.lookup "properties" with
  | some (.dict properties) => properties.map fun property => property.1.toStr interpreter
  | _ => []

/-- `f"{source} token {token!r} → {class}"` -/
def tokenReason (source token : PyStr) (effect : EffectClass) : PyStr :=
  source ++ PyStr.ofString " token " ++ reprText interpreter.toInterpreter token ++
    PyStr.ofString " → " ++ effect.text

/-- `_classify` -/
def classify (words descriptionWords argNames : List PyStr) (source : PyStr) :
    Option (EffectClass × Confidence × PyStr) :=
  let reason := tokenReason interpreter source
  let hit := common words execTokens
  if !hit.isEmpty then some (.exec, .high, reason (firstOf hit) .exec)
  else if !(common words sqlTokens).isEmpty &&
      !(common (words ++ descriptionWords) sqlWriteTokens).isEmpty then
    some (.exec, .medium, source ++ PyStr.ofString " suggests SQL with write verbs → EXEC")
  else
    let hit := common words exportTokens
    if !hit.isEmpty then
      let carriers := common argNames exportCarrierArgs
      if !carriers.isEmpty then
        some (.export, .high, source ++ PyStr.ofString " token " ++
          reprText interpreter.toInterpreter (firstOf hit) ++ PyStr.ofString " + carrier arg " ++
          reprText interpreter.toInterpreter (firstOf carriers) ++ PyStr.ofString " → EXPORT")
      else some (.export, .medium, reason (firstOf hit) .export)
    else
      let hit := common words writeTokens
      if !hit.isEmpty then some (.write, .high, reason (firstOf hit) .write)
      else
        let hit := common words readTokens
        if !hit.isEmpty then some (.read, .high, reason (firstOf hit) .read)
        else none

/-- A guess from the description alone is weaker. -/
def Confidence.weaker : Confidence → Confidence
  | .high => .medium
  | .medium | .low => .low

/-- `infer_effect` -/
def inferEffect (tool : DetectedTool) : EffectGuess :=
  let nameWords := tokens tool.id
  let descriptionWords := tokens tool.description
  let names := argNames interpreter tool
  let driving := drivingArgOrder.filter (· ∈ names)
  if tool.framework = PyStr.ofString "implicit" ∧ tool.id = PyStr.ofString "shell" then
    { defaultClass := .exec
      confidence := .high
      reason := "implicit subprocess/os.system usage"
      drivingArgs := if driving.isEmpty then ["command"] else driving }
  else
    let guess := (classify interpreter nameWords descriptionWords names "name").orElse fun _ =>
      (classify interpreter descriptionWords descriptionWords names "description").map
        fun (effect, confidence, reason) => (effect, confidence.weaker, reason)
    match guess with
    | none =>
      { defaultClass := .unknown
        confidence := .low
        reason := "no heuristic matched — classify manually in the config builder"
        drivingArgs := driving }
    | some (effect, confidence, reason) =>
      { defaultClass := effect
        confidence := confidence
        reason := reason
        drivingArgs := driving
        untrustedFields :=
          if effect = .read ∧
              !(common (nameWords ++ descriptionWords) untrustedHints).isEmpty then
            [coarseUntrustedField]
          else [] }

/-- A guess declares no untrusted fields, or the whole result. -/
theorem untrustedFields_inferEffect (tool : DetectedTool) :
    (inferEffect interpreter tool).untrustedFields = [] ∨
      (inferEffect interpreter tool).untrustedFields = [coarseUntrustedField] := by
  unfold inferEffect
  split
  · exact .inl rfl
  · dsimp only
    split
    · exact .inl rfl
    · dsimp only
      split
      · exact .inr rfl
      · exact .inl rfl

end AxorWrap.Compile
