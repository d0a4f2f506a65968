/-
This file models the values of Python literals, and what `json` makes of them. A literal may be
more than JSON has: a complex number, bytes, an ellipsis, a tuple or a set; and the keys of a
`dict` may be any literal.

`json.dumps` refuses some of these and rewrites others. A tuple is written as a list, and a key
that is no text as a text; and two surrogates that stand together are read as one point. What
`json.loads` reads of the file is then another value.
-/

import AxorWrap.Library.Check
import AxorWrap.Python.Value

namespace AxorWrap.Python

open Checks

/-- The value of a literal. A `dict` lists its entries in insertion order. -/
inductive Literal
  | null
  | bool (flag : Bool)
  | int (number : Int)
  | float (number : PyFloat)
  | complex (real imaginary : PyFloat)
  | str (text : PyStr)
  | bytes (content : Bytes)
  | ellipsis
  | list (items : List Literal)
  | tuple (items : List Literal)
  | set (items : List Literal)
  | dict (entries : List (Literal × Literal))

/-- The entries of a `dict` of literals. -/
abbrev LiteralEntries := List (Literal × Literal)

/-- `entries.get(key)` -/
def LiteralEntries.lookup (entries : LiteralEntries) (key : PyStr) : Option Literal :=
  entries.findSome? fun
    | (.str name, value) => if name = key then some value else none
    | _ => none

/-- An interpreter, with its `repr()` of any literal. That of a set lists it in an order of its
own. -/
structure LiteralInterpreter extends Interpreter where
  reprLiteral : Literal → PyStr

/-- An interpreter for trials: it shows nothing. -/
def LiteralInterpreter.trial : LiteralInterpreter where
  isPrintable _ := false
  isSpace _ := false
  decimal _ := none
  floatText _ := []
  reprLiteral _ := []

/-- `str(literal)` -/
def Literal.toStr (interpreter : LiteralInterpreter) : Literal → PyStr
  | .str text => text
  | literal => interpreter.reprLiteral literal

mutual

/-- The JSON value that a literal is. Only its containers differ in type. -/
def Literal.toValue : Literal → Option Value
  | .null => some .null
  | .bool flag => some (.bool flag)
  | .int number => some (.int number)
  | .float number => some (.float number)
  | .str text => some (.str text)
  | .list items => (Literal.toValues items).map .list
  | .dict entries => (Literal.toEntries entries).map .dict
  | .complex _ _ | .bytes _ | .ellipsis | .tuple _ | .set _ => none

def Literal.toValues : List Literal → Option (List Value)
  | [] => some []
  | item :: rest => do return (← item.toValue) :: (← Literal.toValues rest)

/-- The keys of a JSON object are texts. -/
def Literal.toEntries : List (Literal × Literal) → Option Entries
  | [] => some []
  | (.str key, value) :: rest =>
    do return (.str key, ← value.toValue) :: (← Literal.toEntries rest)
  | _ :: _ => none

end

/-! ### A literal written and read -/

def isHighSurrogate (point : CodePoint) : Bool := 0xd800 ≤ point.val && point.val ≤ 0xdbff

def isLowSurrogate (point : CodePoint) : Bool := 0xdc00 ≤ point.val && point.val ≤ 0xdfff

/-- The point that two surrogates stand for. -/
def surrogatePoint (high low : CodePoint) : CodePoint :=
  Fin.ofNat 0x110000 (0x10000 + (high.val - 0xd800) * 1024 + (low.val - 0xdc00))

/-- What `json.loads` reads of what `json.dumps` writes of a text. -/
def joinSurrogates : PyStr → PyStr
  | high :: low :: rest =>
    if isHighSurrogate high && isLowSurrogate low then
      surrogatePoint high low :: joinSurrogates rest
    else high :: joinSurrogates (low :: rest)
  | text => text

/-- The text of an integer, which must not have too many digits. -/
def jsonInt (number : Int) : Except PyError PyStr :=
  if (natText number.natAbs).length ≤ intMaxStrDigits then .ok (intText number)
  else .error .valueError

/-- The text that a key is read as once it was written. -/
def Literal.jsonKey (interpreter : Interpreter) : Literal → Except PyError PyStr
  | .str text => .ok (joinSurrogates text)
  | .null => .ok "null"
  | .bool true => .ok "true"
  | .bool false => .ok "false"
  | .int number => jsonInt number
  | .float .nan => .ok "NaN"
  | .float (.infinity false) => .ok "Infinity"
  | .float (.infinity true) => .ok "-Infinity"
  | .float number => .ok (interpreter.floatText number)
  | _ => .error .typeError

mutual

/-- What `json.loads` reads of what `json.dumps` writes of a literal. -/
def Literal.throughJson (interpreter : Interpreter) : Literal → Except PyError Value
  | .null => .ok .null
  | .bool flag => .ok (.bool flag)
  | .int number => do
    let _ ← jsonInt number
    return .int number
  | .float number => .ok (.float number)
  | .str text => .ok (.str (joinSurrogates text))
  | .list items | .tuple items => do return .list (← Literal.throughJsonItems interpreter items)
  | .dict entries => do
    let written ← Literal.throughJsonEntries interpreter entries
    return .dict (Entries.update [] written)
  | .complex _ _ | .bytes _ | .ellipsis | .set _ => .error .typeError

def Literal.throughJsonItems (interpreter : Interpreter) :
    List Literal → Except PyError (List Value)
  | [] => .ok []
  | item :: rest => do
    let value ← item.throughJson interpreter
    return value :: (← Literal.throughJsonItems interpreter rest)

def Literal.throughJsonEntries (interpreter : Interpreter) :
    List (Literal × Literal) → Except PyError Entries
  | [] => .ok []
  | (key, value) :: rest => do
    let text ← key.jsonKey interpreter
    let written ← value.throughJson interpreter
    return (.str text, written) :: (← Literal.throughJsonEntries interpreter rest)

end

/-- What is read of the literal is the literal. -/
def Literal.Survives (interpreter : Interpreter) (literal : Literal) : Prop :=
  ∃ value, literal.throughJson interpreter = .ok value ∧ literal.toValue = some value

/-! ### What survives -/

/-- No high surrogate stands before a low one. -/
def UnpairedText (text : PyStr) : Prop := joinSurrogates text = text

mutual

/-- The literal is made of lists and of dicts with text keys only, without a surrogate pair in its
texts and with no integer that has too many digits. -/
def Literal.Plain : Literal → Prop
  | .null | .bool _ | .float _ => True
  | .int number => (natText number.natAbs).length ≤ intMaxStrDigits
  | .str text => UnpairedText text
  | .list items => Literal.PlainItems items
  | .dict entries => Literal.PlainEntries entries ∧ (entries.map Prod.fst).Nodup
  | .complex _ _ | .bytes _ | .ellipsis | .tuple _ | .set _ => False

def Literal.PlainItems : List Literal → Prop
  | [] => True
  | item :: rest => item.Plain ∧ Literal.PlainItems rest

def Literal.PlainEntries : List (Literal × Literal) → Prop
  | [] => True
  | (.str key, value) :: rest => UnpairedText key ∧ value.Plain ∧ Literal.PlainEntries rest
  | _ :: _ => False

end

/-- Writing a key either replaces its value or adds an entry at the end. -/
theorem Entries.insert_eq (entries : Entries) (key : Key) (value : Value) :
    (∃ entry ∈ entries, entry.1.eq key = true) ∧
        (Entries.insert entries key value).length = entries.length ∨
      (∀ entry ∈ entries, entry.1.eq key = false) ∧
        Entries.insert entries key value = entries ++ [(key, value)] := by
  induction entries with
  | nil => exact .inr ⟨List.forall_mem_nil _, rfl⟩
  | cons entry rest inductionHypothesis =>
    rw [Entries.insert]
    cases here : entry.1.eq key with
    | true =>
      rw [if_pos rfl]
      exact .inl ⟨⟨entry, List.mem_cons_self, here⟩, rfl⟩
    | false =>
      rw [if_neg Bool.false_ne_true]
      rcases inductionHypothesis with ⟨⟨other, member, same⟩, length⟩ | ⟨absent, added⟩
      · refine .inl ⟨⟨other, List.mem_cons_of_mem _ member, same⟩, ?_⟩
        rw [List.length_cons, length, List.length_cons]
      · refine .inr ⟨List.forall_mem_cons.mpr ⟨here, absent⟩, ?_⟩
        rw [added, List.cons_append]

theorem Entries.update_cons (entries : Entries) (entry : Key × Value) (others : Entries) :
    Entries.update entries (entry :: others) =
      Entries.update (Entries.insert entries entry.1 entry.2) others := rfl

theorem Entries.length_update_le (entries others : Entries) :
    (Entries.update entries others).length ≤ entries.length + others.length := by
  induction others generalizing entries with
  | nil => exact Nat.le_refl _
  | cons entry rest inductionHypothesis =>
    rw [Entries.update_cons, List.length_cons]
    have step := inductionHypothesis (Entries.insert entries entry.1 entry.2)
    rcases Entries.insert_eq entries entry.1 entry.2 with ⟨_, length⟩ | ⟨_, added⟩
    · omega
    · rw [added, List.length_append, List.length_singleton] at step
      rw [added]
      omega

/-- No two of the keys are the same to a `dict`. -/
def Entries.Distinct (entries : Entries) : Prop :=
  entries.Pairwise fun first second => first.1.eq second.1 = false

/-- An update with keys that are all new adds the entries. -/
theorem Entries.update_of_distinct {entries others : Entries} (distinct : Entries.Distinct others)
    (apart : ∀ entry ∈ entries, ∀ other ∈ others, entry.1.eq other.1 = false) :
    Entries.update entries others = entries ++ others := by
  induction others generalizing entries with
  | nil => exact (List.append_nil entries).symm
  | cons other rest inductionHypothesis =>
    obtain ⟨here, later⟩ := List.pairwise_cons.mp distinct
    rw [Entries.update_cons]
    rcases Entries.insert_eq entries other.1 other.2 with ⟨⟨entry, member, same⟩, _⟩ | ⟨_, added⟩
    · rw [apart entry member other List.mem_cons_self] at same
      cases same
    · rw [added, inductionHypothesis later, List.append_assoc]
      · rfl
      · refine List.forall_mem_append.mpr ⟨fun entry member next inRest => ?_, ?_⟩
        · exact apart entry member next (List.mem_cons_of_mem _ inRest)
        · exact List.forall_mem_singleton.mpr here

/-- An update that replaces nothing has keys that are all new. -/
theorem Entries.distinct_of_length {entries others : Entries}
    (length : (Entries.update entries others).length = entries.length + others.length) :
    Entries.Distinct others ∧
      ∀ entry ∈ entries, ∀ other ∈ others, entry.1.eq other.1 = false := by
  induction others generalizing entries with
  | nil => exact ⟨.nil, fun _ _ _ member => absurd member List.not_mem_nil⟩
  | cons other rest inductionHypothesis =>
    rw [Entries.update_cons, List.length_cons] at length
    have bound := Entries.length_update_le (Entries.insert entries other.1 other.2) rest
    rcases Entries.insert_eq entries other.1 other.2 with ⟨_, same⟩ | ⟨absent, added⟩
    · omega
    · have count : (Entries.update (Entries.insert entries other.1 other.2) rest).length =
          (Entries.insert entries other.1 other.2).length + rest.length := by
        rw [added, List.length_append, List.length_singleton, ← added]
        omega
      obtain ⟨distinct, apart⟩ := inductionHypothesis count
      rw [added] at apart
      obtain ⟨earlier, here⟩ := List.forall_mem_append.mp apart
      refine ⟨.cons (here _ (List.mem_singleton_self _)) distinct, fun entry member => ?_⟩
      exact List.forall_mem_cons.mpr ⟨absent entry member, earlier entry member⟩

/-- The entries of a plain dict are read with the keys that they have. -/
theorem keys_of_toEntries {entries : LiteralEntries} {written : Entries}
    (same : Literal.toEntries entries = some written) :
    ∃ names : List PyStr, entries.map Prod.fst = names.map Literal.str ∧
      written.map Prod.fst = names.map Key.str := by
  induction entries generalizing written with
  | nil =>
    cases same
    exact ⟨[], rfl, rfl⟩
  | cons entry rest inductionHypothesis =>
    obtain ⟨key, value⟩ := entry
    cases key with
    | str key =>
      rw [Literal.toEntries, Option.bind_eq_bind, Option.bind_eq_some_iff] at same
      obtain ⟨found, _, same⟩ := same
      rw [Option.bind_eq_bind, Option.bind_eq_some_iff] at same
      obtain ⟨others, later, same⟩ := same
      cases same
      obtain ⟨names, one, two⟩ := inductionHypothesis later
      exact ⟨key :: names, by rw [List.map_cons, one]; rfl, by rw [List.map_cons, two]; rfl⟩
    | _ => cases same

theorem length_toEntries {entries : LiteralEntries} {written : Entries}
    (same : Literal.toEntries entries = some written) : written.length = entries.length := by
  obtain ⟨names, literals, keys⟩ := keys_of_toEntries same
  have one := congrArg List.length literals
  have two := congrArg List.length keys
  simp only [List.length_map] at one two
  exact two.trans one.symm

theorem length_throughJsonEntries {interpreter : Interpreter} {entries : LiteralEntries}
    {written : Entries} (read : Literal.throughJsonEntries interpreter entries = .ok written) :
    written.length = entries.length := by
  induction entries generalizing written with
  | nil =>
    cases read
    rfl
  | cons entry rest inductionHypothesis =>
    obtain ⟨_, _, read⟩ := bind_eq_ok.mp read
    obtain ⟨_, _, read⟩ := bind_eq_ok.mp read
    obtain ⟨others, later, made⟩ := bind_eq_ok.mp read
    cases made
    rw [List.length_cons, inductionHypothesis later, List.length_cons]

/-- Distinct texts are distinct keys, as literals and as keys of a `dict`. -/
theorem distinct_iff_nodup {entries : LiteralEntries} {written : Entries}
    (same : Literal.toEntries entries = some written) :
    Entries.Distinct written ↔ (entries.map Prod.fst).Nodup := by
  obtain ⟨names, literals, keys⟩ := keys_of_toEntries same
  have apart : Entries.Distinct written ↔
      (written.map Prod.fst).Pairwise fun first second => first.eq second = false := by
    rw [List.pairwise_map]
    rfl
  rw [apart, keys, literals, List.pairwise_map, List.nodup_map_iff fun _ _ => Literal.str.inj]
  simp only [Key.eq_str, beq_eq_false_iff_ne]
  rfl

variable (interpreter : Interpreter)

mutual

/-- **A literal survives** being written and read exactly when it is plain. -/
theorem Literal.survives_iff : ∀ literal : Literal,
    literal.Survives interpreter ↔ literal.Plain
  | .null => iff_of_true ⟨.null, rfl, rfl⟩ trivial
  | .bool flag => iff_of_true ⟨.bool flag, rfl, rfl⟩ trivial
  | .float number => iff_of_true ⟨.float number, rfl, rfl⟩ trivial
  | .int number => by
    rw [Literal.Survives, Literal.throughJson, Literal.toValue, Literal.Plain, jsonInt]
    by_cases short : (natText number.natAbs).length ≤ intMaxStrDigits
    · rw [if_pos short]
      exact iff_of_true ⟨_, rfl, rfl⟩ short
    · rw [if_neg short]
      exact iff_of_false (fun ⟨_, refused, _⟩ => nomatch refused) short
  | .str text => by
    rw [Literal.Survives, Literal.throughJson, Literal.toValue, Literal.Plain, UnpairedText]
    constructor
    · rintro ⟨_, written, same⟩
      cases same
      exact Value.str.inj (Except.ok.inj written)
    · intro unpaired
      exact ⟨.str text, congrArg (fun text => Except.ok (Value.str text)) unpaired, rfl⟩
  | .list items => by
    rw [Literal.Survives, Literal.throughJson, Literal.toValue, Literal.Plain,
      ← Literal.survives_items_iff items]
    constructor
    · rintro ⟨_, written, same⟩
      obtain ⟨values, read, made⟩ := bind_eq_ok.mp written
      cases made
      obtain ⟨_, found, same⟩ := Option.map_eq_some_iff.mp same
      cases same
      exact ⟨values, read, found⟩
    · rintro ⟨values, read, found⟩
      exact ⟨.list values, bind_eq_ok.mpr ⟨values, read, rfl⟩, by rw [found]; rfl⟩
  | .dict entries => by
    rw [Literal.Survives, Literal.throughJson, Literal.toValue, Literal.Plain,
      ← Literal.survives_entries_iff entries]
    constructor
    · rintro ⟨_, read, same⟩
      obtain ⟨written, here, made⟩ := bind_eq_ok.mp read
      cases made
      obtain ⟨_, found, same⟩ := Option.map_eq_some_iff.mp same
      cases same
      have length : (Entries.update [] written).length = 0 + written.length := by
        rw [length_toEntries found, Nat.zero_add, length_throughJsonEntries here]
      have distinct := (Entries.distinct_of_length length).1
      have kept : Entries.update [] written = written :=
        Entries.update_of_distinct distinct fun _ member => absurd member List.not_mem_nil
      rw [kept] at found
      exact ⟨⟨written, here, found⟩, (distinct_iff_nodup found).mp distinct⟩
    · rintro ⟨⟨written, read, found⟩, distinct⟩
      have kept : Entries.update [] written = written :=
        Entries.update_of_distinct ((distinct_iff_nodup found).mpr distinct)
          fun _ member => absurd member List.not_mem_nil
      refine ⟨.dict written, bind_eq_ok.mpr ⟨written, read, ?_⟩, by rw [found]; rfl⟩
      rw [kept]
      rfl
  | .complex _ _ => iff_of_false (fun ⟨_, refused, _⟩ => nomatch refused) id
  | .bytes _ => iff_of_false (fun ⟨_, refused, _⟩ => nomatch refused) id
  | .ellipsis => iff_of_false (fun ⟨_, refused, _⟩ => nomatch refused) id
  | .tuple _ => iff_of_false (fun ⟨_, _, changed⟩ => nomatch changed) id
  | .set _ => iff_of_false (fun ⟨_, refused, _⟩ => nomatch refused) id

theorem Literal.survives_items_iff : ∀ items : List Literal,
    (∃ values, Literal.throughJsonItems interpreter items = .ok values ∧
        Literal.toValues items = some values) ↔
      Literal.PlainItems items
  | [] => iff_of_true ⟨[], rfl, rfl⟩ trivial
  | item :: rest => by
    rw [Literal.throughJsonItems, Literal.toValues, Literal.PlainItems,
      ← Literal.survives_iff item, ← Literal.survives_items_iff rest]
    constructor
    · rintro ⟨_, written, same⟩
      obtain ⟨value, here, written⟩ := bind_eq_ok.mp written
      obtain ⟨values, later, made⟩ := bind_eq_ok.mp written
      cases made
      obtain ⟨_, found, same⟩ := Option.bind_eq_some_iff.mp same
      obtain ⟨_, others, same⟩ := Option.bind_eq_some_iff.mp same
      cases same
      exact ⟨⟨value, here, found⟩, values, later, others⟩
    · rintro ⟨⟨value, here, found⟩, values, later, others⟩
      refine ⟨value :: values, bind_eq_ok.mpr ⟨value, here, ?_⟩, ?_⟩
      · exact bind_eq_ok.mpr ⟨values, later, rfl⟩
      · rw [found, others]
        rfl

theorem Literal.survives_entries_iff : ∀ entries : List (Literal × Literal),
    (∃ written, Literal.throughJsonEntries interpreter entries = .ok written ∧
        Literal.toEntries entries = some written) ↔
      Literal.PlainEntries entries
  | [] => iff_of_true ⟨[], rfl, rfl⟩ trivial
  | (.str key, value) :: rest => by
    rw [Literal.throughJsonEntries, Literal.toEntries, Literal.PlainEntries,
      ← Literal.survives_iff value, ← Literal.survives_entries_iff rest]
    constructor
    · rintro ⟨_, written, same⟩
      obtain ⟨text, named, written⟩ := bind_eq_ok.mp written
      obtain ⟨value, here, written⟩ := bind_eq_ok.mp written
      obtain ⟨values, later, made⟩ := bind_eq_ok.mp written
      cases made
      obtain ⟨_, found, same⟩ := Option.bind_eq_some_iff.mp same
      obtain ⟨_, others, same⟩ := Option.bind_eq_some_iff.mp same
      cases same
      exact ⟨Except.ok.inj named, ⟨value, here, found⟩, values, later, others⟩
    · rintro ⟨unpaired, ⟨value, here, found⟩, values, later, others⟩
      refine ⟨(.str key, value) :: values,
        bind_eq_ok.mpr ⟨key, congrArg Except.ok unpaired, ?_⟩, ?_⟩
      · exact bind_eq_ok.mpr ⟨value, here, bind_eq_ok.mpr ⟨values, later, rfl⟩⟩
      · rw [found, others]
        rfl
  | (.null, _) :: _ | (.bool _, _) :: _ | (.int _, _) :: _ | (.float _, _) :: _
  | (.complex _ _, _) :: _ | (.bytes _, _) :: _ | (.ellipsis, _) :: _ | (.list _, _) :: _
  | (.tuple _, _) :: _ | (.set _, _) :: _ | (.dict _, _) :: _ =>
    iff_of_false (fun ⟨_, _, refused⟩ => nomatch refused) id

end

end AxorWrap.Python
