/-
This file models the Python values that come off the wire: what `json.loads`
builds, and what the built-in operators and conversions make of it. An operator
that raises answers an `Except` with the exception's class, because which class
it is decides which handler catches it.

A `dict` keeps its entries in insertion order. Its keys are hashable scalars,
which is all that JSON objects and `dict()` over JSON arrays can produce.
-/

import AxorWrap.Python.Text
import Mathlib.Algebra.Group.Int.Defs
import Mathlib.Algebra.Group.Nat.Defs
import Mathlib.Data.List.Infix

namespace AxorWrap.Python

/-- The class of a raised exception. `valueError` stands for its subclasses too, as an
`except` clause sees it. -/
inductive PyError
  | keyError
  | typeError
  | valueError
  | attributeError
  | overflowError
  | importError
  | recursionError
  | invalidSignature
  | other (name : PyStr)
deriving DecidableEq, Repr

/-- A hashable scalar, the key of a `dict`. -/
inductive Key
  | null
  | bool (flag : Bool)
  | int (number : Int)
  | float (number : PyFloat)
  | str (text : PyStr)
deriving DecidableEq, Repr

/-- A Python value built from JSON. -/
inductive Value
  | null
  | bool (flag : Bool)
  | int (number : Int)
  | float (number : PyFloat)
  | str (text : PyStr)
  | list (items : List Value)
  | dict (entries : List (Key × Value))
deriving Repr

/-- What holds of a value whenever it holds of the values in it holds of every value. -/
@[elab_as_elim]
theorem Value.inductionOn {holds : Value → Prop} (value : Value)
    (null : holds .null) (bool : ∀ flag, holds (.bool flag)) (int : ∀ number, holds (.int number))
    (float : ∀ number, holds (.float number)) (str : ∀ text, holds (.str text))
    (list : ∀ items, (∀ item ∈ items, holds item) → holds (.list items))
    (dict : ∀ entries, (∀ entry ∈ entries, holds entry.2) → holds (.dict entries)) :
    holds value := by
  refine @Value.rec holds (fun items => ∀ item ∈ items, holds item)
    (fun entries => ∀ entry ∈ entries, holds entry.2) (fun entry => holds entry.2)
    null bool int float str list dict ?_ ?_ ?_ ?_ ?_ value
  · exact List.forall_mem_nil _
  · exact fun _ _ first rest => List.forall_mem_cons.mpr ⟨first, rest⟩
  · exact List.forall_mem_nil _
  · exact fun _ _ first rest => List.forall_mem_cons.mpr ⟨first, rest⟩
  · exact fun _ _ second => second

/-- The entries of a `dict`, in insertion order. -/
abbrev Entries := List (Key × Value)

/-- The value a key stands for. -/
def Key.toValue : Key → Value
  | .null => .null
  | .bool flag => .bool flag
  | .int number => .int number
  | .float number => .float number
  | .str text => .str text

/-- The key a hashable value is; lists and dicts are unhashable. -/
def Value.toKey : Value → Except PyError Key
  | .null => .ok .null
  | .bool flag => .ok (.bool flag)
  | .int number => .ok (.int number)
  | .float number => .ok (.float number)
  | .str text => .ok (.str text)
  | .list _ | .dict _ => .error .typeError

/-! ### Equality -/

/-- The numeric value of a `bool`, an `int` or a `float`: a fraction
`numerator / 2 ^ halvings`, an infinity, or not a number. -/
inductive Number
  | nan
  | infinity (negative : Bool)
  | fraction (numerator : Int) (halvings : Nat)
deriving DecidableEq

def PyFloat.number : PyFloat → Number
  | .nan => .nan
  | .infinity negative => .infinity negative
  | .finite negative mantissa exponent =>
    let magnitude : Int := (mantissa : Int) * 2 ^ exponent.toNat
    .fraction (if negative then -magnitude else magnitude) (-exponent).toNat

def Value.number : Value → Option Number
  | .bool flag => some (.fraction flag.toNat 0)
  | .int number => some (.fraction number 0)
  | .float number => some number.number
  | _ => none

/-- Numbers compare by value, whatever their types; a NaN equals nothing. -/
def Number.eq : Number → Number → Bool
  | .infinity first, .infinity second => first == second
  | .fraction first firstHalvings, .fraction second secondHalvings =>
    first * 2 ^ secondHalvings == second * 2 ^ firstHalvings
  | _, _ => false

/-- Inside a container a NaN is compared by identity first, and `json` has one NaN object. -/
def Value.bothNan : Value → Value → Bool
  | .float .nan, .float .nan => true
  | _, _ => false

/-- Key equality, as a `dict` looks a key up. -/
def Key.eq (first second : Key) : Bool :=
  match first, second with
  | .str first, .str second => first == second
  | .null, .null => true
  | first, second =>
    match first.toValue.number, second.toValue.number with
    | some one, some two => one.eq two || first.toValue.bothNan second.toValue
    | _, _ => false

/-- `entries[key]`, when the key is there. -/
def Entries.find (entries : Entries) (key : Key) : Option Value :=
  (List.find? (fun entry => entry.1.eq key) entries).map Prod.snd

mutual

/-- `first == second`. -/
def Value.eq : Value → Value → Bool
  | .null, .null => true
  | .str first, .str second => first == second
  | .list first, .list second => Value.eqItems first second
  | .dict first, .dict second => first.length == second.length && Value.eqEntries first second
  | first, second =>
    match first.number, second.number with
    | some one, some two => one.eq two
    | _, _ => false

/-- Lists are equal item by item. -/
def Value.eqItems : List Value → List Value → Bool
  | [], [] => true
  | first :: firsts, second :: seconds =>
    (first.bothNan second || first.eq second) && Value.eqItems firsts seconds
  | _, _ => false

/-- Every entry of the first `dict` has an equal value in the second. -/
def Value.eqEntries : List (Key × Value) → Entries → Bool
  | [], _ => true
  | (key, value) :: rest, others =>
    (match Entries.find others key with
      | some other => value.bothNan other || value.eq other
      | none => false) && Value.eqEntries rest others

end

/-! ### Reading -/

/-- `bool(value)`. -/
def Value.truthy : Value → Bool
  | .null => false
  | .bool flag => flag
  | .int number => number != 0
  | .float (.finite _ mantissa _) => mantissa != 0
  | .float _ => true
  | .str text => !text.isEmpty
  | .list items => !items.isEmpty
  | .dict entries => !entries.isEmpty

/-- `entries.get(key)` for a text key. -/
def Entries.lookup (entries : Entries) (key : PyStr) : Option Value :=
  Entries.find entries (.str key)

/-- `key in container`: a key of a `dict`, a substring of a `str`, an item of a list. -/
def Value.contains (container : Value) (key : PyStr) : Except PyError Bool :=
  match container with
  | .dict entries => .ok (Entries.lookup entries key).isSome
  | .str text => .ok (decide (key <:+: text))
  | .list items => .ok (items.any fun item => item.eq (.str key))
  | _ => .error .typeError

/-- `container[key]`. -/
def Value.item (container : Value) (key : PyStr) : Except PyError Value :=
  match container with
  | .dict entries =>
    match Entries.lookup entries key with
    | some value => .ok value
    | none => .error .keyError
  | _ => .error .typeError

/-- `container.get(key, default)`. -/
def Value.get (container : Value) (key : PyStr) (fallback : Value) : Except PyError Value :=
  match container with
  | .dict entries => .ok ((Entries.lookup entries key).getD fallback)
  | _ => .error .attributeError

/-- `container.items()`. -/
def Value.items : Value → Except PyError Entries
  | .dict entries => .ok entries
  | _ => .error .attributeError

/-- The items a `for` loop or `tuple()` draws from a value. -/
def Value.iterate : Value → Except PyError (List Value)
  | .list items => .ok items
  | .str text => .ok (text.map fun point => .str [point])
  | .dict entries => .ok (entries.map fun entry => entry.1.toValue)
  | _ => .error .typeError

/-! ### Building dicts -/

/-- `entries[key] = value`: the first spelling of a key stays, its value is replaced. -/
def Entries.insert : Entries → Key → Value → Entries
  | [], key, value => [(key, value)]
  | entry :: rest, key, value =>
    if entry.1.eq key then (entry.1, value) :: rest else entry :: Entries.insert rest key value

/-- `entries.update(others)`. -/
def Entries.update (entries others : Entries) : Entries :=
  others.foldl (fun merged entry => Entries.insert merged entry.1 entry.2) entries

/-- One element of the sequence `dict()` is given: a pair with a hashable first item. -/
def Value.toPair (element : Value) : Except PyError (Key × Value) :=
  match element.iterate with
  | .ok [key, value] =>
    match key.toKey with
    | .ok key => .ok (key, value)
    | .error error => .error error
  | .ok _ => .error .valueError
  | .error _ => .error .typeError

/-- `dict(value)`: a copy of a `dict`, or the pairs of a sequence inserted in order. -/
def Value.toDict : Value → Except PyError Entries
  | .dict entries => .ok entries
  | value => do
    let elements ← value.iterate
    elements.foldlM (fun entries element => do
      let (key, value) ← element.toPair
      return Entries.insert entries key value) ([] : Entries)

/-! ### Conversions -/

/-- `int(number)` of a float: truncation; NaN and the infinities raise. -/
def PyFloat.toInt : PyFloat → Except PyError Int
  | .nan => .error .valueError
  | .infinity _ => .error .overflowError
  | .finite negative mantissa exponent =>
    let magnitude : Nat := mantissa * 2 ^ exponent.toNat / 2 ^ (-exponent).toNat
    .ok (if negative then -(magnitude : Int) else magnitude)

/-- `int(value)`. -/
def Value.toInt (interpreter : Interpreter) : Value → Except PyError Int
  | .bool flag => .ok flag.toNat
  | .int number => .ok number
  | .float number => number.toInt
  | .str text =>
    match intOfText interpreter text with
    | some number => .ok number
    | none => .error .valueError
  | _ => .error .typeError

/-- The decimal text of an integer. Where it has more than `intMaxStrDigits` digits, `str` and
`repr` raise `ValueError`, which is modelled for literals and left out for values. -/
def intText (number : Int) : PyStr := PyStr.ofString (toString number)

theorem intText_negSucc (number : Nat) : intText (.negSucc number) = 45 :: natText (number + 1) := by
  show PyStr.ofString ("-" ++ toString (number + 1)) = _
  rw [PyStr.ofString, String.toList_append]
  rfl

/-- An integer is written in digits, after a sign if it is negative. -/
theorem mem_intText {number : Int} {point : CodePoint} (member : point ∈ intText number) :
    point = 45 ∨ 48 ≤ point.val ∧ point.val ≤ 57 := by
  cases number with
  | ofNat number => exact .inr (digit_of_mem_natText (show point ∈ natText number from member))
  | negSucc number =>
    rw [intText_negSucc] at member
    exact (List.mem_cons.mp member).imp_right digit_of_mem_natText

theorem intText_injective {first second : Int} (same : intText first = intText second) :
    first = second := by
  have unsigned : ∀ number : Nat, (45 : CodePoint) ∉ natText number := fun number member =>
    absurd (digit_of_mem_natText member).1 (by decide)
  cases first with
  | ofNat first =>
    cases second with
    | ofNat second =>
      exact congrArg Int.ofNat (natText_injective (show natText first = natText second from same))
    | negSucc second =>
      rw [intText_negSucc] at same
      have signed : (45 : CodePoint) ∈ intText (.ofNat first) := same ▸ List.mem_cons_self
      exact absurd signed (unsigned first)
  | negSucc first =>
    rw [intText_negSucc] at same
    cases second with
    | ofNat second =>
      have signed : (45 : CodePoint) ∈ intText (.ofNat second) := same ▸ List.mem_cons_self
      exact absurd signed (unsigned second)
    | negSucc second =>
      rw [intText_negSucc] at same
      rw [Nat.succ_inj.mp (natText_injective (List.cons.inj same).2)]

/-- `repr()` of a value that is not a container. -/
def Key.repr (interpreter : Interpreter) : Key → PyStr
  | .null => "None"
  | .bool true => "True"
  | .bool false => "False"
  | .int number => intText number
  | .float number => interpreter.floatText number
  | .str text => reprText interpreter text

mutual

/-- `repr(value)`. -/
def Value.repr (interpreter : Interpreter) : Value → PyStr
  | .null => Key.null.repr interpreter
  | .bool flag => (Key.bool flag).repr interpreter
  | .int number => (Key.int number).repr interpreter
  | .float number => (Key.float number).repr interpreter
  | .str text => (Key.str text).repr interpreter
  | .list items => PyStr.ofString "[" ++ Value.reprItems interpreter items ++ PyStr.ofString "]"
  | .dict entries =>
    PyStr.ofString "\x7b" ++ Value.reprEntries interpreter entries ++ PyStr.ofString "\x7d"

/-- The items of a list, separated by commas. -/
def Value.reprItems (interpreter : Interpreter) : List Value → PyStr
  | [] => []
  | [item] => item.repr interpreter
  | item :: rest =>
    item.repr interpreter ++ PyStr.ofString ", " ++ Value.reprItems interpreter rest

/-- The entries of a `dict`, separated by commas. -/
def Value.reprEntries (interpreter : Interpreter) : List (Key × Value) → PyStr
  | [] => []
  | [(key, value)] =>
    key.repr interpreter ++ PyStr.ofString ": " ++ value.repr interpreter
  | (key, value) :: rest =>
    key.repr interpreter ++ PyStr.ofString ": " ++ value.repr interpreter ++
      PyStr.ofString ", " ++ Value.reprEntries interpreter rest

end

/-- `str(value)`: a text is its own, anything else its `repr()`. -/
def Value.toStr (interpreter : Interpreter) : Value → PyStr
  | .str text => text
  | value => value.repr interpreter

/-! ### Lookups after writes -/

theorem Key.eq_str (key other : PyStr) : (Key.str key).eq (.str other) = (key == other) := rfl

theorem Entries.lookup_cons (entry : Key × Value) (rest : Entries) (key : PyStr) :
    Entries.lookup (entry :: rest) key =
      if entry.1.eq (.str key) then some entry.2 else Entries.lookup rest key := by
  unfold Entries.lookup Entries.find
  rw [List.find?_cons]
  cases entry.1.eq (.str key) <;> rfl

/-- Only a text is equal to a text. -/
theorem Key.eq_str_iff {key : Key} {text : PyStr} :
    key.eq (.str text) = true ↔ key = .str text := by
  cases key with
  | str other => rw [Key.eq_str, beq_iff_eq, Key.str.injEq]
  | null => exact ⟨fun same => (Bool.false_ne_true same).elim, fun same => nomatch same⟩
  | bool flag => exact ⟨fun same => (Bool.false_ne_true same).elim, fun same => nomatch same⟩
  | int number => exact ⟨fun same => (Bool.false_ne_true same).elim, fun same => nomatch same⟩
  | float number => exact ⟨fun same => (Bool.false_ne_true same).elim, fun same => nomatch same⟩

theorem Value.eq_str_iff {value : Value} {text : PyStr} :
    value.eq (.str text) = true ↔ value = .str text := by
  cases value with
  | str other => simp [Value.eq]
  | _ => simp [Value.eq, Value.number]

/-- Writing one key leaves the others. -/
theorem Entries.lookup_insert_of_ne {entries : Entries} {key other : PyStr} {value : Value}
    (different : key ≠ other) :
    Entries.lookup (Entries.insert entries (.str key) value) other =
      Entries.lookup entries other := by
  induction entries with
  | nil =>
    rw [Entries.insert, Entries.lookup_cons, Key.eq_str, if_neg (by simpa using different)]
  | cons entry rest inductionHypothesis =>
    rw [Entries.insert]
    by_cases here : entry.1.eq (.str key) = true
    · have elsewhere : ¬ entry.1.eq (.str other) = true := by
        rw [Key.eq_str_iff.mp here, Key.eq_str]
        simpa using different
      rw [if_pos here, Entries.lookup_cons, Entries.lookup_cons, if_neg elsewhere,
        if_neg elsewhere]
    · rw [if_neg here, Entries.lookup_cons, Entries.lookup_cons, inductionHypothesis]

end AxorWrap.Python
