/-
This file models Python text. A `str` is a sequence of code points, and a lone
surrogate is one of them: `json.loads` builds such strings, so Lean's `String`,
whose characters exclude surrogates, is too small for what comes off the wire.

Three facts about text depend on the Unicode database of the interpreter that
runs the program (which characters print, which are spaces, which are decimal
digits), and one on its float formatter. They are gathered in `Interpreter` and
stay arbitrary: no result below assumes anything about them.
-/

import Mathlib.Data.List.Sort
import Mathlib.Data.List.TakeWhile

namespace AxorWrap.Python

/-- A Unicode code point, surrogates included. -/
abbrev CodePoint := Fin 0x110000

/-- A numeral can be read as a code point. The zero is the one that `Fin` asks for. -/
instance CodePoint.neZero : @NeZero Nat Zero.ofOfNat0 0x110000 := ⟨Nat.succ_ne_zero _⟩

/-- A Python `str`. -/
abbrev PyStr := List CodePoint

/-- Two texts compare equal exactly when they are the same code points. -/
instance PyStr.lawfulBEq : LawfulBEq PyStr := inferInstance

/-- The Python text of a Lean literal. -/
def PyStr.ofString (text : String) : PyStr :=
  text.toList.map fun char => Fin.ofNat 0x110000 char.toNat

instance : Coe String PyStr := ⟨PyStr.ofString⟩

theorem PyStr.ofString_injective {first second : String}
    (same : PyStr.ofString first = PyStr.ofString second) : first = second := by
  unfold PyStr.ofString at same
  refine String.toList_injective (List.map_injective_iff.mpr (fun one two agree => ?_) same)
  have bound : ∀ char : Char, char.toNat < 0x110000 := by
    intro char
    have valid := char.valid
    simp only [UInt32.isValidChar, Nat.isValidChar] at valid
    show char.val.toNat < _
    omega
  have values := congrArg Fin.val agree
  simp only [Fin.ofNat, Nat.mod_eq_of_lt (bound _)] at values
  exact Char.ext (UInt32.toNat_inj.mp values)

/-- The decimal text of a natural number. -/
def natText (number : Nat) : PyStr := PyStr.ofString (toString number)

theorem natText_injective {first second : Nat} (same : natText first = natText second) :
    first = second := by
  have digits : Nat.toDigits 10 first = Nat.toDigits 10 second := by
    simpa using congrArg String.toList (PyStr.ofString_injective same)
  have values := congrArg (fun digits => Nat.ofDigitChars 10 digits 0) digits
  simpa using values

theorem val_ofNat_of_isDigit {char : Char} (digit : char.isDigit) :
    (Fin.ofNat 0x110000 char.toNat : CodePoint).val = char.toNat ∧
      48 ≤ char.toNat ∧ char.toNat ≤ 57 := by
  have bounds : 48 ≤ char.toNat ∧ char.toNat ≤ 57 := by
    simp only [Char.isDigit, Bool.and_eq_true, decide_eq_true_eq, ge_iff_le] at digit
    exact digit
  exact ⟨Nat.mod_eq_of_lt (by omega), bounds⟩

/-- A natural number is written in digits. -/
theorem digit_of_mem_natText {number : Nat} {point : CodePoint} (member : point ∈ natText number) :
    48 ≤ point.val ∧ point.val ≤ 57 := by
  obtain ⟨char, inText, rfl⟩ := List.mem_map.mp member
  have digit : char.isDigit := by
    refine Nat.isDigit_of_mem_toDigits (by decide : 0 < 10) (by decide) (n := number) ?_
    simpa using inText
  obtain ⟨value, bounds⟩ := val_ofNat_of_isDigit digit
  rw [value]
  exact bounds

/-- A finite Python `float` is `± mantissa * 2 ^ exponent`. -/
inductive PyFloat
  | nan
  | infinity (negative : Bool)
  | finite (negative : Bool) (mantissa : Nat) (exponent : Int)
deriving DecidableEq, Repr

/-- What text handling asks of the interpreter: its Unicode tables, read only above ASCII,
and the text of a float. -/
structure Interpreter where
  isPrintable : CodePoint → Bool
  isSpace : CodePoint → Bool
  decimal : CodePoint → Option (Fin 10)
  floatText : PyFloat → PyStr

/-! ### `int()` of a text -/

/-- A text of more decimal digits is refused by `int()`. -/
def intMaxStrDigits : Nat := 4300

/-- The blanks `int()` skips at both ends. -/
def intSpace (interpreter : Interpreter) (point : CodePoint) : Bool :=
  if point.val < 128 then (9 ≤ point.val && point.val ≤ 13) || point.val == 32
  else interpreter.isSpace point

/-- The value of one decimal digit. -/
def intDigit (interpreter : Interpreter) (point : CodePoint) : Option Nat :=
  if point.val < 128 then
    if 48 ≤ point.val ∧ point.val ≤ 57 then some (point.val - 48) else none
  else (interpreter.decimal point).map Fin.val

/-- Read the rest of a numeral after its first digit: digits, with single underscores
between them. The result is the value and the number of digits. -/
def intDigits (interpreter : Interpreter) (value count : Nat) : PyStr → Option (Nat × Nat)
  | [] => some (value, count)
  | point :: rest =>
    match intDigit interpreter point with
    | some digit => intDigits interpreter (10 * value + digit) (count + 1) rest
    | none =>
      if point.val = 95 then
        match rest with
        | [] => none
        | next :: rest =>
          match intDigit interpreter next with
          | some digit => intDigits interpreter (10 * value + digit) (count + 1) rest
          | none => none
      else none

/-- An unsigned numeral of at most `intMaxStrDigits` digits. -/
def intNumeral (interpreter : Interpreter) : PyStr → Option Nat
  | [] => none
  | point :: rest =>
    match intDigit interpreter point with
    | none => none
    | some digit =>
      match intDigits interpreter digit 1 rest with
      | some (value, count) => if count ≤ intMaxStrDigits then some value else none
      | none => none

/-- `int(text)`; `none` is its `ValueError`. -/
def intOfText (interpreter : Interpreter) (text : PyStr) : Option Int :=
  let blank := intSpace interpreter
  match ((text.dropWhile blank).reverse.dropWhile blank).reverse with
  | [] => none
  | point :: rest =>
    if point.val = 45 then (intNumeral interpreter rest).map fun value => -(value : Int)
    else if point.val = 43 then (intNumeral interpreter rest).map fun value => (value : Int)
    else (intNumeral interpreter (point :: rest)).map fun value => (value : Int)

section WrittenNumbers

variable {interpreter : Interpreter}

theorem intDigit_of_isDigit {char : Char} (digit : char.isDigit) :
    intDigit interpreter (Fin.ofNat 0x110000 char.toNat) = some (char.toNat - 48) := by
  obtain ⟨value, low, high⟩ := val_ofNat_of_isDigit digit
  unfold intDigit
  rw [value, if_pos (by omega), if_pos ⟨low, high⟩]

/-- Digits are read as the number that they write. -/
theorem intDigits_of_isDigit {chars : List Char} (digits : ∀ char ∈ chars, char.isDigit)
    (value count : Nat) :
    intDigits interpreter value count (chars.map fun char => Fin.ofNat 0x110000 char.toNat) =
      some (Nat.ofDigitChars 10 chars value, count + chars.length) := by
  induction chars generalizing value count with
  | nil => rw [Nat.ofDigitChars_nil]; rfl
  | cons char rest inductionHypothesis =>
    rw [List.forall_mem_cons] at digits
    rw [List.map_cons, intDigits.eq_def]
    dsimp only
    rw [intDigit_of_isDigit digits.1, Nat.ofDigitChars_cons]
    dsimp only
    rw [inductionHypothesis digits.2, List.length_cons, Nat.add_assoc, Nat.add_comm 1]
    rfl

/-- `int()` reads a number that was written, if it has not too many digits. -/
theorem intOfText_natText {number : Nat} (short : (natText number).length ≤ intMaxStrDigits) :
    intOfText interpreter (natText number) = some (number : Int) := by
  have digits : ∀ char ∈ Nat.toDigits 10 number, char.isDigit := fun char member =>
    Nat.isDigit_of_mem_toDigits (by decide : 0 < 10) (by decide) member
  have written : natText number =
      (Nat.toDigits 10 number).map fun char => Fin.ofNat 0x110000 char.toNat := by
    simp [natText, PyStr.ofString]
  have solid (point : CodePoint) (member : point ∈ natText number) :
      ¬ intSpace interpreter point = true := by
    obtain ⟨low, high⟩ := digit_of_mem_natText member
    unfold intSpace
    rw [if_pos (by omega)]
    simp
    omega
  have stripped : (((natText number).dropWhile (intSpace interpreter)).reverse.dropWhile
      (intSpace interpreter)).reverse = natText number := by
    rw [List.dropWhile_eq_self_iff.mpr fun present => solid _ (List.getElem_mem present),
      List.dropWhile_eq_self_iff.mpr fun present =>
        solid _ (List.mem_reverse.mp (List.getElem_mem present)), List.reverse_reverse]
  have value : intNumeral interpreter (natText number) = some number := by
    have read : Nat.ofDigitChars 10 (Nat.toDigits 10 number) 0 = number := by simp
    rw [written, List.length_map] at short
    rw [written]
    cases chars : Nat.toDigits 10 number with
    | nil => exact absurd chars Nat.toDigits_ne_nil
    | cons char rest =>
      rw [chars, List.forall_mem_cons] at digits
      rw [chars] at read short
      rw [List.map_cons, intNumeral, intDigit_of_isDigit digits.1]
      dsimp only
      rw [intDigits_of_isDigit digits.2]
      dsimp only
      rw [if_pos (by rw [Nat.add_comm]; exact short)]
      rw [Nat.ofDigitChars_cons, Nat.mul_zero, Nat.zero_add] at read
      exact congrArg some read
  unfold intOfText
  dsimp only
  rw [stripped]
  cases text : natText number with
  | nil =>
    rw [text] at value
    cases value
  | cons point rest =>
    obtain ⟨low, high⟩ := digit_of_mem_natText (text ▸ List.mem_cons_self)
    dsimp only
    rw [if_neg (by omega), if_neg (by omega), ← text, value]
    rfl

end WrittenNumbers
/-! ### Parts of a text -/

/-- The blanks of `str.strip()`. -/
def isBlank (interpreter : Interpreter) (point : CodePoint) : Bool :=
  if point.val < 128 then
    (9 ≤ point.val && point.val ≤ 13) || (28 ≤ point.val && point.val ≤ 32)
  else interpreter.isSpace point

/-- `text.strip()`. -/
def PyStr.strip (interpreter : Interpreter) (text : PyStr) : PyStr :=
  ((text.dropWhile (isBlank interpreter)).reverse.dropWhile (isBlank interpreter)).reverse

/-- `text.rstrip("\n")`. -/
def PyStr.rstripNewlines (text : PyStr) : PyStr :=
  (text.reverse.dropWhile fun point => point.val = 10).reverse

/-- `text.startswith(head)`. -/
def PyStr.startsWith (text head : PyStr) : Bool := head.isPrefixOf text

/-- `separator.join(parts)`. -/
def PyStr.join (separator : PyStr) (parts : List PyStr) : PyStr := separator.intercalate parts

/-! ### `repr()` of a text -/

/-- A lower-case hexadecimal digit. -/
def hexDigitText (digit : Nat) : CodePoint :=
  Fin.ofNat 0x110000 (if digit < 10 then 48 + digit else 87 + digit)

/-- The last `width` hexadecimal digits of a number. -/
def hexText : Nat → Nat → PyStr
  | 0, _ => []
  | width + 1, value => hexText width (value / 16) ++ [hexDigitText (value % 16)]

/-- One character of a `repr()`. -/
def reprPoint (interpreter : Interpreter) (quote point : CodePoint) : PyStr :=
  if point = quote ∨ point.val = 92 then PyStr.ofString "\\" ++ [point]
  else if point.val = 9 then "\\t"
  else if point.val = 10 then "\\n"
  else if point.val = 13 then "\\r"
  else if 32 ≤ point.val ∧ point.val < 127 then [point]
  else if 128 ≤ point.val ∧ interpreter.isPrintable point then [point]
  else if point.val ≤ 0xff then PyStr.ofString "\\x" ++ hexText 2 point.val
  else if point.val ≤ 0xffff then PyStr.ofString "\\u" ++ hexText 4 point.val
  else PyStr.ofString "\\U" ++ hexText 8 point.val

/-- `repr(text)`: single quotes, unless the text holds one and no double quote. -/
def reprText (interpreter : Interpreter) (text : PyStr) : PyStr :=
  let quote : CodePoint := if 39 ∈ text ∧ 34 ∉ text then 34 else 39
  [quote] ++ text.flatMap (reprPoint interpreter quote) ++ [quote]

/-! ### `bytes.fromhex` -/

/-- A byte string. -/
abbrev Bytes := List UInt8

/-- The value of one hexadecimal digit. -/
def hexDigit (point : CodePoint) : Option Nat :=
  if 48 ≤ point.val ∧ point.val ≤ 57 then some (point.val - 48)
  else if 97 ≤ point.val ∧ point.val ≤ 102 then some (point.val - 87)
  else if 65 ≤ point.val ∧ point.val ≤ 70 then some (point.val - 55)
  else none

/-- `bytes.fromhex(text)`: pairs of digits with blanks between pairs. `none` is its
`ValueError`. -/
def bytesOfHex : PyStr → Option Bytes
  | [] => some []
  | first :: rest =>
    if (9 ≤ first.val && first.val ≤ 13) || first.val == 32 then bytesOfHex rest
    else match rest with
      | [] => none
      | second :: rest => do
        let high ← hexDigit first
        let low ← hexDigit second
        let tail ← bytesOfHex rest
        return UInt8.ofNat (16 * high + low) :: tail

end AxorWrap.Python
