/-
This file models `json.dumps` of a text. What is not printable ASCII is written as an escape of
four hexadecimal digits, and a point above `0xFFFF` as two of them: its surrogates.
-/

import AxorWrap.Python.Text

namespace AxorWrap.Python

/-- The surrogates of a point above `0xFFFF`. -/
def surrogates (point : CodePoint) : PyStr :=
  let offset := point.val - 0x10000
  [Fin.ofNat 0x110000 (0xd800 + offset / 1024), Fin.ofNat 0x110000 (0xdc00 + offset % 1024)]

/-- An escape of four hexadecimal digits. -/
def unicodeEscape (point : CodePoint) : PyStr := 92 :: 117 :: hexText 4 point.val

/-- The letter of an escape of one letter. -/
def shortEscape (point : CodePoint) : Option CodePoint :=
  match point.val with
  | 34 => some 34
  | 92 => some 92
  | 10 => some 110
  | 13 => some 114
  | 9 => some 116
  | 12 => some 102
  | 8 => some 98
  | _ => none

/-- One character of a `json.dumps` of a text. -/
def jsonPoint (point : CodePoint) : PyStr :=
  match shortEscape point with
  | some letter => [92, letter]
  | none =>
    if 32 ≤ point.val ∧ point.val ≤ 126 then [point]
    else if point.val ≤ 0xffff then unicodeEscape point
    else (surrogates point).flatMap unicodeEscape

/-- `json.dumps(text)`. -/
def dumpsText (text : PyStr) : PyStr := 34 :: (text.flatMap jsonPoint ++ [34])

/-- The text has no point above `0xFFFF`, so that each of its escapes is one point. -/
def InPlane (text : PyStr) : Prop := ∀ point ∈ text, point.val ≤ 0xffff

/-- The text whose points above `0xFFFF` are taken apart. -/
def inSurrogates (text : PyStr) : PyStr :=
  text.flatMap fun point => if point.val ≤ 0xffff then [point] else surrogates point

theorem inSurrogates_append (first second : PyStr) :
    inSurrogates (first ++ second) = inSurrogates first ++ inSurrogates second :=
  List.flatMap_append

theorem inPlane_surrogates (point : CodePoint) : InPlane (surrogates point) := by
  have bound := point.isLt
  intro other member
  simp only [surrogates, List.mem_cons, List.not_mem_nil, or_false] at member
  rcases member with rfl | rfl <;> simp only [Fin.ofNat] <;> omega

/-- Taken apart, a text has no point above `0xFFFF`. -/
theorem inPlane_inSurrogates (text : PyStr) : InPlane (inSurrogates text) := by
  intro point member
  obtain ⟨source, _, member⟩ := List.mem_flatMap.mp member
  split at member
  · next low =>
    cases List.mem_singleton.mp member
    exact low
  · exact inPlane_surrogates source point member

theorem inSurrogates_eq_self {text : PyStr} : inSurrogates text = text ↔ InPlane text := by
  constructor
  · intro same
    rw [← same]
    exact inPlane_inSurrogates text
  · intro inPlane
    induction text with
    | nil => rfl
    | cons point rest inductionHypothesis =>
      unfold inSurrogates at inductionHypothesis ⊢
      rw [List.flatMap_cons, if_pos (inPlane point List.mem_cons_self),
        inductionHypothesis fun other member => inPlane other (List.mem_cons_of_mem _ member)]
      rfl

/-! ### The characters of an escape -/

theorem hexDigit_hexDigitText {digit : Nat} (small : digit < 16) :
    hexDigit (hexDigitText digit) = some digit := by
  have each : ∀ digit < 16, hexDigit (hexDigitText digit) = some digit := by decide
  exact each digit small

theorem hexText_four (value : Nat) :
    hexText 4 value = [hexDigitText (value / 4096 % 16), hexDigitText (value / 256 % 16),
      hexDigitText (value / 16 % 16), hexDigitText (value % 16)] := by
  simp only [hexText, List.nil_append, List.cons_append, Nat.div_div_eq_div_mul]

theorem visible_hexDigitText {digit : Nat} (small : digit < 16) :
    32 ≤ (hexDigitText digit).val := by
  unfold hexDigitText
  simp only [Fin.ofNat]
  split <;> omega

theorem visible_unicodeEscape {point letter : CodePoint} (member : letter ∈ unicodeEscape point) :
    32 ≤ letter.val := by
  rw [unicodeEscape, hexText_four] at member
  simp only [List.mem_cons, List.not_mem_nil, or_false] at member
  rcases member with rfl | rfl | digit
  · decide
  · decide
  · rcases digit with rfl | rfl | rfl | rfl <;>
      exact visible_hexDigitText (Nat.mod_lt _ (by decide))

theorem visible_jsonPoint {point letter : CodePoint} (member : letter ∈ jsonPoint point) :
    32 ≤ letter.val := by
  unfold jsonPoint at member
  split at member
  · next short escaped =>
    simp only [List.mem_cons, List.not_mem_nil, or_false] at member
    rcases member with rfl | rfl
    · decide
    · unfold shortEscape at escaped
      split at escaped <;> cases escaped <;> decide
  · split_ifs at member with printable low
    · cases List.mem_singleton.mp member
      exact printable.1
    · exact visible_unicodeEscape member
    · obtain ⟨surrogate, _, member⟩ := List.mem_flatMap.mp member
      exact visible_unicodeEscape member

/-- `json.dumps` writes no control character. -/
theorem visible_dumpsText {text : PyStr} {letter : CodePoint} (member : letter ∈ dumpsText text) :
    32 ≤ letter.val := by
  rcases List.mem_cons.mp member with rfl | member
  · decide
  rcases List.mem_append.mp member with member | last
  · obtain ⟨point, _, member⟩ := List.mem_flatMap.mp member
    exact visible_jsonPoint member
  · cases List.mem_singleton.mp last
    decide

end AxorWrap.Python
