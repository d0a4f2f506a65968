/-
This file reads YAML in block style: block lists, block maps, double-quoted scalars and plain
words.

A text is read in two passes. Each line is cut into pieces, which are placed by their column: the
dashes that open items, a key, a scalar. The pieces of all lines are then put together, and what
is nested in what is settled by the columns. The rules of the second pass are stated apart from the
reader, as a relation between a node and the pieces that lay it out; whatever is laid out by these
rules is read as what it is.
-/

import AxorWrap.Python.Text

namespace Yaml

open AxorWrap.Python

/-! ### Nodes -/

/-- A scalar in double quotes, which is a text, or a plain word, which may be typed. -/
inductive Scalar
  | quoted (text : PyStr)
  | plain (word : PyStr)
deriving DecidableEq, Repr

def Scalar.text : Scalar → PyStr
  | .quoted text => text
  | .plain word => word

inductive Node
  | null
  | scalar (scalar : Scalar)
  | list (items : List Node)
  | map (entries : List (Scalar × Node))
deriving Repr

/-- The value of a key of a map; nothing when the key is not there. -/
def valueAt (key : PyStr) (entries : List (Scalar × Node)) : Node :=
  ((entries.find? fun entry => entry.1.text = key).map Prod.snd).getD .null

/-! ### Double-quoted scalars -/

/-- The point that an escape of one letter stands for. -/
def simpleEscape (letter : CodePoint) : Option CodePoint :=
  match letter.val with
  | 48 => some 0x00
  | 97 => some 0x07
  | 98 => some 0x08
  | 116 | 9 => some 0x09
  | 110 => some 0x0a
  | 118 => some 0x0b
  | 102 => some 0x0c
  | 114 => some 0x0d
  | 101 => some 0x1b
  | 32 => some 0x20
  | 34 => some 0x22
  | 47 => some 0x2f
  | 92 => some 0x5c
  | 78 => some 0x85
  | 95 => some 0xa0
  | 76 => some 0x2028
  | 80 => some 0x2029
  | _ => none

/-- The number of hexadecimal digits an escape of this letter takes. -/
def escapeWidth (letter : CodePoint) : Option Nat :=
  match letter.val with
  | 120 => some 2
  | 117 => some 4
  | 85 => some 8
  | _ => none

/-- Where a reader is in a double-quoted scalar: in the text, after a backslash, or with so many
digits of an escape left to read. -/
inductive Mode
  | text
  | escape
  | digits (left value : Nat)

/-- The text up to the closing quote, and what comes after it. An escape of four digits is one
point, whatever comes next to it. -/
def readQuoted : Mode → PyStr → Option (PyStr × PyStr)
  | _, [] => none
  | .text, point :: rest =>
    if point.val = 34 then some ([], rest)
    else if point.val = 92 then readQuoted .escape rest
    else (readQuoted .text rest).map (Prod.map (point :: ·) id)
  | .escape, letter :: rest =>
    match simpleEscape letter, escapeWidth letter with
    | some point, _ => (readQuoted .text rest).map (Prod.map (point :: ·) id)
    | none, some width => readQuoted (.digits width 0) rest
    | none, none => none
  | .digits left value, digit :: rest =>
    match hexDigit digit with
    | none => none
    | some more =>
      let value := 16 * value + more
      if 1 < left then readQuoted (.digits (left - 1) value) rest
      else if value < 0x110000 then
        (readQuoted .text rest).map (Prod.map (Fin.ofNat 0x110000 value :: ·) id)
      else none

/-! ### Lines -/

/-- What a line is made of. -/
inductive Piece
  | dash
  | key (key : Scalar)
  | scalar (scalar : Scalar)
deriving DecidableEq, Repr

/-- A piece, at its column. -/
structure Placed where
  column : Nat
  piece : Piece
deriving DecidableEq, Repr

/-- The letters of a plain word. -/
def isWordPoint (point : CodePoint) : Bool :=
  (65 ≤ point.val && point.val ≤ 90) || (97 ≤ point.val && point.val ≤ 122) || point.val == 95

/-- A scalar at the start of the text, and what comes after it. -/
def readScalar : PyStr → Option (Scalar × PyStr)
  | [] => none
  | point :: rest =>
    if point.val = 34 then (readQuoted .text rest).map (Prod.map .quoted id)
    else if isWordPoint point then
      some (.plain ((point :: rest).takeWhile isWordPoint), (point :: rest).dropWhile isWordPoint)
    else none

/-- The colon of a key on one line comes at most so far after the start of the key. -/
def keyLimit : Nat := 1024

/-- What comes after a key: nothing, or a scalar. -/
def scanValue (column : Nat) : PyStr → Option (List Placed)
  | [] => some []
  | point :: rest =>
    if point.val = 32 then scanValue (column + 1) rest
    else match readScalar (point :: rest) with
      | some (scalar, []) => some [⟨column, .scalar scalar⟩]
      | _ => none

/-- A scalar that is all of what is left, or a key with its value. -/
def scanScalar (column : Nat) (text : PyStr) : Option (List Placed) :=
  match readScalar text with
  | some (scalar, []) => some [⟨column, .scalar scalar⟩]
  | some (key, colon :: rest) =>
    let width := text.length - (colon :: rest).length
    if colon.val = 58 ∧ width ≤ keyLimit ∧ rest.head?.all fun next => next.val = 32 then
      (scanValue (column + width + 1) rest).map (⟨column, .key key⟩ :: ·)
    else none
  | none => none

/-- The pieces of a line from this column on. -/
def scanPieces (column : Nat) : PyStr → Option (List Placed)
  | [] => some []
  | point :: rest =>
    if point.val = 32 then scanPieces (column + 1) rest
    else if point.val = 45 ∧ rest.head?.all fun next => next.val = 32 then
      (scanPieces (column + 1) rest).map (⟨column, .dash⟩ :: ·)
    else scanScalar column (point :: rest)

/-- The pieces of a line. A comment has none. -/
def scanLine (line : PyStr) : Option (List Placed) :=
  match line.dropWhile fun point => point.val = 32 with
  | [] => some []
  | point :: _ => if point.val = 35 then some [] else scanPieces 0 line

/-- The pieces of the lines, one after another. -/
def scanLines (lines : List PyStr) : Option (List Placed) :=
  (lines.mapM scanLine).map List.flatten

/-! ### Blocks -/

mutual

/-- A node whose pieces are no further left than this column. -/
def composeNode : Nat → (least : Nat) → List Placed → Option (Node × List Placed)
  | 0, _, _ => none
  | _ + 1, _, [] => some (.null, [])
  | fuel + 1, least, first :: rest =>
    if first.column < least then some (.null, first :: rest)
    else match first.piece with
      | .scalar scalar => some (.scalar scalar, rest)
      | .dash => (composeItems fuel first.column (first :: rest)).map (Prod.map .list id)
      | .key _ => (composeEntries fuel first.column (first :: rest)).map (Prod.map .map id)

/-- The items whose dashes are at this column. -/
def composeItems : Nat → (column : Nat) → List Placed → Option (List Node × List Placed)
  | 0, _, _ => none
  | _ + 1, _, [] => some ([], [])
  | fuel + 1, column, first :: rest =>
    if first = ⟨column, .dash⟩ then do
      let (item, rest) ← composeNode fuel (column + 1) rest
      let (items, rest) ← composeItems fuel column rest
      return (item :: items, rest)
    else some ([], first :: rest)

/-- The entries whose keys are at this column. -/
def composeEntries : Nat → (column : Nat) → List Placed →
    Option (List (Scalar × Node) × List Placed)
  | 0, _, _ => none
  | _ + 1, _, [] => some ([], [])
  | fuel + 1, column, ⟨place, piece⟩ :: rest =>
    match piece with
    | .key key =>
      if place = column then do
        let (value, rest) ← composeNode fuel (column + 1) rest
        let (entries, rest) ← composeEntries fuel column rest
        return ((key, value) :: entries, rest)
      else some ([], ⟨place, .key key⟩ :: rest)
    | piece => some ([], ⟨place, piece⟩ :: rest)

end

/-- The node that all of the pieces lay out. Each piece takes two steps. -/
def compose (pieces : List Placed) : Option Node :=
  match composeNode (2 * pieces.length + 2) 0 pieces with
  | some (node, []) => some node
  | _ => none

/-- Read a text. -/
def read (text : PyStr) : Option Node := (scanLines (text.splitOn 10)).bind compose

/-! ### The rules of blocks -/

mutual

/-- The pieces lay out the node, no further left than the column. -/
inductive Laid : Nat → Node → List Placed → Prop
  | scalar {least column : Nat} {scalar : Scalar} (deep : least ≤ column) :
      Laid least (.scalar scalar) [⟨column, .scalar scalar⟩]
  | list {least column : Nat} {items : List Node} {pieces : List Placed} (deep : least ≤ column)
      (nonempty : items ≠ []) (laid : LaidItems column items pieces) :
      Laid least (.list items) pieces
  | map {least column : Nat} {entries : List (Scalar × Node)} {pieces : List Placed}
      (deep : least ≤ column) (nonempty : entries ≠ [])
      (laid : LaidEntries column entries pieces) : Laid least (.map entries) pieces

/-- The items have their dashes at the column, and are further right. -/
inductive LaidItems : Nat → List Node → List Placed → Prop
  | nil {column : Nat} : LaidItems column [] []
  | cons {column : Nat} {item : Node} {items : List Node} {first later : List Placed}
      (here : Laid (column + 1) item first) (rest : LaidItems column items later) :
      LaidItems column (item :: items) (⟨column, .dash⟩ :: (first ++ later))

/-- The entries have their keys at the column, and their values are further right. -/
inductive LaidEntries : Nat → List (Scalar × Node) → List Placed → Prop
  | nil {column : Nat} : LaidEntries column [] []
  | cons {column : Nat} {key : Scalar} {value : Node} {entries : List (Scalar × Node)}
      {first later : List Placed} (here : Laid (column + 1) value first)
      (rest : LaidEntries column entries later) :
      LaidEntries column ((key, value) :: entries) (⟨column, .key key⟩ :: (first ++ later))

end

/-- What comes next is left of the column. -/
def Leaves (column : Nat) (pieces : List Placed) : Prop :=
  ∀ first ∈ pieces.head?, first.column < column

theorem Leaves.mono {column deeper : Nat} {pieces : List Placed} (leaves : Leaves column pieces)
    (deep : column ≤ deeper) : Leaves deeper pieces :=
  fun first member => lt_of_lt_of_le (leaves first member) deep

/-- What comes after an item is another, at the column, or left of it. -/
theorem LaidItems.leaves {column : Nat} {items : List Node} {pieces rest : List Placed}
    (laid : LaidItems column items pieces) (leaves : Leaves column rest) :
    Leaves (column + 1) (pieces ++ rest) := by
  cases laid with
  | nil => exact leaves.mono (Nat.le_succ column)
  | cons here later =>
    intro first member
    cases member
    exact Nat.lt_succ_self column

theorem LaidEntries.leaves {column : Nat} {entries : List (Scalar × Node)}
    {pieces rest : List Placed} (laid : LaidEntries column entries pieces)
    (leaves : Leaves column rest) : Leaves (column + 1) (pieces ++ rest) := by
  cases laid with
  | nil => exact leaves.mono (Nat.le_succ column)
  | cons here later =>
    intro first member
    cases member
    exact Nat.lt_succ_self column

mutual

/-- What is laid out as a node is read as the node. -/
theorem composeNode_laid {least : Nat} {node : Node} {pieces rest : List Placed} {fuel : Nat}
    (laid : Laid least node pieces) (leaves : Leaves least rest)
    (enough : 2 * pieces.length + 2 ≤ fuel) :
    composeNode fuel least (pieces ++ rest) = some (node, rest) := by
  obtain ⟨fuel, rfl⟩ := Nat.exists_eq_succ_of_ne_zero (by omega : fuel ≠ 0)
  match laid with
  | .scalar deep =>
    rw [List.singleton_append, composeNode, if_neg (not_lt.mpr deep)]
  | .list deep nonempty laid =>
    have enoughLeft : 2 * pieces.length + 1 ≤ fuel := by omega
    have composed := composeItems_laid laid (leaves.mono deep) enoughLeft
    cases laid with
    | nil => exact absurd rfl nonempty
    | cons here later =>
      rw [List.cons_append, composeNode, if_neg (not_lt.mpr deep)]
      rw [List.cons_append] at composed
      simp only [composed]
      rfl
  | .map deep nonempty laid =>
    have enoughLeft : 2 * pieces.length + 1 ≤ fuel := by omega
    have composed := composeEntries_laid laid (leaves.mono deep) enoughLeft
    cases laid with
    | nil => exact absurd rfl nonempty
    | cons here later =>
      rw [List.cons_append, composeNode, if_neg (not_lt.mpr deep)]
      rw [List.cons_append] at composed
      simp only [composed]
      rfl

theorem composeItems_laid {column : Nat} {items : List Node} {pieces rest : List Placed}
    {fuel : Nat} (laid : LaidItems column items pieces) (leaves : Leaves column rest)
    (enough : 2 * pieces.length + 1 ≤ fuel) :
    composeItems fuel column (pieces ++ rest) = some (items, rest) := by
  obtain ⟨fuel, rfl⟩ := Nat.exists_eq_succ_of_ne_zero (by omega : fuel ≠ 0)
  match laid with
  | .nil =>
    cases rest with
    | nil => rfl
    | cons first rest =>
      have other : first ≠ ⟨column, .dash⟩ := by
        rintro rfl
        exact absurd (leaves _ rfl) (lt_irrefl column)
      rw [List.nil_append, composeItems, if_neg other]
  | .cons here later =>
    rw [List.length_cons, List.length_append] at enough
    rw [List.cons_append, composeItems, if_pos rfl, List.append_assoc,
      composeNode_laid here (later.leaves leaves) (by omega)]
    show (composeItems fuel column (_ ++ rest) >>= fun _ => _) = _
    rw [composeItems_laid later leaves (by omega)]
    rfl

theorem composeEntries_laid {column : Nat} {entries : List (Scalar × Node)}
    {pieces rest : List Placed} {fuel : Nat} (laid : LaidEntries column entries pieces)
    (leaves : Leaves column rest) (enough : 2 * pieces.length + 1 ≤ fuel) :
    composeEntries fuel column (pieces ++ rest) = some (entries, rest) := by
  obtain ⟨fuel, rfl⟩ := Nat.exists_eq_succ_of_ne_zero (by omega : fuel ≠ 0)
  match laid with
  | .nil =>
    cases rest with
    | nil => rfl
    | cons first rest =>
      obtain ⟨place, piece⟩ := first
      have left : place ≠ column := ((leaves _ rfl) : place < column).ne
      rw [List.nil_append]
      cases piece with
      | key key => rw [composeEntries, if_neg left]
      | dash | scalar scalar => rfl
  | .cons here later =>
    rw [List.length_cons, List.length_append] at enough
    rw [List.cons_append, composeEntries]
    simp only [if_true]
    rw [List.append_assoc, composeNode_laid here (later.leaves leaves) (by omega)]
    show (composeEntries fuel column (_ ++ rest) >>= fun _ => _) = _
    rw [composeEntries_laid later leaves (by omega)]
    rfl

end

/-- Pieces that lay out a node are read as the node. -/
theorem compose_laid {least : Nat} {node : Node} {pieces : List Placed}
    (laid : Laid least node pieces) : compose pieces = some node := by
  have laidOut : Laid 0 node pieces := by
    cases laid with
    | scalar _ => exact .scalar (Nat.zero_le _)
    | list _ nonempty items => exact .list (Nat.zero_le _) nonempty items
    | map _ nonempty entries => exact .map (Nat.zero_le _) nonempty entries
  have nothing : Leaves 0 [] := fun _ member => nomatch member
  have composed := composeNode_laid laidOut nothing le_rfl
  rw [List.append_nil] at composed
  unfold compose
  rw [composed]

/-! ### The lines of a document -/

/-- What is written is the text in double quotes. -/
structure Quotes (written text : PyStr) : Prop where
  opens : written.head? = some 34
  reads : ∀ rest, readScalar (written ++ rest) = some (.quoted text, rest)

/-- A plain word. -/
structure IsWord (word : PyStr) : Prop where
  nonempty : word ≠ []
  points : ∀ point ∈ word, isWordPoint point = true

theorem isWord_of_all {word : PyStr} (nonempty : word ≠ []) (all : word.all isWordPoint = true) :
    IsWord word :=
  ⟨nonempty, List.all_eq_true.mp all⟩

def blanks (width : Nat) : PyStr := List.replicate width 32

variable {column width : Nat} {written text word rest : PyStr}

theorem readScalar_word (isWord : IsWord word)
    (ends : ∀ point ∈ rest.head?, isWordPoint point = false) :
    readScalar (word ++ rest) = some (.plain word, rest) := by
  obtain ⟨point, later, rfl⟩ := List.exists_cons_of_ne_nil isWord.nonempty
  have begins := isWord.points point List.mem_cons_self
  have noQuote : point.val ≠ 34 := by
    intro quote
    rw [isWordPoint, quote] at begins
    exact absurd begins (by decide)
  have stops : rest.takeWhile isWordPoint = [] ∧ rest.dropWhile isWordPoint = rest := by
    cases rest with
    | nil => exact ⟨rfl, rfl⟩
    | cons next after =>
      have other := ends next rfl
      exact ⟨List.takeWhile_cons_of_neg (by simp [other]),
        List.dropWhile_cons_of_neg (by simp [other])⟩
  rw [List.cons_append, readScalar, if_neg noQuote, if_pos begins, ← List.cons_append,
    List.takeWhile_append_of_pos isWord.points, List.dropWhile_append_of_pos isWord.points,
    stops.1, stops.2, List.append_nil]

theorem scanPieces_blanks : scanPieces column (blanks width ++ text) =
    scanPieces (column + width) text := by
  induction width generalizing column with
  | zero => rfl
  | succ width inductionHypothesis =>
    have step : scanPieces column (blanks (width + 1) ++ text) =
        scanPieces (column + 1) (blanks width ++ text) := by
      rw [blanks, List.replicate_succ, List.cons_append, scanPieces, if_pos (by decide)]
      rfl
    rw [step, inductionHypothesis, Nat.add_right_comm, Nat.add_assoc]

theorem scanPieces_dash : scanPieces column (45 :: 32 :: text) =
    (scanPieces (column + 2) text).map (⟨column, .dash⟩ :: ·) := by
  rw [scanPieces, if_neg (by decide), if_pos ⟨by decide, by simp⟩, scanPieces,
    if_pos (by decide)]

/-- A line that starts with a quote or a letter is a scalar or has a key. -/
theorem scanPieces_scalar (begins : ∀ point ∈ text.head?, point.val ≠ 32 ∧ point.val ≠ 45)
    (nonempty : text ≠ []) : scanPieces column text = scanScalar column text := by
  obtain ⟨point, later, rfl⟩ := List.exists_cons_of_ne_nil nonempty
  obtain ⟨noBlank, noDash⟩ := begins point rfl
  rw [scanPieces, if_neg noBlank, if_neg fun both => noDash both.1]

/-- A line that is no comment is cut into its pieces. -/
theorem scanLine_blanks (begins : ∀ point ∈ text.head?, point.val ≠ 32 ∧ point.val ≠ 35)
    (nonempty : text ≠ []) : scanLine (blanks width ++ text) = scanPieces width text := by
  obtain ⟨point, later, rfl⟩ := List.exists_cons_of_ne_nil nonempty
  obtain ⟨noBlank, noHash⟩ := begins point rfl
  have dropped : (blanks width ++ point :: later).dropWhile (fun point => point.val = 32) =
      point :: later := by
    rw [List.dropWhile_append_of_pos (by
        intro blank member
        rw [List.eq_of_mem_replicate member]
        decide),
      List.dropWhile_cons_of_neg (by simpa using noBlank)]
  unfold scanLine
  rw [dropped]
  simp only [if_neg noHash]
  rw [scanPieces_blanks, Nat.zero_add]

theorem Quotes.begins (quotes : Quotes written text) :
    written ≠ [] ∧ ∀ rest : PyStr, ∀ point ∈ (written ++ rest).head?, point.val = 34 := by
  cases written with
  | nil => cases quotes.opens
  | cons first later =>
    cases quotes.opens
    refine ⟨List.cons_ne_nil _ _, fun rest point member => ?_⟩
    cases member
    rfl

theorem scanScalar_quoted (quotes : Quotes written text) :
    scanScalar column written = some [⟨column, .scalar (.quoted text)⟩] := by
  have reads := quotes.reads []
  rw [List.append_nil] at reads
  rw [scanScalar, reads]

/-- A quoted key ends its line. It is too long when its colon comes too late. -/
theorem scanScalar_key (quotes : Quotes written text) :
    scanScalar column (written ++ [58]) =
      if written.length ≤ keyLimit then some [⟨column, .key (.quoted text)⟩] else none := by
  have wide : (written ++ [58]).length - [(58 : CodePoint)].length = written.length := by simp
  rw [scanScalar, quotes.reads [58]]
  simp only [wide]
  by_cases short : written.length ≤ keyLimit
  · rw [if_pos short, if_pos ⟨by decide, short, rfl⟩]
    rfl
  · rw [if_neg short, if_neg fun all => short all.2.1]

theorem scanValue_quoted (quotes : Quotes written text) :
    scanValue column (32 :: written) = some [⟨column + 1, .scalar (.quoted text)⟩] := by
  have reads := quotes.reads []
  rw [List.append_nil] at reads
  obtain ⟨point, later, rfl⟩ := List.exists_cons_of_ne_nil quotes.begins.1
  have quote : point.val = 34 := quotes.begins.2 [] point rfl
  rw [scanValue, if_pos (by decide), scanValue, if_neg (by omega), reads]

/-- An item on one line. -/
theorem scanLine_item (quotes : Quotes written text) :
    scanLine (blanks width ++ 45 :: 32 :: written) =
      some [⟨width, .dash⟩, ⟨width + 2, .scalar (.quoted text)⟩] := by
  have begins := quotes.begins.2 []
  rw [List.append_nil] at begins
  rw [scanLine_blanks (by rintro point ⟨⟩; decide) (List.cons_ne_nil _ _), scanPieces_dash,
    scanPieces_scalar (fun point member => by rw [begins point member]; decide) quotes.begins.1,
    scanScalar_quoted quotes]
  rfl

/-- A line with a quoted key. -/
theorem scanLine_key (quotes : Quotes written text) :
    scanLine (blanks width ++ (written ++ [58])) =
      if written.length ≤ keyLimit then some [⟨width, .key (.quoted text)⟩] else none := by
  have begins := quotes.begins.2 [58]
  rw [scanLine_blanks (fun point member => by rw [begins point member]; decide) (by simp),
    scanPieces_scalar (fun point member => by rw [begins point member]; decide) (by simp),
    scanScalar_key quotes]

/-- The first entry of a map that is an item, with its value. -/
theorem scanLine_itemEntry (isWord : IsWord word) (short : word.length ≤ keyLimit)
    (quotes : Quotes written text) :
    scanLine (blanks width ++ 45 :: 32 :: (word ++ 58 :: 32 :: written)) =
      some [⟨width, .dash⟩, ⟨width + 2, .key (.plain word)⟩,
        ⟨width + 2 + word.length + 2, .scalar (.quoted text)⟩] := by
  obtain ⟨point, later, rfl⟩ := List.exists_cons_of_ne_nil isWord.nonempty
  have letter := isWord.points point List.mem_cons_self
  have begins : point.val ≠ 32 ∧ point.val ≠ 45 := by
    constructor <;> intro same <;> rw [isWordPoint, same] at letter <;>
      exact absurd letter (by decide)
  have reads : readScalar (point :: later ++ 58 :: 32 :: written) =
      some (.plain (point :: later), 58 :: 32 :: written) :=
    readScalar_word isWord (by rintro point ⟨⟩; decide)
  have wide : (point :: later ++ 58 :: 32 :: written).length -
      ((58 : CodePoint) :: 32 :: written).length = (point :: later).length := by
    rw [List.length_append, Nat.add_sub_cancel]
  rw [scanLine_blanks (by rintro point ⟨⟩; decide) (List.cons_ne_nil _ _), scanPieces_dash,
    scanPieces_scalar (by rintro point ⟨⟩; exact begins) (by simp), scanScalar, reads]
  simp only [wide]
  rw [if_pos ⟨by decide, short, by simp⟩, scanValue_quoted quotes]
  rfl

/-! ### A document of lines -/

theorem scanLines_append (first second : List PyStr) :
    scanLines (first ++ second) =
      (scanLines first).bind fun early => (scanLines second).map (early ++ ·) := by
  unfold scanLines
  rw [List.mapM_append]
  cases first.mapM scanLine with
  | none => rfl
  | some early =>
    cases second.mapM scanLine with
    | none => rfl
    | some late =>
      show some (early ++ late).flatten = some (early.flatten ++ late.flatten)
      rw [List.flatten_append]

theorem scanLines_cons (line : PyStr) (rest : List PyStr) :
    scanLines (line :: rest) =
      (scanLine line).bind fun early => (scanLines rest).map (early ++ ·) := by
  rw [← List.singleton_append, scanLines_append]
  unfold scanLines
  rw [List.mapM_cons, List.mapM_nil]
  cases scanLine line with
  | none => rfl
  | some early =>
    show (some ([early].flatten)).bind _ = _
    rw [List.flatten_singleton]

/-- A text of lines, each of which is closed by a line break, is read line by line. -/
theorem read_lines {lines : List PyStr} (nonempty : lines ≠ [])
    (unbroken : ∀ line ∈ lines, (10 : CodePoint) ∉ line) :
    read (PyStr.join [10] lines ++ [10]) = (scanLines lines).bind compose := by
  have split : (PyStr.join [10] lines ++ [10]).splitOn 10 = lines ++ [[]] := by
    unfold PyStr.join
    rw [List.splitOn_append_cons_self, List.splitOn_intercalate 10 unbroken nonempty]
    rfl
  have closed : scanLines [[]] = some [] := rfl
  unfold read
  rw [split, scanLines_append, closed]
  cases scanLines lines with
  | none => rfl
  | some pieces =>
    show compose (pieces ++ []) = compose pieces
    rw [List.append_nil]

section Repeated

variable {α : Type}

/-- Lines that are written for one item after another. The text is refused when those of one item
are. -/
theorem scanLines_flatMap {lines : α → List PyStr} {pieces : α → List Placed} {fits : α → Prop}
    [DecidablePred fits]
    (each : ∀ item, scanLines (lines item) = if fits item then some (pieces item) else none)
    (items : List α) :
    scanLines (items.flatMap lines) =
      if ∀ item ∈ items, fits item then some (items.flatMap pieces) else none := by
  induction items with
  | nil => rw [if_pos (List.forall_mem_nil _)]; rfl
  | cons item rest inductionHypothesis =>
    rw [List.flatMap_cons, scanLines_append, each, inductionHypothesis]
    simp only [List.forall_mem_cons]
    by_cases here : fits item <;> by_cases later : ∀ item ∈ rest, fits item <;>
      simp [here, later]

theorem scanLines_map {line : α → PyStr} {pieces : α → List Placed}
    (each : ∀ item, scanLine (line item) = some (pieces item)) (items : List α) :
    scanLines (items.map line) = some (items.flatMap pieces) := by
  induction items with
  | nil => rfl
  | cons item rest inductionHypothesis =>
    rw [List.map_cons, scanLines_cons, each, inductionHypothesis]
    rfl

theorem laidItems_map {column : Nat} {node : α → Node} {pieces : α → List Placed} {items : List α}
    (each : ∀ item ∈ items, Laid (column + 1) (node item) (pieces item)) :
    LaidItems column (items.map node)
      (items.flatMap fun item => ⟨column, .dash⟩ :: pieces item) := by
  induction items with
  | nil => exact .nil
  | cons item rest inductionHypothesis =>
    exact .cons (each item List.mem_cons_self)
      (inductionHypothesis fun other member => each other (List.mem_cons_of_mem _ member))

theorem laidEntries_map {column : Nat} {key : α → Scalar} {node : α → Node}
    {pieces : α → List Placed} {items : List α}
    (each : ∀ item ∈ items, Laid (column + 1) (node item) (pieces item)) :
    LaidEntries column (items.map fun item => (key item, node item))
      (items.flatMap fun item => ⟨column, .key (key item)⟩ :: pieces item) := by
  induction items with
  | nil => exact .nil
  | cons item rest inductionHypothesis =>
    exact .cons (each item List.mem_cons_self)
      (inductionHypothesis fun other member => each other (List.mem_cons_of_mem _ member))

end Repeated

/-! ### A document of sections -/

/-- A section of a document: a key at the start of a line, and what comes below it. -/
structure Section where
  key : PyStr
  body : List PyStr
  node : Node

/-- The lines of a section, which is left out when there is nothing below its key. -/
def Section.lines (block : Section) : List PyStr :=
  if block.body.isEmpty then [] else (block.key ++ [58]) :: block.body

/-- The key of the section is a word, and its body, when it can be read at all, is its node. -/
structure Section.Sound (block : Section) : Prop where
  isWord : IsWord block.key
  short : block.key.length ≤ keyLimit
  unbroken : ∀ line ∈ block.body, (10 : CodePoint) ∉ line
  laid : ∀ pieces, scanLines block.body = some pieces → block.body ≠ [] →
    Laid 1 block.node pieces

/-- The entries of the sections that are not left out. -/
def entriesOf (sections : List Section) : List (Scalar × Node) :=
  (sections.filter fun block => !block.body.isEmpty).map fun block => (.plain block.key, block.node)

/-- The document as a whole. -/
def documentOf (sections : List Section) : Node :=
  if (entriesOf sections).isEmpty then .null else .map (entriesOf sections)

theorem scanLine_section {key : PyStr} (isWord : IsWord key) (short : key.length ≤ keyLimit) :
    scanLine (key ++ [58]) = some [⟨0, .key (.plain key)⟩] := by
  obtain ⟨point, later, rfl⟩ := List.exists_cons_of_ne_nil isWord.nonempty
  have letter := isWord.points point List.mem_cons_self
  have begins : point.val ≠ 32 ∧ point.val ≠ 45 ∧ point.val ≠ 35 := by
    refine ⟨?_, ?_, ?_⟩ <;> intro same <;> rw [isWordPoint, same] at letter <;>
      exact absurd letter (by decide)
  have reads : readScalar (point :: later ++ [58]) = some (.plain (point :: later), [58]) :=
    readScalar_word isWord (by rintro point ⟨⟩; decide)
  have wide : (point :: later ++ [58]).length - [(58 : CodePoint)].length =
      (point :: later).length := by
    rw [List.length_append, Nat.add_sub_cancel]
  have cut : scanLine (blanks 0 ++ (point :: later ++ [58])) =
      scanPieces 0 (point :: later ++ [58]) :=
    scanLine_blanks (by rintro point ⟨⟩; exact ⟨begins.1, begins.2.2⟩) (by simp)
  refine cut.trans ?_
  rw [scanPieces_scalar (by rintro point ⟨⟩; exact ⟨begins.1, begins.2.1⟩) (by simp), scanScalar,
    reads]
  simp only [wide]
  rw [if_pos ⟨by decide, short, rfl⟩]
  rfl

theorem Section.scanLines_lines {block : Section} (sound : block.Sound) :
    scanLines block.lines = (scanLines block.body).map fun body =>
      if block.body.isEmpty then [] else ⟨0, .key (.plain block.key)⟩ :: body := by
  unfold Section.lines
  cases empty : block.body.isEmpty with
  | true =>
    rw [List.isEmpty_iff.mp empty]
    rfl
  | false =>
    rw [if_neg Bool.false_ne_true, scanLines_cons, scanLine_section sound.isWord sound.short]
    rfl

/-- The sections are laid out one below the other, or one of them cannot be read. -/
theorem scanLines_sections {sections : List Section} (each : ∀ block ∈ sections, block.Sound) :
    (∃ pieces, scanLines (sections.flatMap Section.lines) = some pieces ∧
        LaidEntries 0 (entriesOf sections) pieces ∧
          ∀ block ∈ sections, (scanLines block.body).isSome) ∨
      (scanLines (sections.flatMap Section.lines) = none ∧
        ¬ ∀ block ∈ sections, (scanLines block.body).isSome) := by
  induction sections with
  | nil => exact .inl ⟨[], rfl, .nil, List.forall_mem_nil _⟩
  | cons block rest inductionHypothesis =>
    have sound := each block List.mem_cons_self
    rw [List.flatMap_cons, scanLines_append, Section.scanLines_lines sound, List.forall_mem_cons]
    cases scanned : scanLines block.body with
    | none => exact .inr ⟨rfl, fun both => Bool.false_ne_true both.1⟩
    | some body =>
      rcases inductionHypothesis fun other member => each other (List.mem_cons_of_mem _ member)
        with ⟨pieces, others, laid, all⟩ | ⟨others, notAll⟩
      · rw [others]
        refine .inl ⟨_, rfl, ?_, rfl, all⟩
        unfold entriesOf
        cases empty : block.body.isEmpty with
        | true =>
          rw [List.filter_cons_of_neg (by simp [empty])]
          exact laid
        | false =>
          rw [List.filter_cons_of_pos (by simp [empty])]
          exact .cons (sound.laid body scanned (by simpa using empty)) laid
      · rw [others]
        exact .inr ⟨rfl, fun both => notAll both.2⟩

theorem Section.unbroken_lines {block : Section} (sound : block.Sound) :
    ∀ line ∈ block.lines, (10 : CodePoint) ∉ line := by
  intro line member
  unfold Section.lines at member
  split at member
  · exact absurd member List.not_mem_nil
  · rcases List.mem_cons.mp member with rfl | below
    · intro broken
      rcases List.mem_append.mp broken with letter | colon
      · exact absurd (sound.isWord.points 10 letter) (by decide)
      · exact absurd (List.mem_singleton.mp colon) (by decide)
    · exact sound.unbroken line below

/-- A text of comments and sections is read as the document of the sections, unless one of them
cannot be read. -/
theorem read_document {comments : List PyStr} {sections : List Section}
    (nonempty : comments ≠ []) (unbroken : ∀ line ∈ comments, (10 : CodePoint) ∉ line)
    (silent : scanLines comments = some []) (each : ∀ block ∈ sections, block.Sound) :
    read (PyStr.join [10] (comments ++ sections.flatMap Section.lines) ++ [10]) =
      if ∀ block ∈ sections, (scanLines block.body).isSome then some (documentOf sections)
      else none := by
  have whole : ∀ line ∈ comments ++ sections.flatMap Section.lines, (10 : CodePoint) ∉ line := by
    intro line member
    rcases List.mem_append.mp member with comment | below
    · exact unbroken line comment
    · obtain ⟨block, isBlock, isLine⟩ := List.mem_flatMap.mp below
      exact Section.unbroken_lines (each block isBlock) line isLine
  rw [read_lines (by simp [nonempty]) whole, scanLines_append, silent]
  rcases scanLines_sections each with ⟨pieces, scanned, laid, all⟩ | ⟨refused, notAll⟩
  · rw [scanned, if_pos all]
    show compose pieces = some (documentOf sections)
    unfold documentOf
    by_cases empty : entriesOf sections = []
    · rw [empty] at laid ⊢
      cases laid
      rfl
    · rw [if_neg (by simpa using empty)]
      exact compose_laid (.map le_rfl empty laid)
  · rw [refused, if_neg notAll]
    rfl

theorem valueAt_cons_of_ne {key : PyStr} (entry : Scalar × Node) (rest : List (Scalar × Node))
    (other : entry.1.text ≠ key) : valueAt key (entry :: rest) = valueAt key rest := by
  unfold valueAt
  rw [List.find?_cons_of_neg (by simpa using other)]

/-- The value of a key that no section has. -/
theorem valueAt_entriesOf_of_notMem {key : PyStr} {sections : List Section}
    (absent : key ∉ sections.map Section.key) : valueAt key (entriesOf sections) = .null := by
  unfold valueAt
  have missing : (entriesOf sections).find? (fun entry => entry.1.text = key) = none := by
    rw [List.find?_eq_none]
    intro entry member same
    obtain ⟨block, isBlock, rfl⟩ := List.mem_map.mp member
    refine absent (List.mem_map.mpr ⟨block, (List.mem_filter.mp isBlock).1, ?_⟩)
    exact of_decide_eq_true same
  rw [missing]
  rfl

/-- The value of the key of a section. -/
theorem valueAt_entriesOf {sections : List Section} {block : Section} (member : block ∈ sections)
    (distinct : (sections.map Section.key).Nodup) :
    valueAt block.key (entriesOf sections) =
      if block.body.isEmpty then .null else block.node := by
  induction sections with
  | nil => exact absurd member List.not_mem_nil
  | cons first rest inductionHypothesis =>
    rw [List.map_cons, List.nodup_cons] at distinct
    rcases List.mem_cons.mp member with rfl | later
    · cases empty : block.body.isEmpty with
      | true =>
        unfold entriesOf
        rw [List.filter_cons_of_neg (by simp [empty])]
        exact valueAt_entriesOf_of_notMem distinct.1
      | false =>
        unfold entriesOf valueAt
        rw [List.filter_cons_of_pos (by simp [empty]), List.map_cons,
          List.find?_cons_of_pos (by simp [Scalar.text])]
        rfl
    · have other : first.key ≠ block.key := by
        intro same
        rw [same] at distinct
        exact distinct.1 (List.mem_map_of_mem later)
      rw [← inductionHypothesis later distinct.2]
      unfold entriesOf
      cases empty : first.body.isEmpty with
      | true => rw [List.filter_cons_of_neg (by simp [empty])]
      | false =>
        rw [List.filter_cons_of_pos (by simp [empty]), List.map_cons]
        exact valueAt_cons_of_ne (.plain first.key, first.node) _ other

end Yaml
