import CardFilter.Json.Diagnosis
import CardFilter.Number.Literal
import CardFilter.Text.Letters

/-!
# Relaxed JSON

JSON as people write it: comments, bare names, either quote, a comma at the end, and more forms of
numbers.  An integer has to fit 64 bits, a hexadecimal one 32 bits and no sign; a real has to be
finite, unless it is one of the words for those that are not.
-/

namespace CardFilter.Json.Relaxed

def endsLine (c : Char) : Bool :=
  c == '\n' || c == '\r' || c == '\u2028' || c == '\u2029'

/-- Blanks, separators, line ends and the byte order mark. -/
def spaceRanges : List (Nat × Nat) := [
  (0x9, 0xD), (0x20, 0x20), (0xA0, 0xA0), (0x1680, 0x1680), (0x2000, 0x200A), (0x2028, 0x2029),
  (0x202F, 0x202F), (0x205F, 0x205F), (0x3000, 0x3000), (0xFEFF, 0xFEFF)]

/-- Digits other than zero stand for nothing; most characters stand for themselves. -/
def escape (c : Char) : Option Escape :=
  match c with
  | 'b' => some (.char '\x08')
  | 'f' => some (.char '\x0c')
  | 'n' => some (.char '\n')
  | 'r' => some (.char '\r')
  | 't' => some (.char '\t')
  | 'v' => some (.char '\x0b')
  | '0' => some (.char '\x00')
  | 'x' => some (.digits 2)
  | 'u' => some (.digits 4)
  | '\r' => some .continuedReturn
  | c =>
    if endsLine c then some .continued
    else if Literal.isDigit c then none
    else some (.char c)

def lexicon : Lexicon where
  isSpace := Text.inRanges spaceRanges
  comments := true
  endsLine := endsLine
  isQuote c := c == '"' || c == '\x27'
  isPlain c := !endsLine c
  escape := escape

def isLetter (c : Char) : Bool :=
  c.isAlpha || c == '$' || c == '_' || Text.inRanges Text.letterRanges c

/-- Characters behind the first of a bare name: letters, digits, marks and joiners. -/
def isNamePart (c : Char) : Bool :=
  isLetter c || Literal.isDigit c || c == '^' || c == '\x60' || Text.inRanges Text.joiningRanges c

def hexUnit? (digits : List Char) : Option Nat :=
  digits.foldl
    (fun value c ↦ value.bind fun value ↦ (hexValue? c).map (16 * value + ·)) (some 0)

/-- The pieces of a bare name, in which code units may be given by number. -/
def namePieces (allowed : Char → Bool) : List Char → Option (List Piece)
  | [] => some []
  | '\\' :: 'u' :: a :: b :: c :: d :: rest =>
    match hexUnit? [a, b, c, d], namePieces isNamePart rest with
    | some unit, some pieces => some (.unit unit :: pieces)
    | _, _ => none
  | c :: rest =>
    if allowed c then (namePieces isNamePart rest).map (.char c :: ·) else none

def name? (text : List Char) : Option String :=
  if text.isEmpty then none else (namePieces isLetter text).bind textOfPieces

/-- Digits before the point without a leading zero; one side of the point may be empty. -/
def hasForm (literal : Literal) : Bool :=
  literal.hasDigits && (literal.whole.length ≤ 1 || literal.whole.head? != some '0')

/-- The digits of a hexadecimal literal. -/
def hexDigits? : List Char → Option (List Char)
  | '0' :: 'x' :: digits | '0' :: 'X' :: digits =>
    if !digits.isEmpty && digits.all fun c ↦ (hexValue? c).isSome then some digits else none
  | _ => none

def isWord (text : List Char) : Bool := text == "Infinity".toList || text == "NaN".toList

def isNumber (text : List Char) : Bool :=
  let unsigned := (Literal.takeSign text).2
  isWord unsigned || (hexDigits? unsigned).isSome ||
    ((Literal.ofChars? text).map hasForm).getD false

/-- The words for numbers that are not finite; none takes a plus sign. -/
def word? (text : List Char) : Option Binary64 :=
  if text = "Infinity".toList then some (.infinity false)
  else if text = "-Infinity".toList then some (.infinity true)
  else if text = "NaN".toList ∨ text = "-NaN".toList then some .nan
  else none

/-- The value of a hexadecimal literal; a signed one is no literal. -/
def hex? (text : List Char) : Option Nat :=
  match (hexDigits? text).bind hexUnit? with
  | some value => if value < UInt32.size then some value else none
  | none => none

def decimal? (text : List Char) : Option Literal :=
  match Literal.ofChars? text with
  | some literal => if hasForm literal then some literal else none
  | none => none

def finite? (value : Binary64) : Option Binary64 := if value.isFinite then some value else none

def number? (text : List Char) : Option Number :=
  match word? text, hex? text, decimal? text with
  | some value, _, _ => some (.real value)
  | none, some value, _ => some (.integer value)
  | none, none, some literal =>
    if literal.isInteger then
      if Int64.minValue.toInt ≤ literal.toInt ∧ literal.toInt ≤ Int64.maxValue.toInt then
        some (.integer literal.toInt)
      else none
    else (finite? literal.toBinary64).map .real
  | none, none, none => none

/-- Any number, cut to an unsigned whole part. -/
def count? (text : List Char) : Option Number :=
  match word? text, hex? text, decimal? text with
  | some value, _, _ => some (.integer value.toWord)
  | none, some value, _ => some (.integer value)
  | none, none, some literal =>
    (finite? literal.toBinary64).map fun value ↦ .integer value.toWord
  | none, none, none => none

def grammar : Grammar where
  lexicon := lexicon
  isNumber := isNumber
  number? := number?
  count? := count?
  name? := name?
  trailingComma := true
  depthLimit := none
  unnamed := .value
  dropsSurplus := true

/-- Reads a relaxed text; members keep their order and repetitions. -/
def read? (schema : Schema) (text : String) : Option Json := grammar.read? schema text

/-- The same, saying where a text stops that cannot be read. -/
def read (schema : Schema) (text : String) : Except Diagnosis Json := grammar.read schema text

end CardFilter.Json.Relaxed
