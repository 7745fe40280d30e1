import CardFilter.Json.Reader
import CardFilter.Number.Literal

/-!
# Strict JSON

The interchange grammar: double quotes only, no comments, no bare names, no trailing comma, and at
most 127 containers inside one another.  An integer that fits 64 bits stays one; any other number is
a real, read from the first digits that fit 64 bits with one rounding per step.
-/

namespace CardFilter.Json.Strict

def escape : Char → Option Escape
  | '"' => some (.char '"')
  | '\\' => some (.char '\\')
  | '/' => some (.char '/')
  | 'b' => some (.char '\x08')
  | 'f' => some (.char '\x0c')
  | 'n' => some (.char '\n')
  | 'r' => some (.char '\r')
  | 't' => some (.char '\t')
  | 'u' => some (.digits 4)
  | _ => none

def lexicon : Lexicon where
  isSpace c := c == ' ' || c == '\n' || c == '\t' || c == '\r'
  comments := false
  endsLine c := c == '\n'
  isQuote c := c == '"'
  isPlain c := ' ' ≤ c
  escape := escape

/-- Digits before the point without a leading zero, digits behind every point, no plus sign. -/
def hasForm (literal : Literal) : Bool :=
  literal.sign != some '+' && !literal.whole.isEmpty &&
    (literal.whole.length == 1 || literal.whole.head? != some '0') && literal.fraction != some []

def isNumber (text : List Char) : Bool := ((Literal.ofChars? text).map hasForm).getD false

/-- Takes digits as long as the value fits 64 bits; gives the number of digits left over. -/
def takeDigits (value : Nat) : List Char → Nat × Nat
  | [] => (value, 0)
  | c :: rest =>
    let next := 10 * value + Literal.digitValue c
    if next < UInt64.size then takeDigits next rest else (value, rest.length + 1)

/-- The leading digits that fit 64 bits, and the exponent that goes with them. -/
def leading (literal : Literal) : Decimal :=
  let (whole, surplus) := takeDigits 0 literal.whole
  let digits := literal.fractionDigits
  let (coefficient, unused) := takeDigits whole digits
  ⟨coefficient, literal.exponentValue + surplus - (digits.length - unused : Nat)⟩

def real? (literal : Literal) : Option Number :=
  (leading literal).quick.map fun value ↦
    .real (if literal.isNegative then value.neg else value)

/-- Minus zero is a real, because no integer has its sign. -/
def staysInteger (literal : Literal) : Bool :=
  literal.isInteger &&
    if literal.isNegative then Int64.minValue.toInt ≤ literal.toInt && literal.toInt < 0
    else literal.toInt < UInt64.size

def number? (text : List Char) : Option Number :=
  match Literal.ofChars? text with
  | none => none
  | some literal =>
    if staysInteger literal then some (.integer literal.toInt) else real? literal

def grammar : Grammar where
  lexicon := lexicon
  isNumber := isNumber
  number? := number?
  count? := number?
  name? _ := none
  trailingComma := false
  depthLimit := some 127
  unnamed := .skipped
  dropsSurplus := false

/-- Reads a strict text; members keep their order and repetitions. -/
def read? (schema : Schema) (text : String) : Option Json := grammar.read? schema text

end CardFilter.Json.Strict
