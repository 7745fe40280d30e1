import CardFilter.Number.Decimal

/-!
# Number literals

The decimal literal `[sign] digits [. digits] [e [sign] digits]`, read into its parts.  Which parts
may be missing differs between formats, so the reader keeps them apart and each format asks for
what it needs.
-/

namespace CardFilter

/-- The parts of a decimal literal, each as it was written. -/
structure Literal where
  sign : Option Char
  whole : List Char
  fraction : Option (List Char)
  exponent : Option (Option Char × List Char)
deriving DecidableEq, Repr

namespace Literal

def isDigit (c : Char) : Bool := '0' ≤ c && c ≤ '9'

def digitValue (c : Char) : Nat := c.toNat - '0'.toNat

def natOfDigits (digits : List Char) : Nat :=
  digits.foldl (fun value c ↦ 10 * value + digitValue c) 0

/-- An optional sign in front. -/
def takeSign : List Char → Option Char × List Char
  | '+' :: rest => (some '+', rest)
  | '-' :: rest => (some '-', rest)
  | rest => (none, rest)

def takeFraction : List Char → Option (List Char) × List Char
  | '.' :: rest => (some (rest.takeWhile isDigit), rest.dropWhile isDigit)
  | rest => (none, rest)

/-- What stands behind the digits: nothing, or a mark and an exponent with at least one digit. -/
def exponent? : List Char → Option (Option (Option Char × List Char))
  | [] => some none
  | mark :: rest =>
    let (sign, digits) := takeSign rest
    if (mark == 'e' || mark == 'E') && !digits.isEmpty && digits.all isDigit then
      some (some (sign, digits))
    else none

/-- Reads a whole text as a decimal literal; digits may be missing on either side of the point. -/
def ofChars? (text : List Char) : Option Literal :=
  let (sign, unsigned) := takeSign text
  let whole := unsigned.takeWhile isDigit
  let (fraction, rest) := takeFraction (unsigned.dropWhile isDigit)
  match exponent? rest with
  | none => none
  | some exponent => some ⟨sign, whole, fraction, exponent⟩

def isNegative (literal : Literal) : Bool := literal.sign == some '-'

def isInteger (literal : Literal) : Bool :=
  literal.fraction.isNone && literal.exponent.isNone

def fractionDigits (literal : Literal) : List Char := literal.fraction.getD []

/-- At least one digit stands before or behind the point. -/
def hasDigits (literal : Literal) : Bool :=
  !literal.whole.isEmpty || !literal.fractionDigits.isEmpty

def exponentValue (literal : Literal) : Int :=
  match literal.exponent with
  | none => 0
  | some (sign, digits) =>
    if sign == some '-' then -(natOfDigits digits : Int) else natOfDigits digits

/-- The exact magnitude. -/
def decimal (literal : Literal) : Decimal :=
  ⟨natOfDigits (literal.whole ++ literal.fractionDigits),
    literal.exponentValue - literal.fractionDigits.length⟩

/-- The nearest number. -/
def toBinary64 (literal : Literal) : Binary64 :=
  literal.decimal.toBinary64 literal.isNegative

/-- The integer of a literal without point and exponent. -/
def toInt (literal : Literal) : Int :=
  if literal.isNegative then -(natOfDigits literal.whole : Int) else natOfDigits literal.whole

end Literal

/-- Reads a number written for people: a decimal literal, or one of the words for the numbers that
are not finite, in any case.  Too large a literal is infinite. -/
def Binary64.ofChars? (text : List Char) : Option Binary64 :=
  let (sign, unsigned) := Literal.takeSign text
  let word := String.ofList (unsigned.map Char.toLower)
  if word = "inf" ∨ word = "infinity" then some (.infinity (sign == some '-'))
  else if word = "nan" then some .nan
  else
    match Literal.ofChars? text with
    | some literal => if literal.hasDigits then some literal.toBinary64 else none
    | none => none

end CardFilter
