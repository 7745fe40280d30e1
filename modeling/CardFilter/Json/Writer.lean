import CardFilter.Json.Basic
import CardFilter.Number.Decimal

/-!
# JSON text

Two layouts of one value: compact, without any space, and pretty, with two blanks per level.
Strings escape the quote, the backslash and the controls below the blank, and nothing else.
-/

namespace CardFilter.Json

/-- Reals show at least one decimal between `10 ^ (-5)` and `10 ^ 16` and an exponent elsewhere. -/
def realStyle : NumberStyle := ⟨.toEven, some (-5, 15), ['.', '0']⟩

def integerText (value : Int) : List Char :=
  if value < 0 then '-' :: Nat.toDigits 10 value.natAbs else Nat.toDigits 10 value.natAbs

def Number.text : Number → List Char
  | .integer value => integerText value
  | .real value => if value.isFinite then realStyle.text value else "null".toList

/-- Two lower-case hexadecimal digits. -/
def hexByte (value : Nat) : List Char :=
  [Nat.digitChar (value / 16), Nat.digitChar (value % 16)]

def escapedChar (c : Char) : List Char :=
  match c with
  | '"' => ['\\', '"']
  | '\\' => ['\\', '\\']
  | '\x08' => ['\\', 'b']
  | '\x0c' => ['\\', 'f']
  | '\n' => ['\\', 'n']
  | '\r' => ['\\', 'r']
  | '\t' => ['\\', 't']
  | c => if c < ' ' then ['\\', 'u', '0', '0'] ++ hexByte c.toNat else [c]

def stringText (value : String) : List Char :=
  '"' :: value.toList.flatMap escapedChar ++ ['"']

def scalarText : Json → List Char
  | .null => "null".toList
  | .bool true => "true".toList
  | .bool false => "false".toList
  | .number value => value.text
  | .string value => stringText value
  | .array _ => "[]".toList
  | .object _ => ['\x7b', '\x7d']

mutual

/-- The text without any space. -/
def compactChars : Json → List Char
  | .array items => '[' :: compactItems items ++ [']']
  | .object members => '\x7b' :: compactMembers members ++ ['\x7d']
  | scalar => scalarText scalar

def compactItems : List Json → List Char
  | [] => []
  | [item] => compactChars item
  | item :: rest => compactChars item ++ ',' :: compactItems rest

def compactMembers : List (String × Json) → List Char
  | [] => []
  | [(name, value)] => stringText name ++ ':' :: compactChars value
  | (name, value) :: rest =>
    stringText name ++ ':' :: compactChars value ++ ',' :: compactMembers rest

end

/-- A new line, indented to the given level. -/
def newLine (level : Nat) : List Char := '\n' :: List.replicate (2 * level) ' '

mutual

/-- The text over several lines; an empty container stays on its line. -/
def prettyChars (level : Nat) : Json → List Char
  | .array (item :: rest) =>
    '[' :: newLine (level + 1) ++ prettyItems level (item :: rest) ++ newLine level ++ [']']
  | .object (member :: rest) =>
    '\x7b' :: newLine (level + 1) ++ prettyMembers level (member :: rest) ++ newLine level ++
      ['\x7d']
  | scalar => scalarText scalar

def prettyItems (level : Nat) : List Json → List Char
  | [] => []
  | [item] => prettyChars (level + 1) item
  | item :: rest =>
    prettyChars (level + 1) item ++ ',' :: newLine (level + 1) ++ prettyItems level rest

def prettyMembers (level : Nat) : List (String × Json) → List Char
  | [] => []
  | [(name, value)] => stringText name ++ ':' :: ' ' :: prettyChars (level + 1) value
  | (name, value) :: rest =>
    stringText name ++ ':' :: ' ' :: prettyChars (level + 1) value ++
      ',' :: newLine (level + 1) ++ prettyMembers level rest

end

def compact (value : Json) : String := String.ofList (compactChars value)

def pretty (value : Json) : String := String.ofList (prettyChars 0 value)

end CardFilter.Json
