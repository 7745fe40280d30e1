import CardFilter.Number.Literal

/-!
# Counts

Unsigned whole numbers of 64 bits as people type them: digits, with a plus sign in front or not.
-/

namespace CardFilter

/-- Why a text is no count. -/
inductive CountError
  | empty
  | invalidDigit
  | tooLarge
deriving DecidableEq, Repr

def CountError.message : CountError → String
  | .empty => "cannot parse integer from empty string"
  | .invalidDigit => "invalid digit found in string"
  | .tooLarge => "number too large to fit in target type"

namespace Count

/-- Reads digits behind a value, up to the first that is none or does not fit. -/
def readDigits (value : Nat) : List Char → Except CountError UInt64
  | [] => .ok (.ofNat value)
  | c :: rest =>
    if Literal.isDigit c then
      let next := 10 * value + Literal.digitValue c
      if next < UInt64.size then readDigits next rest else .error .tooLarge
    else .error .invalidDigit

def ofChars : List Char → Except CountError UInt64
  | [] => .error .empty
  | ['+'] => .error .invalidDigit
  | '+' :: digits => readDigits 0 digits
  | digits => readDigits 0 digits

def ofText (text : String) : Except CountError UInt64 := ofChars text.toList

end Count

end CardFilter
