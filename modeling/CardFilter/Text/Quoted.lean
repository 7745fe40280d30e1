import CardFilter.Text.Unprintable
import CardFilter.Text.Extenders

/-!
# Quoted text

A text between double quotes, readable on one line: the quote and the backslash are escaped, the
common controls have a letter, and whatever would not show by itself is given by its code point.
-/

namespace CardFilter.Text

/-- Whether a character shows as a mark of its own. -/
def isPrintable (c : Char) : Bool :=
  if c.toNat < 0x80 then ' ' ≤ c && c != '\x7f'
  else !inRanges unprintableRanges c && !inRanges extenderRanges c

def hexText (value : Nat) : List Char := Nat.toDigits 16 value

/-- One character inside quotes. -/
def quotedChar (c : Char) : List Char :=
  match c with
  | '"' => ['\\', '"']
  | '\\' => ['\\', '\\']
  | '\n' => ['\\', 'n']
  | '\r' => ['\\', 'r']
  | '\t' => ['\\', 't']
  | '\x00' => ['\\', '0']
  | c => if isPrintable c then [c] else ['\\', 'u', '\x7b'] ++ hexText c.toNat ++ ['\x7d']

def quoted (text : String) : List Char :=
  '"' :: text.toList.flatMap quotedChar ++ ['"']

end CardFilter.Text
