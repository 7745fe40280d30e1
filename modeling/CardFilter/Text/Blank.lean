import CardFilter.Text.Ranges

/-!
# Blank text

White space is the property `White_Space` of the character database: zero-width characters and the
byte order mark do not belong to it.  A text is blank when nothing is left of it after trimming.
-/

namespace CardFilter.Text

/-- The ranges of white space. -/
def whiteSpaceRanges : List (Nat × Nat) := [
  (0x9, 0xD), (0x20, 0x20), (0x85, 0x85), (0xA0, 0xA0), (0x1680, 0x1680), (0x2000, 0x200A),
  (0x2028, 0x2029), (0x202F, 0x202F), (0x205F, 0x205F), (0x3000, 0x3000)]

def isWhiteSpace (c : Char) : Bool := inRanges whiteSpaceRanges c

def trimStart (text : List Char) : List Char := text.dropWhile isWhiteSpace

def trimEnd (text : List Char) : List Char := (text.reverse.dropWhile isWhiteSpace).reverse

def trim (text : List Char) : List Char := trimEnd (trimStart text)

def isBlank (text : String) : Bool := text.toList.all isWhiteSpace

def isFilled (text : String) : Bool := !isBlank text

/-- Trimmed, with ASCII letters in upper case. -/
def upperTrimmed (text : String) : List Char := (trim text.toList).map Char.toUpper

end CardFilter.Text
