/-!
# Tokens of JSON text

The text is scanned one character at a time by a small machine, so the scan of a concatenation is
the scan of its parts in turn.  What a grammar decides is which characters are space, where a string
may start, what may follow a backslash, and whether there are comments.  Everything that is neither
a string nor punctuation is an *atom*: a longest run of other characters, kept as it was written,
because what it stands for depends on its place.
-/

namespace CardFilter.Json

/-- A piece of a string: a character, or a UTF-16 code unit that was given by its number. -/
inductive Piece
  | char (value : Char)
  | unit (value : Nat)
deriving DecidableEq, Repr

inductive Token
  | beginObject
  | endObject
  | beginArray
  | endArray
  | colon
  | comma
  | string (pieces : List Piece)
  | atom (text : List Char)
deriving DecidableEq, Repr

/-- What a backslash and the character behind it stand for. -/
inductive Escape
  /-- One character. -/
  | char (value : Char)
  /-- A code unit, given by this many hexadecimal digits. -/
  | digits (count : Nat)
  /-- Nothing: the line goes on. -/
  | continued
  /-- Nothing, and neither does a line feed right behind. -/
  | continuedReturn
deriving DecidableEq, Repr

/-- The decisions of a grammar about single characters. -/
structure Lexicon where
  isSpace : Char → Bool
  /-- Whether two slashes, or a slash and a star, start a comment. -/
  comments : Bool
  endsLine : Char → Bool
  isQuote : Char → Bool
  /-- Whether a character other than the quote and the backslash may stand in a string. -/
  isPlain : Char → Bool
  escape : Char → Option Escape

/-- Where in a string the scan stands. -/
inductive Phase
  | plain
  | escaped
  | returned
  | digits (left value : Nat)
deriving DecidableEq, Repr

/-- Where in the text the scan stands; what was taken so far is held in reverse. -/
inductive Scan
  | between
  | slash
  | lineComment
  | blockComment (star : Bool)
  | atom (taken : List Char)
  | string (quote : Char) (taken : List Piece) (phase : Phase)
deriving DecidableEq, Repr

def punctuation? : Char → Option Token
  | '\x7b' => some .beginObject
  | '\x7d' => some .endObject
  | '[' => some .beginArray
  | ']' => some .endArray
  | ':' => some .colon
  | ',' => some .comma
  | _ => none

def hexValue? (c : Char) : Option Nat :=
  if '0' ≤ c ∧ c ≤ '9' then some (c.toNat - 48)
  else if 'a' ≤ c ∧ c ≤ 'f' then some (c.toNat - 87)
  else if 'A' ≤ c ∧ c ≤ 'F' then some (c.toNat - 55)
  else none

namespace Lexicon

/-- Whether a character cannot belong to an atom. -/
def endsAtom (lexicon : Lexicon) (c : Char) : Bool :=
  lexicon.isSpace c || (punctuation? c).isSome || lexicon.isQuote c ||
    (lexicon.comments && c == '/')

/-- One character outside of everything. -/
def start (lexicon : Lexicon) (c : Char) : Scan × List Token :=
  if lexicon.isSpace c then (.between, [])
  else
    match punctuation? c with
    | some token => (.between, [token])
    | none =>
      if lexicon.isQuote c then (.string c [] .plain, [])
      else if lexicon.comments && c == '/' then (.slash, [])
      else (.atom [c], [])

/-- One character of a string. -/
def stringPlain (lexicon : Lexicon) (quote : Char) (taken : List Piece) (c : Char) :
    Option (Scan × List Token) :=
  if c = quote then some (.between, [.string taken.reverse])
  else if c = '\\' then some (.string quote taken .escaped, [])
  else if lexicon.isPlain c then some (.string quote (.char c :: taken) .plain, [])
  else none

def stringStep (lexicon : Lexicon) (quote : Char) (taken : List Piece) (c : Char) :
    Phase → Option (Scan × List Token)
  | .plain => lexicon.stringPlain quote taken c
  | .returned =>
    if c = '\n' then some (.string quote taken .plain, [])
    else lexicon.stringPlain quote taken c
  | .escaped =>
    match lexicon.escape c with
    | none => none
    | some (.char value) => some (.string quote (.char value :: taken) .plain, [])
    | some (.digits count) => some (.string quote taken (.digits count 0), [])
    | some .continued => some (.string quote taken .plain, [])
    | some .continuedReturn => some (.string quote taken .returned, [])
  | .digits left value =>
    match hexValue? c with
    | none => none
    | some digit =>
      if left ≤ 1 then some (.string quote (.unit (16 * value + digit) :: taken) .plain, [])
      else some (.string quote taken (.digits (left - 1) (16 * value + digit)), [])

/-- One character anywhere: where the scan stands afterwards, and the tokens that ended. -/
def step (lexicon : Lexicon) (c : Char) : Scan → Option (Scan × List Token)
  | .between => some (lexicon.start c)
  | .atom taken =>
    if lexicon.endsAtom c then
      let (next, tokens) := lexicon.start c
      some (next, .atom taken.reverse :: tokens)
    else some (.atom (c :: taken), [])
  | .string quote taken phase => lexicon.stringStep quote taken c phase
  | .slash =>
    if c = '/' then some (.lineComment, [])
    else if c = '*' then some (.blockComment false, [])
    else none
  | .lineComment => some (if lexicon.endsLine c then .between else .lineComment, [])
  | .blockComment star =>
    some (if star && c == '/' then .between else .blockComment (c == '*'), [])

/-- The tokens still due at the end of the text. -/
def finish : Scan → Option (List Token)
  | .between | .lineComment => some []
  | .atom taken => some [.atom taken.reverse]
  | .slash | .blockComment _ | .string .. => none

/-- Scans the rest of a text; the tokens so far are held in reverse. -/
def scan (lexicon : Lexicon) : Scan → List Token → List Char → Option (List Token)
  | position, taken, [] => (finish position).map (taken.reverse ++ ·)
  | position, taken, c :: rest =>
    match lexicon.step c position with
    | none => none
    | some (next, tokens) => lexicon.scan next (tokens.reverse ++ taken) rest

/-- The tokens of a whole text. -/
def tokens? (lexicon : Lexicon) (text : List Char) : Option (List Token) :=
  lexicon.scan .between [] text

end Lexicon

def isHighSurrogate (unit : Nat) : Bool := 0xD800 ≤ unit && unit ≤ 0xDBFF

def isLowSurrogate (unit : Nat) : Bool := 0xDC00 ≤ unit && unit ≤ 0xDFFF

/-- The characters of a string: code units pair up to characters beyond the basic plane, and one
that has no partner makes the string unreadable. -/
def joinPieces : List Piece → Option (List Char)
  | [] => some []
  | .char c :: rest => (joinPieces rest).map (c :: ·)
  | .unit value :: rest =>
    if isHighSurrogate value then
      match rest with
      | .unit low :: rest =>
        if isLowSurrogate low then
          (joinPieces rest).map
            (Char.ofNat (0x10000 + (value - 0xD800) * 0x400 + (low - 0xDC00)) :: ·)
        else none
      | _ => none
    else if isLowSurrogate value then none
    else (joinPieces rest).map (Char.ofNat value :: ·)

def textOfPieces (pieces : List Piece) : Option String := (joinPieces pieces).map String.ofList

end CardFilter.Json
