import CardFilter.Json.Reader

/-!
# Where a text stops making sense

A text that cannot be read is read again as far as it goes, to say where it stops and what was due
there.  The place is the start of the first token that is refused, or the end of a text that stops
too soon.
-/

namespace CardFilter.Json

/-- What was due at a place of a text. -/
structure Diagnosis where
  /-- Lines and columns count from one. -/
  line : Nat
  column : Nat
  lineText : List Char
  due : List Char

namespace Grammar

/-- Whether the scan stands where a token may start. -/
def isBetween : Scan → Bool
  | .between | .lineComment | .blockComment _ => true
  | .slash | .atom _ | .string .. => false

/-- What was assembled when reading stopped, and the text from the first token that was not used.
The scan goes on in front of `text`; `pending` starts where the token part way through starts. -/
def stall (grammar : Grammar) (whole : Schema) (scan : Scan) (assembly : Assembly)
    (pending : List Char) : (text : List Char) → Assembly × List Char
  | [] =>
    match (Lexicon.finish scan).bind fun tokens ↦ tokens.foldlM (grammar.step whole) assembly with
    | some finished => (finished, [])
    | none => (assembly, pending)
  | c :: rest =>
    match grammar.lexicon.step c scan with
    | none => (assembly, pending)
    | some (next, []) =>
      let pending :=
        if isBetween next then rest else if isBetween scan then c :: rest else pending
      stall grammar whole next assembly pending rest
    | some (next, token :: more) =>
      match grammar.step whole assembly token with
      | none => (assembly, pending)
      | some grown =>
        match more with
        | [] =>
          let closed := match token with
            | .atom _ => isBetween next
            | _ => true
          stall grammar whole next grown (if closed then rest else c :: rest) rest
        | last :: _ =>
          match grammar.step whole grown last with
          | none => (grown, c :: rest)
          | some grown => stall grammar whole next grown rest rest

/-- What may stand where reading stopped. -/
def dueText (assembly : Assembly) : String :=
  match assembly.due, assembly.frames with
  | .value, _ | .element, _ => "expected array, boolean, null, number, object, or string"
  | .name, _ | .member, _ => "expected identifier or string"
  | .colon, _ => "expected colon"
  | .separator, [] => "expected EOI"
  | .separator, _ => "expected comma or end of container"

/-- Says where a text that cannot be read stops. -/
def diagnose (grammar : Grammar) (whole : Schema) (text : String) : Diagnosis :=
  let chars := text.toList
  let (assembly, rest) := grammar.stall whole .between .start chars chars
  let before := chars.take (chars.length - rest.length)
  let lineStart := (before.reverse.takeWhile (· != '\n')).reverse
  { line := before.count '\n' + 1
    column := lineStart.length + 1
    lineText := (lineStart ++ rest.takeWhile (· != '\n')).filter (· != '\r')
    due := (dueText assembly).toList }

/-- Reads a whole text, or says where it stops. -/
def read (grammar : Grammar) (schema : Schema) (text : String) : Except Diagnosis Json :=
  match grammar.read? schema text with
  | some value => .ok value
  | none => .error (grammar.diagnose schema text)

end Grammar

namespace Diagnosis

/-- The line with a mark under the place; the margin is as wide as the line's number. -/
def chars (diagnosis : Diagnosis) : List Char :=
  let number := Nat.toDigits 10 diagnosis.line
  let margin := List.replicate number.length ' '
  let bar := margin ++ [' ', '|']
  let indent := (diagnosis.lineText.take (diagnosis.column - 1)).map fun c ↦
    if c = '\t' then c else ' '
  margin ++ "--> ".toList ++ number ++ ':' :: Nat.toDigits 10 diagnosis.column ++
    '\n' :: bar ++
    '\n' :: number ++ " | ".toList ++ diagnosis.lineText ++
    '\n' :: bar ++ ' ' :: indent ++ "^---".toList ++
    '\n' :: bar ++
    '\n' :: margin ++ " = ".toList ++ diagnosis.due

def text (diagnosis : Diagnosis) : String := String.ofList diagnosis.chars

end Diagnosis

end CardFilter.Json
