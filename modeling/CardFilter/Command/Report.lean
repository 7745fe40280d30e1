import CardFilter.Json.Writer

/-!
# Reports

What a command leaves behind: an exit code and two texts.  For programs the answer is a line of
JSON, an *envelope* that holds either a result or an error; for people it is plain text.
-/

namespace CardFilter

/-- How an answer is written. -/
inductive Mode
  | text
  | json
  /-- Nothing is written on success. -/
  | quiet
deriving DecidableEq, Repr

namespace Mode

/-- Being quiet comes first, then JSON, then text; without a wish a terminal gets text. -/
def choose (json noJson quiet terminal : Bool) : Mode :=
  if quiet then .quiet
  else if json then .json
  else if noJson || terminal then .text
  else .json

def isJson (mode : Mode) : Bool := mode == .json

def isQuiet (mode : Mode) : Bool := mode == .quiet

end Mode

/-- How a command ends. -/
inductive ExitCode
  | success
  | general
  /-- The condition is not complete enough to be saved. -/
  | incomplete
  /-- The arguments do not make a command. -/
  | misuse
  /-- The input is not a condition. -/
  | unparsable
  /-- An argument does not mean anything. -/
  | badArgument
  | badSettings
  /-- The names cannot be had. -/
  | unresolved
deriving DecidableEq, Repr

/-- The number that a shell sees. -/
def ExitCode.value : ExitCode → Int32
  | .success => 0
  | .general => 1
  | .incomplete | .misuse => 2
  | .unparsable => 3
  | .badArgument => 4
  | .badSettings => 5
  | .unresolved => 6

/-- What an error may say besides its message. -/
inductive Hint
  | nothing
  /-- What may have been meant. -/
  | suggestions (names : List String)
  | details (text : String)
deriving DecidableEq, Repr

/-- The hint of what may have been meant, if there is anything. -/
def Hint.ofNames (names : List String) : Hint :=
  if names.isEmpty then .nothing else .suggestions names

namespace Envelope

def protocol : String × Json := ("jsonrpc", .string "2.0")

/-- There are no requests that an answer could name. -/
def noRequest : String × Json := ("id", .null)

def result (value : Json) : Json := .object [protocol, ("result", value), noRequest]

/-- Error numbers start below the range that is reserved. -/
def errorNumber (code : Int32) : Int32 := -32000 - code

def hintMembers : Hint → List (String × Json)
  | .nothing => []
  | .suggestions names => [("data", .object [("suggestions", .ofStrings names)])]
  | .details text => [("data", .object [("details", .string text)])]

def error (code : Int32) (message : String) (hint : Hint) : Json :=
  .object [protocol,
    ("error", .object ([("code", .number (.integer (errorNumber code).toInt)),
      ("message", .string message)] ++ hintMembers hint)),
    noRequest]

end Envelope

structure Report where
  exit : ExitCode
  stdout : String
  stderr : String
deriving DecidableEq, Repr

/-- What a command has to say. -/
inductive Output
  /-- A value, as JSON for programs and as text for people. -/
  | value (json : Json) (text : String)
  /-- A text that is written in every mode. -/
  | plain (text : String)
  /-- A text that is written unless there should be silence. -/
  | notice (text : String)

namespace Report

def line (text : String) : String := text ++ "\n"

/-- What is written of an output; a text has its ends of lines already. -/
def written (mode : Mode) : Output → String
  | .value json text =>
    match mode with
    | .json => line (Envelope.result json).compact
    | .text => text
    | .quiet => ""
  | .plain text => text
  | .notice text => if mode.isQuiet then "" else text

def ofOutput (mode : Mode) (exit : ExitCode) (output : Output) : Report :=
  ⟨exit, written mode output, ""⟩

/-- The line about what may have been meant. -/
def meant : Hint → String
  | .suggestions names => line ("  did you mean: " ++ ", ".intercalate names)
  | .nothing | .details _ => ""

/-- An error, which programs find among the answers and people beside them.  People read the
text. -/
def ofError (mode : Mode) (exit : ExitCode) (message text : String) (hint : Hint) : Report :=
  if mode.isJson then ⟨exit, line (Envelope.error exit.value message hint).compact, ""⟩
  else ⟨exit, "", line ("error: " ++ text) ++ meant hint⟩

end Report

end CardFilter
