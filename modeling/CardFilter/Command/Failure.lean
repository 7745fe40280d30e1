import CardFilter.Command.Report
import CardFilter.Condition.LinkKey
import CardFilter.Condition.Parse
import CardFilter.Session.Basic
import CardFilter.Settings.File
import CardFilter.Settings.Key

/-!
# Failures

Why a command comes to nothing, what is said about it, and the exit code that goes with it.
-/

namespace CardFilter

inductive Failure
  /-- No text comes from the standard input. -/
  | noInput (detail : String)
  /-- No text comes from the file of a condition. -/
  | unreadable (path : String) (error : ReadError)
  | malformed (error : Condition.Error)
  | noHome
  /-- There is no place for settings that are needed. -/
  | noSettings
  | settings (error : Settings.FileError)
  | unverified (error : Settings.VerifyError)
  | unwritten (path : String) (error : WriteError)
  | setting (error : SetError)
  | unknownConnective (name : String)
  | unknownKind (name : String)
  | unknownEnd (name : String)
  | blankLinkType
  | linkKey (key : String) (error : LinkKey.Error)
  /-- Nobody can ask for names under these settings. -/
  | noClient
  | unresolved (error : Option FetchError)

namespace Failure

def exit : Failure → ExitCode
  | .noInput _ | .unreadable .. | .noHome | .unwritten .. | .noClient => .general
  | .malformed _ => .unparsable
  | .noSettings | .settings _ | .unverified _ => .badSettings
  | .setting _ | .unknownConnective _ | .unknownKind _ | .unknownEnd _ | .blankLinkType
  | .linkKey .. => .badArgument
  | .unresolved _ => .unresolved

def homeMessage : String := "Could not find home directory"

/-- What is said to people. -/
def text : Failure → String
  | .noInput detail => "failed to read condition from stdin: " ++ detail
  | .unreadable path error =>
    "failed to read condition file: " ++ path ++ ": " ++ error.detail
  | .malformed error => error.text
  | .noHome | .noSettings => homeMessage
  | .settings error => error.message
  | .unverified error => error.message
  | .unwritten path error => Settings.writeFailure path error
  | .setting error => error.message
  | .unknownConnective name => "invalid group operator '" ++ name ++ "'"
  | .unknownKind name => "unknown node type '" ++ name ++ "'"
  | .unknownEnd name => "invalid position '" ++ name ++ "'"
  | .blankLinkType => "link type id must not be empty"
  | .linkKey key error => error.message key
  | .noClient => "Failed to build HTTP client: builder error"
  | .unresolved (some error) => error.message
  | .unresolved none => "display info request failed"

/-- What is said to programs, which get the place of a fault on its own. -/
def message : Failure → String
  | .malformed (.fault fault) => fault.message
  | failure => failure.text

def hint : Failure → Hint
  | .malformed (.fault fault) => .details fault.path
  | .unknownConnective _ => .ofNames (Connective.named.map (·.1))
  | .unknownKind name => .ofNames (Kind.suggestions name 2)
  | .unknownEnd _ => .ofNames (LinkEnd.named.map (·.1))
  | _ => .nothing

def report (mode : Mode) (failure : Failure) : Report :=
  .ofError mode failure.exit failure.message failure.text failure.hint

end Failure

end CardFilter
