import CardFilter.Command.Answer
import CardFilter.Command.Arguments
import CardFilter.Command.Program
import CardFilter.Condition.Preset
import CardFilter.Condition.Rendering

/-!
# Commands performed

What each command does and answers.  Settings are looked at before the condition, so that a broken
settings file is reported even when the condition is broken too.
-/

namespace CardFilter

/-- What is fixed while a command runs. -/
structure Environment where
  /-- The home folder. -/
  home : Option String
  /-- The path of the settings file, where the environment names one. -/
  settingsPath : Option String
  /-- The address that comes before the stored one. -/
  baseUrl : Option String
  /-- Whether a terminal shows the standard output. -/
  terminal : Bool
deriving DecidableEq, Repr

namespace Condition

/-- Reads a condition from a file, or from the standard input behind a dash. -/
def load (input : String) : Program Condition := do
  let text ← (if input = "-" then
      .input (Program.ofExcept Failure.noInput)
    else .load input (Program.ofExcept (Failure.unreadable input)) : Program String)
  Program.ofExcept Failure.malformed (parse text).value

end Condition

namespace Invocation

/-- What a command answers, and how it ends. -/
abbrev Answer := Program (ExitCode × Output)

def path? (environment : Environment) (invocation : Invocation) : Option String :=
  Settings.path? invocation.settingsPath environment.settingsPath environment.home

/-- The path of the settings file. -/
def path (environment : Environment) (invocation : Invocation) : Program String :=
  match invocation.path? environment with
  | some path => .done path
  | none => .fail .noHome

/-- The settings, after the address from the environment. -/
def settings (environment : Environment) (invocation : Invocation) : Program Settings :=
  match invocation.path? environment with
  | none => .fail .noSettings
  | some path => .load path fun found ↦
    Program.ofExcept Failure.settings (Settings.load path found environment.baseUrl)

def check (settings : Program Settings) (input : String) (maxDepth : Option UInt64) : Answer := do
  let settings ← settings
  let condition ← Condition.load input
  let verdict := Verdict.ofCondition (maxDepth.getD settings.editor.maxDepth).toNat condition
  return (verdict.exit, .value verdict.toJson verdict.text)

def display (input : String) (pretty : Bool) : Answer := do
  let condition ← Condition.load input
  let json := .object [("text", .string condition.text), ("condition", condition.toJson)]
  let text := if pretty then condition.toJson.pretty else condition.text
  return (.success, .value json (textLines [text]))

/-- The connective of a name, or else the one in the settings. -/
def connectiveOr (settings : Settings) : Option String → Program Connective
  | none => .done settings.editor.connective
  | some name =>
    match Connective.ofTyped? name with
    | some connective => .done connective
    | none => .fail (.unknownConnective name)

def create (settings : Program Settings) (connective : Option String) : Answer := do
  let connective ← connectiveOr (← settings) connective
  return (.success, .ofJson (Condition.emptyGroup connective).toJson)

/-- The leaf that is asked for. -/
def chosen : LeafChoice → Program Leaf
  | .ofField fieldKind fieldId => .done (.forField fieldKind fieldId)
  | .ofKind name =>
    match Kind.ofTyped? name with
    | some kind => .done (.preset kind)
    | none => .fail (.unknownKind name)

def leaf (choice : LeafChoice) : Answer := do
  return (.success, .ofJson (← chosen choice).toJson)

/-- The letters of an end may be small ones. -/
def buildKey (linkType linkEnd : String) : Answer :=
  match LinkEnd.ofName? linkEnd.toUpper with
  | none => .fail (.unknownEnd linkEnd)
  | some linkEnd =>
    if Text.isBlank linkType then .fail .blankLinkType
    else
      let key := LinkKey.mk linkType linkEnd
      .done (.success, LinkKey.output key.text key)

def splitKey (key : String) : Answer :=
  match LinkKey.parse key with
  | .ok parts => .done (.success, LinkKey.output key parts)
  | .error error => .fail (.linkKey key error)

def references (input : String) : Answer := do
  let references := (← Condition.load input).references
  return (.success, .value references.toJson references.text)

/-- Loads the names for a condition into a session; the outside is asked only if the session
asks. -/
def loadNames (endpoint : Endpoint) (condition : Condition) (session : Session) :
    Program (LoadOutcome × Session) :=
  match session.start condition with
  | (.ended outcome, session) => .done (outcome, session)
  | (.asks generation, session) => .send (endpoint.request condition) fun response ↦
    .done (session.finish generation (Endpoint.reply response))

def resolve (settings : Program Settings) (input : String) (baseUrl : Option String) : Answer := do
  let settings ← settings
  let source := (baseUrl.elim settings fun url ↦ settings.withBaseUrl url).source
  let condition ← Condition.load input
  let endpoint ← match Endpoint.ofSettings? source with
    | some endpoint => .done endpoint
    | none => .fail .noClient
  let (outcome, session) ← loadNames endpoint condition .initial
  if outcome = .failed then .fail (.unresolved session.error)
  else
    let references := condition.references
    let labels := session.names.labels references
    let json := .object [("references", references.toJson), ("displayInfo", session.names.toJson),
      ("labels", Names.tableToJson .string labels)]
    return (.success, .value json (labelsText labels))

/-- Stores settings under a path. -/
def store (path : String) (settings : Settings) : Program Unit :=
  .save path settings.text (Program.ofExcept (Failure.unwritten path))

def perform (environment : Environment) (invocation : Invocation) : SettingsAction → Answer
  | .print => do
    let settings ← invocation.settings environment
    return (.success, .plain (textLines [settings.text]))
  | .path => do
    return (.success, .plain (textLines [← invocation.path environment]))
  | .set key value => do
    let path ← invocation.path environment
    let settings ← invocation.settings environment
    store path (← Program.ofExcept Failure.setting (settings.set key value))
    return (.success, .notice (textLines ["Set " ++ key ++ " = " ++ value]))
  | .reset => do
    store (← invocation.path environment) .standard
    return (.success, .notice (textLines ["Configuration reset to defaults"]))
  | .verify => do
    let path ← invocation.path environment
    let problems ← .load path fun found ↦
      Program.ofExcept Failure.unverified (Settings.verify path found)
    return (if problems.isEmpty then .success else .badSettings,
      .value (Settings.verdictJson path problems) (Settings.verdictText path problems))

/-- What an invocation does. -/
def answer (environment : Environment) (invocation : Invocation) : Answer :=
  let settings := invocation.settings environment
  match invocation.command with
  | .check input maxDepth => check settings input maxDepth
  | .display input pretty => display input pretty
  | .create connective => create settings connective
  | .leaf choice => leaf choice
  | .buildKey linkType linkEnd => buildKey linkType linkEnd
  | .splitKey key => splitKey key
  | .references input => references input
  | .resolve input baseUrl => resolve settings input baseUrl
  | .settings action => invocation.perform environment action

def mode (environment : Environment) (invocation : Invocation) : Mode :=
  .choose invocation.json invocation.noJson invocation.quiet environment.terminal

/-- The report on what an invocation comes to. -/
def report (environment : Environment) (invocation : Invocation) :
    Except Failure (ExitCode × Output) → Report
  | .ok (exit, output) => .ofOutput (invocation.mode environment) exit output
  | .error failure => failure.report (invocation.mode environment)

end Invocation

end CardFilter
