import CardFilter.Command.Basic

/-!
# Arguments

How arguments become a command.  Commands are named by one or two words, and each word opens a
*level* with options and operands of its own; the general options may stand at every level.
Arguments are read one after another, and the first one that asks for help or makes no sense
decides.

An option is written in full behind two dashes or, where it has a letter, behind one; letters may be
joined.  A value follows as the next argument or behind an equals sign, and does not look like an
option.  Two dashes alone make everything behind them an operand; one dash alone is an operand.
-/

namespace CardFilter

/-- Why arguments lead to no command. -/
inductive Stop
  /-- Help is asked for, about the command of these names. -/
  | help (place : List String)
  | version
  | misuse (message : String)
deriving DecidableEq, Repr

/-- What an option takes. -/
inductive OptionForm
  | flag
  /-- A flag that may be given more than once. -/
  | repeated
  | text
  | count
deriving DecidableEq, Repr

def OptionForm.takesValue : OptionForm → Bool
  | .flag | .repeated => false
  | .text | .count => true

structure OptionSpec where
  name : String
  letter : Option Char
  form : OptionForm
  about : String
deriving DecidableEq, Repr

structure Level where
  /-- The words that lead here. -/
  place : List String
  about : String
  options : List OptionSpec
  /-- What the operands are called. -/
  operands : List String
deriving DecidableEq, Repr

namespace Arguments

/-- The options that may stand at every level. -/
def generalOptions : List OptionSpec := [
  ⟨"config", none, .text, "Path of the settings file"⟩,
  ⟨"json", some 'j', .flag, "Write JSON, as is done anyway unless a terminal reads"⟩,
  ⟨"no-json", none, .flag, "Write text in any case"⟩,
  ⟨"quiet", some 'q', .flag, "Write nothing but errors"⟩,
  ⟨"verbose", some 'v', .repeated, "Log more"⟩]

def levels : List Level := [
  ⟨[], "Inspect, validate and build card filter conditions", [], []⟩,
  ⟨["check"], "Check whether a condition is complete enough to save",
    [⟨"max-depth", none, .count, "How deep groups may nest"⟩], ["INPUT"]⟩,
  ⟨["show"], "Print a condition as a one-line expression",
    [⟨"pretty", none, .flag, "Print the normalized condition JSON instead"⟩], ["INPUT"]⟩,
  ⟨["new"], "Print an empty condition",
    [⟨"operator", none, .text, "Root group operator: AND or OR"⟩], []⟩,
  ⟨["item"], "Print the default item for a node kind or a field kind",
    [⟨"field-kind", none, .text, "Kind of a user-defined field"⟩,
      ⟨"field-id", none, .text, "Id of the field to filter on"⟩], ["KIND"]⟩,
  ⟨["link-key"], "Build or parse composite link-field keys", [], []⟩,
  ⟨["link-key", "build"], "Build the key for one end of a link type", [],
    ["LINK_TYPE_ID", "POSITION"]⟩,
  ⟨["link-key", "parse"], "Split a key into link type id and position", [], ["KEY"]⟩,
  ⟨["refs"], "List every id a condition references", [], ["INPUT"]⟩,
  ⟨["resolve"], "Fetch display names for every id a condition references",
    [⟨"base-url", none, .text, "Backend base URL"⟩], ["INPUT"]⟩,
  ⟨["config"], "Configuration management", [], []⟩,
  ⟨["config", "show"], "Show current configuration", [], []⟩,
  ⟨["config", "path"], "Show configuration file path", [], []⟩,
  ⟨["config", "set"], "Set a configuration value", [], ["KEY", "VALUE"]⟩,
  ⟨["config", "reset"], "Reset configuration to defaults", [], []⟩,
  ⟨["config", "verify"], "Verify configuration file for errors", [], []⟩]

def level? (place : List String) : Option Level := levels.find? fun level ↦ level.place == place

def optionsAt (place : List String) : List OptionSpec :=
  generalOptions ++ ((level? place).map (·.options)).getD []

def operandsAt (place : List String) : List String :=
  ((level? place).map (·.operands)).getD []

/-- The words that may follow at a level. -/
def wordsAt (place : List String) : List String :=
  levels.filterMap fun level ↦
    match level.place.getLast? with
    | some word => if level.place.dropLast = place then some word else none
    | none => none

/-- What has been given at one level. -/
structure Given where
  /-- Options by name, each with its value; a flag has an empty one. -/
  options : List (String × String)
  operands : List String
deriving DecidableEq, Repr

namespace Given

def nothing : Given := ⟨[], []⟩

def value? (given : Given) (name : String) : Option String := given.options.lookup name

def has (given : Given) (name : String) : Bool := (given.value? name).isSome

def count? (given : Given) (name : String) : Option UInt64 :=
  (given.value? name).bind fun text ↦ (Count.ofText text).toOption

end Given

/-- What the next argument is. -/
inductive Phase
  | anything
  /-- The value of an option. -/
  | value (option : OptionSpec)
  | operand
  /-- A word that help is asked about. -/
  | helpWord
deriving DecidableEq, Repr

/-- What is known part way through the arguments. -/
structure Progress where
  place : List String
  /-- What has been given at the levels before this one. -/
  before : List Given
  given : Given
  phase : Phase
deriving DecidableEq, Repr

namespace Progress

def start : Progress := ⟨[], [], .nothing, .anything⟩

/-- Takes an option with its value. -/
def take (option : OptionSpec) (value : String) (progress : Progress) : Except Stop Progress :=
  if progress.given.has option.name ∧ option.form ≠ .repeated then
    .error (.misuse ("the argument '--" ++ option.name ++ "' cannot be used multiple times"))
  else if option.form = .count ∧ (Count.ofText value).toOption = none then
    .error (.misuse ("invalid value '" ++ value ++ "' for '--" ++ option.name ++ "'"))
  else
    let given := progress.given
    .ok { progress with
      given := { given with options := given.options ++ [(option.name, value)] }
      phase := .anything }

def takeOperand (text : String) (progress : Progress) : Except Stop Progress :=
  let given := progress.given
  if given.operands.length < (operandsAt progress.place).length then
    .ok { progress with given := { given with operands := given.operands ++ [text] } }
  else .error (.misuse ("unexpected argument '" ++ text ++ "' found"))

def unknown (text : String) : Stop := .misuse ("unexpected argument '" ++ text ++ "' found")

/-- Takes an option that is written in full, with the value behind its equals sign. -/
def takeNamed (name : String) (value : Option String) (progress : Progress) :
    Except Stop Progress :=
  if name = "help" ∧ value = none then .error (.help progress.place)
  else if name = "version" ∧ value = none ∧ progress.place = [] then .error .version
  else
    match (optionsAt progress.place).find? (·.name == name), value with
    | none, _ => .error (unknown ("--" ++ name))
    | some option, none =>
      if option.form.takesValue then .ok { progress with phase := .value option }
      else progress.take option ""
    | some option, some value =>
      if option.form.takesValue then progress.take option value
      else .error (.misuse ("unexpected value for '--" ++ name ++ "' found"))

/-- Takes an option that is written as a letter; none of those has a value. -/
def takeLetter (letter : Char) (progress : Progress) : Except Stop Progress :=
  if letter = 'h' then .error (.help progress.place)
  else if letter = 'V' ∧ progress.place = [] then .error .version
  else
    match (optionsAt progress.place).find? (·.letter == some letter) with
    | none => .error (unknown ("-" ++ String.singleton letter))
    | some option => progress.take option ""

/-- Goes to the level of a word. -/
def descend (word : String) (progress : Progress) : Progress :=
  ⟨progress.place ++ [word], progress.before ++ [progress.given], .nothing, .anything⟩

/-- The name of an option and the value behind its equals sign. -/
def splitValue (text : List Char) : String × Option String :=
  let name := String.ofList (text.takeWhile (· != '='))
  match text.dropWhile (· != '=') with
  | [] => (name, none)
  | _ :: value => (name, some (String.ofList value))

def looksLikeOption (text : List Char) : Bool := text.head? == some '-' && text != ['-']

/-- Reads an argument where anything may stand. -/
def readAny (text : String) (progress : Progress) : Except Stop Progress :=
  let words := wordsAt progress.place
  if words.contains text then .ok (progress.descend text)
  else if text = "help" ∧ words ≠ [] then .ok { progress with phase := .helpWord }
  else
    match text.toList with
    | ['-', '-'] => .ok { progress with phase := .operand }
    | '-' :: '-' :: rest =>
      let (name, value) := splitValue rest
      progress.takeNamed name value
    | '-' :: letter :: rest =>
      (letter :: rest).foldlM (fun progress c ↦ progress.takeLetter c) progress
    | _ => progress.takeOperand text

def read (progress : Progress) (text : String) : Except Stop Progress :=
  match progress.phase with
  | .anything => progress.readAny text
  | .value option =>
    if looksLikeOption text.toList then
      .error (.misuse ("a value is required for '--" ++ option.name ++ "' but none was supplied"))
    else progress.take option text
  | .operand => progress.takeOperand text
  | .helpWord =>
    let words := wordsAt progress.place
    if words.contains text ∨ text = "help" ∧ words ≠ [] then
      .ok { progress with place := progress.place ++ [text] }
    else .error (.misuse ("unrecognized subcommand '" ++ text ++ "'"))

end Progress

/-- The operands, of which none may be missing. -/
def missingOperand (name : String) : Stop :=
  .misuse ("the required argument <" ++ name ++ "> was not provided")

/-- A dash unless an input is named. -/
def inputOf (given : Given) : String := given.operands.head?.getD "-"

/-- Which leaf is asked for: a kind or a field kind.  A field needs its kind, except where a kind of
leaf rules that out; then the field makes no difference. -/
def leafChoice (given : Given) : Except Stop LeafChoice :=
  match given.operands.head?, given.value? "field-kind" with
  | some _, some _ => .error (.misuse "a kind cannot be used with '--field-kind'")
  | some kind, none => .ok (.ofKind kind)
  | none, some fieldKind => .ok (.ofField fieldKind ((given.value? "field-id").getD ""))
  | none, none =>
    .error (missingOperand (if given.has "field-id" then "--field-kind" else "KIND"))

/-- The command at a place, from what has been given there. -/
def commandAt (place : List String) (given : Given) : Except Stop Command :=
  match place, given.operands with
  | ["check"], _ => .ok (.check (inputOf given) (given.count? "max-depth"))
  | ["show"], _ => .ok (.display (inputOf given) (given.has "pretty"))
  | ["new"], _ => .ok (.create (given.value? "operator"))
  | ["item"], _ => (leafChoice given).map .leaf
  | ["link-key", "build"], [linkType, linkEnd] => .ok (.buildKey linkType linkEnd)
  | ["link-key", "build"], _ => .error (missingOperand "POSITION")
  | ["link-key", "parse"], [key] => .ok (.splitKey key)
  | ["link-key", "parse"], _ => .error (missingOperand "KEY")
  | ["refs"], _ => .ok (.references (inputOf given))
  | ["resolve"], _ => .ok (.resolve (inputOf given) (given.value? "base-url"))
  | ["config", "show"], _ => .ok (.settings .print)
  | ["config", "path"], _ => .ok (.settings .path)
  | ["config", "set"], [key, value] => .ok (.settings (.set key value))
  | ["config", "set"], _ => .error (missingOperand "VALUE")
  | ["config", "reset"], _ => .ok (.settings .reset)
  | ["config", "verify"], _ => .ok (.settings .verify)
  | _, _ => .error (.misuse "a subcommand is required but one was not provided")

/-- JSON and text are not asked for at one level. -/
def isContradictory (given : Given) : Bool := given.has "json" && given.has "no-json"

/-- What all the arguments ask for.  A general option counts at any level; of several values the one
at the last level counts. -/
def Progress.finish (progress : Progress) : Except Stop Invocation :=
  let levels := progress.before ++ [progress.given]
  match progress.phase with
  | .value option =>
    .error (.misuse ("a value is required for '--" ++ option.name ++ "' but none was supplied"))
  | .helpWord => .error (.help progress.place)
  | .anything | .operand => do
    let command ← commandAt progress.place progress.given
    if levels.any isContradictory then
      throw (.misuse "the argument '--json' cannot be used with '--no-json'")
    return {
      settingsPath := (levels.filterMap (·.value? "config")).getLast?
      json := levels.any (·.has "json")
      noJson := levels.any (·.has "no-json")
      quiet := levels.any (·.has "quiet")
      command := command }

end Arguments

/-- Understands the arguments behind the program's name. -/
def Invocation.ofArguments (arguments : List String) : Except Stop Invocation := do
  (← arguments.foldlM Arguments.Progress.read .start).finish

end CardFilter
