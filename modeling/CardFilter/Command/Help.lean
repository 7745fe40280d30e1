import CardFilter.Command.Arguments
import CardFilter.Command.Report

/-!
# Help

What is written when no command runs: help on a level, the version, or what is wrong with the
arguments.
-/

namespace CardFilter

namespace Arguments

def programName : String := "condctl"

def version : String := "0.1.0"

/-- An option as it is typed. -/
def typed (option : OptionSpec) : String :=
  let letter := match option.letter with
    | some letter => "-" ++ String.singleton letter ++ ", "
    | none => "    "
  let value := if option.form.takesValue then " <" ++ option.name.toUpper ++ ">" else ""
  letter ++ "--" ++ option.name ++ value

/-- Entries below a heading, each with what it is about in a column of its own. -/
def block (heading : String) (entries : List (String × String)) : List String :=
  if entries.isEmpty then []
  else
    let width := entries.foldl (fun width entry ↦ max width entry.1.length) 0
    ["", heading] ++ entries.map fun entry ↦
      "  " ++ entry.1 ++ "".pushn ' ' (width - entry.1.length) ++ "  " ++ entry.2

def usage (place : List String) : String :=
  " ".intercalate ("Usage:" :: programName :: place ++ ["[OPTIONS]"] ++
    (if (wordsAt place).isEmpty then [] else ["<COMMAND>"]) ++
    (operandsAt place).map fun name ↦ "<" ++ name ++ ">")

def aboutAt (place : List String) : String := ((level? place).map (·.about)).getD ""

def helpOption : String × String := ("-h, --help", "Print help")

def versionOption : String × String := ("-V, --version", "Print version")

def help (place : List String) : String :=
  "\n".intercalate ([aboutAt place, "", usage place] ++
    block "Commands:" ((wordsAt place).map fun word ↦ (word, aboutAt (place ++ [word]))) ++
    block "Options:" ((optionsAt place).map (fun option ↦ (typed option, option.about)) ++
      helpOption :: if place.isEmpty then [versionOption] else []))

end Arguments

/-- The report where arguments lead to no command. -/
def Stop.report : Stop → Report
  | .help place => ⟨.success, Report.line (Arguments.help place), ""⟩
  | .version => ⟨.success, Report.line (Arguments.programName ++ " " ++ Arguments.version), ""⟩
  | .misuse message => ⟨.misuse, "", Report.line ("error: " ++ message)⟩

end CardFilter
