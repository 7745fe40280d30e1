import CardFilter.Number.Count

/-!
# Commands

What the program can be asked to do, after its arguments have been understood.
-/

namespace CardFilter

/-- Which leaf is printed: the usual one of a kind, or the one for a field. -/
inductive LeafChoice
  | ofKind (name : String)
  | ofField (fieldKind fieldId : String)
deriving DecidableEq, Repr

inductive SettingsAction
  | print
  | path
  | set (key value : String)
  | reset
  | verify
deriving DecidableEq, Repr

/-- An input is the path of a file, or a dash for the standard input. -/
inductive Command
  /-- Judge whether a condition may be saved. -/
  | check (input : String) (maxDepth : Option UInt64)
  /-- Write a condition on one line, or as JSON over several. -/
  | display (input : String) (pretty : Bool)
  /-- Write an empty condition. -/
  | create (connective : Option String)
  /-- Write a leaf to start from. -/
  | leaf (choice : LeafChoice)
  | buildKey (linkType linkEnd : String)
  | splitKey (key : String)
  /-- List the identifiers in a condition. -/
  | references (input : String)
  /-- Ask for the names of the identifiers in a condition. -/
  | resolve (input : String) (baseUrl : Option String)
  | settings (action : SettingsAction)
deriving DecidableEq, Repr

/-- A command with what applies to every command. -/
structure Invocation where
  settingsPath : Option String
  json : Bool
  noJson : Bool
  quiet : Bool
  command : Command
deriving DecidableEq, Repr

end CardFilter
