import CardFilter.Command.Report
import CardFilter.Condition.Completeness
import CardFilter.Condition.LinkKey
import CardFilter.Condition.References
import CardFilter.Names.Basic
import CardFilter.Settings.Basic

/-!
# Answers

What commands have to say, for programs and for people.
-/

namespace CardFilter

/-- Text for people, one item a line. -/
def textLines (lines : List String) : String := String.join (lines.map (· ++ "\n"))

/-- Whether a condition may be saved. -/
structure Verdict where
  complete : Bool
  empty : Bool
  submittable : Bool
  missing : Nat
  depth : Nat
  maxDepth : Nat
  tooDeep : Bool
deriving DecidableEq, Repr

namespace Verdict

def ofCondition (maxDepth : Nat) (condition : Condition) : Verdict where
  complete := condition.isComplete
  empty := condition.isEmpty
  submittable := condition.isSubmittable
  missing := condition.missing
  depth := condition.depth
  maxDepth := maxDepth
  tooDeep := condition.exceeds maxDepth

def toJson (verdict : Verdict) : Json :=
  .object [
    ("complete", .bool verdict.complete),
    ("empty", .bool verdict.empty),
    ("submittable", .bool verdict.submittable),
    ("incompleteCount", .ofNat verdict.missing),
    ("depth", .ofNat verdict.depth),
    ("maxDepth", .ofNat verdict.maxDepth),
    ("depthExceeded", .bool verdict.tooDeep)]

def headline (verdict : Verdict) : String :=
  if verdict.empty then "✓ No filter (matches every card)"
  else if verdict.complete then "✓ Condition is complete"
  else "✗ Condition has " ++ toString verdict.missing ++ " incomplete node(s)"

def depthLine (verdict : Verdict) : String :=
  "✗ Groups nest " ++ toString verdict.depth ++ " deep, the limit is " ++ toString verdict.maxDepth

def text (verdict : Verdict) : String :=
  textLines (verdict.headline :: if verdict.tooDeep then [verdict.depthLine] else [])

def exit (verdict : Verdict) : ExitCode :=
  if verdict.submittable && !verdict.tooDeep then .success else .incomplete

end Verdict

namespace References

/-- A line of identifiers behind its label, unless there are none. -/
def idLine (label : String) (ids : List String) : List String :=
  if ids.isEmpty then []
  else [label ++ "".pushn ' ' (12 - label.length) ++ " " ++ ", ".intercalate ids]

def lines (references : References) : List String :=
  idLine "fields:" references.fields ++
  idLine "links:" references.links ++
  references.options.flatMap (fun (fieldId, ids) ↦ idLine ("options(" ++ fieldId ++ "):") ids) ++
  idLine "cards:" references.cards ++
  idLine "statuses:" references.statuses ++
  idLine "streams:" references.streams ++
  idLine "users:" references.users

def text (references : References) : String :=
  textLines (if references.isEmpty then ["No references"] else references.lines)

end References

namespace LinkKey

def toJson (key : String) (parts : LinkKey) : Json :=
  .object [("key", .string key), ("linkTypeId", .string parts.linkType),
    ("position", .string parts.linkEnd.name)]

def lines (key : String) (parts : LinkKey) : List String := [
  "key:          " ++ key,
  "link type id: " ++ parts.linkType,
  "position:     " ++ parts.linkEnd.name]

def output (key : String) (parts : LinkKey) : Output :=
  .value (toJson key parts) (textLines (lines key parts))

end LinkKey

/-- A value that is JSON for people too. -/
def Output.ofJson (json : Json) : Output := .value json (textLines [json.pretty])

/-- Labels by key, each behind a tab. -/
def labelsText (labels : Table String) : String :=
  textLines (if labels.isEmpty then ["No ids to resolve"]
    else labels.map fun (id, label) ↦ id ++ "\t" ++ label)

namespace Settings

def verdictJson (path : String) (problems : List SettingsProblem) : Json :=
  .object [("valid", .bool problems.isEmpty), ("path", .string path),
    ("errors", .ofStrings (problems.map SettingsProblem.message))]

def verdictText (path : String) (problems : List SettingsProblem) : String :=
  if problems.isEmpty then textLines ["✓ Configuration is valid: " ++ path]
  else
    let headline := "✗ Configuration has " ++ toString problems.length ++ " error(s): " ++ path
    textLines (headline :: "" :: problems.map fun problem ↦ "  - " ++ problem.message)

end Settings

end CardFilter
