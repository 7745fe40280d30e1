import CardFilter.Condition.Encode
import CardFilter.Json.Record
import CardFilter.Json.Relaxed
import CardFilter.Settings.Basic

/-!
# Settings as text

Settings are stored as JSON over several lines and may be written by hand in the relaxed grammar.  A
field that is missing has its standard value.
-/

namespace CardFilter

/-- A field of settings by name, with the schema under which text is read for it. -/
abbrev FieldSchema := String × Json.Schema

namespace SourceSettings

def toJson (settings : SourceSettings) : Json :=
  .object ([("base_url", .string settings.baseUrl),
    ("timeout_secs", .ofNat settings.timeout.toNat),
    ("user_agent", .string settings.userAgent)] ++
    Json.optional "auth_token" .string settings.token)

def fields : List FieldSchema := [
  ("base_url", .value), ("timeout_secs", .count), ("user_agent", .value), ("auth_token", .value)]

end SourceSettings

namespace EditorSettings

def toJson (settings : EditorSettings) : Json :=
  .object [("max_group_depth", .ofNat settings.maxDepth.toNat),
    ("default_group_operator", settings.connective.toJson)]

def fields : List FieldSchema := [("max_group_depth", .count), ("default_group_operator", .choice)]

end EditorSettings

/-- An unsigned whole number of 64 bits. -/
def Json.word? (value : Json) : Option UInt64 := value.count?.map UInt64.ofNat

def SourceSettings.read? (value : Json) : Option SourceSettings := do
  let fields ← value.record? (fields.map (·.1))
  return {
    baseUrl := ← Json.fieldOr fields "base_url" standard.baseUrl Json.string?
    timeout := ← Json.fieldOr fields "timeout_secs" standard.timeout Json.word?
    userAgent := ← Json.fieldOr fields "user_agent" standard.userAgent Json.string?
    token := ← Json.fieldOr fields "auth_token" none (Json.nullable? Json.string?) }

def EditorSettings.read? (value : Json) : Option EditorSettings := do
  let fields ← value.record? (fields.map (·.1))
  return {
    maxDepth := ← Json.fieldOr fields "max_group_depth" standard.maxDepth Json.word?
    connective := ← Json.fieldOr fields "default_group_operator" standard.connective
      (Json.choice? false Connective.named) }

namespace Settings

def toJson (settings : Settings) : Json :=
  .object [("resolver", settings.source.toJson), ("editor", settings.editor.toJson)]

def schema : Json.Schema :=
  .record [("resolver", .record SourceSettings.fields), ("editor", .record EditorSettings.fields)]

def read? (value : Json) : Option Settings := do
  let fields ← value.record? ["resolver", "editor"]
  return {
    source := ← Json.fieldOr fields "resolver" .standard SourceSettings.read?
    editor := ← Json.fieldOr fields "editor" .standard EditorSettings.read? }

/-- The text that is stored. -/
def text (settings : Settings) : String := settings.toJson.pretty

/-- Reads stored text, or says why it holds no settings. -/
def parse (text : String) : Except String Settings :=
  match Json.Relaxed.read schema text with
  | .error diagnosis => .error diagnosis.text
  | .ok value =>
    match read? value with
    | some settings => .ok settings
    | none => .error "settings of another form were expected"

end Settings

end CardFilter
