import CardFilter.Number.Count
import CardFilter.Settings.Basic

/-!
# Settings by key

One field of the settings is changed in place under its key, from a text.  A change is refused when
the key is not known or the text does not fit the field.
-/

namespace CardFilter

inductive SettingsKey
  | baseUrl
  | timeout
  | userAgent
  | token
  | maxDepth
  | connective
deriving DecidableEq, Repr

namespace SettingsKey

def all : List SettingsKey := [.baseUrl, .timeout, .userAgent, .token, .maxDepth, .connective]

def name : SettingsKey → String
  | .baseUrl => "resolver.base_url"
  | .timeout => "resolver.timeout_secs"
  | .userAgent => "resolver.user_agent"
  | .token => "resolver.auth_token"
  | .maxDepth => "editor.max_group_depth"
  | .connective => "editor.default_group_operator"

def ofName? (name : String) : Option SettingsKey := all.find? fun key ↦ key.name == name

end SettingsKey

/-- Why a field is not changed. -/
inductive SetError
  | unknownKey (key : String)
  | invalidNumber (value : String) (cause : CountError)
  | invalidConnective (value : String)
deriving DecidableEq, Repr

def SetError.message : SetError → String
  | .unknownKey key =>
    "Unknown config key: " ++ key ++ ". Valid keys: " ++
      ", ".intercalate (SettingsKey.all.map SettingsKey.name)
  | .invalidNumber value cause => "Invalid number: " ++ value ++ ": " ++ cause.message
  | .invalidConnective value => "Invalid default_group_operator: " ++ value ++ ". Use AND or OR"

namespace Settings

def countFor (value : String) : Except SetError UInt64 :=
  (Count.ofText value).mapError (.invalidNumber value)

def connectiveFor (value : String) : Except SetError Connective :=
  match Connective.ofTyped? value with
  | some connective => .ok connective
  | none => .error (.invalidConnective value)

/-- A change of settings in place.  Settings that a refused change leaves behind are kept. -/
abbrev Update := ExceptT SetError (StateM Settings) Unit

/-- The settings that an update leaves behind, and why it was refused if it was. -/
def Update.apply (update : Update) (settings : Settings) : Except SetError Unit × Settings :=
  update.run.run settings

/-- The settings after an update, unless it was refused. -/
def Update.result (update : Update) (settings : Settings) : Except SetError Settings :=
  match update.apply settings with
  | (.ok (), changed) => .ok changed
  | (.error error, _) => .error error

def updateSource (change : SourceSettings → SourceSettings) : Update :=
  modify fun settings ↦ { settings with source := change settings.source }

def updateEditor (change : EditorSettings → EditorSettings) : Update :=
  modify fun settings ↦ { settings with editor := change settings.editor }

/-- Changes the field of a key; an empty token is none. -/
def assignKey (key : SettingsKey) (value : String) : Update :=
  match key with
  | .baseUrl => updateSource fun source ↦ { source with baseUrl := value }
  | .timeout => do
    let count ← countFor value
    updateSource fun source ↦ { source with timeout := count }
  | .userAgent => updateSource fun source ↦ { source with userAgent := value }
  | .token =>
    updateSource fun source ↦ { source with token := if value.isEmpty then none else some value }
  | .maxDepth => do
    let count ← countFor value
    updateEditor fun editor ↦ { editor with maxDepth := count }
  | .connective => do
    let connective ← connectiveFor value
    updateEditor fun editor ↦ { editor with connective := connective }

def assign (key value : String) : Update :=
  match SettingsKey.ofName? key with
  | some key => assignKey key value
  | none => throw (.unknownKey key)

/-- The settings with the field of a key changed. -/
def setKey (key : SettingsKey) (value : String) (settings : Settings) : Except SetError Settings :=
  (assignKey key value).result settings

def set (key value : String) (settings : Settings) : Except SetError Settings :=
  (assign key value).result settings

end Settings

end CardFilter
