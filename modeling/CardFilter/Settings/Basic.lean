import CardFilter.Condition.Basic

/-!
# Settings

Where names are asked for, and what limits an editor keeps.  Settings of any content can be held;
`Settings.problems` lists what is wrong with them.
-/

namespace CardFilter

/-- Where names come from. -/
structure SourceSettings where
  baseUrl : String
  /-- Seconds to wait for an answer. -/
  timeout : UInt64
  userAgent : String
  /-- Sent along to be let in, when it is set. -/
  token : Option String
deriving DecidableEq, Repr

structure EditorSettings where
  /-- How deep groups may nest; the root group counts as one. -/
  maxDepth : UInt64
  /-- The connective of a new root group. -/
  connective : Connective
deriving DecidableEq, Repr

structure Settings where
  source : SourceSettings
  editor : EditorSettings
deriving DecidableEq, Repr

def SourceSettings.standard : SourceSettings :=
  ⟨"http://localhost:8080/api", 30, "condctl/0.1.0", none⟩

def EditorSettings.standard : EditorSettings := ⟨3, .and⟩

namespace Settings

def standard : Settings := ⟨.standard, .standard⟩

def withBaseUrl (url : String) (settings : Settings) : Settings :=
  { settings with source := { settings.source with baseUrl := url } }

/-- An address from the environment comes before the stored one, unless it is blank. -/
def overridden (url : Option String) (settings : Settings) : Settings :=
  match url with
  | some url => if Text.isFilled url then settings.withBaseUrl url else settings
  | none => settings

end Settings

/-- What can be wrong with settings. -/
inductive SettingsProblem
  | baseUrl (url : String)
  | timeout
  | userAgent
  | maxDepth
deriving DecidableEq, Repr

def SettingsProblem.message : SettingsProblem → String
  | .baseUrl url => "resolver.base_url: expected an http(s) URL, got '" ++ url ++ "'"
  | .timeout => "resolver.timeout_secs: must be greater than 0"
  | .userAgent => "resolver.user_agent: must not be empty"
  | .maxDepth => "editor.max_group_depth: must be at least 1"

/-- Whether an address, with white space around it or not, begins with a scheme that is spoken. -/
def hasWebScheme (url : String) : Bool :=
  let body := Text.trim url.toList
  "http://".toList.isPrefixOf body || "https://".toList.isPrefixOf body

def Settings.problems (settings : Settings) : List SettingsProblem :=
  (if hasWebScheme settings.source.baseUrl then [] else [.baseUrl settings.source.baseUrl]) ++
  (if settings.source.timeout = 0 then [.timeout] else []) ++
  (if Text.isBlank settings.source.userAgent then [.userAgent] else []) ++
  (if settings.editor.maxDepth = 0 then [.maxDepth] else [])

end CardFilter
