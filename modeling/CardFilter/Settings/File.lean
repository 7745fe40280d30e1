import CardFilter.Settings.Codec

/-!
# The settings file

Which file holds the settings, and what follows from what is found there.  No file means standard
settings; a file that cannot be read or understood is an error.
-/

namespace CardFilter

/-- Why a file gives no text. -/
inductive ReadError
  /-- There is no such file. -/
  | absent (detail : String)
  /-- There is one, but no text comes out of it. -/
  | unreadable (detail : String)
deriving DecidableEq, Repr

def ReadError.detail : ReadError → String
  | .absent detail => detail
  | .unreadable detail => detail

/-- Why a file takes no text. -/
structure WriteError where
  /-- Whether already the folder could not be made. -/
  inFolder : Bool
  detail : String
deriving DecidableEq, Repr

namespace Settings

/-- What can go wrong with the settings file. -/
inductive FileError
  | unreadable (path detail : String)
  | malformed (path detail : String)
deriving DecidableEq, Repr

/-- What is said first. -/
def FileError.headline : FileError → String
  | .unreadable path _ => "Failed to read config file: " ++ path
  | .malformed path _ => "Failed to parse config file: " ++ path

def FileError.message : FileError → String
  | .unreadable path detail => headline (.unreadable path detail) ++ ": " ++ detail
  | .malformed path detail => headline (.malformed path detail) ++ ": " ++ detail

/-- The settings in what was found at a path, and the address that comes before the stored one. -/
def load (path : String) (found : Except ReadError String) (url : Option String) :
    Except FileError Settings :=
  match found with
  | .error (.absent _) => .ok (standard.overridden url)
  | .error (.unreadable detail) => .error (.unreadable path detail)
  | .ok text =>
    match parse text with
    | .ok settings => .ok (settings.overridden url)
    | .error detail => .error (.malformed path detail)

/-- Why a file cannot be judged. -/
inductive VerifyError
  | absent (path : String)
  | unreadable (path detail : String)
  | malformed (detail : String)
deriving DecidableEq, Repr

def VerifyError.headline : VerifyError → String
  | .absent path => "config file not found: " ++ path
  | .unreadable path _ => "failed to read config file: " ++ path
  | .malformed _ => "invalid JSON"

def VerifyError.message : VerifyError → String
  | .absent path => headline (.absent path)
  | .unreadable path detail => headline (.unreadable path detail) ++ ": " ++ detail
  | .malformed detail => headline (.malformed detail) ++ ": " ++ detail

/-- What is wrong with the settings in what was found at a path. -/
def verify (path : String) (found : Except ReadError String) :
    Except VerifyError (List SettingsProblem) :=
  match found with
  | .error (.absent _) => .error (.absent path)
  | .error (.unreadable detail) => .error (.unreadable path detail)
  | .ok text =>
    match parse text with
    | .ok settings => .ok settings.problems
    | .error detail => .error (.malformed detail)

/-- What is said when settings cannot be stored. -/
def writeFailure (path : String) (error : WriteError) : String :=
  if error.inFolder then error.detail
  else "Failed to write config file: " ++ path ++ ": " ++ error.detail

/-- A tilde in front, alone or before a slash, stands for the home folder. -/
def expand (home : Option String) (path : String) : String :=
  match path.toList, home with
  | '~' :: rest, some home =>
    if rest.isEmpty ∨ rest.head? = some '/' then home ++ String.ofList rest else path
  | _, _ => path

/-- A name inside a folder. -/
def inside (folder name : String) : String :=
  if folder.toList.getLast? = some '/' then folder ++ name else folder ++ "/" ++ name

/-- The path of the settings file: the one asked for, else the one in the environment unless it is
blank, else the usual place below the home folder. -/
def path? (asked environment home : Option String) : Option String :=
  match asked, environment.filter Text.isFilled with
  | some path, _ => some (expand home path)
  | none, some path => some (expand home path)
  | none, none => home.map fun home ↦ inside (inside home ".condctl") "config.json"

end Settings

end CardFilter
