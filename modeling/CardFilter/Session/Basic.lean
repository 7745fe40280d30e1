import CardFilter.Condition.Basic
import CardFilter.Names.Basic

/-!
# Sessions

The names known while one condition is edited.  They are asked for once, when the condition is first
loaded; while the answer is on its way no other load asks again, and afterwards names are only added
one by one.  A reset forgets everything and starts a new *generation*: an answer to a question of an
older generation is dropped, whatever it says.

A failed load leaves no names.  Lookups then answer with the identifiers themselves, and editing
goes on.
-/

namespace CardFilter

/-- Why names could not be had. -/
inductive FetchError
  | request (detail : String)
  | status (code : Nat) (body : String)
  | response (detail : String)
  | other (text : String)
deriving DecidableEq, Repr

namespace FetchError

def requestFailed : String := "display-info request failed"

def invalidResponse : String := "invalid display-info response"

def message : FetchError → String
  | .request detail => requestFailed ++ ": " ++ detail
  | .status code body => "display-info endpoint returned " ++ toString code ++ ": " ++ body
  | .response detail => invalidResponse ++ ": " ++ detail
  | .other text => text

end FetchError

structure Session where
  names : Names
  initialized : Bool
  loading : Bool
  error : Option FetchError
  generation : UInt64
deriving DecidableEq, Repr

/-- How a load ends. -/
inductive LoadOutcome
  | loaded
  | failed
  | alreadyInitialized
  | inFlight
  | noRoot
  | discarded
deriving DecidableEq, Repr

def LoadOutcome.name : LoadOutcome → String
  | .loaded => "Loaded"
  | .failed => "Failed"
  | .alreadyInitialized => "AlreadyInitialized"
  | .inFlight => "InFlight"
  | .noRoot => "NoRoot"
  | .discarded => "Discarded"

/-- How a load begins: it ends at once, or asks for names and waits. -/
inductive LoadStart
  | ended (outcome : LoadOutcome)
  | asks (generation : UInt64)
deriving DecidableEq, Repr

namespace Session

def fresh (generation : UInt64) : Session := ⟨.empty, false, false, none, generation⟩

def initial : Session := fresh 0

/-- Forgets everything; a load is possible again. -/
def reset (session : Session) : Session := fresh (session.generation + 1)

/-- Begins to load the names for a condition. -/
def start (condition : Condition) (session : Session) : LoadStart × Session :=
  if condition.root.isNone then (.ended .noRoot, session)
  else if session.loading then (.ended .inFlight, session)
  else if session.initialized then (.ended .alreadyInitialized, session)
  else
    (.asks session.generation, { session with initialized := true, loading := true, error := none })

/-- Ends a load of a generation with what came back. -/
def finish (generation : UInt64) (reply : Except FetchError Names) (session : Session) :
    LoadOutcome × Session :=
  if session.generation ≠ generation then (.discarded, session)
  else
    match reply with
    | .ok names => (.loaded, { session with names := names, loading := false })
    | .error error =>
      (.failed, { session with names := .empty, loading := false, error := some error })

/-- Loads with an answer that comes at once. -/
def load (condition : Condition) (reply : Except FetchError Names) (session : Session) :
    LoadOutcome × Session :=
  match session.start condition with
  | (.ended outcome, session) => (outcome, session)
  | (.asks generation, session) => session.finish generation reply

/-- Adds names that came up while editing. -/
def push (change : Names → Names) (session : Session) : Session :=
  { session with names := change session.names }

end Session

end CardFilter
