import CardFilter.Names.Codec
import CardFilter.Session.Basic
import CardFilter.Settings.Basic

/-!
# Asking for names

Names for a condition come from one request to a web address: the condition goes out as JSON, and
the names come back as JSON.  This module says what is sent and what an answer means; carrying the
two is left to whoever has a network, and so is the judgement whether an address leads anywhere and
whether a token may stand in a header.
-/

namespace CardFilter

structure WebRequest where
  method : String
  url : String
  headers : List (String × String)
  body : String
  /-- Seconds to wait for the answer. -/
  timeout : UInt64
deriving DecidableEq, Repr

structure WebResponse where
  status : Nat
  body : String
deriving DecidableEq, Repr

/-- Whether a text may stand in a header: no control character but the tab. -/
def isHeaderText (text : String) : Bool :=
  text.toList.all fun c ↦ c == '\t' || (' ' ≤ c && c != '\x7f')

/-- Where to ask, and as whom. -/
structure Endpoint where
  baseUrl : String
  userAgent : String
  token : Option String
  timeout : UInt64
deriving DecidableEq, Repr

namespace Endpoint

/-- The address without the slashes at its end. -/
def withoutSlashes (url : String) : String :=
  String.ofList (url.toList.reverse.dropWhile (· == '/')).reverse

/-- The endpoint that settings describe; a blank token is none. -/
def ofSettings (settings : SourceSettings) : Endpoint where
  baseUrl := withoutSlashes settings.baseUrl
  userAgent := settings.userAgent
  token := settings.token.filter Text.isFilled
  timeout := settings.timeout

/-- The endpoint of settings, unless nobody can ask under that name. -/
def ofSettings? (settings : SourceSettings) : Option Endpoint :=
  if isHeaderText settings.userAgent then some (ofSettings settings) else none

def place : String := "/conditions/display-info"

def url (endpoint : Endpoint) : String := endpoint.baseUrl ++ place

def body (condition : Condition) : Json := .object [("condition", condition.toJson)]

def bearer (token : String) : String := "Bearer " ++ token

/-- What is sent to ask for the names in a condition. -/
def request (endpoint : Endpoint) (condition : Condition) : WebRequest where
  method := "POST"
  url := endpoint.url
  headers := [("user-agent", endpoint.userAgent), ("content-type", "application/json")] ++
    (endpoint.token.map fun token ↦ ("authorization", bearer token)).toList
  body := (body condition).compact
  timeout := endpoint.timeout

def isSuccess (status : Nat) : Bool := 200 ≤ status && status ≤ 299

/-- What an answer means. -/
def receive (response : WebResponse) : Except FetchError Names :=
  if isSuccess response.status then
    match Names.parse? response.body with
    | some names => .ok names
    | none => .error (.response "not the expected JSON")
  else .error (.status response.status response.body)

/-- What comes of an attempt to carry a request. -/
def reply : Except String WebResponse → Except FetchError Names
  | .ok response => receive response
  | .error detail => .error (.request detail)

/-- What comes back by a way of carrying requests. -/
def fetch (carry : WebRequest → Except String WebResponse) (endpoint : Endpoint)
    (condition : Condition) : Except FetchError Names :=
  reply (carry (endpoint.request condition))

end Endpoint

end CardFilter
