import CardFilter.Number.Binary64
import CardFilter.Text.Ordered

/-!
# JSON values

A plain value type: members of an object are a list of pairs, in the order and number in which they
were written.  A *canonical* value has its members sorted by name, each name once, and no number
that is not finite; that is a predicate on values and a function to it, not part of the type.
-/

namespace CardFilter

/-- A JSON number: an integer, or a real with a fraction or exponent. -/
inductive Json.Number
  | integer (value : Int)
  | real (value : Binary64)
deriving DecidableEq, Repr

inductive Json
  | null
  | bool (value : Bool)
  | number (value : Json.Number)
  | string (value : String)
  | array (items : List Json)
  | object (members : List (String × Json))
deriving Inhabited

namespace Json

/-- The kinds of value that a message can name. -/
inductive Shape
  | null
  | boolean
  | number
  | string
  | array
  | object
deriving DecidableEq, Repr

def Shape.name : Shape → String
  | .null => "null"
  | .boolean => "boolean"
  | .number => "number"
  | .string => "string"
  | .array => "array"
  | .object => "object"

def shape : Json → Shape
  | .null => .null
  | .bool _ => .boolean
  | .number _ => .number
  | .string _ => .string
  | .array _ => .array
  | .object _ => .object

mutual

/-- The canonical form: sorted members, of which the last of each name stays, and
null for a number that is not finite. -/
def canonical : Json → Json
  | .number (.real value) => if value.isFinite then .number (.real value) else .null
  | .array items => .array (canonicalItems items)
  | .object members => .object (Table.ofPairs (canonicalMembers members))
  | value => value

def canonicalItems : List Json → List Json
  | [] => []
  | item :: rest => canonical item :: canonicalItems rest

def canonicalMembers : List (String × Json) → List (String × Json)
  | [] => []
  | (name, value) :: rest => (name, canonical value) :: canonicalMembers rest

end

/-- The member of an object. -/
def member? (name : String) : Json → Option Json
  | .object members => members.lookup name
  | _ => none

def ofNat (value : Nat) : Json := .number (.integer value)

def ofStrings (values : List String) : Json := .array (values.map .string)

end Json

end CardFilter
