import CardFilter.Json.Reader

/-!
# Reading values out of JSON

A record is given as an object of its members, in any order and with others among them, or as an
array of its fields in order, of which trailing ones may be missing.  One of several names is given
as a string, or as an object with that name as its only member and nothing under it.  One of several
forms carries a tag, as a member or as the first element.
-/

namespace CardFilter.Json

def string? : Json → Option String
  | .string value => some value
  | _ => none

def items? : Json → Option (List Json)
  | .array items => some items
  | _ => none

def members? : Json → Option (List (String × Json))
  | .object members => some members
  | _ => none

/-- Every element of an array, read alike. -/
def listOf? {α : Type} (read : Json → Option α) (value : Json) : Option (List α) :=
  value.items?.bind (·.mapM read)

def strings? : Json → Option (List String) := listOf? string?

/-- Null for nothing. -/
def nullable? {α : Type} (read : Json → Option α) : Json → Option (Option α)
  | .null => some none
  | value => (read value).map some

/-- The binary64 number of a JSON number; an integer goes to the nearest one. -/
def real? : Json → Option Binary64
  | .number (.integer value) => some (.ofInt value)
  | .number (.real value) => some value
  | _ => none

/-- An unsigned integer of 64 bits. -/
def count? : Json → Option Nat
  | .number (.integer value) =>
    if 0 ≤ value ∧ value < UInt64.size then some value.toNat else none
  | _ => none

/-- The fields of a record that are present, in the order in which they stand. -/
def fields (names : List String) : Json → List (String × Json)
  | .object members => members.filter fun member ↦ names.contains member.1
  | .array items => names.zip items
  | _ => []

/-- No field is given twice, and no element is left over. -/
def isRecord (names : List String) : Json → Bool
  | .object members =>
    names.all fun name ↦ (members.filter fun member ↦ member.1 == name).length ≤ 1
  | .array items => items.length ≤ names.length
  | _ => false

def record? (names : List String) (value : Json) : Option (List (String × Json)) :=
  if value.isRecord names then some (value.fields names) else none

/-- A field of a record that may be missing. -/
def fieldOr {α : Type} (fields : List (String × Json)) (name : String) (absent : α)
    (read : Json → Option α) : Option α :=
  match fields.lookup name with
  | none => some absent
  | some value => read value

/-- A field of a record that has to be present. -/
def field {α : Type} (fields : List (String × Json)) (name : String) (read : Json → Option α) :
    Option α :=
  (fields.lookup name).bind read

/-- What a tag may be. -/
inductive Tag
  | name (value : String)
  | index (value : Nat)
deriving DecidableEq, Repr

/-- A tag by name; by index too where the value has been held back while an outer tag was read. -/
def tag? (held : Bool) : Json → Option Tag
  | .string value => some (.name value)
  | .number (.integer value) => if held && 0 ≤ value then some (.index value.toNat) else none
  | _ => none

/-- The choice that a tag makes among named alternatives. -/
def Tag.choose? {α : Type} (alternatives : List (String × α)) : Tag → Option α
  | .name value => alternatives.lookup value
  | .index value => alternatives[value]?.map (·.2)

/-- The tag and what is left without it. -/
def tagged? (name : String) : Json → Option (Json × Json)
  | .object members =>
    match members.filter fun member ↦ member.1 == name with
    | [(_, tag)] => some (tag, .object (members.filter fun member ↦ member.1 != name))
    | _ => none
  | .array (tag :: rest) => some (tag, .array rest)
  | _ => none

/-- An alternative without fields ignores members, and allows no element. -/
def isUnit : Json → Bool
  | .object _ => true
  | .array items => items.isEmpty
  | _ => false

/-- What may stand under the name of a choice: null, and where the value has been held back, an
empty object. -/
def isNothing (held : Bool) : Json → Bool
  | .null => true
  | .object members => held && members.isEmpty
  | _ => false

/-- One of several names. -/
def choice? {α : Type} (held : Bool) (alternatives : List (String × α)) : Json → Option α
  | .string name => alternatives.lookup name
  | .object [(name, value)] => if value.isNothing held then alternatives.lookup name else none
  | _ => none

/-- Every member of an object, read alike; of several with one name the last one stays. -/
def tableOf? {α : Type} (read : Json → Option α) (value : Json) : Option (List (String × α)) :=
  value.members?.bind (·.mapM fun member ↦ (read member.2).map (member.1, ·))

end CardFilter.Json
