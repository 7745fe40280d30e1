import CardFilter.Json.Basic
import CardFilter.Json.Token

/-!
# Reading JSON text

Tokens are put together by a machine that holds the containers still open, innermost first, so the
depth of a text costs no depth of recursion.  A grammar says what atoms stand for, whether names may
stand bare, whether a comma may end a list, and how deep containers may nest.

A reader that expects a record has no use for members the record does not name: a `Schema` says
which it names.  A value that is skipped is checked for its form alone; its numbers may be out of
range, its strings may hold lone surrogates, and its depth is not counted.
-/

namespace CardFilter.Json

/-- Which parts of a text are looked at. -/
inductive Schema
  /-- All of it. -/
  | value
  /-- None of it. -/
  | skipped
  /-- A number of which only the unsigned whole part is wanted. -/
  | count
  /-- One of several names. -/
  | choice
  /-- The members, or the elements in this order, of a record. -/
  | record (fields : List (String × Schema))
  /-- Every element of an array. -/
  | list (element : Schema)
  /-- Every member of an object. -/
  | table (entry : Schema)

/-- The decisions of a grammar about whole tokens. -/
structure Grammar where
  lexicon : Lexicon
  isNumber : List Char → Bool
  number? : List Char → Option Number
  count? : List Char → Option Number
  name? : List Char → Option String
  trailingComma : Bool
  /-- The greatest number of containers open at once, if there is one. -/
  depthLimit : Option Nat
  /-- How members are read that a record does not name. -/
  unnamed : Schema
  /-- Whether elements behind the last field of a record, and members behind the first of a choice,
  are dropped without a look. -/
  dropsSurplus : Bool

namespace Schema

def isSkipped : Schema → Bool
  | .skipped => true
  | _ => false

/-- The schema of a member; `unnamed` is for those that a record does not name. -/
def member (schema : Schema) (unnamed : Schema) (name : String) : Schema :=
  match schema with
  | .value => .value
  | .record fields => (fields.lookup name).getD unnamed
  | .table entry => entry
  | .choice => .value
  | _ => .skipped

/-- The schema of the element at an index. -/
def element (index : Nat) : Schema → Schema
  | .value => .value
  | .list element => element
  | .record fields => (fields[index]?.map (·.2)).getD .skipped
  | .choice => .value
  | _ => .skipped

/-- How many elements or members a container under this schema has a use for. -/
def capacity? : Schema → Option Nat
  | .record fields => some fields.length
  | .choice => some 1
  | _ => none

end Schema

/-- A container part way through; what it holds is in reverse. -/
inductive Frame
  | array (schema : Schema) (items : List Json)
  | object (schema : Schema) (members : List (String × Json)) (name : String)

/-- What may come next. -/
inductive Due
  /-- A value, or the end of the array. -/
  | element
  /-- A value. -/
  | value
  /-- A name, or the end of the object. -/
  | member
  /-- A name. -/
  | name
  | colon
  /-- A comma, or the end of the container. -/
  | separator
deriving DecidableEq

structure Assembly where
  frames : List Frame
  due : Due
  /-- The value of the whole text, once it is complete. -/
  result : Option Json

namespace Assembly

def start : Assembly := ⟨[], .value, none⟩

/-- The schema of the value that comes next. -/
def schema (unnamed whole : Schema) (assembly : Assembly) : Schema :=
  match assembly.frames with
  | [] => whole
  | .array schema items :: _ => schema.element items.length
  | .object schema _ name :: _ => schema.member unnamed name

/-- Adds a finished value to the container it stands in. -/
def put (value : Json) (assembly : Assembly) : Assembly :=
  match assembly.frames with
  | [] => ⟨[], .separator, some value⟩
  | .array schema items :: rest => ⟨.array schema (value :: items) :: rest, .separator, none⟩
  | .object schema members name :: rest =>
    ⟨.object schema ((name, value) :: members) name :: rest, .separator, none⟩

def acceptsValue (assembly : Assembly) : Bool :=
  assembly.result.isNone && (assembly.due == .value || assembly.due == .element)

end Assembly

namespace Grammar

/-- The value of an atom.  Where nobody looks, its form is enough. -/
def atomValue? (grammar : Grammar) (schema : Schema) (text : List Char) : Option Json :=
  if text = "null".toList then some .null
  else if text = "true".toList then some (.bool true)
  else if text = "false".toList then some (.bool false)
  else if grammar.isNumber text then
    match schema with
    | .skipped => some .null
    | .count => (grammar.count? text).map .number
    | _ => (grammar.number? text).map .number
  else none

def stringValue? (schema : Schema) (pieces : List Piece) : Option Json :=
  if schema.isSkipped then some .null else (textOfPieces pieces).map .string

/-- What a finished container keeps of its contents. -/
def kept {α : Type} (grammar : Grammar) (schema : Schema) (contents : List α) : List α :=
  match schema.capacity? with
  | some capacity => if grammar.dropsSurplus then contents.take capacity else contents
  | none => contents

def keptMembers (grammar : Grammar) (schema : Schema) (members : List (String × Json)) :
    List (String × Json) :=
  match schema with
  | .choice => grammar.kept schema members
  | _ => members

/-- Opens a container if a value may stand here and the depth allows it. -/
def enter (grammar : Grammar) (whole : Schema) (frame : Schema → Frame) (due : Due)
    (assembly : Assembly) : Option Assembly :=
  let schema := assembly.schema grammar.unnamed whole
  let tooDeep :=
    match grammar.depthLimit with
    | some limit => !schema.isSkipped && decide (limit ≤ assembly.frames.length)
    | none => false
  if assembly.acceptsValue && !tooDeep then some ⟨frame schema :: assembly.frames, due, none⟩
  else none

def scalar (value : Option Json) (assembly : Assembly) : Option Assembly :=
  if assembly.acceptsValue then value.map assembly.put else none

def named (name : Option String) (assembly : Assembly) : Option Assembly :=
  match name, assembly.frames with
  | some name, .object schema members _ :: rest =>
    some ⟨.object schema members name :: rest, .colon, none⟩
  | _, _ => none

/-- Closes the innermost container. -/
def leave (grammar : Grammar) (token : Token) (assembly : Assembly) : Option Assembly :=
  match token, assembly.frames with
  | .endArray, .array schema items :: rest =>
    if assembly.due = .separator ∨ assembly.due = .element then
      some (Assembly.put (.array (grammar.kept schema items.reverse)) ⟨rest, .value, none⟩)
    else none
  | .endObject, .object schema members _ :: rest =>
    if assembly.due = .separator ∨ assembly.due = .member then
      some
        (Assembly.put (.object (grammar.keptMembers schema members.reverse)) ⟨rest, .value, none⟩)
    else none
  | _, _ => none

def separate (grammar : Grammar) (assembly : Assembly) : Option Assembly :=
  if assembly.due ≠ .separator then none
  else
    match assembly.frames with
    | [] => none
    | .array .. :: _ =>
      some { assembly with due := if grammar.trailingComma then .element else .value }
    | .object .. :: _ =>
      some { assembly with due := if grammar.trailingComma then .member else .name }

def expectsName (assembly : Assembly) : Bool :=
  assembly.due == .name || assembly.due == .member

def step (grammar : Grammar) (whole : Schema) (assembly : Assembly) : Token → Option Assembly
  | .beginObject => grammar.enter whole (fun schema ↦ .object schema [] "") .member assembly
  | .beginArray => grammar.enter whole (fun schema ↦ .array schema []) .element assembly
  | .endObject => grammar.leave .endObject assembly
  | .endArray => grammar.leave .endArray assembly
  | .colon => if assembly.due = .colon then some { assembly with due := .value } else none
  | .comma => grammar.separate assembly
  | .string pieces =>
    if expectsName assembly then
      let unseen := match assembly.frames with
        | .object schema _ _ :: _ => schema.isSkipped
        | _ => false
      named (if unseen then some "" else textOfPieces pieces) assembly
    else scalar (stringValue? (assembly.schema grammar.unnamed whole) pieces) assembly
  | .atom text =>
    if expectsName assembly then named (grammar.name? text) assembly
    else scalar (grammar.atomValue? (assembly.schema grammar.unnamed whole) text) assembly

def assemble (grammar : Grammar) (whole : Schema) : Assembly → List Token → Option Json
  | assembly, [] => assembly.result
  | assembly, token :: rest =>
    match grammar.step whole assembly token with
    | some next => grammar.assemble whole next rest
    | none => none

/-- Reads a whole text. -/
def read? (grammar : Grammar) (schema : Schema) (text : String) : Option Json :=
  match grammar.lexicon.tokens? text.toList with
  | some tokens => grammar.assemble schema .start tokens
  | none => none

end Grammar

end CardFilter.Json
