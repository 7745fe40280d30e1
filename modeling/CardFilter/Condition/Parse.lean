import CardFilter.Condition.Decode
import CardFilter.Json.Relaxed
import CardFilter.Json.Writer

/-!
# Reading conditions with diagnosis

The reader for people's files.  It accepts a condition or a bare node and says of the first node
that breaks a rule where it stands and what the rule is.  Rules are about nodes only: whatever
stands inside a leaf is read leniently and cannot make the reading fail.
-/

namespace CardFilter

/-- The rules a document or a node can break. -/
inductive Fault.Cause
  | notDocument (got : Json.Shape)
  | neitherRootNorNode
  | notNode (got : Json.Shape)
  | kindMissing
  | kindNotString
  | kindUnknown (name : String)
  | connectiveUnknown (got : Json)
  | childrenNotArray (got : Json.Shape)

/-- A broken rule; the place is the way from the root, and missing when it is the document's own. -/
structure Fault where
  place : Option (List Nat)
  cause : Fault.Cause

/-- Why a text is no condition. -/
inductive Condition.Error
  | syntaxError (diagnosis : Json.Diagnosis)
  | fault (fault : Fault)

namespace Fault

/-- The place as a path through the document. -/
def path (fault : Fault) : String :=
  match fault.place with
  | none => ""
  | some indices => indices.foldl (fun path index ↦ s!"{path}.children[{index}]") "root"

/-- How far a name may be from a kind's name to count as a slip. -/
def slipLimit : Nat := 2

def Cause.message : Cause → String
  | .notDocument got => "expected object, got " ++ got.name
  | .neitherRootNorNode => "expected a condition with 'root' or a node with 'nodeType'"
  | .notNode got => "expected node object, got " ++ got.name
  | .kindMissing => "missing 'nodeType'"
  | .kindNotString => "'nodeType' must be a string"
  | .kindUnknown name =>
    match Kind.suggestions name slipLimit with
    | best :: _ => "unknown nodeType '" ++ name ++ "' (did you mean '" ++ best ++ "'?)"
    | [] => "unknown nodeType '" ++ name ++ "'"
  | .connectiveUnknown got => "group operator must be \"AND\" or \"OR\", got " ++ got.compact
  | .childrenNotArray got => "'children' must be an array, got " ++ got.name

def message (fault : Fault) : String := fault.cause.message

def text (fault : Fault) : String := fault.path ++ ": " ++ fault.message

end Fault

namespace Node

/-- The values of a list read one after the other up to the first fault. -/
def andThen (first : Reading (Except Fault Node)) (others : Reading (Except Fault (List Node))) :
    Reading (Except Fault (List Node)) :=
  match first.value with
  | .error fault => ⟨.error fault, first.discarded⟩
  | .ok node => ⟨others.value.map (node :: ·), first.discarded ++ others.discarded⟩

def fault {α : Type} (place : List Nat) (cause : Fault.Cause) : Reading (Except Fault α) :=
  ⟨.error ⟨some place, cause⟩, []⟩

/-- The kind of a node by name, which decides between groups and leaves. -/
def kindName (place : List Nat) (members : List (String × Json)) : Except Fault String :=
  match members.lookup "nodeType" with
  | none => .error ⟨some place, .kindMissing⟩
  | some (.string name) => .ok name
  | some _ => .error ⟨some place, .kindNotString⟩

/-- The connective of a group; a given one has to be known. -/
def parseConnective (place : List Nat) (members : List (String × Json)) :
    Except Fault Connective :=
  match members.lookup "operator" with
  | none => .ok .and
  | some value =>
    match value.choice? false Connective.named with
    | some connective => .ok connective
    | none => .error ⟨some place, .connectiveUnknown value⟩

def parseLeaf (place : List Nat) (name : String) (members : List (String × Json)) :
    Reading (Except Fault Node) :=
  match Kind.ofName? name with
  | none => fault place (.kindUnknown name)
  | some kind =>
    let leaf := Leaf.ofFields kind members
    ⟨.ok (.leaf leaf.value), leaf.discarded⟩

mutual

/-- Reads a canonical value as the node at a place. -/
def parse (place : List Nat) : Json → Reading (Except Fault Node)
  | .object members =>
    match kindName place members with
    | .error fault => ⟨.error fault, []⟩
    | .ok name =>
      if name = groupName then
        match parseConnective place members with
        | .error fault => ⟨.error fault, []⟩
        | .ok connective =>
          let children := parseChildren place members
          ⟨children.value.map (.group connective), children.discarded⟩
      else parseLeaf place name members
  | value => fault place (.notNode value.shape)

def parseChildren (place : List Nat) : List (String × Json) → Reading (Except Fault (List Node))
  | [] => ⟨.ok [], []⟩
  | (name, value) :: rest =>
    if name = "children" then parseItems place value else parseChildren place rest

def parseItems (place : List Nat) : Json → Reading (Except Fault (List Node))
  | .null => ⟨.ok [], []⟩
  | .array items => parseAll place 0 items
  | value => fault place (.childrenNotArray value.shape)

def parseAll (place : List Nat) (index : Nat) : List Json → Reading (Except Fault (List Node))
  | [] => ⟨.ok [], []⟩
  | item :: rest => andThen (parse (place ++ [index]) item) (parseAll place (index + 1) rest)

end

end Node

namespace Condition

/-- What is said of a text that is no condition. -/
def Error.text : Error → String
  | .syntaxError diagnosis => "invalid JSON: " ++ diagnosis.text
  | .fault broken => broken.text

/-- Reads the node that is the root of a condition, or null for none. -/
def parseRoot : Json → Reading (Except Fault Condition)
  | .null => ⟨.ok unfiltered, []⟩
  | value =>
    let root := Node.parse [] value
    ⟨root.value.map ofNode, root.discarded⟩

/-- Reads a canonical value as a document: a condition with its root, a bare node, or nothing. -/
def parseValue : Json → Reading (Except Fault Condition)
  | .null => ⟨.ok unfiltered, []⟩
  | .object members =>
    match members.lookup "root" with
    | some root => parseRoot root
    | none =>
      if (members.lookup "nodeType").isSome then parseRoot (.object members)
      else if members.isEmpty then ⟨.ok unfiltered, []⟩
      else ⟨.error ⟨none, .neitherRootNorNode⟩, []⟩
  | value => ⟨.error ⟨none, .notDocument value.shape⟩, []⟩

/-- Reads a text. -/
def parse (text : String) : Reading (Except Error Condition) :=
  match Json.Relaxed.read .value text with
  | .error diagnosis => ⟨.error (.syntaxError diagnosis), []⟩
  | .ok value =>
    let condition := parseValue value.canonical
    ⟨condition.value.mapError .fault, condition.discarded⟩

end Condition

end CardFilter
