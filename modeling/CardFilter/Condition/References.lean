import CardFilter.Condition.Basic
import CardFilter.Json.Basic
import CardFilter.Text.Ordered

/-!
# What a condition refers to

The identifiers in a condition, sorted by what they stand for.  Blank ones refer to nothing and are
left out.  Options belong to the field whose leaf names them, and a field has an entry only when one
of its options is named.
-/

namespace CardFilter

/-- Identifiers by what they stand for. -/
structure References where
  fields : NameSet
  links : NameSet
  /-- Options under the field they belong to. -/
  options : Table NameSet
  cards : NameSet
  statuses : NameSet
  streams : NameSet
  users : NameSet
deriving DecidableEq, Repr

namespace References

def empty : References := ⟨[], [], [], [], [], [], []⟩

def isEmpty (references : References) : Bool :=
  references.fields.isEmpty && references.links.isEmpty && references.options.isEmpty &&
    references.cards.isEmpty && references.statuses.isEmpty && references.streams.isEmpty &&
    references.users.isEmpty

def filled (ids : List String) : List String := ids.filter Text.isFilled

def addFields (ids : List String) (references : References) : References :=
  { references with fields := references.fields.insertAll (filled ids) }

def addLinks (ids : List String) (references : References) : References :=
  { references with links := references.links.insertAll (filled ids) }

/-- Adds options to the entry of their field; without any there is no new entry. -/
def addOptions (fieldId : String) (ids : List String) (references : References) : References :=
  let options := NameSet.insertAll (filled ids) ((references.options.lookup fieldId).getD [])
  if options.isEmpty then references
  else { references with options := references.options.insert fieldId options }

def addCards (ids : List String) (references : References) : References :=
  { references with cards := references.cards.insertAll (filled ids) }

def addStatuses (ids : List String) (references : References) : References :=
  { references with statuses := references.statuses.insertAll (filled ids) }

def addStreams (ids : List String) (references : References) : References :=
  { references with streams := references.streams.insertAll (filled ids) }

def addUsers (ids : List String) (references : References) : References :=
  { references with users := references.users.insertAll (filled ids) }

end References

/-- The field that a number is compared with. -/
def NumberValue.fields : NumberValue → List String
  | .literal _ => []
  | .reference fieldId => [fieldId]

def optionalFields (value : Option NumberValue) : List String :=
  (value.map NumberValue.fields).getD []

namespace References

def addIds (sort : IdSort) (owner : String) (ids : List String) : References → References :=
  match sort with
  | .option => addOptions owner ids
  | .status => addStatuses ids
  | .user => addUsers ids

/-- Adds the identifiers in a comparison value; options belong to the field looked at. -/
def addOperand (owner : String) : Operand → References → References
  | .number value => addFields (optionalFields value)
  | .numberRange lower upper => addFields (optionalFields lower ++ optionalFields upper)
  | .one sort id => addIds sort owner [id]
  | .many sort ids => addIds sort owner ids
  | .cards ids => addCards (ids.getD [])
  | _ => id

/-- Adds what a kind's identifier stands for. -/
def addOwner (kind : Kind) (id : String) : References → References :=
  match kind with
  | .status => addStreams [id]
  | .link => addLinks [id]
  | _ => addFields [id]

end References

def Identity.id? : Identity → Option String
  | .named id => some id
  | _ => none

def Leaf.id? (leaf : Leaf) : Option String := leaf.subject.identity.id?

def Leaf.addReferences (leaf : Leaf) (references : References) : References :=
  let withPath := references.addLinks ((leaf.path.map Path.hops).getD [])
  let withOwner :=
    match leaf.id? with
    | some id => withPath.addOwner leaf.kind id
    | none => withPath
  match leaf.test with
  | some test => withOwner.addOperand (leaf.id?.getD "") test.operand
  | none => withOwner

namespace Node

mutual

def addReferences : Node → References → References
  | .group _ children, references => addAllReferences children references
  | .leaf item, references => item.addReferences references

def addAllReferences : List Node → References → References
  | [], references => references
  | child :: rest, references => addAllReferences rest (addReferences child references)

end

end Node

def Condition.references (condition : Condition) : References :=
  match condition.root with
  | some root => root.addReferences .empty
  | none => .empty

def References.toJson (references : References) : Json :=
  .object [
    ("fieldIds", .ofStrings references.fields),
    ("linkFieldIds", .ofStrings references.links),
    ("enumOptionIds", .object (references.options.map fun entry ↦ (entry.1, .ofStrings entry.2))),
    ("cardIds", .ofStrings references.cards),
    ("statusIds", .ofStrings references.statuses),
    ("streamIds", .ofStrings references.streams),
    ("userIds", .ofStrings references.users)]

end CardFilter
