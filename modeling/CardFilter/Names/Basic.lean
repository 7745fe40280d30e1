import CardFilter.Condition.References
import CardFilter.Text.Blank

/-!
# Names

What the identifiers of a condition are called.  Every lookup has an answer: an identifier without a
name stands for itself.
-/

namespace CardFilter

/-- One of the values that a field lets people choose from. -/
structure FieldOption where
  id : String
  name : String
  color : Option String
deriving DecidableEq, Repr

/-- How a card is referred to. -/
structure CardTitle where
  id : String
  code : String
  title : String
deriving DecidableEq, Repr

/-- The code and the title, or the code alone when the title is blank. -/
def CardTitle.label (card : CardTitle) : String :=
  if Text.isBlank card.title then card.code else card.code ++ " " ++ card.title

structure Names where
  fields : Table String
  links : Table String
  /-- Options under the field they belong to. -/
  options : Table (List FieldOption)
  cards : Table CardTitle
  statuses : Table String
deriving DecidableEq, Repr

namespace Names

def empty : Names := ⟨[], [], [], [], []⟩

def isEmpty (names : Names) : Bool :=
  names.fields.isEmpty && names.links.isEmpty && names.options.isEmpty && names.cards.isEmpty &&
    names.statuses.isEmpty

def fieldName (names : Names) (id : String) : String := (names.fields.lookup id).getD id

def linkName (names : Names) (id : String) : String := (names.links.lookup id).getD id

def statusName (names : Names) (id : String) : String := (names.statuses.lookup id).getD id

def optionsOf (names : Names) (fieldId : String) : List FieldOption :=
  (names.options.lookup fieldId).getD []

/-- The first option of this identifier counts. -/
def optionName (names : Names) (fieldId optionId : String) : String :=
  (((names.optionsOf fieldId).find? (·.id == optionId)).map (·.name)).getD optionId

def card? (names : Names) (id : String) : Option CardTitle := names.cards.lookup id

def cardLabel (names : Names) (id : String) : String := ((names.card? id).map (·.label)).getD id

def addField (id name : String) (names : Names) : Names :=
  { names with fields := names.fields.insert id name }

def addFields (pairs : List (String × String)) (names : Names) : Names :=
  { names with fields := names.fields.insertAll pairs }

def addLink (id name : String) (names : Names) : Names :=
  { names with links := names.links.insert id name }

def addLinks (pairs : List (String × String)) (names : Names) : Names :=
  { names with links := names.links.insertAll pairs }

/-- Replaces all options of a field. -/
def addOptions (fieldId : String) (options : List FieldOption) (names : Names) : Names :=
  { names with options := names.options.insert fieldId options }

/-- A card is kept under its own identifier. -/
def addCard (card : CardTitle) (names : Names) : Names :=
  { names with cards := names.cards.insert card.id card }

def addStatus (id name : String) (names : Names) : Names :=
  { names with statuses := names.statuses.insert id name }

/-- The key of an option among the labels. -/
def optionKey (fieldId optionId : String) : String := fieldId ++ "/" ++ optionId

/-- The labels of a set of identifiers, in order. -/
def labelsOf (label : String → String) (ids : NameSet) : List (String × String) :=
  ids.map fun id ↦ (id, label id)

/-- The labels of all that is referred to, sort by sort. -/
def allLabels (names : Names) (references : References) : List (String × String) :=
  labelsOf names.fieldName references.fields ++
  labelsOf names.linkName references.links ++
  references.options.flatMap (fun (fieldId, ids) ↦
    ids.map fun id ↦ (optionKey fieldId id, names.optionName fieldId id)) ++
  labelsOf names.cardLabel references.cards ++
  labelsOf names.statusName references.statuses

/-- What each identifier that is referred to is called.  Where two of them share a key, the later
sort counts: fields, links, options, cards, statuses. -/
def labels (names : Names) (references : References) : Table String :=
  Table.ofPairs (names.allLabels references)

end Names

end CardFilter
