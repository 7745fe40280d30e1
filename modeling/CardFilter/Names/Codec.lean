import CardFilter.Condition.Encode
import CardFilter.Json.Record
import CardFilter.Json.Strict
import CardFilter.Names.Basic

/-!
# Names as JSON

The form in which names are delivered: five tables, each of which may be missing.
-/

namespace CardFilter

namespace FieldOption

def toJson (option : FieldOption) : Json :=
  .object ([("id", .string option.id), ("name", .string option.name)] ++
    Json.optional "color" .string option.color)

def fieldNames : List String := ["id", "name", "color"]

def read? (value : Json) : Option FieldOption := do
  let fields ← value.record? fieldNames
  return {
    id := ← Json.field fields "id" Json.string?
    name := ← Json.field fields "name" Json.string?
    color := ← Json.fieldOr fields "color" none (Json.nullable? Json.string?) }

end FieldOption

namespace CardTitle

def toJson (card : CardTitle) : Json :=
  .object [("id", .string card.id), ("code", .string card.code), ("title", .string card.title)]

def fieldNames : List String := ["id", "code", "title"]

def read? (value : Json) : Option CardTitle := do
  let fields ← value.record? fieldNames
  return {
    id := ← Json.field fields "id" Json.string?
    code := ← Json.field fields "code" Json.string?
    title := ← Json.field fields "title" Json.string? }

end CardTitle

/-- A schema of a record all of whose fields are looked at. -/
def Json.Schema.ofFields (names : List String) : Json.Schema :=
  .record (names.map fun name ↦ (name, .value))

namespace Names

def tableToJson {α : Type} (encode : α → Json) (table : Table α) : Json :=
  .object (table.map fun entry ↦ (entry.1, encode entry.2))

def optionsToJson (options : List FieldOption) : Json := .array (options.map FieldOption.toJson)

def toJson (names : Names) : Json :=
  .object [
    ("fieldNames", tableToJson .string names.fields),
    ("linkFieldNames", tableToJson .string names.links),
    ("enumOptions", tableToJson optionsToJson names.options),
    ("cards", tableToJson CardTitle.toJson names.cards),
    ("statusNames", tableToJson .string names.statuses)]

def schema : Json.Schema :=
  .record [
    ("fieldNames", .table .value),
    ("linkFieldNames", .table .value),
    ("enumOptions", .table (.list (.ofFields FieldOption.fieldNames))),
    ("cards", .table (.ofFields CardTitle.fieldNames)),
    ("statusNames", .table .value)]

def sections : List String :=
  ["fieldNames", "linkFieldNames", "enumOptions", "cards", "statusNames"]

/-- A table of names, where of several entries with one key the last one stays. -/
def readTable? {α : Type} (read : Json → Option α) (value : Json) : Option (Table α) :=
  (value.tableOf? read).map Table.ofPairs

def read? (value : Json) : Option Names := do
  let fields ← value.record? sections
  return {
    fields := ← Json.fieldOr fields "fieldNames" [] (readTable? Json.string?)
    links := ← Json.fieldOr fields "linkFieldNames" [] (readTable? Json.string?)
    options := ← Json.fieldOr fields "enumOptions" [] (readTable? (Json.listOf? FieldOption.read?))
    cards := ← Json.fieldOr fields "cards" [] (readTable? CardTitle.read?)
    statuses := ← Json.fieldOr fields "statusNames" [] (readTable? Json.string?) }

/-- Names from text. -/
def parse? (text : String) : Option Names := (Json.Strict.read? schema text).bind read?

end Names

end CardFilter
