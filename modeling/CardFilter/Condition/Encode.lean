import CardFilter.Condition.Basic
import CardFilter.Json.Writer

/-!
# Conditions as JSON

Every part of a condition has one JSON form.  Tags come first, a missing part has no member, and a
literal that is not finite leaves its place to null when the value is made canonical or written.
-/

namespace CardFilter

open Json (ofStrings)

def SystemDate.toJson (date : SystemDate) : Json := .string date.name

def Cycle.toJson (cycle : Cycle) : Json := .string cycle.name

def Connective.toJson (connective : Connective) : Json := .string connective.name

/-- The member that holds identifiers of a sort: one of them, or several. -/
def IdSort.oneMember : IdSort → String
  | .option => "optionId"
  | .status => "statusId"
  | .user => "userId"

def IdSort.manyMember : IdSort → String
  | .option => "optionIds"
  | .status => "statusIds"
  | .user => "userIds"

/-- A member that is left out when there is no value. -/
def Json.optional {α : Type} (name : String) (encode : α → Json) :
    Option α → List (String × Json)
  | none => []
  | some value => [(name, encode value)]

def Path.toJson (path : Path) : Json := .object [("linkNodes", ofStrings path.hops)]

def NumberValue.toJson : NumberValue → Json
  | .literal value =>
    .object (("type", .string "STATIC") :: Json.optional "value" (.number ∘ .real) value)
  | .reference fieldId => .object [("type", .string "REFERENCE"), ("value", .string fieldId)]

def DateValue.toJson : DateValue → Json
  | .keyDate token => .object [("type", .string "KEY_DATE"), ("keyDate", .string token)]
  | .specific text => .object [("type", .string "SPECIFIC"), ("value", .string text)]

def cardsToJson (ids : List String) : Json :=
  .object [("type", .string "STATIC"), ("cardIds", ofStrings ids)]

/-- The members of a comparison value, beside the relation. -/
def Operand.members : Operand → List (String × Json)
  | .nothing => []
  | .text value => [("value", .string value)]
  | .number value => Json.optional "value" NumberValue.toJson value
  | .numberRange lower upper =>
    Json.optional "start" NumberValue.toJson lower ++ Json.optional "end" NumberValue.toJson upper
  | .date value => Json.optional "value" DateValue.toJson value
  | .dateRange lower upper =>
    Json.optional "start" DateValue.toJson lower ++ Json.optional "end" DateValue.toJson upper
  | .one sort id => [(sort.oneMember, .string id)]
  | .many sort ids => [(sort.manyMember, ofStrings ids)]
  | .cards ids => Json.optional "value" cardsToJson ids
  | .cycles values => [("values", .array (values.map Cycle.toJson))]

def Test.toJson {kind : Kind} (test : Test kind) : Json :=
  .object (("type", .string test.form.tag) :: test.operand.members)

/-- The members that identify the subject; only a date needs a tag. -/
def Identity.members (form : SubjectForm) : Identity → List (String × Json)
  | .implied => []
  | .named id =>
    match form with
    | .keyed member => [(member, .string id)]
    | _ => [("type", .string "FIELD"), ("fieldId", .string id)]
  | .system field =>
    ("type", .string "SYSTEM") :: Json.optional "systemField" SystemDate.toJson field

def Subject.toJson {kind : Kind} (subject : Subject kind) : Json :=
  .object (subject.identity.members kind.subjectForm ++
    Json.optional "path" Path.toJson subject.path)

def Leaf.toJson (leaf : Leaf) : Json :=
  .object (("nodeType", .string leaf.kind.name) :: ("subject", leaf.subject.toJson) ::
    Json.optional "operator" Test.toJson leaf.test)

/-- The name that marks a group among the names of kinds. -/
def Node.groupName : String := "GROUP"

mutual

def Node.toJson : Node → Json
  | .group connective children =>
    .object [("nodeType", .string Node.groupName), ("operator", connective.toJson),
      ("children", .array (Node.allToJson children))]
  | .leaf item => item.toJson

def Node.allToJson : List Node → List Json
  | [] => []
  | child :: rest => child.toJson :: Node.allToJson rest

end

def Condition.toJson (condition : Condition) : Json :=
  .object (Json.optional "root" Node.toJson condition.root)

/-- The condition as text, without any space. -/
def Condition.jsonText (condition : Condition) : String := condition.toJson.compact

end CardFilter
