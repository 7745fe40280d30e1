import CardFilter.Condition.Encode
import CardFilter.Json.Record

/-!
# Conditions from JSON

Two ways to read the same forms.  The parts of a leaf are read strictly, each into its type or not
at all.  A leaf then reads its subject and its test leniently: a part that is missing or null is
left unset, and a part that cannot be read is left unset too and handed back as *discarded*.  The
subject is set aside after the test, in the order of their names.
-/

namespace CardFilter

/-- What a lenient reading understood, and the values it set aside on the way. -/
structure Reading (α : Type) where
  value : α
  discarded : List Json

namespace Reading

/-- A part read leniently: absent and null give nothing, an unreadable part is discarded whole,
behind whatever was discarded inside it. -/
def lenient {α : Type} (read : Json → Reading (Option α)) : Option Json → Reading (Option α)
  | none | some .null => ⟨none, []⟩
  | some raw =>
    let part := read raw.canonical
    match part.value with
    | some value => ⟨some value, part.discarded⟩
    | none => ⟨none, part.discarded ++ [raw.canonical]⟩

end Reading

def Path.read? (value : Json) : Option Path :=
  (value.record? ["linkNodes"]).bind fun fields ↦
    (Json.fieldOr fields "linkNodes" [] Json.strings?).map Path.mk

/-- The path of a subject: null and a path without hops are no path. -/
def readPath? (fields : List (String × Json)) : Option (Option Path) :=
  (Json.fieldOr fields "path" none (Json.nullable? Path.read?)).map normalPath

/-- Alternatives of a number value. -/
inductive NumberForm
  | literal
  | reference

def NumberForm.named : List (String × NumberForm) :=
  [("STATIC", .literal), ("REFERENCE", .reference)]

/-- Reads a number value; `held` says that an outer tag was read first. -/
def NumberValue.read? (held : Bool) (value : Json) : Option NumberValue := do
  let (tag, rest) ← value.tagged? "type"
  let fields ← rest.record? ["value"]
  match (← tag.tag? held).choose? NumberForm.named with
  | some .literal => (Json.fieldOr fields "value" none (Json.nullable? Json.real?)).map .literal
  | some .reference => (Json.fieldOr fields "value" "" Json.string?).map .reference
  | none => none

/-- Alternatives of a date value. -/
inductive DateForm
  | keyDate
  | specific

def DateForm.named : List (String × DateForm) := [("KEY_DATE", .keyDate), ("SPECIFIC", .specific)]

def DateValue.read? (held : Bool) (value : Json) : Option DateValue := do
  let (tag, rest) ← value.tagged? "type"
  match (← tag.tag? held).choose? DateForm.named with
  | some .keyDate =>
    let fields ← rest.record? ["keyDate"]
    (Json.fieldOr fields "keyDate" "" Json.string?).map .keyDate
  | some .specific =>
    let fields ← rest.record? ["value"]
    (Json.fieldOr fields "value" "" Json.string?).map .specific
  | none => none

/-- The one form in which cards are given. -/
def cardFormNamed : List (String × Unit) := [("STATIC", ())]

def readCards? (held : Bool) (value : Json) : Option (List String) := do
  let (tag, rest) ← value.tagged? "type"
  let () ← (← tag.tag? held).choose? cardFormNamed
  let fields ← rest.record? ["cardIds"]
  Json.fieldOr fields "cardIds" [] Json.strings?

/-- Reads the comparison value for a slot from what stands beside the relation. -/
def Operand.read? (rest : Json) :
    (slot : Slot) → Option { operand : Operand // operand.slot = slot }
  | .nothing => if rest.isUnit then some ⟨.nothing, rfl⟩ else none
  | .text =>
    (rest.record? ["value"]).bind fun fields ↦
      (Json.fieldOr fields "value" "" Json.string?).map fun value ↦ ⟨.text value, rfl⟩
  | .number =>
    (rest.record? ["value"]).bind fun fields ↦
      (Json.fieldOr fields "value" none (Json.nullable? (NumberValue.read? true))).map
        fun value ↦ ⟨.number value, rfl⟩
  | .numberRange =>
    (rest.record? ["start", "end"]).bind fun fields ↦
      (Json.fieldOr fields "start" none (Json.nullable? (NumberValue.read? true))).bind fun lower ↦
        (Json.fieldOr fields "end" none (Json.nullable? (NumberValue.read? true))).map
          fun upper ↦ ⟨.numberRange lower upper, rfl⟩
  | .date =>
    (rest.record? ["value"]).bind fun fields ↦
      (Json.fieldOr fields "value" none (Json.nullable? (DateValue.read? true))).map
        fun value ↦ ⟨.date value, rfl⟩
  | .dateRange =>
    (rest.record? ["start", "end"]).bind fun fields ↦
      (Json.fieldOr fields "start" none (Json.nullable? (DateValue.read? true))).bind fun lower ↦
        (Json.fieldOr fields "end" none (Json.nullable? (DateValue.read? true))).map
          fun upper ↦ ⟨.dateRange lower upper, rfl⟩
  | .one sort =>
    (rest.record? [sort.oneMember]).bind fun fields ↦
      (Json.fieldOr fields sort.oneMember "" Json.string?).map fun id ↦ ⟨.one sort id, rfl⟩
  | .many sort =>
    (rest.record? [sort.manyMember]).bind fun fields ↦
      (Json.fieldOr fields sort.manyMember [] Json.strings?).map fun ids ↦ ⟨.many sort ids, rfl⟩
  | .cards =>
    (rest.record? ["value"]).bind fun fields ↦
      (Json.fieldOr fields "value" none (Json.nullable? (readCards? true))).map
        fun ids ↦ ⟨.cards ids, rfl⟩
  | .cycles =>
    (rest.record? ["values"]).bind fun fields ↦
      (Json.fieldOr fields "values" [] (Json.listOf? (Json.choice? true Cycle.named))).map
        fun values ↦ ⟨.cycles values, rfl⟩

/-- The form of the kind's tests under a tag. -/
def Kind.form? (kind : Kind) (tag : String) : Option { form // form ∈ kind.forms } :=
  kind.forms.attach.find? fun form ↦ form.1.tag == tag

/-- Reads a test of the kind; a test of another kind is not one. -/
def Test.read? (kind : Kind) (value : Json) : Option (Test kind) :=
  match value.tagged? "type" with
  | some (.string tag, rest) =>
    match kind.form? tag with
    | some ⟨form, listed⟩ =>
      (Operand.read? rest form.slot).map fun operand ↦ ⟨form, operand.1, listed, operand.2⟩
    | none => none
  | _ => none

/-- Alternatives of a date subject. -/
inductive DateSubjectForm
  | system
  | field

def DateSubjectForm.named : List (String × DateSubjectForm) :=
  [("SYSTEM", .system), ("FIELD", .field)]

/-- The built-in date of a subject, read leniently. -/
def readSystemDate (value : Option Json) : Reading (Option SystemDate) :=
  Reading.lenient (fun raw ↦ ⟨raw.choice? false SystemDate.named, []⟩) value

/-- Reads the identity and the path of a built-in date.  The fields are read in the order in which
they stand, and reading stops at a path that cannot be read. -/
def readSystemFields (value : Json) : Reading (Option (Option SystemDate × Option Path)) :=
  let names := ["systemField", "path"]
  let fields := value.fields names
  let readable := fields.takeWhile fun field ↦
    field.1 != "path" || (Json.nullable? Path.read? field.2).isSome
  let field := readSystemDate (readable.lookup "systemField")
  ⟨if value.isRecord names then (readPath? fields).map (field.value, ·) else none, field.discarded⟩

/-- The identity and path of a subject in the form of its kind. -/
def SubjectForm.read (value : Json) :
    (form : SubjectForm) →
      Reading (Option ({ identity // form.admits identity = true } × Option Path))
  | .implied =>
    ⟨(value.record? ["path"]).bind fun fields ↦
      (readPath? fields).map fun path ↦ (⟨.implied, rfl⟩, path), []⟩
  | .keyed member =>
    ⟨(value.record? [member, "path"]).bind fun fields ↦
      (Json.fieldOr fields member "" Json.string?).bind fun id ↦
        (readPath? fields).map fun path ↦ (⟨.named id, rfl⟩, path), []⟩
  | .date =>
    match value.tagged? "type" with
    | some (.string name, rest) =>
      match DateSubjectForm.named.lookup name with
      | some .system =>
        let system := readSystemFields rest
        ⟨system.value.map fun (field, path) ↦ (⟨.system field, rfl⟩, path), system.discarded⟩
      | some .field =>
        ⟨(rest.record? ["fieldId", "path"]).bind fun fields ↦
          (Json.fieldOr fields "fieldId" "" Json.string?).bind fun id ↦
            (readPath? fields).map fun path ↦ (⟨.named id, rfl⟩, path), []⟩
      | none => ⟨none, []⟩
    | _ => ⟨none, []⟩

def Subject.read (kind : Kind) (value : Json) : Reading (Option (Subject kind)) :=
  let part := kind.subjectForm.read value
  ⟨part.value.map fun (identity, path) ↦ ⟨identity.1, path, identity.2⟩, part.discarded⟩

def Subject.read? (kind : Kind) (value : Json) : Option (Subject kind) :=
  (Subject.read kind value).value

/-- The fields of a leaf beside its kind. -/
def Leaf.fieldNames : List String := ["subject", "operator"]

/-- Reads the parts of a leaf of the kind; nothing in them can fail. -/
def Leaf.ofFields (kind : Kind) (fields : List (String × Json)) : Reading Leaf :=
  let test := Reading.lenient (fun raw ↦ ⟨Test.read? kind raw, []⟩) (fields.lookup "operator")
  let subject := Reading.lenient (Subject.read kind) (fields.lookup "subject")
  ⟨⟨kind, subject.value.getD (Subject.unset kind), test.value⟩, test.discarded ++ subject.discarded⟩

def Leaf.read? (value : Json) : Option Leaf :=
  match value.tagged? "nodeType" with
  | some (.string name, rest) =>
    match Kind.ofName? name, rest.record? Leaf.fieldNames with
    | some kind, some fields => some (Leaf.ofFields kind fields).value
    | _, _ => none
  | _ => none

/-- Whether a value is marked as a group. -/
def Json.isGroup (value : Json) : Bool :=
  match value.member? "nodeType" with
  | some (.string name) => name == Node.groupName
  | _ => false

/-- The connective of a group, AND when there is none. -/
def Connective.readField? (fields : List (String × Json)) : Option Connective :=
  Json.fieldOr fields "operator" .and (Json.choice? false Connective.named)

namespace Node

mutual

/-- Reads a canonical value as a node. -/
def read? : Json → Option Node
  | .object members =>
    if (Json.object members).isGroup then
      match Connective.readField? members, readChildren? members with
      | some connective, some children => some (.group connective children)
      | _, _ => none
    else (Leaf.read? (.object members)).map .leaf
  | .array items => (Leaf.read? (.array items)).map .leaf
  | _ => none

/-- The children of a group, none when it has no such member. -/
def readChildren? : List (String × Json) → Option (List Node)
  | [] => some []
  | (name, value) :: rest => if name = "children" then readItems? value else readChildren? rest

def readItems? : Json → Option (List Node)
  | .array items => readAll? items
  | _ => none

def readAll? : List Json → Option (List Node)
  | [] => some []
  | item :: rest =>
    match read? item, readAll? rest with
    | some node, some others => some (node :: others)
    | _, _ => none

end

def decode? (value : Json) : Option Node := read? value.canonical

end Node

/-- A group that stands without its mark. -/
def Node.decodeGroup? (value : Json) : Option (Connective × List Node) :=
  (value.record? ["operator", "children"]).bind fun fields ↦
    (Connective.readField? fields).bind fun connective ↦
      (Json.fieldOr fields "children" [] (Json.listOf? Node.decode?)).map (connective, ·)

def Condition.decode? (value : Json) : Option Condition :=
  (value.record? ["root"]).bind fun fields ↦
    (Json.fieldOr fields "root" none (Json.nullable? Node.decode?)).map Condition.mk

end CardFilter
