import CardFilter.Proofs.Condition.Nodes
import CardFilter.Proofs.Condition.Subjects

/-!
# Conditions read back

A condition that is written and read again is the canonical form of what it was: both readers, the
one with diagnosis and the one without, give exactly that and set nothing aside.  Conversely what is
read from a value in memory, whatever the value is, is canonical already, and so it comes back
unchanged.

The round trip is an induction over the tree with one case for each kind of node; the converse is an
induction over what was read.  Neither says anything about texts: between a text and a value stand
the readers and writers of JSON.
-/

namespace CardFilter

theorem Connective.choose_toJson (connective : Connective) :
    connective.toJson.canonical.choice? false Connective.named = some connective := by
  cases connective <;> rfl

namespace Leaf

/-- A leaf is read back from its members, and nothing of it is set aside. -/
theorem ofFields_of_lookup (leaf : Leaf) {fields : List (String × Json)}
    (hsubject : fields.lookup "subject" = some leaf.subject.toJson.canonical)
    (htest : fields.lookup "operator" = leaf.test.map fun test ↦ test.toJson.canonical) :
    Leaf.ofFields leaf.kind fields = ⟨leaf.canonical, []⟩ := by
  have hsubject' : Reading.lenient (Subject.read leaf.kind) (fields.lookup "subject") =
      ⟨some leaf.subject.canonical, []⟩ := by
    have hobject : leaf.subject.toJson.canonical ≠ .null := by
      simp [Subject.toJson, Json.canonical_object]
    rw [hsubject, Reading.lenient_some _ hobject, Json.canonical_canonical, Subject.read_toJson]
    rfl
  have htest' : Reading.lenient (fun raw ↦ ⟨Test.read? leaf.kind raw, []⟩)
      (fields.lookup "operator") = ⟨leaf.test.map Test.canonical, []⟩ := by
    rw [htest]
    cases leaf.test with
    | none => rfl
    | some test =>
      have hobject : test.toJson.canonical ≠ .null := by
        simp [Test.toJson, Json.canonical_object]
      rw [Option.map_some, Reading.lenient_some _ hobject, Json.canonical_canonical,
        Test.read?_toJson]
      rfl
  rw [Leaf.ofFields, hsubject', htest']
  rfl

/-- The members of a leaf. -/
def members (leaf : Leaf) : List (String × Json) :=
  ("nodeType", .string leaf.kind.name) :: ("subject", leaf.subject.toJson) ::
    Json.optional "operator" Test.toJson leaf.test

theorem lookup_kind (leaf : Leaf) :
    (Json.table leaf.members).lookup "nodeType" = some (.string leaf.kind.name) := by
  simp [members]

theorem lookup_subject (leaf : Leaf) :
    (Json.table leaf.members).lookup "subject" = some leaf.subject.toJson.canonical := by
  simp [members]

theorem lookup_test (leaf : Leaf) :
    (Json.table leaf.members).lookup "operator" =
      leaf.test.map fun test ↦ test.toJson.canonical := by
  simp [members]

theorem canonical_toJson (leaf : Leaf) :
    leaf.toJson.canonical = .object (Json.table leaf.members) := by
  rw [toJson, Json.canonical_object, members]

theorem read?_toJson (leaf : Leaf) : Leaf.read? leaf.toJson.canonical = some leaf.canonical := by
  rw [canonical_toJson, read?_object (Json.sorted_table _) leaf.lookup_kind, Kind.ofName?_name,
    Option.map_some, leaf.ofFields_of_lookup leaf.lookup_subject leaf.lookup_test]

end Leaf

namespace Node

/-! ## Round trip -/

/-- The members of a group. -/
def members (connective : Connective) (children : List Node) : List (String × Json) :=
  [("nodeType", .string groupName), ("operator", connective.toJson),
    ("children", .array (allToJson children))]

theorem canonical_toJson_group (connective : Connective) (children : List Node) :
    (group connective children).toJson.canonical =
      .object (Json.table (members connective children)) := by
  rw [toJson, Json.canonical_object, members]

theorem lookup_mark (connective : Connective) (children : List Node) :
    (Json.table (members connective children)).lookup "nodeType" = some (.string groupName) := by
  simp [members]

theorem lookup_connective (connective : Connective) (children : List Node) :
    (Json.table (members connective children)).lookup "operator" =
      some connective.toJson.canonical := by
  simp [members]

theorem readField?_members (connective : Connective) (children : List Node) :
    Connective.readField? (Json.table (members connective children)) = some connective := by
  rw [Connective.readField?, Json.fieldOr, lookup_connective]
  exact connective.choose_toJson

theorem lookup_children (connective : Connective) (children : List Node) :
    (Json.table (members connective children)).lookup "children" =
      some (.array (Json.canonicalItems (allToJson children))) := by
  simp [members, Json.canonical]

mutual

/-- The reader with diagnosis gives the canonical form of what was written. -/
theorem parse_toJson (place : List Nat) : (node : Node) →
    parse place node.toJson.canonical = ⟨.ok node.canonical, []⟩
  | .leaf item => by
    rw [toJson, item.canonical_toJson, parse_leaf place item.lookup_kind,
      item.ofFields_of_lookup item.lookup_subject item.lookup_test]
    rfl
  | .group connective children => by
    have hitems := Json.childItems?_eq_some.2 (.inr (lookup_children connective children))
    rw [canonical_toJson_group, parse_group place (lookup_mark connective children)
      (readField?_members connective children) hitems, parseAll_toJson place 0 children]
    rfl

theorem parseAll_toJson (place : List Nat) (index : Nat) : (nodes : List Node) →
    parseAll place index (Json.canonicalItems (allToJson nodes)) = ⟨.ok (canonicalAll nodes), []⟩
  | [] => rfl
  | node :: rest => by
    rw [allToJson, Json.canonicalItems, parseAll, parse_toJson (place ++ [index]) node,
      parseAll_toJson place (index + 1) rest]
    rfl

end

mutual

/-- The reader without diagnosis gives the same. -/
theorem read?_toJson : (node : Node) → read? node.toJson.canonical = some node.canonical
  | .leaf item => by
    have hleaf := item.read?_toJson
    have hgroup := isGroup_object (Json.table item.members) item.lookup_kind
    rw [item.canonical_toJson] at hleaf
    rw [toJson, item.canonical_toJson, read?, hgroup, hleaf]
    simp [item.kind.name_ne_groupName, canonical]
  | .group connective children => by
    have hgroup := isGroup_object (Json.table (members connective children))
      (lookup_mark connective children)
    rw [canonical_toJson_group, read?, hgroup]
    simp only [beq_self_eq_true, if_true, readField?_members, readChildren?_eq, lookup_children,
      readItems?, readAll?_toJson children]
    rfl

theorem readAll?_toJson : (nodes : List Node) →
    readAll? (Json.canonicalItems (allToJson nodes)) = some (canonicalAll nodes)
  | [] => rfl
  | node :: rest => by
    rw [allToJson, Json.canonicalItems, readAll?, read?_toJson node, readAll?_toJson rest]
    rfl

end

/-! ## What is read is canonical -/

theorem canonicalAll_of_forall₂ {items : List Json} {children : List (Reading Node)}
    (h : List.Forall₂ (fun item child ↦ item.isHeld = true →
      child.value.canonical = child.value) items children)
    (hheld : Json.allHeld items = true) :
    canonicalAll (children.map Reading.value) = children.map Reading.value := by
  induction h with
  | nil => rfl
  | cons hchild _ ih =>
    obtain ⟨hitem, hrest⟩ := Bool.and_eq_true_iff.1 hheld
    rw [List.map_cons, canonicalAll, hchild hitem, ih hrest]

theorem allHeld_childItems? {members : List (String × Json)} {items : List Json}
    (hheld : ∀ member ∈ members, member.2.isHeld = true)
    (h : Json.childItems? members = some items) : Json.allHeld items = true := by
  rcases Json.childItems?_eq_some.1 h with ⟨-, rfl⟩ | hlookup
  · rfl
  · exact Json.isHeld_of_lookup hheld hlookup

theorem canonical_inherited :
    Inherited fun value node _ ↦ value.isHeld = true → node.canonical = node where
  leaf {members kind} _ hheld := by
    rw [canonical, Leaf.canonical_ofFields kind ((Json.isHeld_object members).1 hheld)]
  group {members _ _ _} _ _ hitems hchildren hheld := by
    have hall := allHeld_childItems? ((Json.isHeld_object members).1 hheld) hitems
    rw [canonical, canonicalAll_of_forall₂ hchildren hall]

theorem canonical_of_parse {place : List Nat} {value : Json} (hheld : value.isHeld = true)
    {node : Node} (h : (parse place value).value = .ok node) : node.canonical = node :=
  parse_induction canonical_inherited place value node h hheld

end Node

theorem Json.isHeld_root {value : Json} (h : value.isHeld = true) : value.root.isHeld = true := by
  cases value with
  | object members =>
    rw [root]
    cases hroot : members.lookup "root" with
    | none => exact h
    | some value => exact isHeld_of_lookup ((isHeld_object members).1 h) hroot
  | null | bool | number | string | array => exact h

theorem Node.exists_canonical_object (node : Node) :
    ∃ members, node.toJson.canonical = .object members := by
  cases node with
  | group connective children => exact ⟨_, canonical_toJson_group connective children⟩
  | leaf item => exact ⟨_, item.canonical_toJson⟩

namespace Condition

theorem parseRoot_toJson (node : Node) :
    parseRoot node.toJson.canonical = ⟨.ok (ofNode node.canonical), []⟩ := by
  obtain ⟨members, hmembers⟩ := node.exists_canonical_object
  have hnode := node.parse_toJson []
  rw [hmembers] at hnode ⊢
  simp only [parseRoot, hnode]
  rfl

/-- A condition that is written and read back is in canonical form, and nothing is set aside. -/
theorem parseValue_toJson (condition : Condition) :
    parseValue condition.toJson.canonical = ⟨.ok condition.canonical, []⟩ := by
  obtain ⟨_ | node⟩ := condition
  · rfl
  · have hroot : (Json.table (Json.optional "root" Node.toJson (some node))).lookup "root" =
        some node.toJson.canonical := by
      simp
    rw [toJson, Json.canonical_object, parseValue, hroot]
    exact parseRoot_toJson node

theorem decode?_toJson (condition : Condition) :
    decode? condition.toJson.canonical = some condition.canonical := by
  have hread (node : Node) : Node.decode? node.toJson.canonical = some node.canonical := by
    rw [Node.decode?, Json.canonical_canonical, node.read?_toJson]
  obtain ⟨_ | node⟩ := condition
  · rfl
  · obtain ⟨members, hmembers⟩ := node.exists_canonical_object
    have hnode := hread node
    rw [hmembers] at hnode
    have hroot : (Json.table (Json.optional "root" Node.toJson (some node))).lookup "root" =
        some (.object members) := by
      simp [hmembers]
    rw [toJson, Json.canonical_object, decode?, Json.record?_object (Json.sorted_table _),
      Option.bind_some, Json.fieldOr_record (List.mem_singleton.2 rfl), Json.fieldOr, hroot]
    simp only [Json.nullable?, hnode]
    rfl

theorem canonical_of_parseValue {value : Json} (hheld : value.isHeld = true)
    {condition : Condition} (h : (parseValue value).value = .ok condition) :
    condition.canonical = condition := by
  rcases parseValue_cases h with ⟨rfl, -⟩ | ⟨node, rfl, hnode, -⟩
  · rfl
  · have hroot := Json.isHeld_root hheld
    rw [canonical, ofNode, Option.map_some, Node.canonical_of_parse hroot hnode]

/-- Writing and reading back gives the canonical form, by either reader, and a condition that was
read from a value in memory is its own canonical form. -/
theorem wire_roundTrip :
    (∀ condition : Condition,
      parseValue condition.toJson.canonical = ⟨.ok condition.canonical, []⟩ ∧
        decode? condition.toJson.canonical = some condition.canonical) ∧
    ∀ (value : Json) (condition : Condition), value.isHeld = true →
      (parseValue value).value = .ok condition →
        condition.canonical = condition ∧
        parseValue condition.toJson.canonical = ⟨.ok condition, []⟩ ∧
        decode? condition.toJson.canonical = some condition := by
  refine ⟨fun condition ↦ ⟨parseValue_toJson condition, decode?_toJson condition⟩, ?_⟩
  intro value condition hheld hparse
  have hcanonical := canonical_of_parseValue hheld hparse
  refine ⟨hcanonical, ?_, ?_⟩
  · rw [parseValue_toJson, hcanonical]
  · rw [decode?_toJson, hcanonical]

/-- A group with one number leaf, given by an integer and with a path that leads nowhere. -/
theorem wire_roundTrip_number :
    let value := Json.object [("nodeType", .string "GROUP"), ("children", .array [.object [
      ("nodeType", .string "NUMBER"),
      ("operator", .object [("type", .string "EQ"),
        ("value", .object [("type", .string "STATIC"), ("value", .number (.integer 3))])]),
      ("subject", .object [("fieldId", .string "f"),
        ("path", .object [("linkNodes", .array [])])])]])]
    let condition := ofNode (.group .and [.leaf ⟨.number, ⟨.named "f", none, rfl⟩,
      some ⟨⟨"EQ", .eq, .number⟩, .number (some (.literal (some (.ofInt 3)))), by decide, rfl⟩⟩])
    value.isHeld = true ∧ (parseValue value).value = .ok condition ∧
      condition.canonical = condition ∧
      parseValue condition.toJson.canonical = ⟨.ok condition, []⟩ ∧
      decode? condition.toJson.canonical = some condition := by
  intro value condition
  have hheld : value.isHeld = true := rfl
  have hparse : (parseValue value).value = .ok condition := rfl
  exact ⟨hheld, hparse, wire_roundTrip.2 value condition hheld hparse⟩

end Condition

end CardFilter
