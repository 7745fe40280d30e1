import CardFilter.Proofs.Condition.Nodes

/-!
# What is read as a condition

A grammar of conditions, written without any reader: which values are nodes, which node a value
spells, and which values are documents.  Only the frame of a node counts, its kind, its connective
and its children.  The other members of a leaf may be anything at all.

The reader with diagnosis accepts exactly the documents of the grammar and gives exactly the tree
that they spell: a group for every group object and a leaf of the named kind for every leaf object,
nested and ordered alike.  This is about acceptance; which fault a refused document is blamed for is
not said here.
-/

namespace CardFilter

/-! ## Connectives -/

/-- A connective is written by its name, or as the only member of an object, with null under it. -/
inductive Connective.Written : Json → Connective → Prop
  | name (connective : Connective) : Written (.string connective.name) connective
  | member (connective : Connective) : Written (.object [(connective.name, .null)]) connective

/-- The connective that the members of a group give, AND when they give none. -/
inductive Connective.Given (members : List (String × Json)) : Connective → Prop
  | absent : members.lookup "operator" = none → Given members .and
  | written {value : Json} {connective : Connective} :
    members.lookup "operator" = some value → Written value connective → Given members connective

namespace Connective

theorem lookup_named_eq_some {name : String} {connective : Connective} :
    named.lookup name = some connective ↔ name = connective.name := by
  constructor
  · intro h
    by_cases hand : name = "AND"
    · subst hand
      obtain rfl := Option.some.inj h
      rfl
    · by_cases hor : name = "OR"
      · subst hor
        obtain rfl := Option.some.inj h
        rfl
      · simp [named, all, Connective.name, Table.lookup_cons_of_ne, hand, hor] at h
  · rintro rfl
    cases connective <;> rfl

theorem choice?_eq_some {value : Json} {connective : Connective} :
    value.choice? false named = some connective ↔ Written value connective := by
  constructor
  · intro h
    unfold Json.choice? at h
    split at h
    · rw [lookup_named_eq_some.1 h]
      exact .name connective
    · rename_i name inner
      split at h
      · rename_i hnothing
        obtain rfl : inner = .null := by
          cases inner <;> first | rfl | cases hnothing
        rw [lookup_named_eq_some.1 h]
        exact .member connective
      · cases h
    · cases h
  · rintro (_ | _)
    · exact lookup_named_eq_some.2 rfl
    · exact lookup_named_eq_some.2 rfl

theorem readField?_eq_some {members : List (String × Json)} {connective : Connective} :
    readField? members = some connective ↔ Given members connective := by
  rw [readField?, Json.fieldOr]
  cases hlookup : members.lookup "operator" with
  | none =>
    constructor
    · intro h
      obtain rfl := Option.some.inj h
      exact .absent hlookup
    · rintro (_ | ⟨hvalue, _⟩)
      · rfl
      · rw [hlookup] at hvalue
        cases hvalue
  | some value =>
    constructor
    · intro h
      exact .written hlookup (choice?_eq_some.1 h)
    · rintro (habsent | ⟨hvalue, hwritten⟩)
      · rw [hlookup] at habsent
        cases habsent
      · rw [hlookup] at hvalue
        obtain rfl := Option.some.inj hvalue
        exact choice?_eq_some.2 hwritten

end Connective

/-! ## Nodes -/

/-- A value that is a node, said of its frame alone. -/
inductive Json.WellFormed : Json → Prop
  | leaf {members : List (String × Json)} {kind : Kind} :
    members.lookup "nodeType" = some (.string kind.name) → WellFormed (.object members)
  | group {members : List (String × Json)} {connective : Connective} {items : List Json} :
    members.lookup "nodeType" = some (.string Node.groupName) →
    Connective.Given members connective → Json.childItems? members = some items →
    (∀ item ∈ items, WellFormed item) → WellFormed (.object members)

/-- The node that a value spells. -/
inductive Json.Spells : Json → Node → Prop
  | leaf {members : List (String × Json)} {leaf : Leaf} :
    members.lookup "nodeType" = some (.string leaf.kind.name) →
    leaf = (Leaf.ofFields leaf.kind members).value → Spells (.object members) (.leaf leaf)
  | group {members : List (String × Json)} {connective : Connective} {items : List Json}
    {children : List Node} :
    members.lookup "nodeType" = some (.string Node.groupName) →
    Connective.Given members connective → Json.childItems? members = some items →
    List.Forall₂ Spells items children → Spells (.object members) (.group connective children)

/-! ## Induction over nodes -/

theorem Json.sizeOf_childItems?_lt {members : List (String × Json)} {items : List Json}
    (h : childItems? members = some items) {item : Json} (hitem : item ∈ items) :
    sizeOf item < sizeOf (object members) := by
  rcases childItems?_eq_some.1 h with ⟨-, rfl⟩ | hlookup
  · cases hitem
  · obtain ⟨before, behind, hmembers, -⟩ := List.lookup_eq_some_iff.1 hlookup
    have hmember : ("children", array items) ∈ members := by simp [hmembers]
    have hmembersSize := List.sizeOf_lt_of_mem hmember
    have hitemSize := List.sizeOf_lt_of_mem hitem
    simp only [Prod.mk.sizeOf_spec, array.sizeOf_spec] at hmembersSize
    simp only [object.sizeOf_spec]
    omega

/-- What goes from the children of a value to the value holds of every value. -/
@[elab_as_elim]
theorem Json.node_induction {motive : Json → Prop}
    (step : ∀ value, (∀ members items, value = .object members → childItems? members = some items →
      ∀ item ∈ items, motive item) → motive value) (value : Json) : motive value := by
  apply step
  intro members items hvalue hitems item hitem
  have : sizeOf item < sizeOf value := hvalue ▸ sizeOf_childItems?_lt hitems hitem
  exact node_induction step item
termination_by sizeOf value

/-! ## What the reader makes of a node -/

namespace Node

theorem parseAll_of_forall₂ {items : List Json} {children : List Node}
    (h : List.Forall₂ (fun item child ↦ ∀ place, (parse place item).value = .ok child) items
      children) (place : List Nat) (index : Nat) :
    (parseAll place index items).value = .ok children := by
  induction h generalizing index with
  | nil => rfl
  | cons hitem _ ih =>
    rw [parseAll, andThen, hitem, ih]
    rfl

theorem spells_inherited : Inherited fun value node _ ↦ value.Spells node where
  leaf hkind := .leaf hkind rfl
  group hgroup hconnective hitems hchildren :=
    .group hgroup (Connective.readField?_eq_some.1 hconnective) hitems
      (List.forall₂_map_right_iff.2 hchildren)

theorem parse_of_spells {value : Json} {node : Node} (h : value.Spells node) (place : List Nat) :
    (parse place value).value = .ok node := by
  induction value using Json.node_induction generalizing node place with
  | step value ih =>
    cases h with
    | leaf hkind hleaf =>
      rw [parse_leaf place hkind]
      exact congrArg (fun leaf ↦ Except.ok (Node.leaf leaf)) hleaf.symm
    | @group members connective items children hgroup hconnective hitems hchildren =>
      have hread : ∀ item ∈ items, ∀ child, item.Spells child →
          ∀ place, (parse place item).value = .ok child :=
        fun item hitem _ hspells ↦ ih members items rfl hitems item hitem hspells
      rw [parse_group place hgroup (Connective.readField?_eq_some.2 hconnective) hitems,
        parseAll_of_forall₂ (forall₂_of_mem hchildren hread)]
      rfl

/-- A value is read as the node that it spells, wherever it stands. -/
theorem parse_eq_ok_iff {place : List Nat} {value : Json} {node : Node} :
    (parse place value).value = .ok node ↔ value.Spells node :=
  ⟨fun h ↦ parse_induction spells_inherited place value node h, fun h ↦ parse_of_spells h place⟩

end Node

namespace Json

theorem wellFormed_inherited : Node.Inherited fun value _ _ ↦ value.WellFormed where
  leaf hkind := .leaf hkind
  group hgroup hconnective hitems hchildren := by
    have hall := hchildren.imp fun _ _ hitem ↦ And.intro hitem trivial
    exact .group hgroup (Connective.readField?_eq_some.1 hconnective) hitems
      ((List.forall₂_and_left _ _).1 hall).1

theorem exists_forall₂_of_forall_mem {items : List Json}
    (h : ∀ item ∈ items, ∃ node, item.Spells node) :
    ∃ nodes, List.Forall₂ Spells items nodes := by
  induction items with
  | nil => exact ⟨[], .nil⟩
  | cons item rest ih =>
    obtain ⟨hitem, hrest⟩ := List.forall_mem_cons.1 h
    obtain ⟨node, hnode⟩ := hitem
    obtain ⟨nodes, hnodes⟩ := ih hrest
    exact ⟨node :: nodes, .cons hnode hnodes⟩

/-- The nodes of the grammar are the values that spell one. -/
theorem wellFormed_iff {value : Json} : value.WellFormed ↔ ∃ node, value.Spells node := by
  constructor
  · intro h
    induction h with
    | @leaf members kind hkind =>
      exact ⟨.leaf (Leaf.ofFields kind members).value, .leaf hkind rfl⟩
    | group hgroup hconnective hitems _ ih =>
      obtain ⟨children, hchildren⟩ := exists_forall₂_of_forall_mem ih
      exact ⟨_, .group hgroup hconnective hitems hchildren⟩
  · rintro ⟨node, hnode⟩
    exact Node.parse_induction wellFormed_inherited [] value node (Node.parse_eq_ok_iff.2 hnode)

end Json

theorem Json.Spells.isSome_kind {members : List (String × Json)} {node : Node}
    (h : (Json.object members).Spells node) : (members.lookup "nodeType").isSome = true := by
  cases h with
  | leaf hkind =>
    rw [hkind]
    rfl
  | group hgroup =>
    rw [hgroup]
    rfl

/-! ## Documents -/

/-- A value that is a document: one without a filter, a node under the member of the root, or a node
that stands alone. -/
inductive Json.Document : Json → Prop
  | null : Document .null
  | empty : Document (.object [])
  | unset {members : List (String × Json)} :
    members.lookup "root" = some .null → Document (.object members)
  | root {members : List (String × Json)} {root : Json} :
    members.lookup "root" = some root → root.WellFormed → Document (.object members)
  | bare {members : List (String × Json)} :
    members.lookup "root" = none → (Json.object members).WellFormed → Document (.object members)

/-- The condition that a document describes. -/
inductive Json.Describes : Json → Condition → Prop
  | null : Describes .null .unfiltered
  | empty : Describes (.object []) .unfiltered
  | unset {members : List (String × Json)} :
    members.lookup "root" = some .null → Describes (.object members) .unfiltered
  | root {members : List (String × Json)} {root : Json} {node : Node} :
    members.lookup "root" = some root → root.Spells node →
    Describes (.object members) (.ofNode node)
  | bare {members : List (String × Json)} {node : Node} :
    members.lookup "root" = none → (Json.object members).Spells node →
    Describes (.object members) (.ofNode node)

theorem Json.document_iff {value : Json} :
    value.Document ↔ ∃ condition, value.Describes condition := by
  constructor
  · intro h
    cases h with
    | null => exact ⟨_, .null⟩
    | empty => exact ⟨_, .empty⟩
    | unset hroot => exact ⟨_, .unset hroot⟩
    | root hroot hnode =>
      obtain ⟨node, hspells⟩ := wellFormed_iff.1 hnode
      exact ⟨_, .root hroot hspells⟩
    | bare hroot hnode =>
      obtain ⟨node, hspells⟩ := wellFormed_iff.1 hnode
      exact ⟨_, .bare hroot hspells⟩
  · rintro ⟨condition, h⟩
    cases h with
    | null => exact .null
    | empty => exact .empty
    | unset hroot => exact .unset hroot
    | root hroot hspells => exact .root hroot (wellFormed_iff.2 ⟨_, hspells⟩)
    | bare hroot hspells => exact .bare hroot (wellFormed_iff.2 ⟨_, hspells⟩)

namespace Condition

theorem parseRoot_object (members : List (String × Json)) :
    (parseRoot (.object members)).value = (Node.parse [] (.object members)).value.map ofNode := rfl

theorem parseRoot_eq_ok_iff {value : Json} {condition : Condition} :
    (parseRoot value).value = .ok condition ↔
      value = .null ∧ condition = unfiltered ∨
        ∃ node, value.Spells node ∧ condition = ofNode node := by
  constructor
  · intro h
    rcases parseRoot_cases h with ⟨hcondition, -, hnull⟩ | ⟨node, hcondition, hnode, -⟩
    · exact .inl ⟨hnull, hcondition⟩
    · exact .inr ⟨node, Node.parse_eq_ok_iff.1 hnode, hcondition⟩
  · rintro (⟨rfl, rfl⟩ | ⟨node, hspells, rfl⟩)
    · rfl
    · have hnode := Node.parse_of_spells hspells []
      cases hspells <;> rw [parseRoot_object, hnode] <;> rfl

/-- A document is read as the condition that it describes. -/
theorem parseValue_eq_ok_iff {value : Json} {condition : Condition} :
    (parseValue value).value = .ok condition ↔ value.Describes condition := by
  constructor
  · intro h
    cases value with
    | null =>
      obtain rfl := Except.ok.inj h
      exact .null
    | bool | number | string | array => cases h
    | object members =>
      cases hroot : members.lookup "root" with
      | some root =>
        rw [parseValue_of_root hroot] at h
        rcases parseRoot_eq_ok_iff.1 h with ⟨rfl, rfl⟩ | ⟨node, hspells, rfl⟩
        · exact .unset hroot
        · exact .root hroot hspells
      | none =>
        by_cases hkind : (members.lookup "nodeType").isSome = true
        · rw [parseValue_of_bare hroot hkind] at h
          rcases parseRoot_eq_ok_iff.1 h with ⟨hnull, -⟩ | ⟨node, hspells, rfl⟩
          · cases hnull
          · exact .bare hroot hspells
        · obtain ⟨rfl, rfl⟩ := parseValue_of_neither hroot hkind h
          exact .empty
  · intro h
    cases h with
    | null | empty => rfl
    | unset hroot =>
      rw [parseValue_of_root hroot]
      rfl
    | root hroot hspells =>
      rw [parseValue_of_root hroot]
      exact parseRoot_eq_ok_iff.2 (.inr ⟨_, hspells, rfl⟩)
    | bare hroot hspells =>
      rw [parseValue_of_bare hroot hspells.isSome_kind]
      exact parseRoot_eq_ok_iff.2 (.inr ⟨_, hspells, rfl⟩)

/-- A value is read exactly when it is a document, and then as the condition that it describes.  A
node that stands alone is read as it would be under the member of the root, also when it is
refused. -/
theorem parse_iff_document (value : Json) :
    ((∃ condition, (parseValue value).value = .ok condition) ↔ value.Document) ∧
      (∀ condition, (parseValue value).value = .ok condition ↔ value.Describes condition) ∧
      ∀ members, value = .object members → members.lookup "root" = none →
        (members.lookup "nodeType").isSome = true →
        parseValue value = parseValue (.object [("root", value)]) := by
  refine ⟨?_, fun _ ↦ parseValue_eq_ok_iff, ?_⟩
  · rw [Json.document_iff]
    exact exists_congr fun _ ↦ parseValue_eq_ok_iff
  · rintro members rfl hroot hkind
    rw [parseValue_of_bare hroot hkind, parseValue_of_root rfl]

/-- A group that stands alone, with a leaf that cannot be read and a group without children. -/
theorem parse_iff_document_unread :
    let members := [("nodeType", Json.string "GROUP"), ("operator", .object [("OR", .null)]),
      ("children", .array [
        .object [("nodeType", .string "TEXT"), ("operator", .array [.bool true]),
          ("subject", .number (.integer 17))],
        .object [("nodeType", .string "GROUP"), ("children", .null)]])]
    let condition := ofNode (.group .or
      [.leaf ⟨.text, ⟨.named "", none, rfl⟩, none⟩, .group .and []])
    members.lookup "root" = none ∧ (members.lookup "nodeType").isSome = true ∧
      (Json.object members).Document ∧ (Json.object members).Describes condition ∧
      parseValue (.object members) = parseValue (.object [("root", .object members)]) := by
  intro members condition
  have hroot : members.lookup "root" = none := rfl
  have hkind : (members.lookup "nodeType").isSome = true := rfl
  have hread : (parseValue (.object members)).value = .ok condition := rfl
  obtain ⟨haccepted, hresult, hbare⟩ := parse_iff_document (.object members)
  exact ⟨hroot, hkind, haccepted.1 ⟨condition, hread⟩, (hresult condition).1 hread,
    hbare members rfl hroot hkind⟩

end Condition

end CardFilter
