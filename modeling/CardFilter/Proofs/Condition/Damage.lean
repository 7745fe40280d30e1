import CardFilter.Proofs.Condition.Replaced
import CardFilter.Proofs.Condition.Walks

/-!
# Damage to one leaf

A part of a leaf is read leniently and from its own member alone.  So whatever is written in its
place, or if it is taken away, the document stays one, and the tree that is read differs from the
one before in that part of that leaf and in nothing else.

The change to the document and an edit of the tree are made in the same way, on the walk to the same
place.  What is proved for a walk holds of any change to a value that goes with an edit of the node
that the value spells.
-/

namespace CardFilter

/-! ## The parts of a leaf -/

/-- The test that the member of a leaf gives. -/
def Test.ofPart (kind : Kind) (part : Option Json) : Option (Test kind) :=
  (Reading.lenient (fun raw ↦ ⟨Test.read? kind raw, []⟩) part).value

/-- The subject that the member of a leaf gives, unset when it gives none. -/
def Subject.ofPart (kind : Kind) (part : Option Json) : Subject kind :=
  (Reading.lenient (Subject.read kind) part).value.getD (Subject.unset kind)

/-- The leaf of a kind that two members give. -/
def Leaf.ofParts (kind : Kind) (subject test : Option Json) : Leaf :=
  ⟨kind, Subject.ofPart kind subject, Test.ofPart kind test⟩

theorem Leaf.ofFields_value (kind : Kind) (fields : List (String × Json)) :
    (Leaf.ofFields kind fields).value =
      ofParts kind (fields.lookup "subject") (fields.lookup "operator") := rfl

namespace Json

/-- An object with the name of a kind spells the leaf that its members give, and nothing else. -/
theorem spells_iff_of_kind {item : Json} {kind : Kind} {node : Node}
    (h : item.member? "nodeType" = some (.string kind.name)) :
    item.Spells node ↔
      node = .leaf (Leaf.ofParts kind (item.member? "subject") (item.member? "operator")) := by
  cases item with
  | null | bool | number | string | array => cases h
  | object members =>
    rw [member?, member?, ← Leaf.ofFields_value]
    constructor
    · intro hspells
      cases hspells with
      | @leaf _ leaf hkind hleaf =>
        have hname := Json.string.inj (Option.some.inj (hkind.symm.trans h))
        obtain rfl := Kind.name_injective hname
        exact congrArg Node.leaf hleaf
      | group hgroup =>
        have hname := Json.string.inj (Option.some.inj (h.symm.trans hgroup))
        exact absurd hname kind.name_ne_groupName
    · rintro rfl
      exact .leaf h rfl

end Json

/-! ## Changed members -/

/-- The table with a value put under a name, or with nothing there. -/
def Table.put {α : Type} (name : String) (part : Option α) (table : Table α) : Table α :=
  match part with
  | some value => table.insert name value
  | none => table.filter fun entry ↦ entry.1 != name

theorem Table.lookup_put {α : Type} (name key : String) (part : Option α) (table : Table α) :
    (put name part table).lookup key = if key = name then part else table.lookup key := by
  cases part with
  | some value => exact lookup_insert name key value table
  | none =>
    rw [put, lookup_filter fun other ↦ other != name]
    by_cases h : key = name <;> simp [h]

namespace Json

/-- An object with a member replaced, added or taken away. -/
def withMember (name : String) (part : Option Json) : Json → Json
  | .object members => .object (Table.put name part members)
  | value => value

theorem member?_withMember {name key : String} (h : key ≠ name) (part : Option Json)
    (value : Json) : (value.withMember name part).member? key = value.member? key := by
  cases value with
  | object members => exact (Table.lookup_put name key part members).trans (if_neg h)
  | null | bool | number | string | array => rfl

/-- Changes the value at a place. -/
def modifyAt (change : Json → Json) : List Nat → Json → Json
  | [], value => change value
  | index :: rest, value =>
    match value.listed? with
    | some items =>
      value.withMember "children" (some (.array (items.modify index (modifyAt change rest))))
    | none => value

/-- Changes the root of a document. -/
def modifyRoot (change : Json → Json) (document : Json) : Json :=
  match document.member? "root" with
  | some root => document.withMember "root" (some (change root))
  | none => change document

/-- Changes a member of the object at a place of a document. -/
def putAt (place : List Nat) (name : String) (part : Option Json) (document : Json) : Json :=
  document.modifyRoot (modifyAt (withMember name part) place)

theorem member?_modifyAt {change : Json → Json} {key : String}
    (hchange : ∀ value, (change value).member? key = value.member? key) (hkey : key ≠ "children")
    (place : List Nat) (value : Json) :
    (value.modifyAt change place).member? key = value.member? key := by
  cases place with
  | nil => exact hchange value
  | cons index rest =>
    unfold modifyAt
    split
    · exact member?_withMember hkey _ value
    · rfl

end Json

/-! ## Edits on a walk -/

theorem Connective.Given.congr {members others : List (String × Json)} {connective : Connective}
    (h : Given members connective) (hsame : others.lookup "operator" = members.lookup "operator") :
    Given others connective := by
  cases h with
  | absent habsent => exact .absent (hsame.trans habsent)
  | written hvalue hwritten => exact .written (hsame.trans hvalue) hwritten

theorem forall₂_set {α β : Type} {R : α → β → Prop} {items : List α} {children : List β}
    (h : List.Forall₂ R items children) (index : Nat) {item : α} {child : β} (hnew : R item child) :
    List.Forall₂ R (items.set index item) (children.set index child) := by
  induction h generalizing index with
  | nil => exact .nil
  | cons hfirst hrest ih =>
    cases index with
    | zero => exact .cons hnew hrest
    | succ index => exact .cons hfirst (ih index)

/-- A change to the value at a place that goes with an edit of the node there goes with the edit of
the whole node at that place. -/
theorem Json.Spells.modifyAt {change : Json → Json} {edit : Node → Except Refusal Node}
    {value item : Json} {node : Node} (h : value.Spells node) {place : List Nat}
    (hitem : value.nodeAt? place = some item)
    (hchange : ∀ child, item.Spells child →
      ∃ changed, edit child = .ok changed ∧ (change item).Spells changed) :
    ∃ changed, node.modifyAt edit place = .ok changed ∧
      (value.modifyAt change place).Spells changed := by
  induction place generalizing value node with
  | nil =>
    obtain rfl := Option.some.inj hitem
    exact hchange node h
  | cons index rest ih =>
    obtain ⟨items, hlisted, hrest⟩ := Option.bind_eq_some_iff.1 hitem
    obtain ⟨inner, hinner, hbelow⟩ := Option.bind_eq_some_iff.1 hrest
    obtain ⟨members, connective, children, rfl, rfl, hkind, hgiven, hchildren⟩ :=
      h.of_listed? hlisted
    obtain ⟨child, hchild, hspells⟩ := exists_getElem?_of_forall₂ hchildren hinner
    obtain ⟨changed, hedit, hchanged⟩ := ih hspells hbelow
    refine ⟨.group connective (children.set index changed), ?_, ?_⟩
    · rw [Node.modifyAt, hchild]
      simp only [hedit, Except.map]
    · have hmodify : items.modify index (Json.modifyAt change rest) =
          items.set index (inner.modifyAt change rest) := by
        rw [List.modify_eq_set_getElem?, hinner]
        rfl
      have hput (key : String) := Table.lookup_put "children" key
        (some (array (items.set index (inner.modifyAt change rest)))) members
      rw [Json.modifyAt, hlisted]
      simp only [withMember, hmodify]
      exact .group ((hput _).trans hkind) (hgiven.congr (hput _))
        (childItems?_eq_some.2 (.inr (hput _))) (forall₂_set hchildren index hchanged)

/-! ## What an edit leaves alone -/

/-- Two conditions that say the same at every place but one, where each has a leaf. -/
structure Condition.DifferAt (place : List Nat) (before after : Condition) (old new : Leaf) :
    Prop where
  was : before.at? place = some (.leaf old)
  is : after.at? place = some (.leaf new)
  others : ∀ other ≠ place, (after.at? other).map Node.content = (before.at? other).map Node.content

theorem Condition.differAt_of_modifyAt {condition changed : Condition} {place : List Nat}
    {leaf result : Leaf} (hleaf : condition.at? place = some (.leaf leaf))
    (h : condition.modifyAt place (Node.changeLeaf fun _ ↦ .ok result) = .ok changed) :
    DifferAt place condition changed leaf result := by
  obtain ⟨root, edited, rfl, hedited, hreplaced⟩ :=
    exists_modifyAt (Node.changeLeaf fun _ ↦ .ok result) hleaf rfl
  obtain rfl := Except.ok.inj (h.symm.trans hedited)
  have hnew : (ofNode edited).at? place = some (.leaf result) := hreplaced.at?_place
  refine ⟨hleaf, hnew, fun other hother ↦ ?_⟩
  by_cases hbelow : place <+: other
  · obtain ⟨rest, rfl⟩ := hbelow
    cases rest with
    | nil => exact absurd (List.append_nil place) hother
    | cons =>
      rw [at?_append, at?_append, hleaf, hnew]
      rfl
  · exact hreplaced.content_at? hbelow

/-! ## Documents -/

/-- Below a value that lists no children there is no other value. -/
theorem Json.eq_of_listed?_eq_none {value item : Json} (h : value.listed? = none)
    {place : List Nat} (hitem : value.nodeAt? place = some item) : item = value := by
  cases place with
  | nil => exact (Option.some.inj hitem).symm
  | cons index rest =>
    rw [nodeAt?, h] at hitem
    cases hitem

theorem Json.Spells.describes {document : Json} {node : Node} (h : document.Spells node)
    (hroot : document.member? "root" = none) : document.Describes (.ofNode node) := by
  cases h with
  | leaf hkind hleaf => exact .bare hroot (.leaf hkind hleaf)
  | group hgroup hgiven hitems hchildren =>
    exact .bare hroot (.group hgroup hgiven hitems hchildren)

/-- A document in which some place has a leaf has a root. -/
theorem Json.Describes.exists_root {document item : Json} {condition : Condition} {kind : Kind}
    (h : document.Describes condition) {place : List Nat}
    (hitem : document.root.nodeAt? place = some item)
    (hkind : item.member? "nodeType" = some (.string kind.name)) :
    ∃ node, condition = .ofNode node ∧ document.root.Spells node := by
  have hnamed (hlisted : document.root.listed? = none) :
      document.root.member? "nodeType" = some (.string kind.name) :=
    eq_of_listed?_eq_none hlisted hitem ▸ hkind
  cases h with
  | null | empty => cases hnamed rfl
  | unset hunset =>
    rw [Json.root, hunset] at hnamed
    cases hnamed rfl
  | @root _ _ node hroot hspells =>
    rw [Json.root, hroot]
    exact ⟨node, rfl, hspells⟩
  | @bare _ node hroot hspells =>
    rw [Json.root, hroot]
    exact ⟨node, rfl, hspells⟩

/-- What a document describes after a change to its root.  The change must not make a node that
stands alone look like a document with a root. -/
theorem Json.describes_modifyRoot {change : Json → Json} {document : Json} {node : Node}
    (h : (change document.root).Spells node)
    (hchange : ∀ value, (change value).member? "root" = value.member? "root") :
    (document.modifyRoot change).Describes (.ofNode node) := by
  unfold modifyRoot
  cases document with
  | null | bool | number | string | array => exact h.describes (hchange _)
  | object members =>
    cases hroot : members.lookup "root" with
    | some root =>
      rw [Json.root, hroot] at h
      rw [member?, hroot]
      exact .root (Table.lookup_put "root" "root" _ members) h
    | none =>
      rw [Json.root, hroot] at h
      rw [member?, hroot]
      exact h.describes ((hchange _).trans hroot)

namespace Condition

variable {document item : Json} {condition : Condition} {kind : Kind} {place : List Nat}

theorem at?_of_kind (hread : (parseValue document).value = .ok condition)
    (hitem : document.root.nodeAt? place = some item)
    (hkind : item.member? "nodeType" = some (.string kind.name)) :
    condition.at? place =
      some (.leaf (Leaf.ofParts kind (item.member? "subject") (item.member? "operator"))) := by
  obtain ⟨node, rfl, hspells⟩ := (parseValue_eq_ok_iff.1 hread).exists_root hitem hkind
  obtain ⟨child, hchild, hspellsChild⟩ := hspells.exists_at? hitem
  rw [← (Json.spells_iff_of_kind hkind).1 hspellsChild]
  exact hchild

/-- A changed member of a leaf that leaves it a leaf changes the condition at its place only. -/
theorem parse_putAt {name : String} {part : Option Json} {result : Leaf}
    (hread : (parseValue document).value = .ok condition)
    (hitem : document.root.nodeAt? place = some item)
    (hkind : item.member? "nodeType" = some (.string kind.name)) (hname : "root" ≠ name)
    (hresult : (item.withMember name part).Spells (.leaf result)) :
    ∃ changed, (parseValue (document.putAt place name part)).value = .ok changed ∧
      DifferAt place condition changed
        (Leaf.ofParts kind (item.member? "subject") (item.member? "operator")) result := by
  have hleaf := at?_of_kind hread hitem hkind
  obtain ⟨node, rfl, hspells⟩ := (parseValue_eq_ok_iff.1 hread).exists_root hitem hkind
  have hchange : ∀ child, item.Spells child →
      ∃ changed, Node.changeLeaf (fun _ ↦ .ok result) child = .ok changed ∧
        (item.withMember name part).Spells changed := by
    intro child hchild
    obtain rfl := (Json.spells_iff_of_kind hkind).1 hchild
    exact ⟨.leaf result, rfl, hresult⟩
  obtain ⟨changed, hedit, hchanged⟩ := hspells.modifyAt hitem hchange
  refine ⟨.ofNode changed, ?_, differAt_of_modifyAt hleaf ?_⟩
  · rw [parseValue_eq_ok_iff]
    apply Json.describes_modifyRoot hchanged
    exact Json.member?_modifyAt (Json.member?_withMember hname part) (by decide) place
  · rw [Condition.modifyAt, ofNode]
    simp only [hedit, Except.map, ofNode]

/-- Whatever is written into one part of a leaf, or if the part is taken away, the document is still
read.  That part is then what the new member gives, and nothing else is read differently. -/
theorem damage_confined (hread : (parseValue document).value = .ok condition)
    (hitem : document.root.nodeAt? place = some item)
    (hkind : item.member? "nodeType" = some (.string kind.name)) :
    let leaf := Leaf.ofParts kind (item.member? "subject") (item.member? "operator")
    ∀ part : Option Json,
      (∃ changed, (parseValue (document.putAt place "operator" part)).value = .ok changed ∧
        DifferAt place condition changed leaf { leaf with test := Test.ofPart kind part }) ∧
      ∃ changed, (parseValue (document.putAt place "subject" part)).value = .ok changed ∧
        DifferAt place condition changed leaf
          { leaf with subject := Subject.ofPart kind part } := by
  intro leaf part
  have hput {name key : String} : (item.withMember name part).member? key =
      if key = name then part else item.member? key := by
    cases item with
    | null | bool | number | string | array => cases hkind
    | object members => exact Table.lookup_put name key part members
  constructor
  · apply parse_putAt hread hitem hkind (by decide)
    rw [Json.spells_iff_of_kind ((Json.member?_withMember (by decide) part item).trans hkind),
      hput, hput]
    rfl
  · apply parse_putAt hread hitem hkind (by decide)
    rw [Json.spells_iff_of_kind ((Json.member?_withMember (by decide) part item).trans hkind),
      hput, hput]
    rfl

/-- A number for the test of a text in a nested group, and no subject for it any more. -/
theorem damage_confined_nested :
    let item := Json.object [("nodeType", .string "TEXT"),
      ("operator", .object [("type", .string "IS_EMPTY")]),
      ("subject", .object [("fieldId", .string "name")])]
    let inner := Json.object [("nodeType", .string "GROUP"), ("operator", .string "OR"),
      ("children", .array [item])]
    let document := Json.object [("root", .object [("nodeType", .string "GROUP"),
      ("children", .array [.object [("nodeType", .string "TITLE")], inner])])]
    let title : Node := .leaf ⟨.title, ⟨.implied, none, rfl⟩, none⟩
    let leaf : Leaf := ⟨.text, ⟨.named "name", none, rfl⟩,
      some ⟨⟨"IS_EMPTY", .isEmpty, .nothing⟩, .nothing, by decide, rfl⟩⟩
    let condition := ofNode (.group .and [title, .group .or [.leaf leaf]])
    (parseValue document).value = .ok condition ∧ document.root.nodeAt? [1, 0] = some item ∧
      item.member? "nodeType" = some (.string Kind.text.name) ∧
      (∃ changed,
        (parseValue (document.putAt [1, 0] "operator" (some (.number (.integer 17))))).value =
          .ok changed ∧
        DifferAt [1, 0] condition changed leaf { leaf with test := none }) ∧
      ∃ changed, (parseValue (document.putAt [1, 0] "subject" none)).value = .ok changed ∧
        DifferAt [1, 0] condition changed leaf { leaf with subject := Subject.unset .text } := by
  intro item inner document title leaf condition
  have hread : (parseValue document).value = .ok condition := rfl
  have hitem : document.root.nodeAt? [1, 0] = some item := rfl
  have hkind : item.member? "nodeType" = some (.string Kind.text.name) := rfl
  have hdamage := damage_confined hread hitem hkind
  exact ⟨hread, hitem, hkind, (hdamage (some (.number (.integer 17)))).1, (hdamage none).2⟩

end Condition

end CardFilter
