import CardFilter.Condition.Position
import CardFilter.Proofs.Condition.Grammar

/-!
# Walks through a document

Values are named by places as nodes are: by the indices of children on the way down from the root.
A walk leads through the listed children of groups and through nothing else, so the parts of a leaf
have no place.  What is read from a value has its nodes at the places of the values that they are
read from.

The places are ordered as lists.  A place comes behind the places above it and behind everything
that lies below an earlier sibling, which is the order in which a document is read.
-/

namespace CardFilter

/-- The values that a group lists as its children. -/
def Json.listed? (value : Json) : Option (List Json) :=
  if value.isGroup then (value.member? "children").bind Json.items? else none

/-- The value at a place below this one. -/
def Json.nodeAt? : List Nat → Json → Option Json
  | [], value => some value
  | index :: rest, value => value.listed?.bind fun items ↦ items[index]?.bind (nodeAt? rest)

theorem Json.isGroup_iff {value : Json} :
    value.isGroup = true ↔ ∃ members, value = .object members ∧
      members.lookup "nodeType" = some (.string Node.groupName) := by
  constructor
  · intro h
    cases value with
    | object members =>
      refine ⟨members, rfl, ?_⟩
      unfold isGroup at h
      split at h
      · rename_i name hname
        exact hname.trans (congrArg (some ∘ string) (beq_iff_eq.1 h))
      · cases h
    | null | bool | number | string | array => cases h
  · rintro ⟨members, rfl, hgroup⟩
    rw [Node.isGroup_object members hgroup, beq_self_eq_true]

theorem Json.listed?_eq_some_iff {value : Json} {items : List Json} :
    value.listed? = some items ↔ ∃ members, value = .object members ∧
      members.lookup "nodeType" = some (.string Node.groupName) ∧
      members.lookup "children" = some (.array items) := by
  constructor
  · intro h
    unfold listed? at h
    split at h
    · rename_i hgroup
      obtain ⟨members, rfl, hkind⟩ := isGroup_iff.1 hgroup
      obtain ⟨children, hchildren, hitems⟩ := Option.bind_eq_some_iff.1 h
      cases children with
      | array =>
        obtain rfl := Option.some.inj hitems
        exact ⟨members, rfl, hkind, hchildren⟩
      | null | bool | number | string | object => cases hitems
    · cases h
  · rintro ⟨members, rfl, hkind, hchildren⟩
    rw [listed?, if_pos (isGroup_iff.2 ⟨members, rfl, hkind⟩), member?, hchildren]
    rfl

theorem exists_getElem?_of_forall₂ {α β : Type} {R : α → β → Prop} {items : List α}
    {children : List β} (h : List.Forall₂ R items children) {index : Nat} {item : α}
    (hitem : items[index]? = some item) :
    ∃ child, children[index]? = some child ∧ R item child := by
  obtain ⟨hindex, rfl⟩ := List.getElem?_eq_some_iff.1 hitem
  have hbound : index < children.length := h.length_eq ▸ hindex
  exact ⟨children[index], List.getElem?_eq_getElem hbound, h.get hindex hbound⟩

/-- A value that lists children and spells a node spells a group of what they spell. -/
theorem Json.Spells.of_listed? {value : Json} {items : List Json} {node : Node}
    (h : value.Spells node) (hlisted : value.listed? = some items) :
    ∃ members connective children, value = .object members ∧ node = .group connective children ∧
      members.lookup "nodeType" = some (.string Node.groupName) ∧
      Connective.Given members connective ∧ List.Forall₂ Spells items children := by
  obtain ⟨members, rfl, hkind, hitems⟩ := listed?_eq_some_iff.1 hlisted
  cases h with
  | @leaf _ leaf hleaf =>
    rw [hkind] at hleaf
    exact absurd (Json.string.inj (Option.some.inj hleaf)).symm leaf.kind.name_ne_groupName
  | group hgroup hgiven hchildItems hchildren =>
    have hsame := childItems?_eq_some.2 (.inr hitems)
    obtain rfl := Option.some.inj (hchildItems.symm.trans hsame)
    exact ⟨members, _, _, rfl, rfl, hkind, hgiven, hchildren⟩

/-- Below a value that spells a node, every value on a walk spells the node at the same place. -/
theorem Json.Spells.exists_at? {value item : Json} {node : Node} (h : value.Spells node)
    {place : List Nat} (hitem : value.nodeAt? place = some item) :
    ∃ child, node.at? place = some child ∧ item.Spells child := by
  induction place generalizing value node with
  | nil =>
    obtain rfl := Option.some.inj hitem
    exact ⟨node, by cases node <;> rfl, h⟩
  | cons index rest ih =>
    obtain ⟨items, hlisted, hrest⟩ := Option.bind_eq_some_iff.1 hitem
    obtain ⟨inner, hinner, hbelow⟩ := Option.bind_eq_some_iff.1 hrest
    obtain ⟨-, connective, children, -, rfl, -, -, hchildren⟩ := h.of_listed? hlisted
    obtain ⟨child, hchild, hspells⟩ := exists_getElem?_of_forall₂ hchildren hinner
    obtain ⟨below, hat, hspellsBelow⟩ := ih hspells hbelow
    refine ⟨below, ?_, hspellsBelow⟩
    rw [Node.at?, hchild]
    exact hat

end CardFilter
