import CardFilter.Proofs.Condition.Grammar

/-!
# Two readers of one format

Nodes are read in two ways: with diagnosis, as the root of a document, and without, as a value of
its own.  The two agree wherever both are meant to read.  They differ in two places only.  The reader
with diagnosis takes null for no children, and the other one does not; and the other one takes leaves
given as arrays, which are no nodes to the first.

Both are compared with the grammar, so neither is ever compared with the other step by step.
-/

namespace CardFilter

/-! ## Nodes on the way down -/

/-- The node values that are met on the way down from a value: itself, and the children of
groups. -/
inductive Json.Reaches : Json → Json → Prop
  | refl (value : Json) : Reaches value value
  | child {members : List (String × Json)} {items : List Json} {item node : Json} :
    members.lookup "nodeType" = some (.string Node.groupName) →
    Json.childItems? members = some items → item ∈ items → Reaches item node →
    Reaches (.object members) node

/-- No group on the way down has null for its children. -/
def Json.ChildrenListed (value : Json) : Prop :=
  ∀ members, value.Reaches (.object members) →
    members.lookup "nodeType" = some (.string Node.groupName) →
    members.lookup "children" ≠ some .null

/-- Every node on the way down is an object that gives its kind as a text. -/
def Json.KindsGiven (value : Json) : Prop :=
  ∀ node, value.Reaches node →
    ∃ members name, node = .object members ∧ members.lookup "nodeType" = some (.string name)

theorem Json.canonical_of_childItems? {members : List (String × Json)} {items : List Json}
    (h : (object members).canonical = object members) (hitems : childItems? members = some items)
    {item : Json} (hitem : item ∈ items) : item.canonical = item := by
  rcases childItems?_eq_some.1 hitems with ⟨-, rfl⟩ | hlookup
  · cases hitem
  · exact canonical_of_mem (canonical_of_lookup h hlookup) hitem

/-! ## The reader without diagnosis and the grammar -/

namespace Node

theorem readAll?_eq_some_iff {items : List Json} {children : List Node} :
    readAll? items = some children ↔
      List.Forall₂ (fun item child ↦ read? item = some child) items children := by
  induction items generalizing children with
  | nil => simp [readAll?, eq_comm]
  | cons item rest ih =>
    rw [List.forall₂_cons_left_iff, readAll?]
    constructor
    · intro h
      split at h
      · rename_i node others hnode hothers
        obtain rfl := Option.some.inj h
        exact ⟨node, others, hnode, ih.1 hothers, rfl⟩
      · cases h
    · rintro ⟨node, others, hnode, hothers, rfl⟩
      rw [hnode, ih.2 hothers]

theorem read?_group {members : List (String × Json)}
    (h : members.lookup "nodeType" = some (.string groupName)) {node : Node} :
    read? (.object members) = some node ↔
      ∃ connective children, Connective.Given members connective ∧
        readChildren? members = some children ∧ node = .group connective children := by
  have hgroup : (Json.object members).isGroup = true := isGroup_object members h
  rw [read?, if_pos hgroup]
  constructor
  · intro hread
    split at hread
    · rename_i connective children hconnective hchildren
      obtain rfl := Option.some.inj hread
      exact ⟨connective, children, Connective.readField?_eq_some.1 hconnective, hchildren, rfl⟩
    · cases hread
  · rintro ⟨connective, children, hgiven, hchildren, rfl⟩
    rw [Connective.readField?_eq_some.2 hgiven, hchildren]

theorem read?_leaf {members : Table Json} (hsorted : members.Sorted) {name : String}
    (h : members.lookup "nodeType" = some (.string name)) (hname : name ≠ groupName) {node : Node} :
    read? (.object members) = some node ↔
      ∃ kind : Kind, name = kind.name ∧ node = .leaf (Leaf.ofFields kind members).value := by
  have hgroup : (Json.object members).isGroup = false := by
    rw [isGroup_object members h]
    exact beq_false_of_ne hname
  rw [read?, hgroup, Leaf.read?_object hsorted h, if_neg Bool.false_ne_true, Option.map_map,
    Option.map_eq_some_iff]
  exact exists_congr fun kind ↦ and_congr Kind.ofName?_eq_some eq_comm

theorem readChildren?_of_childItems? {members : List (String × Json)} {items : List Json}
    (hitems : Json.childItems? members = some items)
    (hlisted : members.lookup "children" ≠ some .null) :
    readChildren? members = readAll? items := by
  rw [readChildren?_eq]
  rcases Json.childItems?_eq_some.1 hitems with ⟨hlookup | hlookup, rfl⟩ | hlookup
  · rw [hlookup, readAll?]
  · exact absurd hlookup hlisted
  · rw [hlookup]
    rfl

theorem childItems?_of_readChildren? {members : List (String × Json)} {children : List Node}
    (h : readChildren? members = some children) :
    ∃ items, Json.childItems? members = some items ∧ readAll? items = some children := by
  rw [readChildren?_eq] at h
  unfold Json.childItems?
  cases hlookup : members.lookup "children" with
  | none =>
    rw [hlookup] at h
    exact ⟨[], rfl, h⟩
  | some value =>
    rw [hlookup] at h
    cases value with
    | array items => exact ⟨items, rfl, h⟩
    | null | bool | number | string | object => cases h

/-- What spells a node is read as that node, if every group lists its children. -/
theorem read?_of_spells {value : Json} {node : Node} (h : value.Spells node)
    (hcanonical : value.canonical = value) (hlisted : value.ChildrenListed) :
    read? value = some node := by
  induction value using Json.node_induction generalizing node with
  | step value ih =>
    cases h with
    | @leaf members leaf hkind hleaf =>
      have hsorted := Json.sorted_of_canonical hcanonical
      rw [read?_leaf hsorted hkind leaf.kind.name_ne_groupName]
      exact ⟨leaf.kind, rfl, congrArg Node.leaf hleaf⟩
    | @group members connective items children hgroup hgiven hitems hchildren =>
      have hread : ∀ item ∈ items, ∀ child, item.Spells child → read? item = some child := by
        intro item hitem child hspells
        apply ih members items rfl hitems item hitem hspells
        · exact Json.canonical_of_childItems? hcanonical hitems hitem
        · exact fun below hbelow ↦ hlisted below (.child hgroup hitems hitem hbelow)
      rw [read?_group hgroup]
      refine ⟨connective, children, hgiven, ?_, rfl⟩
      rw [readChildren?_of_childItems? hitems (hlisted members (.refl _) hgroup)]
      exact readAll?_eq_some_iff.2 (forall₂_of_mem hchildren hread)

/-- What is read as a node spells it, if every node gives its kind. -/
theorem spells_of_read? {value : Json} {node : Node} (h : read? value = some node)
    (hcanonical : value.canonical = value) (hkinds : value.KindsGiven) : value.Spells node := by
  induction value using Json.node_induction generalizing node with
  | step value ih =>
    obtain ⟨members, name, rfl, hkind⟩ := hkinds value (.refl value)
    by_cases hname : name = groupName
    · subst hname
      obtain ⟨connective, children, hgiven, hchildren, rfl⟩ := (read?_group hkind).1 h
      obtain ⟨items, hitems, hall⟩ := childItems?_of_readChildren? hchildren
      have hspells : ∀ item ∈ items, ∀ child, read? item = some child → item.Spells child := by
        intro item hitem child hread
        apply ih members items rfl hitems item hitem hread
        · exact Json.canonical_of_childItems? hcanonical hitems hitem
        · exact fun below hbelow ↦ hkinds below (.child hkind hitems hitem hbelow)
      exact .group hkind hgiven hitems (forall₂_of_mem (readAll?_eq_some_iff.1 hall) hspells)
    · have hsorted := Json.sorted_of_canonical hcanonical
      obtain ⟨kind, rfl, rfl⟩ := (read?_leaf hsorted hkind hname).1 h
      exact .leaf hkind rfl

theorem isGroup_of_read? {value : Json} {node : Node} (h : read? value = some node) :
    value.isGroup = node.isGroup := by
  cases value with
  | null | bool | number | string => cases h
  | array items =>
    obtain ⟨leaf, -, rfl⟩ := Option.map_eq_some_iff.1 h
    rfl
  | object members =>
    rw [read?] at h
    split at h
    · rename_i hgroup
      split at h
      · obtain rfl := Option.some.inj h
        exact hgroup
      · cases h
    · rename_i hgroup
      obtain ⟨leaf, -, rfl⟩ := Option.map_eq_some_iff.1 h
      exact Bool.eq_false_iff.2 hgroup

end Node

/-! ## Agreement -/

namespace Condition

theorem parseValue_wrapped (value : Json) :
    parseValue (Json.object [("root", value)]).canonical = parseRoot value.canonical := by
  rw [Json.canonical_object]
  apply parseValue_of_root
  simp

/-- The root of a document that is read with diagnosis is read as the same node without, if every
group in it lists its children; and a node that is read without diagnosis is read as the same root
with, if every node in it gives its kind.  What is read as a group is marked as one. -/
theorem readers_agree (value : Json) :
    (∀ condition, (parseValue (Json.object [("root", value)]).canonical).value = .ok condition →
        value.canonical ≠ .null → value.canonical.ChildrenListed →
        ∃ node, Node.decode? value = some node ∧ condition.root = some node) ∧
      (∀ node, Node.decode? value = some node → value.canonical.KindsGiven →
        (parseValue (Json.object [("root", value)]).canonical).value = .ok (ofNode node)) ∧
      ∀ node, Node.decode? value = some node → value.canonical.isGroup = node.isGroup := by
  have hcanonical := Json.canonical_canonical value
  refine ⟨?_, ?_, fun node ↦ Node.isGroup_of_read?⟩
  · intro condition h hnull hlisted
    rw [parseValue_wrapped] at h
    rcases parseRoot_eq_ok_iff.1 h with ⟨habsent, -⟩ | ⟨node, hspells, rfl⟩
    · exact absurd habsent hnull
    · exact ⟨node, Node.read?_of_spells hspells hcanonical hlisted, rfl⟩
  · intro node h hkinds
    rw [parseValue_wrapped]
    exact parseRoot_eq_ok_iff.2 (.inr ⟨node, Node.spells_of_read? h hcanonical hkinds, rfl⟩)

/-- A group of one leaf, with a subject that cannot be read and a test of another kind. -/
theorem readers_agree_group :
    let item := Json.object [("nodeType", .string "LINK"),
      ("operator", .object [("type", .string "CONTAINS")]), ("subject", .bool true)]
    let value := Json.object [("children", .array [item]), ("nodeType", .string "GROUP")]
    let node := Node.group .and [.leaf ⟨.link, ⟨.named "", none, rfl⟩, none⟩]
    value.canonical = value ∧ value ≠ .null ∧ value.ChildrenListed ∧ value.KindsGiven ∧
      (parseValue (Json.object [("root", value)]).canonical).value = .ok (ofNode node) ∧
      Node.decode? value = some node ∧ value.isGroup = true := by
  intro item value node
  have hcanonical : value.canonical = value := by
    simp +decide [value, item, Json.canonical, Json.canonicalItems, Json.canonicalMembers,
      Table.ofPairs, Table.insertAll, Table.insert]
  have hreached : ∀ below, value.Reaches below → below = value ∨ below = item := by
    intro below hbelow
    change Json.Reaches (.object _) below at hbelow
    rcases hbelow with _ | ⟨-, hitems, hmem, hbelow⟩
    · exact .inl rfl
    · obtain rfl := Option.some.inj hitems
      rw [List.mem_singleton.1 hmem] at hbelow
      change Json.Reaches (.object _) below at hbelow
      rcases hbelow with _ | ⟨hgroup, -, -, -⟩
      · exact .inr rfl
      · exact absurd (Json.string.inj (Option.some.inj hgroup)) (by decide)
  have hlisted : value.ChildrenListed := by
    intro members hbelow hgroup hnull
    rcases hreached _ hbelow with heq | heq <;> obtain rfl := Json.object.inj heq <;> cases hnull
  have hkinds : value.KindsGiven := by
    intro below hbelow
    rcases hreached _ hbelow with rfl | rfl
    · exact ⟨_, _, rfl, rfl⟩
    · exact ⟨_, _, rfl, rfl⟩
  have hnull : value ≠ .null := by simp [value]
  obtain ⟨hwithout, hwith, hmark⟩ := readers_agree value
  rw [hcanonical] at hwithout hwith hmark
  have hparsed : (parseValue (Json.object [("root", value)]).canonical).value =
      .ok (ofNode node) := by
    rw [parseValue_wrapped, hcanonical]
    rfl
  obtain ⟨other, hdecoded, hroot⟩ := hwithout _ hparsed hnull hlisted
  obtain rfl := Option.some.inj hroot
  exact ⟨hcanonical, hnull, hlisted, hkinds, hwith node hdecoded hkinds, hdecoded,
    hmark node hdecoded⟩

end Condition

end CardFilter
