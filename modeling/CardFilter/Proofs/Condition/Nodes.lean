import CardFilter.Condition.Parse
import CardFilter.Proofs.Json.Canonical
import Mathlib.Data.List.Forall2

/-!
# How nodes are read

The readers of nodes go through the members of an object one by one.  Here they are brought into the
form in which they are reasoned about: a leaf and a group are read from the members that their names
look up, and whatever holds of leaves and goes from children to groups holds of every node that is
read, together with the values that were set aside on the way.
-/

namespace CardFilter

theorem Kind.ofName?_eq_some {name : String} {kind : Kind} :
    Kind.ofName? name = some kind ↔ name = kind.name := by
  constructor
  · intro h
    rw [ofName?] at h
    have hname := List.find?_some h
    exact (beq_iff_eq.1 hname).symm
  · rintro rfl
    cases kind <;> decide

theorem Kind.ofName?_name (kind : Kind) : Kind.ofName? kind.name = some kind :=
  Kind.ofName?_eq_some.2 rfl

theorem Kind.name_injective : Function.Injective Kind.name := by
  intro kind other h
  have hfound := ofName?_name other
  rw [← h, ofName?_name] at hfound
  exact Option.some.inj hfound

theorem Kind.name_ne_groupName (kind : Kind) : kind.name ≠ Node.groupName := by
  cases kind <;> decide

/-- The values of the children of a group; a group may leave them out, or give null for none. -/
def Json.childItems? (members : List (String × Json)) : Option (List Json) :=
  match members.lookup "children" with
  | none | some .null => some []
  | some (.array items) => some items
  | some _ => none

theorem Json.childItems?_eq_some {members : List (String × Json)} {items : List Json} :
    childItems? members = some items ↔
      (members.lookup "children" = none ∨ members.lookup "children" = some .null) ∧ items = [] ∨
        members.lookup "children" = some (.array items) := by
  rw [childItems?]
  cases members.lookup "children" with
  | none => simp [eq_comm]
  | some value => cases value <;> simp [eq_comm]

namespace Leaf

/-- Only the lookups of the two parts count. -/
theorem ofFields_congr (kind : Kind) {fields others : List (String × Json)}
    (h : ∀ name ∈ fieldNames, fields.lookup name = others.lookup name) :
    Leaf.ofFields kind fields = Leaf.ofFields kind others := by
  rw [ofFields, ofFields, h "operator" (by decide), h "subject" (by decide)]

theorem read?_object {members : Table Json} (h : members.Sorted) {name : String}
    (hkind : members.lookup "nodeType" = some (.string name)) :
    read? (.object members) =
      (Kind.ofName? name).map fun kind ↦ (Leaf.ofFields kind members).value := by
  have hrest := h.filter fun member ↦ member.1 != "nodeType"
  have hfields (kind : Kind) : Leaf.ofFields kind
      ((members.filter fun member ↦ member.1 != "nodeType").filter fun member ↦
        fieldNames.contains member.1) = Leaf.ofFields kind members := by
    apply ofFields_congr
    intro name hname
    have hne : name ≠ "nodeType" := by
      rintro rfl
      exact absurd hname (by decide)
    rw [Table.lookup_filter (fun other ↦ fieldNames.contains other),
      if_pos (List.contains_iff_mem.2 hname), Table.lookup_filter (fun other ↦ other != "nodeType"),
      if_pos (bne_iff_ne.2 hne)]
  rw [read?, Json.tagged?_object h, hkind]
  simp only [Option.map_some, Json.record?_object hrest]
  cases Kind.ofName? name with
  | none => rfl
  | some kind => exact congrArg (fun leaf ↦ some leaf.value) (hfields kind)

end Leaf

namespace Node

theorem parseChildren_eq (place : List Nat) (members : List (String × Json)) :
    parseChildren place members =
      match members.lookup "children" with
      | none => ⟨.ok [], []⟩
      | some value => parseItems place value := by
  induction members with
  | nil => rfl
  | cons member rest ih =>
    rcases member with ⟨name, value⟩
    by_cases h : name = "children"
    · subst h
      simp [parseChildren]
    · rw [parseChildren, if_neg h, ih, Table.lookup_cons_of_ne (Ne.symm h)]

theorem readChildren?_eq (members : List (String × Json)) :
    readChildren? members =
      match members.lookup "children" with
      | none => some []
      | some value => readItems? value := by
  induction members with
  | nil => rfl
  | cons member rest ih =>
    rcases member with ⟨name, value⟩
    by_cases h : name = "children"
    · subst h
      simp [readChildren?]
    · rw [readChildren?, if_neg h, ih, Table.lookup_cons_of_ne (Ne.symm h)]

theorem isGroup_object (members : List (String × Json)) {name : String}
    (h : members.lookup "nodeType" = some (.string name)) :
    (Json.object members).isGroup = (name == groupName) := by
  rw [Json.isGroup, Json.member?, h]

/-- The two readers see the same connective. -/
theorem parseConnective_eq_ok_iff {place : List Nat} {members : List (String × Json)}
    {connective : Connective} :
    parseConnective place members = .ok connective ↔
      Connective.readField? members = some connective := by
  rw [parseConnective, Connective.readField?, Json.fieldOr]
  cases members.lookup "operator" with
  | none => simp
  | some value => cases hchoice : value.choice? false Connective.named <;> simp [hchoice]

theorem parse_leaf (place : List Nat) {members : List (String × Json)} {kind : Kind}
    (h : members.lookup "nodeType" = some (.string kind.name)) :
    parse place (.object members) = ⟨.ok (.leaf (Leaf.ofFields kind members).value),
      (Leaf.ofFields kind members).discarded⟩ := by
  rw [parse, kindName, h]
  simp only [kind.name_ne_groupName, if_false, parseLeaf, Kind.ofName?_name]

theorem parse_group (place : List Nat) {members : List (String × Json)} {connective : Connective}
    {items : List Json} (h : members.lookup "nodeType" = some (.string groupName))
    (hconnective : Connective.readField? members = some connective)
    (hitems : Json.childItems? members = some items) :
    parse place (.object members) = ⟨(parseAll place 0 items).value.map (.group connective),
      (parseAll place 0 items).discarded⟩ := by
  have hchildren : parseChildren place members = parseAll place 0 items := by
    rw [parseChildren_eq]
    rcases Json.childItems?_eq_some.1 hitems with ⟨hlookup | hlookup, rfl⟩ | hlookup
    · rw [hlookup, parseAll]
    · rw [hlookup, parseAll]
      rfl
    · rw [hlookup]
      rfl
  rw [parse, kindName, h]
  simp only [if_true, parseConnective_eq_ok_iff.2 hconnective, hchildren]

theorem forall₂_of_mem {α β : Type} {R S : α → β → Prop} {items : List α} {children : List β}
    (h : List.Forall₂ R items children)
    (himp : ∀ item ∈ items, ∀ child, R item child → S item child) :
    List.Forall₂ S items children :=
  ((List.forall₂_and_left items children).2 ⟨himp, h⟩).imp fun _ child hboth ↦ hboth.1 child hboth.2

/-! ## What a successful reading consists of -/

theorem map_eq_ok {ε α β : Type} {f : α → β} {result : Except ε α} {value : β}
    (h : result.map f = .ok value) : ∃ inner, result = .ok inner ∧ f inner = value := by
  cases result with
  | error => cases h
  | ok inner => exact ⟨inner, rfl, Except.ok.inj h⟩

theorem kindName_eq_ok {place : List Nat} {members : List (String × Json)} {name : String}
    (h : kindName place members = .ok name) :
    members.lookup "nodeType" = some (.string name) := by
  unfold kindName at h
  split at h
  · cases h
  · rename_i hlookup
    rw [hlookup, Except.ok.inj h]
  · cases h

theorem andThen_eq_ok {first : Reading (Except Fault Node)}
    {others : Reading (Except Fault (List Node))} {nodes : List Node}
    (h : (andThen first others).value = .ok nodes) :
    ∃ node rest, first.value = .ok node ∧ others.value = .ok rest ∧ nodes = node :: rest ∧
      (andThen first others).discarded = first.discarded ++ others.discarded := by
  unfold andThen at h ⊢
  split at h
  · cases h
  · rename_i node hfirst
    obtain ⟨rest, hrest, rfl⟩ := map_eq_ok h
    exact ⟨node, rest, hfirst, hrest, rfl, rfl⟩

/-! ## Induction over what was read -/

/-- A relation between a value, the node that was read from it and what was set aside meanwhile.  It
is inherited when it holds of leaves, and of a group as soon as it holds of its children. -/
structure Inherited (motive : Json → Node → List Json → Prop) : Prop where
  leaf {members : List (String × Json)} {kind : Kind} :
    members.lookup "nodeType" = some (.string kind.name) →
    motive (.object members) (.leaf (Leaf.ofFields kind members).value)
      (Leaf.ofFields kind members).discarded
  group {members : List (String × Json)} {connective : Connective} {items : List Json}
    {children : List (Reading Node)} :
    members.lookup "nodeType" = some (.string groupName) →
    Connective.readField? members = some connective →
    Json.childItems? members = some items →
    List.Forall₂ (fun item child ↦ motive item child.value child.discarded) items children →
    motive (.object members) (.group connective (children.map Reading.value))
      (children.flatMap Reading.discarded)

section Induction

variable {motive : Json → Node → List Json → Prop}

mutual

/-- An inherited relation holds of every node that is read. -/
theorem parse_induction (inherited : Inherited motive) (place : List Nat) :
    (value : Json) → (node : Node) → (parse place value).value = .ok node →
    motive value node (parse place value).discarded
  | .null, _, h | .bool _, _, h | .number _, _, h | .string _, _, h | .array _, _, h => by cases h
  | .object members, node, h => by
    unfold parse at h ⊢
    split at h
    · cases h
    · rename_i name hname
      have hkind := kindName_eq_ok hname
      split at h
      · rename_i hgroup
        subst hgroup
        split at h
        · cases h
        · rename_i connective hconnective
          obtain ⟨nodes, hnodes, rfl⟩ := map_eq_ok h
          obtain ⟨items, children, hitems, hchildren, rfl, hdiscarded⟩ :=
            parseChildren_induction inherited place members nodes hnodes
          simp only [if_true, hdiscarded]
          exact inherited.group hkind (parseConnective_eq_ok_iff.1 hconnective) hitems hchildren
      · rename_i hgroup
        unfold parseLeaf at h
        split at h
        · cases h
        · rename_i kind hkindName
          obtain rfl := Except.ok.inj h
          simp only [if_neg hgroup, parseLeaf, hkindName]
          exact inherited.leaf (Kind.ofName?_eq_some.1 hkindName ▸ hkind)

theorem parseChildren_induction (inherited : Inherited motive) (place : List Nat) :
    (members : List (String × Json)) → (nodes : List Node) →
    (parseChildren place members).value = .ok nodes →
    ∃ (items : List Json) (children : List (Reading Node)),
      Json.childItems? members = some items ∧
      List.Forall₂ (fun item child ↦ motive item child.value child.discarded) items children ∧
      children.map Reading.value = nodes ∧
      (parseChildren place members).discarded = children.flatMap Reading.discarded
  | [], nodes, h => by
    obtain rfl := Except.ok.inj h
    exact ⟨[], [], rfl, .nil, rfl, rfl⟩
  | (name, value) :: rest, nodes, h => by
    by_cases hname : name = "children"
    · subst hname
      rw [parseChildren, if_pos rfl] at h ⊢
      obtain ⟨items, children, hitems, hchildren⟩ :=
        parseItems_induction inherited place value nodes h
      refine ⟨items, children, ?_, hchildren⟩
      rw [Json.childItems?, List.lookup_cons_self]
      rcases hitems with ⟨rfl, rfl⟩ | rfl <;> rfl
    · rw [parseChildren, if_neg hname] at h ⊢
      obtain ⟨items, children, hitems, hchildren⟩ :=
        parseChildren_induction inherited place rest nodes h
      refine ⟨items, children, ?_, hchildren⟩
      rw [Json.childItems?, Table.lookup_cons_of_ne (Ne.symm hname)]
      exact hitems

theorem parseItems_induction (inherited : Inherited motive) (place : List Nat) :
    (value : Json) → (nodes : List Node) → (parseItems place value).value = .ok nodes →
    ∃ (items : List Json) (children : List (Reading Node)),
      (value = .null ∧ items = [] ∨ value = .array items) ∧
      List.Forall₂ (fun item child ↦ motive item child.value child.discarded) items children ∧
      children.map Reading.value = nodes ∧
      (parseItems place value).discarded = children.flatMap Reading.discarded
  | .null, nodes, h => by
    obtain rfl := Except.ok.inj h
    exact ⟨[], [], .inl ⟨rfl, rfl⟩, .nil, rfl, rfl⟩
  | .array items, nodes, h => by
    obtain ⟨children, hchildren⟩ := parseAll_induction inherited place 0 items nodes h
    exact ⟨items, children, .inr rfl, hchildren⟩
  | .bool _, _, h | .number _, _, h | .string _, _, h | .object _, _, h => by cases h

theorem parseAll_induction (inherited : Inherited motive) (place : List Nat) (index : Nat) :
    (items : List Json) → (nodes : List Node) → (parseAll place index items).value = .ok nodes →
    ∃ children : List (Reading Node),
      List.Forall₂ (fun item child ↦ motive item child.value child.discarded) items children ∧
      children.map Reading.value = nodes ∧
      (parseAll place index items).discarded = children.flatMap Reading.discarded
  | [], nodes, h => by
    obtain rfl := Except.ok.inj h
    exact ⟨[], .nil, rfl, rfl⟩
  | item :: rest, nodes, h => by
    obtain ⟨node, others, hnode, hothers, rfl, hdiscarded⟩ := andThen_eq_ok h
    have hfirst := parse_induction inherited (place ++ [index]) item node hnode
    obtain ⟨children, hchildren, rfl, hrest⟩ :=
      parseAll_induction inherited place (index + 1) rest others hothers
    refine ⟨⟨node, _⟩ :: children, .cons hfirst hchildren, rfl, ?_⟩
    rw [parseAll, hdiscarded, hrest]
    rfl

end

end Induction

end Node

/-- The value of the root of a document; a bare node is its own root. -/
def Json.root : Json → Json
  | .object members => (members.lookup "root").getD (.object members)
  | value => value

namespace Condition

theorem parseRoot_cases {value : Json} {condition : Condition}
    (h : (parseRoot value).value = .ok condition) :
    (condition = unfiltered ∧ (parseRoot value).discarded = [] ∧ value = .null) ∨
      ∃ node, condition = ofNode node ∧ (Node.parse [] value).value = .ok node ∧
        (parseRoot value).discarded = (Node.parse [] value).discarded := by
  unfold parseRoot at h
  split at h
  · exact .inl ⟨(Except.ok.inj h).symm, rfl, rfl⟩
  · rename_i hnull
    obtain ⟨node, hnode, rfl⟩ := Node.map_eq_ok h
    refine .inr ⟨node, rfl, hnode, ?_⟩
    unfold parseRoot
    split
    · exact absurd rfl hnull
    · rfl

theorem parseValue_of_root {members : List (String × Json)} {root : Json}
    (h : members.lookup "root" = some root) : parseValue (.object members) = parseRoot root := by
  rw [parseValue, h]

theorem parseValue_of_bare {members : List (String × Json)} (h : members.lookup "root" = none)
    (hkind : (members.lookup "nodeType").isSome = true) :
    parseValue (.object members) = parseRoot (.object members) := by
  rw [parseValue, h]
  exact if_pos hkind

/-- An object with neither a root nor a kind is read only if it is empty. -/
theorem parseValue_of_neither {members : List (String × Json)} {condition : Condition}
    (hroot : members.lookup "root" = none) (hkind : (members.lookup "nodeType").isSome ≠ true)
    (h : (parseValue (.object members)).value = .ok condition) :
    members = [] ∧ condition = unfiltered := by
  cases members with
  | nil => exact ⟨rfl, (Except.ok.inj h).symm⟩
  | cons member rest =>
    rw [parseValue, hroot] at h
    simp only [hkind] at h
    cases h

/-- A document that is read filters nothing, or it is the node that its root is read as. -/
theorem parseValue_cases {value : Json} {condition : Condition}
    (h : (parseValue value).value = .ok condition) :
    (condition = unfiltered ∧ (parseValue value).discarded = [] ∧
        (value.root = .null ∨ value.root = .object [])) ∨
      ∃ node, condition = ofNode node ∧ (Node.parse [] value.root).value = .ok node ∧
        (parseValue value).discarded = (Node.parse [] value.root).discarded := by
  cases value with
  | null => exact .inl ⟨(Except.ok.inj h).symm, rfl, .inl rfl⟩
  | bool | number | string | array => cases h
  | object members =>
    cases hroot : members.lookup "root" with
    | some root =>
      rw [parseValue_of_root hroot] at h ⊢
      rw [Json.root, hroot]
      exact (parseRoot_cases h).imp_left (And.imp_right (And.imp_right .inl))
    | none =>
      rw [Json.root, hroot]
      by_cases hkind : (members.lookup "nodeType").isSome = true
      · rw [parseValue_of_bare hroot hkind] at h ⊢
        exact (parseRoot_cases h).imp_left (And.imp_right (And.imp_right .inl))
      · obtain ⟨rfl, hcondition⟩ := parseValue_of_neither hroot hkind h
        exact .inl ⟨hcondition, rfl, .inr rfl⟩

end Condition

end CardFilter
