import CardFilter.Proofs.Condition.Canonical
import CardFilter.Proofs.Condition.Missing
import CardFilter.Proofs.Condition.Nodes
import CardFilter.Proofs.Condition.References

/-!
# Paths without hops

A path without hops stays on the card, as no path does.  The normal form of a condition drops such
paths and touches nothing else, so every place of the tree keeps what stands there.  Nobody who
judges a condition, counts in it or collects from it can tell it from its normal form, and what is
read is in normal form already.

In JSON a path is an object with the member `linkNodes`; in what is written for a normal form that
member is never an empty list.
-/

namespace CardFilter

/-! ## Parts of JSON values -/

/-- The values that a value is built from, itself included. -/
inductive Json.HasPart : Json → Json → Prop
  | self (value : Json) : HasPart value value
  | item {items : List Json} {item part : Json} :
    item ∈ items → HasPart item part → HasPart (.array items) part
  | member {members : List (String × Json)} {member : String × Json} {part : Json} :
    member ∈ members → HasPart member.2 part → HasPart (.object members) part

/-- Whether no part of a value is a path without hops. -/
def Json.HasHops (value : Json) : Prop :=
  ∀ members, value.HasPart (.object members) → ("linkNodes", .array []) ∉ members

namespace Json

@[simp] theorem hasHops_string (text : String) : (string text).HasHops := by
  intro members hpart
  cases hpart

@[simp] theorem hasHops_number (value : Json.Number) : (number value).HasHops := by
  intro members hpart
  cases hpart

@[simp] theorem hasHops_array_iff (items : List Json) :
    (array items).HasHops ↔ ∀ item ∈ items, item.HasHops := by
  constructor
  · intro h item hitem members hpart
    exact h members (.item hitem hpart)
  · intro h members hpart
    cases hpart with
    | item hitem hpart => exact h _ hitem members hpart

@[simp] theorem hasHops_object_iff (members : List (String × Json)) :
    (object members).HasHops ↔
      ∀ member ∈ members, member ≠ ("linkNodes", array []) ∧ member.2.HasHops := by
  constructor
  · intro h member hmember
    refine ⟨?_, fun others hpart ↦ h others (.member hmember hpart)⟩
    rintro rfl
    exact h members (.self _) hmember
  · intro h others hpart
    cases hpart with
    | self => exact fun hmember ↦ (h _ hmember).1 rfl
    | member hmember hpart => exact (h _ hmember).2 others hpart

@[simp] theorem hasHops_ofStrings (texts : List String) : (ofStrings texts).HasHops := by
  simp [ofStrings]

@[simp] theorem forall_mem_optional {α : Type} {name : String} {encode : α → Json}
    {value : Option α} {p : String × Json → Prop} :
    (∀ member ∈ Json.optional name encode value, p member) ↔
      ∀ inner ∈ value, p (name, encode inner) := by
  cases value <;> simp [Json.optional]

end Json

/-! ## Paths in what is written -/

theorem NumberValue.hasHops_toJson (value : NumberValue) : value.toJson.HasHops := by
  cases value <;> simp [toJson, -Prod.forall]

theorem DateValue.hasHops_toJson (value : DateValue) : value.toJson.HasHops := by
  cases value <;> simp [toJson, -Prod.forall]

theorem hasHops_cardsToJson (ids : List String) : (cardsToJson ids).HasHops := by
  simp [cardsToJson, -Prod.forall]

theorem Operand.hasHops_members (operand : Operand) : (Json.object operand.members).HasHops := by
  rw [Json.hasHops_object_iff]
  cases operand with
  | nothing => simp [members]
  | text => simp [members]
  | number => simp [members, NumberValue.hasHops_toJson, -Prod.forall]
  | numberRange =>
    rw [members, List.forall_mem_append]
    simp [NumberValue.hasHops_toJson, -Prod.forall]
  | date => simp [members, DateValue.hasHops_toJson, -Prod.forall]
  | dateRange =>
    rw [members, List.forall_mem_append]
    simp [DateValue.hasHops_toJson, -Prod.forall]
  | one sort => cases sort <;> simp [members, IdSort.oneMember]
  | many sort => cases sort <;> simp [members, IdSort.manyMember]
  | cards => simp [members, hasHops_cardsToJson, -Prod.forall]
  | cycles => simp [members, Cycle.toJson]

theorem Test.hasHops_toJson {kind : Kind} (test : Test kind) : test.toJson.HasHops := by
  have hmembers := test.operand.hasHops_members
  rw [Json.hasHops_object_iff] at hmembers
  rw [toJson, Json.hasHops_object_iff, List.forall_mem_cons]
  exact ⟨by simp, hmembers⟩

/-- A path is written as one without hops exactly if it has none. -/
theorem Path.hasHops_toJson {path : Path} (h : path ≠ ⟨[]⟩) : path.toJson.HasHops := by
  obtain ⟨hops⟩ := path
  have hhops : hops ≠ [] := by
    rintro rfl
    exact h rfl
  simp [toJson, Json.ofStrings, hhops]

theorem Identity.hasHops_members (kind : Kind) (identity : Identity) :
    (Json.object (identity.members kind.subjectForm)).HasHops := by
  rw [Json.hasHops_object_iff]
  cases identity with
  | implied => simp [members]
  | named => cases kind <;> simp [members, Kind.subjectForm]
  | system => simp [members, SystemDate.toJson, -Prod.forall]

namespace Leaf

theorem hasHops_toJson {leaf : Leaf} (h : leaf.path ≠ some ⟨[]⟩) : leaf.toJson.HasHops := by
  have hidentity := leaf.subject.identity.hasHops_members leaf.kind
  rw [Json.hasHops_object_iff] at hidentity
  have hpath : ∀ path ∈ leaf.subject.path, path.toJson.HasHops := by
    intro path hpath
    apply Path.hasHops_toJson
    rintro rfl
    exact h hpath
  have hsubject : leaf.subject.toJson.HasHops := by
    rw [Subject.toJson, Json.hasHops_object_iff, List.forall_mem_append]
    exact ⟨hidentity, Json.forall_mem_optional.2 fun path hmem ↦ ⟨by simp, hpath path hmem⟩⟩
  rw [toJson, Json.hasHops_object_iff, List.forall_mem_cons, List.forall_mem_cons]
  exact ⟨by simp, ⟨by simp, hsubject⟩,
    Json.forall_mem_optional.2 fun test _ ↦ ⟨by simp, test.hasHops_toJson⟩⟩

end Leaf

namespace Node

mutual

/-- What is written for a node has no path without hops as soon as no leaf below it has. -/
theorem hasHops_toJson : (node : Node) → (∀ leaf ∈ node.leaves, leaf.path ≠ some ⟨[]⟩) →
    node.toJson.HasHops
  | .leaf item, h => by
    rw [toJson]
    exact Leaf.hasHops_toJson (h item (by simp [leaves]))
  | .group connective children, h => by
    have hchildren := hasHops_allToJson children h
    rw [← Json.hasHops_array_iff] at hchildren
    rw [toJson, Json.hasHops_object_iff]
    simp [Connective.toJson, hchildren, -Prod.forall]

theorem hasHops_allToJson : (nodes : List Node) →
    (∀ leaf ∈ allLeaves nodes, leaf.path ≠ some ⟨[]⟩) →
    ∀ json ∈ allToJson nodes, json.HasHops
  | [], _ => by simp [allToJson]
  | node :: rest, h => by
    rw [allLeaves, List.forall_mem_append] at h
    rw [allToJson, List.forall_mem_cons]
    exact ⟨hasHops_toJson node h.1, hasHops_allToJson rest h.2⟩

end

end Node

theorem Condition.hasHops_toJson {condition : Condition}
    (h : ∀ leaf ∈ condition.leaves, leaf.path ≠ some ⟨[]⟩) : condition.toJson.HasHops := by
  rw [toJson, Json.hasHops_object_iff, Json.forall_mem_optional]
  intro root hroot
  rw [leaves, Option.mem_def.1 hroot] at h
  exact ⟨by simp, root.hasHops_toJson h⟩

/-! ## The normal form of a leaf -/

theorem normalPath_ne (path : Option Path) : normalPath path ≠ some ⟨[]⟩ := by
  match path with
  | none => simp [normalPath]
  | some ⟨[]⟩ => simp [normalPath]
  | some ⟨_ :: _⟩ => simp [normalPath]

theorem normalPath_eq (path : Option Path) :
    normalPath path = if path = some ⟨[]⟩ then none else path := by
  match path with
  | none => rfl
  | some ⟨[]⟩ => rfl
  | some ⟨hop :: hops⟩ => simp [normalPath]

/-- A path without hops lacks nothing, as no path does. -/
theorem all_isFilled_normalPath (path : Option Path) :
    (normalPath path).all Path.isFilled = path.all Path.isFilled := by
  match path with
  | none => rfl
  | some ⟨[]⟩ => rfl
  | some ⟨_ :: _⟩ => rfl

theorem hops_normalPath (path : Option Path) :
    ((normalPath path).map Path.hops).getD [] = (path.map Path.hops).getD [] := by
  match path with
  | none => rfl
  | some ⟨[]⟩ => rfl
  | some ⟨_ :: _⟩ => rfl

namespace Leaf

theorem path_normalize (leaf : Leaf) : leaf.normalize.path = normalPath leaf.path := rfl

theorem normalize_normalize (leaf : Leaf) : leaf.normalize.normalize = leaf.normalize := by
  rw [normalize, path_normalize, normalPath_normalPath]
  rfl

theorem isComplete_normalize (leaf : Leaf) : leaf.normalize.isComplete = leaf.isComplete := by
  have hpath := all_isFilled_normalPath leaf.path
  unfold isComplete Subject.isFilled
  rw [show leaf.normalize.subject.path = normalPath leaf.path from rfl, hpath]
  rfl

theorem mentions_normalize (leaf : Leaf) : leaf.normalize.mentions = leaf.mentions := by
  unfold mentions
  rw [path_normalize, hops_normalPath]
  rfl

/-- Leaves are read in normal form, whatever stands in their fields. -/
theorem normalize_ofFields (kind : Kind) (fields : List (String × Json)) :
    (Leaf.ofFields kind fields).value.normalize = (Leaf.ofFields kind fields).value := by
  have hsubject := Leaf.subject_canonical_ofFields kind fields
  generalize (Leaf.ofFields kind fields).value = leaf at hsubject ⊢
  obtain ⟨kind, subject, test⟩ := leaf
  exact congrArg (fun subject ↦ Leaf.mk kind subject test) hsubject

end Leaf

/-! ## The normal form of a tree -/

namespace Node

theorem normalizeAll_eq_map (nodes : List Node) : normalizeAll nodes = nodes.map normalize := by
  induction nodes with
  | nil => rfl
  | cons node rest ih => rw [normalizeAll, ih, List.map_cons]

/-- The walk to a place leads to the normal form of what stands there. -/
theorem at?_normalize (place : List Nat) (node : Node) :
    node.normalize.at? place = (node.at? place).map normalize := by
  induction place generalizing node with
  | nil => rfl
  | cons index rest ih =>
    cases node with
    | leaf item => rfl
    | group connective children =>
      rw [normalize, at?, at?, normalizeAll_eq_map, List.getElem?_map]
      cases children[index]? with
      | none => rfl
      | some child => exact ih child

mutual

theorem leaves_normalize : (node : Node) → node.normalize.leaves = node.leaves.map Leaf.normalize
  | .leaf _ => rfl
  | .group _ children => allLeaves_normalizeAll children

theorem allLeaves_normalizeAll : (nodes : List Node) →
    allLeaves (normalizeAll nodes) = (allLeaves nodes).map Leaf.normalize
  | [] => rfl
  | node :: rest => by
    rw [normalizeAll, allLeaves, allLeaves, List.map_append, leaves_normalize node,
      allLeaves_normalizeAll rest]

end

mutual

theorem normalize_normalize : (node : Node) → node.normalize.normalize = node.normalize
  | .leaf item => congrArg Node.leaf item.normalize_normalize
  | .group connective children => by
    rw [normalize, normalize, normalizeAll_normalizeAll children]

theorem normalizeAll_normalizeAll : (nodes : List Node) →
    normalizeAll (normalizeAll nodes) = normalizeAll nodes
  | [] => rfl
  | node :: rest => by
    rw [normalizeAll, normalizeAll, normalize_normalize node, normalizeAll_normalizeAll rest]

end

mutual

theorem missing_normalize : (node : Node) → node.normalize.missing = node.missing
  | .leaf item => by rw [normalize, missing, missing, item.isComplete_normalize]
  | .group connective [] => rfl
  | .group connective (child :: rest) => by
    rw [normalize, normalizeAll, missing, missing, missing_normalize child,
      missingIn_normalizeAll rest]

theorem missingIn_normalizeAll : (nodes : List Node) →
    missingIn (normalizeAll nodes) = missingIn nodes
  | [] => rfl
  | node :: rest => by
    rw [normalizeAll, missingIn, missingIn, missing_normalize node, missingIn_normalizeAll rest]

end

mutual

theorem depth_normalize : (node : Node) → node.normalize.depth = node.depth
  | .leaf item => rfl
  | .group connective children => by
    rw [normalize, depth, depth, depthIn_normalizeAll children]

theorem depthIn_normalizeAll : (nodes : List Node) → depthIn (normalizeAll nodes) = depthIn nodes
  | [] => rfl
  | node :: rest => by
    rw [normalizeAll, depthIn, depthIn, depth_normalize node, depthIn_normalizeAll rest]

end

theorem isEmptyGroup_normalize (node : Node) : node.normalize.isEmptyGroup = node.isEmptyGroup := by
  match node with
  | .leaf item => rfl
  | .group connective [] => rfl
  | .group connective (_ :: _) => rfl

theorem normalizeAll_of_forall₂ {items : List Json} {children : List (Reading Node)}
    (h : List.Forall₂ (fun _ child ↦ child.value.normalize = child.value) items children) :
    normalizeAll (children.map Reading.value) = children.map Reading.value := by
  induction h with
  | nil => rfl
  | cons hchild _ ih => rw [List.map_cons, normalizeAll, hchild, ih]

theorem normalize_inherited : Inherited fun _ node _ ↦ node.normalize = node where
  leaf {_ kind} _ := by rw [normalize, Leaf.normalize_ofFields kind]
  group _ _ _ hchildren := by rw [normalize, normalizeAll_of_forall₂ hchildren]

end Node

namespace Condition

variable (condition : Condition)

theorem at?_normalize (place : List Nat) :
    condition.normalize.at? place = (condition.at? place).map Node.normalize := by
  obtain ⟨_ | root⟩ := condition
  · rfl
  · exact root.at?_normalize place

theorem leaves_normalize : condition.normalize.leaves = condition.leaves.map Leaf.normalize := by
  obtain ⟨_ | root⟩ := condition
  · rfl
  · exact root.leaves_normalize

/-- The leaves of a normal form have no path without hops. -/
theorem path_ne_of_mem_leaves {leaf : Leaf} (h : leaf ∈ condition.normalize.leaves) :
    leaf.path ≠ some ⟨[]⟩ := by
  rw [leaves_normalize] at h
  obtain ⟨item, _, rfl⟩ := List.mem_map.1 h
  exact normalPath_ne item.path

theorem normalize_normalize : condition.normalize.normalize = condition.normalize := by
  obtain ⟨_ | root⟩ := condition
  · rfl
  · exact congrArg ofNode root.normalize_normalize

/-- A condition is read in normal form. -/
theorem normalize_of_parseValue {condition : Condition} {value : Json}
    (h : (parseValue value).value = .ok condition) : condition.normalize = condition := by
  rcases parseValue_cases h with ⟨rfl, -, -⟩ | ⟨node, rfl, hnode, -⟩
  · rfl
  · exact congrArg ofNode (Node.parse_induction Node.normalize_inherited [] _ node hnode)

theorem missing_normalize : condition.normalize.missing = condition.missing := by
  obtain ⟨_ | root⟩ := condition
  · rfl
  · exact root.missing_normalize

theorem isComplete_normalize : condition.normalize.isComplete = condition.isComplete := by
  -- The count decides completeness, so the walk for the verdict is not gone through again.
  rw [Bool.eq_iff_iff, isComplete_iff, isComplete_iff, missing_normalize]

theorem isEmpty_normalize : condition.normalize.isEmpty = condition.isEmpty := by
  obtain ⟨_ | root⟩ := condition
  · rfl
  · exact root.isEmptyGroup_normalize

theorem isSubmittable_normalize : condition.normalize.isSubmittable = condition.isSubmittable := by
  rw [isSubmittable, isSubmittable, isEmpty_normalize, isComplete_normalize]

theorem depth_normalize : condition.normalize.depth = condition.depth := by
  obtain ⟨_ | root⟩ := condition
  · rfl
  · exact root.depth_normalize

theorem references_normalize : condition.normalize.references = condition.references := by
  have hleaf (references : References) (leaf : Leaf) :
      leaf.normalize.addReferences references = leaf.addReferences references := by
    rw [Leaf.addReferences_eq, Leaf.addReferences_eq, leaf.mentions_normalize]
  rw [references_eq, references_eq, leaves_normalize, List.foldl_map]
  simp only [hleaf]

/-- Whether a place holds in another condition what it holds in this one, except that a path without
hops is gone. -/
def KeepsAt (other : Condition) (place : List Nat) : Prop :=
  match condition.at? place with
  | none => other.at? place = none
  | some (.group connective children) =>
    ∃ others, others.length = children.length ∧
      other.at? place = some (.group connective others)
  | some (.leaf ⟨kind, subject, test⟩) =>
    other.at? place = some (.leaf ⟨kind,
      subject.withPath (if subject.path = some ⟨[]⟩ then none else subject.path), test⟩)

theorem keepsAt_normalize (place : List Nat) : condition.KeepsAt condition.normalize place := by
  have hplace := condition.at?_normalize place
  unfold KeepsAt
  split
  · rename_i hnone
    rw [hplace, hnone, Option.map_none]
  · rename_i connective children hgroup
    rw [hplace, hgroup, Option.map_some]
    refine ⟨Node.normalizeAll children, ?_, rfl⟩
    rw [Node.normalizeAll_eq_map, List.length_map]
  · rename_i kind subject test hleaf
    rw [hplace, hleaf, Option.map_some, Node.normalize, ← normalPath_eq]
    rfl

/-- The normal form has no path without hops, in the tree and in JSON, and every place holds what it
held before.  Normal forms, and with them all that is read, are their own normal form, and whoever
judges, counts or collects finds the same. -/
theorem normalize_drops_empty_paths_only :
    (∀ place leaf, condition.normalize.at? place = some (.leaf leaf) → leaf.path ≠ some ⟨[]⟩) ∧
      (∀ members, condition.normalize.toJson.HasPart (.object members) →
        ("linkNodes", .array []) ∉ members) ∧
      (∀ place, condition.KeepsAt condition.normalize place) ∧
      condition.normalize.normalize = condition.normalize ∧
      (∀ value, (parseValue value).value = .ok condition → condition.normalize = condition) ∧
      condition.normalize.isComplete = condition.isComplete ∧
      condition.normalize.isEmpty = condition.isEmpty ∧
      condition.normalize.isSubmittable = condition.isSubmittable ∧
      condition.normalize.missing = condition.missing ∧
      condition.normalize.depth = condition.depth ∧
      condition.normalize.references = condition.references := by
  refine ⟨?_, ?_, condition.keepsAt_normalize, condition.normalize_normalize,
    fun _ ↦ normalize_of_parseValue, condition.isComplete_normalize, condition.isEmpty_normalize,
    condition.isSubmittable_normalize, condition.missing_normalize, condition.depth_normalize,
    condition.references_normalize⟩
  · intro place leaf hplace
    exact condition.path_ne_of_mem_leaves
      ((condition.normalize.mem_leaves_iff leaf).2 ⟨place, hplace⟩)
  · exact hasHops_toJson fun _ ↦ condition.path_ne_of_mem_leaves

/-- The path without hops in this document is gone once it is read, and a tree that has it holds
something else at that place. -/
theorem normalize_drops_empty_paths_only_read :
    let document := Json.object [("children", .array [.object [("nodeType", .string "TITLE"),
      ("subject", .object [("path", .object [("linkNodes", .array [])])])]]),
      ("nodeType", .string "GROUP")]
    let title (path : Option Path) : Node := .leaf ⟨.title, ⟨.implied, path, rfl⟩, none⟩
    let read := ofNode (.group .and [title none])
    let built := ofNode (.group .and [title (some ⟨[]⟩)])
    (parseValue document).value = .ok read ∧ read.normalize = read ∧
      built.normalize.at? [0] = some (title none) ∧ built.normalize ≠ built := by
  intro document title read built
  have hread : (parseValue document).value = .ok read := rfl
  obtain ⟨-, -, -, -, hnormal, -⟩ := normalize_drops_empty_paths_only read
  obtain ⟨hpaths, -⟩ := normalize_drops_empty_paths_only built
  refine ⟨hread, hnormal document hread, rfl, ?_⟩
  intro hsame
  exact hpaths [0] _ (congrArg (at? [0]) hsame) rfl

end Condition

end CardFilter
