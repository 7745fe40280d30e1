import CardFilter.Condition.Position
import Mathlib.Data.List.Nodup

/-!
# Places and positions

The list of positions of a condition and the walk to a place say the same: a node stands in the list
with a place exactly when the walk to that place ends at it, and no place stands there twice.  So a
count over the list is a count of places.  The list of leaves holds just those that stand at a
place.
-/

namespace CardFilter

namespace Node

mutual

/-- Below a base the list holds what the walk from there reaches. -/
theorem mem_positions_iff (base place : List Nat) (node : Node) : (root : Node) →
    ((place, node) ∈ root.positions base ↔
      ∃ rest, place = base ++ rest ∧ root.at? rest = some node)
  | .leaf item => by
    unfold positions
    constructor
    · intro h
      obtain ⟨rfl, rfl⟩ := Prod.mk.inj (List.mem_singleton.1 h)
      exact ⟨[], (List.append_nil _).symm, rfl⟩
    · rintro ⟨rest, rfl, hnode⟩
      cases rest with
      | nil =>
        obtain rfl := Option.some.inj hnode
        simp
      | cons => cases hnode
  | .group connective children => by
    unfold positions
    rw [List.mem_cons, mem_positionsFrom_iff base place node 0 children]
    constructor
    · rintro (h | ⟨offset, rest, rfl, hnode⟩)
      · obtain ⟨rfl, rfl⟩ := Prod.mk.inj h
        exact ⟨[], (List.append_nil _).symm, rfl⟩
      · rw [Nat.zero_add]
        exact ⟨offset :: rest, rfl, hnode⟩
    · rintro ⟨rest, rfl, hnode⟩
      cases rest with
      | nil =>
        obtain rfl := Option.some.inj hnode
        simp
      | cons index rest =>
        right
        exact ⟨index, rest, by rw [Nat.zero_add], hnode⟩

theorem mem_positionsFrom_iff (base place : List Nat) (node : Node) (index : Nat) :
    (children : List Node) →
    ((place, node) ∈ positionsFrom base index children ↔
      ∃ offset rest, place = base ++ (index + offset) :: rest ∧
        children[offset]?.bind (at? rest) = some node)
  | [] => by simp [positionsFrom]
  | child :: others => by
    unfold positionsFrom
    rw [List.mem_append, mem_positions_iff (base ++ [index]) place node child,
      mem_positionsFrom_iff base place node (index + 1) others]
    constructor
    · rintro (⟨rest, rfl, hnode⟩ | ⟨offset, rest, rfl, hnode⟩)
      · exact ⟨0, rest, by simp, hnode⟩
      · exact ⟨offset + 1, rest, by rw [Nat.add_right_comm, Nat.add_assoc], hnode⟩
    · rintro ⟨offset, rest, rfl, hnode⟩
      cases offset with
      | zero =>
        left
        exact ⟨rest, by simp, hnode⟩
      | succ offset =>
        right
        exact ⟨offset, rest, by rw [Nat.add_right_comm, Nat.add_assoc], hnode⟩

end

mutual

theorem nodup_positions (base : List Nat) : (root : Node) →
    ((root.positions base).map Prod.fst).Nodup
  | .leaf item => List.nodup_singleton _
  | .group connective children => by
    unfold positions
    rw [List.map_cons, List.nodup_cons]
    refine ⟨?_, nodup_positionsFrom base 0 children⟩
    intro h
    obtain ⟨⟨place, node⟩, hmem, hplace⟩ := List.mem_map.1 h
    obtain ⟨offset, rest, rfl, -⟩ := (mem_positionsFrom_iff base place node 0 children).1 hmem
    simp at hplace

theorem nodup_positionsFrom (base : List Nat) (index : Nat) : (children : List Node) →
    ((positionsFrom base index children).map Prod.fst).Nodup
  | [] => List.nodup_nil
  | child :: others => by
    unfold positionsFrom
    rw [List.map_append]
    apply List.Nodup.append (nodup_positions (base ++ [index]) child)
      (nodup_positionsFrom base (index + 1) others)
    -- The index behind the base tells the first child from the others.
    intro place hfirst hothers
    obtain ⟨⟨_, node⟩, hnode, rfl⟩ := List.mem_map.1 hfirst
    obtain ⟨⟨_, other⟩, hother, hplace⟩ := List.mem_map.1 hothers
    obtain ⟨rest, rfl, -⟩ := (mem_positions_iff _ _ _ child).1 hnode
    obtain ⟨offset, tail, rfl, -⟩ := (mem_positionsFrom_iff _ _ _ _ others).1 hother
    simp at hplace
    omega

end

end Node

namespace Condition

theorem mem_positions_iff (condition : Condition) (place : List Nat) (node : Node) :
    (place, node) ∈ condition.positions ↔ condition.at? place = some node := by
  obtain ⟨_ | root⟩ := condition
  · simp [positions, at?]
  · have hroot := Node.mem_positions_iff [] place node root
    simpa [positions, at?] using hroot

theorem nodup_places (condition : Condition) : (condition.positions.map Prod.fst).Nodup := by
  obtain ⟨_ | root⟩ := condition
  · exact List.nodup_nil
  · exact Node.nodup_positions [] root

end Condition

/-! ## Leaves -/

namespace Node

mutual

/-- The leaves below a node, from left to right. -/
def leaves : Node → List Leaf
  | .group _ children => allLeaves children
  | .leaf item => [item]

def allLeaves : List Node → List Leaf
  | [] => []
  | child :: rest => leaves child ++ allLeaves rest

end

mutual

theorem mem_leaves_iff (leaf : Leaf) : (node : Node) →
    (leaf ∈ node.leaves ↔ ∃ place, node.at? place = some (.leaf leaf))
  | .leaf item => by
    rw [leaves, List.mem_singleton]
    constructor
    · rintro rfl
      exact ⟨[], rfl⟩
    · rintro ⟨place, hplace⟩
      cases place with
      | nil => exact (Node.leaf.inj (Option.some.inj hplace)).symm
      | cons => cases hplace
  | .group connective children => by
    rw [leaves, mem_allLeaves_iff leaf children]
    constructor
    · rintro ⟨index, place, hplace⟩
      exact ⟨index :: place, hplace⟩
    · rintro ⟨place, hplace⟩
      cases place with
      | nil => cases hplace
      | cons index place => exact ⟨index, place, hplace⟩

theorem mem_allLeaves_iff (leaf : Leaf) : (nodes : List Node) →
    (leaf ∈ allLeaves nodes ↔
      ∃ (index : Nat) (place : List Nat), nodes[index]?.bind (at? place) = some (.leaf leaf))
  | [] => by simp [allLeaves]
  | node :: rest => by
    rw [allLeaves, List.mem_append, mem_leaves_iff leaf node, mem_allLeaves_iff leaf rest]
    constructor
    · rintro (⟨place, hplace⟩ | ⟨index, place, hplace⟩)
      · exact ⟨0, place, hplace⟩
      · exact ⟨index + 1, place, hplace⟩
    · rintro ⟨index, place, hplace⟩
      cases index with
      | zero => exact .inl ⟨place, hplace⟩
      | succ index => exact .inr ⟨index, place, hplace⟩

end

end Node

namespace Condition

def leaves (condition : Condition) : List Leaf := (condition.root.map Node.leaves).getD []

theorem mem_leaves_iff (condition : Condition) (leaf : Leaf) :
    leaf ∈ condition.leaves ↔ ∃ place, condition.at? place = some (.leaf leaf) := by
  obtain ⟨_ | root⟩ := condition
  · simp [leaves, at?]
  · exact root.mem_leaves_iff leaf

end Condition

end CardFilter
