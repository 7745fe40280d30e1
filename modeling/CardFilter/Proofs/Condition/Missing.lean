import CardFilter.Condition.Completeness
import CardFilter.Proofs.Condition.Places
import Mathlib.Data.Set.Card

/-!
# Counting what is missing

The number that an editor shows and the two verdicts beside it are three separate walks over a
condition.  They agree: the number counts the places at which something is still to be filled, a
condition is complete when there is no such place, and it may be saved when there is none or when it
filters nothing.
-/

namespace CardFilter

namespace Node

/-- Whether something is missing at a node itself: a leaf that is not complete, or a group without
children. -/
def isOpen : Node → Bool
  | .group _ children => children.isEmpty
  | .leaf item => !item.isComplete

mutual

/-- The count is one over the positions, wherever the node stands. -/
theorem missing_eq_countP (base : List Nat) : (node : Node) →
    node.missing = (node.positions base).countP fun position ↦ position.2.isOpen
  | .leaf item => by
    unfold missing positions
    cases h : item.isComplete <;> simp [isOpen, h]
  | .group connective [] => rfl
  | .group connective (child :: rest) => by
    have hfilled : (group connective (child :: rest)).isOpen = false := rfl
    have hchildren := missingIn_eq_countP base 0 (child :: rest)
    unfold missing positions
    rw [List.countP_cons, hfilled]
    exact hchildren

theorem missingIn_eq_countP (base : List Nat) (index : Nat) : (nodes : List Node) →
    missingIn nodes =
      (positionsFrom base index nodes).countP fun position ↦ position.2.isOpen
  | [] => rfl
  | node :: rest => by
    unfold missingIn positionsFrom
    rw [List.countP_append, missing_eq_countP (base ++ [index]) node,
      missingIn_eq_countP base (index + 1) rest]

end

mutual

theorem isComplete_iff_missing : (node : Node) → (node.isComplete = true ↔ node.missing = 0)
  | .leaf item => by
    unfold isComplete missing
    cases item.isComplete <;> simp
  | .group connective [] => by simp [isComplete, missing]
  | .group connective (child :: rest) => by
    have hchildren := allComplete_iff_missingIn (child :: rest)
    unfold isComplete missing
    rw [List.isEmpty_cons, Bool.not_false, Bool.true_and, hchildren, missingIn]

theorem allComplete_iff_missingIn : (nodes : List Node) →
    (allComplete nodes = true ↔ missingIn nodes = 0)
  | [] => by simp [allComplete, missingIn]
  | node :: rest => by
    unfold allComplete missingIn
    rw [Bool.and_eq_true_iff, isComplete_iff_missing node, allComplete_iff_missingIn rest]
    omega

end

theorem isEmptyGroup_iff (node : Node) :
    node.isEmptyGroup = true ↔ ∃ connective, node = group connective [] := by
  match node with
  | .leaf _ => simp [isEmptyGroup]
  | .group connective [] => simp [isEmptyGroup]
  | .group connective (_ :: _) => simp [isEmptyGroup]

end Node

namespace Condition

/-- The places at which something is missing. -/
def openPlaces (condition : Condition) : Set (List Nat) :=
  {place | ∃ node, condition.at? place = some node ∧ node.isOpen = true}

theorem missing_eq_length (condition : Condition) :
    condition.missing =
      (condition.positions.filter fun position ↦ position.2.isOpen).length := by
  rw [← List.countP_eq_length_filter]
  obtain ⟨_ | root⟩ := condition
  · rfl
  · exact root.missing_eq_countP []

theorem mem_openPlaces_iff (condition : Condition) (place : List Nat) :
    place ∈ condition.openPlaces ↔
      place ∈ (condition.positions.filter fun position ↦ position.2.isOpen).map Prod.fst := by
  simp [openPlaces, mem_positions_iff]

/-- The number is that of the places at which something is missing. -/
theorem encard_openPlaces (condition : Condition) :
    condition.openPlaces.encard = condition.missing := by
  have hset : condition.openPlaces =
      ((condition.positions.filter fun position ↦ position.2.isOpen).map Prod.fst).toFinset := by
    ext place
    rw [mem_openPlaces_iff, List.coe_toFinset]
    rfl
  have hnodup : ((condition.positions.filter fun position ↦ position.2.isOpen).map
      Prod.fst).Nodup :=
    condition.nodup_places.sublist (List.filter_sublist.map _)
  rw [hset, Set.encard_coe_eq_coe_finsetCard, List.toFinset_card_of_nodup hnodup, List.length_map,
    missing_eq_length]

theorem isComplete_iff (condition : Condition) :
    condition.isComplete = true ↔ condition.missing = 0 := by
  obtain ⟨_ | root⟩ := condition
  · exact iff_of_true rfl rfl
  · exact root.isComplete_iff_missing

theorem isEmpty_iff (condition : Condition) :
    condition.isEmpty = true ↔
      condition.root = none ∨ ∃ connective, condition.root = some (.group connective []) := by
  obtain ⟨_ | root⟩ := condition
  · exact iff_of_true rfl (.inl rfl)
  · simp [isEmpty, Node.isEmptyGroup_iff]

/-- The number counts the places at which something is missing, and both verdicts follow from it: a
condition is complete when the number is zero, and it may be saved then and when it filters
nothing. -/
theorem missing_agrees (condition : Condition) :
    (condition.missing : ℕ∞) = condition.openPlaces.encard ∧
      (condition.isComplete = true ↔ condition.missing = 0) ∧
      (condition.isSubmittable = true ↔ condition.root = none ∨
        (∃ connective, condition.root = some (.group connective [])) ∨ condition.missing = 0) := by
  refine ⟨condition.encard_openPlaces.symm, condition.isComplete_iff, ?_⟩
  unfold isSubmittable
  rw [Bool.or_eq_true_iff, isEmpty_iff, isComplete_iff, or_assoc]

end Condition

end CardFilter
