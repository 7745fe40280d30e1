import CardFilter.Condition.Edit
import Mathlib.Data.List.Infix

/-!
# Replaced nodes

An edit at a place puts another node there and rebuilds the groups above it.  So at the place there
is the new node, and at all places but those below it the same is said as before.
-/

namespace CardFilter

namespace Node

/-- What a node says itself, beside its children. -/
def content : Node → Connective ⊕ Leaf
  | .group connective _ => .inl connective
  | .leaf item => .inr item

theorem at?_append (place rest : List Nat) (root : Node) :
    root.at? (place ++ rest) = (root.at? place).bind (at? rest) := by
  induction place generalizing root with
  | nil => rfl
  | cons index others ih =>
    cases root with
    | leaf => rfl
    | group connective children =>
      rw [List.cons_append, at?, at?, Option.bind_assoc]
      exact Option.bind_congr fun child _ ↦ ih child

/-- The node at a place is another one, and nothing else has changed. -/
inductive Replaced (old new : Node) : List Nat → Node → Node → Prop
  | here : Replaced old new [] old new
  | inside {connective : Connective} {children : List Node} {index : Nat} {rest : List Nat}
      {child changed : Node} : children[index]? = some child → Replaced old new rest child changed →
    Replaced old new (index :: rest) (.group connective children)
      (.group connective (children.set index changed))

theorem exists_modifyAt (edit : Node → Except Refusal Node) {root old new : Node}
    {place : List Nat} (hold : root.at? place = some old) (hedit : edit old = .ok new) :
    ∃ changed, root.modifyAt edit place = .ok changed ∧ Replaced old new place root changed := by
  induction place generalizing root with
  | nil =>
    rw [at?] at hold
    obtain rfl := Option.some.inj hold
    exact ⟨new, hedit, .here⟩
  | cons index rest ih =>
    cases root with
    | leaf => cases hold
    | group connective children =>
      obtain ⟨child, hchild, hbelow⟩ := Option.bind_eq_some_iff.1 hold
      obtain ⟨changed, hchanged, hreplaced⟩ := ih hbelow
      refine ⟨.group connective (children.set index changed), ?_, .inside hchild hreplaced⟩
      rw [modifyAt, hchild]
      simp only [hchanged, Except.map]

namespace Replaced

variable {old new root changed : Node} {place : List Nat}

theorem at?_place (h : Replaced old new place root changed) : changed.at? place = some new := by
  induction h with
  | here => rw [at?]
  | inside hchild _ ih =>
    rw [at?, List.getElem?_set_self (List.getElem?_eq_some_iff.1 hchild).1]
    exact ih

/-- Elsewhere the same is said. -/
theorem content_at? (h : Replaced old new place root changed) {other : List Nat}
    (hother : ¬ place <+: other) :
    (changed.at? other).map content = (root.at? other).map content := by
  induction h generalizing other with
  | here => exact absurd List.nil_prefix hother
  | @inside connective children index rest child changed hchild _ ih =>
    cases other with
    | nil => rfl
    | cons first others =>
      rw [at?, at?]
      by_cases hfirst : index = first
      · subst hfirst
        rw [List.getElem?_set_self (List.getElem?_eq_some_iff.1 hchild).1, hchild]
        exact ih fun hprefix ↦ hother (List.prefix_cons_inj _ |>.2 hprefix)
      · rw [List.getElem?_set_ne hfirst]

end Replaced

end Node

namespace Condition

theorem at?_append (condition : Condition) (place rest : List Nat) :
    condition.at? (place ++ rest) = (condition.at? place).bind (Node.at? rest) := by
  rw [at?, at?, Option.bind_assoc]
  exact Option.bind_congr fun root _ ↦ root.at?_append place rest

/-- An edit that can be made on the node at a place goes through. -/
theorem exists_modifyAt (edit : Node → Except Refusal Node) {condition : Condition}
    {place : List Nat} {old new : Node} (hold : condition.at? place = some old)
    (hedit : edit old = .ok new) :
    ∃ root changed, condition = ofNode root ∧ condition.modifyAt place edit = .ok (ofNode changed) ∧
      Node.Replaced old new place root changed := by
  obtain ⟨_ | root⟩ := condition
  · cases hold
  · obtain ⟨changed, hchanged, hreplaced⟩ := Node.exists_modifyAt edit hold hedit
    refine ⟨root, changed, rfl, ?_, hreplaced⟩
    simp only [modifyAt, hchanged, Except.map]

end Condition

end CardFilter
