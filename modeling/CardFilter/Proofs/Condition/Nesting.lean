import CardFilter.Condition.Completeness
import Mathlib.Data.List.Chain
import Mathlib.Order.Bounds.Basic

/-!
# How deep groups nest

Groups that lie inside one another form a descent: it starts at the root, and each group is a child
of the one before.  The depth is the length of the longest descent, so a limit is exceeded exactly
if some descent is longer than it.  Without a group at the root the only descent is the empty one.
-/

namespace CardFilter

namespace Node

def children : Node → List Node
  | .group _ children => children
  | .leaf _ => []

/-- Groups from a root on, each a child of the one before. -/
structure IsDescent (root : Option Node) (groups : List Node) : Prop where
  group : ∀ node ∈ groups, node.isGroup = true
  first : ∀ node, groups.head? = some node → root = some node
  child : groups.IsChain fun parent child ↦ child ∈ parent.children

theorem isDescent_nil (root : Option Node) : IsDescent root [] := ⟨nofun, nofun, .nil⟩

theorem isDescent_cons_iff {root : Option Node} {node : Node} {rest : List Node} :
    IsDescent root (node :: rest) ↔ root = some node ∧ node.isGroup = true ∧
      (rest = [] ∨ ∃ child ∈ node.children, IsDescent (some child) rest) := by
  constructor
  · rintro ⟨hgroup, hfirst, hchild⟩
    rw [List.forall_mem_cons] at hgroup
    refine ⟨hfirst node rfl, hgroup.1, ?_⟩
    cases rest with
    | nil => exact .inl rfl
    | cons child others =>
      obtain ⟨hmem, hrest⟩ := List.isChain_cons_cons.1 hchild
      exact .inr ⟨child, hmem, hgroup.2, fun _ hhead ↦ hhead, hrest⟩
  · rintro ⟨rfl, hgroup, rfl | ⟨child, hmem, hrest⟩⟩
    · exact ⟨by simpa using hgroup, fun _ hhead ↦ hhead, .singleton node⟩
    · refine ⟨List.forall_mem_cons.2 ⟨hgroup, hrest.group⟩, fun _ hhead ↦ hhead, ?_⟩
      cases rest with
      | nil => exact .singleton node
      | cons other others =>
        obtain rfl := Option.some.inj (hrest.first other rfl)
        exact .cons_cons hmem hrest.child

theorem depth_le_depthIn {node : Node} {nodes : List Node} (h : node ∈ nodes) :
    node.depth ≤ depthIn nodes := by
  induction nodes with
  | nil => cases h
  | cons first rest ih =>
    rw [depthIn]
    rcases List.mem_cons.1 h with rfl | h
    · exact Nat.le_max_left ..
    · exact (ih h).trans (Nat.le_max_right ..)

/-- No descent is longer than the depth. -/
theorem IsDescent.length_le {groups : List Node} {node : Node}
    (h : IsDescent (some node) groups) : groups.length ≤ node.depth := by
  -- The induction is on the descent: the node below is another one at each step.
  induction groups generalizing node with
  | nil => exact Nat.zero_le _
  | cons first rest ih =>
    obtain ⟨hfirst, hgroup, hrest⟩ := isDescent_cons_iff.1 h
    obtain rfl := Option.some.inj hfirst
    cases node with
    | leaf => cases hgroup
    | group connective children =>
      rw [List.length_cons, depth, Nat.add_le_add_iff_right]
      rcases hrest with rfl | ⟨child, hchild, hrest⟩
      · exact Nat.zero_le _
      · exact (ih hrest).trans (depth_le_depthIn hchild)

mutual

/-- Some descent is as long as the depth: it follows the deepest child. -/
theorem exists_descent : (node : Node) →
    ∃ groups, IsDescent (some node) groups ∧ groups.length = node.depth
  | .leaf item => ⟨[], isDescent_nil _, rfl⟩
  | .group connective children => by
    obtain ⟨groups, hgroups, hlength⟩ := exists_descentIn children
    refine ⟨.group connective children :: groups, isDescent_cons_iff.2 ⟨rfl, rfl, hgroups⟩, ?_⟩
    rw [List.length_cons, hlength, depth]

theorem exists_descentIn : (nodes : List Node) →
    ∃ groups, (groups = [] ∨ ∃ node ∈ nodes, IsDescent (some node) groups) ∧
      groups.length = depthIn nodes
  | [] => ⟨[], .inl rfl, rfl⟩
  | node :: rest => by
    obtain ⟨groups, hgroups, hlength⟩ := exists_descent node
    obtain ⟨others, hothers, hlengthOthers⟩ := exists_descentIn rest
    rw [depthIn]
    rcases Nat.le_total (depthIn rest) node.depth with hle | hle
    · exact ⟨groups, .inr ⟨node, by simp, hgroups⟩, by rw [hlength, Nat.max_eq_left hle]⟩
    · refine ⟨others, ?_, by rw [hlengthOthers, Nat.max_eq_right hle]⟩
      exact hothers.imp_right fun ⟨other, hmem, hother⟩ ↦
        ⟨other, List.mem_cons_of_mem _ hmem, hother⟩

end

end Node

namespace Condition

/-- The depth is the length of the longest descent. -/
theorem isGreatest_depth (condition : Condition) :
    IsGreatest {length | ∃ groups, Node.IsDescent condition.root groups ∧ groups.length = length}
      condition.depth := by
  obtain ⟨_ | root⟩ := condition
  · refine ⟨⟨[], Node.isDescent_nil none, rfl⟩, ?_⟩
    rintro _ ⟨groups, hgroups, rfl⟩
    cases groups with
    | nil => exact Nat.le_refl 0
    | cons node rest => cases hgroups.first node rfl
  · refine ⟨root.exists_descent, ?_⟩
    rintro _ ⟨groups, hgroups, rfl⟩
    exact hgroups.length_le

/-- A limit is exceeded by some descent if it is exceeded at all. -/
theorem exceeds_iff (condition : Condition) (limit : Nat) :
    condition.exceeds limit = true ↔
      ∃ groups, Node.IsDescent condition.root groups ∧ limit < groups.length := by
  obtain ⟨⟨groups, hgroups, hlength⟩, hupper⟩ := condition.isGreatest_depth
  rw [exceeds, decide_eq_true_iff]
  constructor
  · intro h
    exact ⟨groups, hgroups, hlength ▸ h⟩
  · rintro ⟨others, hothers, hlimit⟩
    exact hlimit.trans_le (hupper ⟨others, hothers, rfl⟩)

end Condition

end CardFilter
