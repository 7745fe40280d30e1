import CardFilter.Proofs.Condition.Missing
import CardFilter.Proofs.Condition.Replaced
import CardFilter.Proofs.Condition.Unions

/-!
# Children pushed onto groups

A group somewhere in a condition gets a last child.  What an editor shows of the condition then
follows from what it showed before and from the new node alone: the number of missing things, the
depth, the references.  The number does not simply add up, because an empty group is itself a
missing thing until its first child comes.

An edit at a place replaces the node there and rebuilds the groups above it.  What this does to a
number is found on the way back up, one group at a time; a group that has been walked through has a
child, so the rule for empty groups is met at the place alone.
-/

namespace CardFilter

/-! ## Numbers and replaced nodes -/

namespace Node

theorem missing_group {connective : Connective} {children : List Node} (h : children ≠ []) :
    (group connective children).missing = missingIn children := by
  cases children with
  | nil => exact absurd rfl h
  | cons child rest => rfl

theorem missingIn_set {children : List Node} {index : Nat} {child : Node}
    (h : children[index]? = some child) (changed : Node) :
    missingIn (children.set index changed) + child.missing =
      missingIn children + changed.missing := by
  induction children generalizing index with
  | nil => cases h
  | cons first rest ih =>
    cases index with
    | zero =>
      obtain rfl := Option.some.inj h
      rw [List.set_cons_zero, missingIn, missingIn]
      omega
    | succ index =>
      have hrest := ih h
      rw [List.set_cons_succ, missingIn, missingIn]
      omega

theorem depthIn_set {children : List Node} {index depth : Nat} {child changed : Node}
    (h : children[index]? = some child) (hdepth : changed.depth = max child.depth depth) :
    depthIn (children.set index changed) = max (depthIn children) depth := by
  induction children generalizing index with
  | nil => cases h
  | cons first rest ih =>
    cases index with
    | zero =>
      obtain rfl := Option.some.inj h
      rw [List.set_cons_zero, depthIn, depthIn, hdepth, max_right_comm]
    | succ index => rw [List.set_cons_succ, depthIn, depthIn, ih h, max_assoc]

namespace Replaced

variable {old new root changed : Node} {place : List Nat}

theorem missing_add (h : Replaced old new place root changed) :
    changed.missing + old.missing = root.missing + new.missing := by
  induction h with
  | here => exact Nat.add_comm _ _
  | @inside connective children index rest child changed hchild _ ih =>
    -- A group on the way has a child before and after, so it is never the missing thing itself.
    have hsome : children ≠ [] := by
      rintro rfl
      cases hchild
    have hset := missingIn_set hchild changed
    rw [missing_group hsome, missing_group (mt (List.set_eq_nil_iff ..).1 hsome)]
    omega

theorem depth_eq (h : Replaced old new place root changed) {depth : Nat}
    (hdepth : new.depth = max old.depth depth) :
    changed.depth = max root.depth (place.length + depth) := by
  induction h with
  | here => rwa [List.length_nil, Nat.zero_add]
  | inside hchild _ ih =>
    rw [Node.depth, Node.depth, depthIn_set hchild ih, List.length_cons, ← Nat.add_max_add_right,
      Nat.add_right_comm]

theorem isEmptyGroup_eq (h : Replaced old new place root changed)
    (hnew : new.isEmptyGroup = false) : changed.isEmptyGroup = false := by
  cases h with
  | here => exact hnew
  | @inside connective children index _ _ _ hchild =>
    rw [isEmptyGroup, List.isEmpty_eq_false_iff]
    rintro hempty
    rw [List.set_eq_nil_iff] at hempty
    rw [hempty] at hchild
    cases hchild

end Replaced

/-! ## The group itself -/

theorem missingIn_append_singleton (children : List Node) (node : Node) :
    missingIn (children ++ [node]) = missingIn children + node.missing := by
  induction children with
  | nil => simp [missingIn]
  | cons first rest ih => rw [List.cons_append, missingIn, missingIn, ih, Nat.add_assoc]

/-- With its first child a group is no missing thing any more. -/
theorem missing_append_singleton (connective : Connective) (children : List Node) (node : Node) :
    (group connective (children ++ [node])).missing + (if children.isEmpty then 1 else 0) =
      (group connective children).missing + node.missing := by
  rw [missing_group (by simp), missingIn_append_singleton]
  cases children with
  | nil => simp [missing, missingIn, Nat.add_comm]
  | cons first rest => rfl

theorem depthIn_append_singleton (children : List Node) (node : Node) :
    depthIn (children ++ [node]) = max (depthIn children) node.depth := by
  induction children with
  | nil => simp [depthIn]
  | cons first rest ih => rw [List.cons_append, depthIn, depthIn, ih, max_assoc]

theorem depth_append_singleton (connective : Connective) (children : List Node) (node : Node) :
    (group connective (children ++ [node])).depth =
      max (group connective children).depth (node.depth + 1) := by
  rw [depth, depth, depthIn_append_singleton, Nat.add_max_add_right]

theorem content_at?_append_singleton (connective : Connective) (children : List Node) (node : Node)
    {place : List Nat} (h : ¬ [children.length] <+: place) :
    ((group connective (children ++ [node])).at? place).map content =
      ((group connective children).at? place).map content := by
  cases place with
  | nil => rfl
  | cons index rest =>
    have hindex : index ≠ children.length := by
      rintro rfl
      exact h ⟨rest, rfl⟩
    rw [at?, at?]
    rcases Nat.lt_or_gt_of_ne hindex with hlt | hgt
    · rw [List.getElem?_append_left hlt]
    · rw [List.getElem?_eq_none (by simpa using hgt), List.getElem?_eq_none hgt.le]

theorem map_content_eq_leaf_iff {node : Option Node} {leaf : Leaf} :
    node.map content = some (.inr leaf) ↔ node = some (.leaf leaf) := by
  match node with
  | none => simp
  | some (.group connective children) => simp [content]
  | some (.leaf item) => simp [content]

/-- How many groups are met on the way to a place, the node there included. -/
def groupsTo (place : List Nat) (root : Node) : Nat :=
  (place.inits.filterMap fun above ↦ root.at? above).countP isGroup

/-- Only groups are walked through. -/
theorem groupsTo_eq {root : Node} {place : List Nat} {connective : Connective}
    {children : List Node} (h : root.at? place = some (.group connective children)) :
    root.groupsTo place = place.length + 1 := by
  induction place generalizing root with
  | nil =>
    rw [at?] at h
    obtain rfl := Option.some.inj h
    rfl
  | cons index rest ih =>
    cases root with
    | leaf => cases h
    | group above others =>
      obtain ⟨child, hchild, hbelow⟩ := Option.bind_eq_some_iff.1 h
      have hwalk : (fun place ↦ (group above others).at? place) ∘ (index :: ·) =
          fun place ↦ child.at? place := by
        funext place
        rw [Function.comp_apply, at?, hchild, Option.bind_some]
      have hrest := ih hbelow
      rw [groupsTo] at hrest
      rw [groupsTo, List.inits_cons, List.filterMap_cons, at?, List.filterMap_map, hwalk,
        List.countP_cons, hrest, List.length_cons]
      rfl

end Node

namespace Condition

/-- How many groups are met on the way to a place, the node there included. -/
def groupsTo (place : List Nat) (condition : Condition) : Nat :=
  (condition.root.map (Node.groupsTo place)).getD 0

/-- The node is the last child of the group at a place, and everything else is as it was. -/
structure PushedAt (place : List Nat) (connective : Connective) (children : List Node)
    (node : Node) (before after : Condition) : Prop where
  was : before.at? place = some (.group connective children)
  is : after.at? place = some (.group connective (children ++ [node]))
  others : ∀ other, ¬ place ++ [children.length] <+: other →
    (after.at? other).map Node.content = (before.at? other).map Node.content

variable {condition changed : Condition} {place : List Nat} {connective : Connective}
  {children : List Node} {node : Node}

namespace PushedAt

theorem at?_new (h : PushedAt place connective children node condition changed)
    (rest : List Nat) :
    condition.at? (place ++ [children.length] ++ rest) = none ∧
      changed.at? (place ++ [children.length] ++ rest) = node.at? rest := by
  rw [List.append_assoc, at?_append, at?_append, h.was, h.is, Option.bind_some, Option.bind_some,
    List.singleton_append, Node.at?, Node.at?, List.getElem?_concat_length]
  simp

/-- The new node adds what it carries itself. -/
theorem carries_iff (h : PushedAt place connective children node condition changed)
    (referent : Referent) (id : String) :
    changed.Carries referent id ↔
      condition.Carries referent id ∨ (ofNode node).Carries referent id := by
  have hkept {other : List Nat} (hother : ¬ place ++ [children.length] <+: other) (leaf : Leaf) :
      changed.at? other = some (.leaf leaf) ↔ condition.at? other = some (.leaf leaf) := by
    rw [← Node.map_content_eq_leaf_iff, h.others other hother, Node.map_content_eq_leaf_iff]
  constructor
  · rintro ⟨other, leaf, hleaf, hcarries⟩
    by_cases hbelow : place ++ [children.length] <+: other
    · obtain ⟨rest, rfl⟩ := hbelow
      exact .inr ⟨rest, leaf, (h.at?_new rest).2.symm.trans hleaf, hcarries⟩
    · exact .inl ⟨other, leaf, (hkept hbelow leaf).1 hleaf, hcarries⟩
  · rintro (⟨other, leaf, hleaf, hcarries⟩ | ⟨rest, leaf, hleaf, hcarries⟩)
    · refine ⟨other, leaf, (hkept ?_ leaf).2 hleaf, hcarries⟩
      rintro ⟨rest, rfl⟩
      rw [(h.at?_new rest).1] at hleaf
      cases hleaf
    · exact ⟨_, leaf, (h.at?_new rest).2.trans hleaf, hcarries⟩

end PushedAt

/-- A push onto a group at any place goes through.  The number of missing things grows by those in
the new node, less the one that an empty group was; the depth is the old one, or the number of
groups on the way and the depth of the new node; the references are joined; and the condition is
not empty any more. -/
theorem push_grows (node : Node) (h : condition.at? place = some (.group connective children)) :
    ∃ changed, condition.pushAt place node = .ok changed ∧
      changed.missing + (if children.isEmpty then 1 else 0) = condition.missing + node.missing ∧
      changed.depth = max condition.depth (condition.groupsTo place + node.depth) ∧
      changed.references = condition.references.union (ofNode node).references ∧
      changed.isEmpty = false ∧
      PushedAt place connective children node condition changed := by
  obtain ⟨root, changed, rfl, hchanged, hreplaced⟩ :=
    exists_modifyAt (fun group ↦ group.push node) h rfl
  have hmissing := hreplaced.missing_add
  have hgroup := Node.missing_append_singleton connective children node
  have hdepth := hreplaced.depth_eq (Node.depth_append_singleton connective children node)
  have hgroups : (ofNode root).groupsTo place = place.length + 1 := Node.groupsTo_eq h
  have hnew : (ofNode changed).at? place = some (.group connective (children ++ [node])) :=
    hreplaced.at?_place
  have hpushed : PushedAt place connective children node (ofNode root) (ofNode changed) := by
    refine ⟨h, hnew, fun other hother ↦ ?_⟩
    by_cases hbelow : place <+: other
    · obtain ⟨rest, rfl⟩ := hbelow
      have hrest : ¬ [children.length] <+: rest :=
        fun hprefix ↦ hother ((List.prefix_append_right_inj place).2 hprefix)
      rw [at?_append, at?_append, h, hnew]
      exact Node.content_at?_append_singleton connective children node hrest
    · exact hreplaced.content_at? hbelow
  refine ⟨ofNode changed, hchanged, ?_, ?_, references_eq_union hpushed.carries_iff, ?_, hpushed⟩
  · change changed.missing + _ = root.missing + node.missing
    omega
  · rw [hgroups, Nat.add_assoc, Nat.add_comm 1]
    exact hdepth
  · exact hreplaced.isEmptyGroup_eq (by simp [Node.isEmptyGroup])

/-- The first child of an empty group: one missing thing goes and another one comes, and an option
joins the one that its field has already. -/
theorem push_grows_first :
    let chosen (id : String) : Node :=
      .leaf ⟨.enum, ⟨.named "f", none, rfl⟩,
        some ⟨⟨"EQ", .eq, .one .option⟩, .one .option id, by decide, rfl⟩⟩
    let title : Node := .leaf ⟨.title, ⟨.implied, none, rfl⟩, none⟩
    let condition := ofNode (.group .and [chosen "o", .group .or []])
    let node : Node := .group .and [title, chosen "p"]
    condition.at? [1] = some (.group .or []) ∧ condition.missing = 1 ∧
      ∃ changed, condition.pushAt [1] node = .ok changed ∧ changed.missing = 1 ∧
        changed.depth = 3 ∧ changed.references.options = [("f", ["o", "p"])] ∧
        changed.isEmpty = false ∧ PushedAt [1] .or [] node condition changed := by
  intro chosen title condition node
  have hgroup : condition.at? [1] = some (.group .or []) := rfl
  obtain ⟨changed, hchanged, hmissing, hdepth, hreferences, hempty, hpushed⟩ :=
    push_grows node hgroup
  refine ⟨hgroup, by decide, changed, hchanged, ?_, ?_, ?_, hempty, hpushed⟩
  · exact Nat.add_right_cancel hmissing
  · exact hdepth
  · rw [hreferences]
    decide

end Condition

end CardFilter
