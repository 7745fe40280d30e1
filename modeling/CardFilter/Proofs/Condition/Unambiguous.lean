import CardFilter.Condition.Preset
import CardFilter.Proofs.Condition.Carried
import CardFilter.Proofs.Condition.Phrases

/-!
# The line tells conditions apart

A complete condition can be read off its line, whatever its texts are, if what stands without quotes
is plain.  Parentheses, connectives and escapes inside texts do no harm.  What the line does not
show is the connective of a group with one child, and whether a date was given by a token.

The proof reads two equal lines from the left: they begin with the same node, and go on in the same
way.
-/

namespace CardFilter

open Text (IsWord Ends ends_cons ends_nil)

/-! ## What shows -/

namespace Node

mutual

/-- What shows of a node; a single child has no connective beside it. -/
def visible : Node → Node
  | .group connective children =>
    .group (if children.length = 1 then .and else connective) (allVisible children)
  | .leaf item => .leaf item.visible

def allVisible : List Node → List Node
  | [] => []
  | child :: rest => visible child :: allVisible rest

end

end Node

/-- What shows of a condition on its line. -/
def Condition.visible (condition : Condition) : Condition := ⟨condition.root.map Node.visible⟩

/-! ## Plain conditions -/

/-- A text of letters, digits, hyphens and underscores, and of further marks. -/
structure Text.IsPlain (marks : List Char) (text : String) : Prop where
  occupied : text ≠ ""
  only : text.toList.all (isPlainChar marks) = true

instance (marks : List Char) (text : String) : Decidable (Text.IsPlain marks text) :=
  decidable_of_iff (text ≠ "" ∧ text.toList.all (Text.isPlainChar marks) = true)
    ⟨fun h ↦ ⟨h.1, h.2⟩, fun h ↦ ⟨h.occupied, h.only⟩⟩

/-- The further marks in an identifier. -/
def Referent.marks : Referent → List Char
  | .link => [':']
  | _ => []

def DateValue.IsPlain : DateValue → Prop
  | .keyDate token => Text.IsPlain [] token
  | .specific text => Text.IsPlain [':', '+'] text

instance : (value : DateValue) → Decidable value.IsPlain
  | .keyDate token => inferInstanceAs (Decidable (Text.IsPlain [] token))
  | .specific text => inferInstanceAs (Decidable (Text.IsPlain [':', '+'] text))

/-- Whether a date stands in a comparison value, alone or as an end of a range. -/
def Operand.HoldsDate (operand : Operand) (value : DateValue) : Prop :=
  operand = .date (some value) ∨ (∃ upper, operand = .dateRange (some value) upper) ∨
    ∃ lower, operand = .dateRange lower (some value)

/-- Whether all that a leaf shows without quotes is plain. -/
structure Leaf.IsPlain (leaf : Leaf) : Prop where
  numberless : leaf.hasLiteral = false
  ids : ∀ referent id, leaf.Carries referent id → Text.IsPlain referent.marks id
  dates : ∀ test, leaf.test = some test → ∀ value, test.operand.HoldsDate value → value.IsPlain

/-- A complete condition of plain leaves. -/
structure Condition.IsPlain (condition : Condition) : Prop where
  complete : condition.isComplete = true
  leaves : ∀ leaf ∈ condition.leaves, leaf.IsPlain

/-! ## Plain leaves are legible -/

theorem Text.IsPlain.isWord {marks : List Char} {text : String} (h : IsPlain marks text)
    (hmarks : marks ⊆ [':', '+']) : IsWord text.toList := by
  refine ⟨fun hempty ↦ h.occupied (String.toList_eq_nil_iff.1 hempty), fun c hc ↦ ?_⟩
  have hplain := List.all_eq_true.1 h.only c hc
  simp only [isPlainChar, Bool.or_eq_true, List.contains_iff_mem] at hplain
  simp only [isWordChar, isPlainChar, Bool.or_eq_true, List.contains_iff_mem]
  exact hplain.imp_right fun hmark ↦ hmarks hmark

theorem Text.IsPlain.colon_notMem {text : String} (h : IsPlain [] text) : ':' ∉ text.toList := by
  intro hcolon
  exact absurd (List.all_eq_true.1 h.only ':' hcolon) (by decide)

theorem Referent.marks_subset (referent : Referent) : referent.marks ⊆ [':', '+'] := by
  cases referent <;> simp [marks]

theorem DateValue.IsPlain.isWord {value : DateValue} (h : value.IsPlain) :
    IsWord value.content.toList := by
  cases value with
  | keyDate => exact Text.IsPlain.isWord h (List.nil_subset _)
  | specific => exact Text.IsPlain.isWord h (List.Subset.refl _)

theorem NumberValue.exists_reference {value : Option NumberValue}
    (hfilled : value.any NumberValue.isFilled = true)
    (hliteral : value.any NumberValue.isLiteral = false) : ∃ id, value = some (.reference id) := by
  match value with
  | some (.reference id) => exact ⟨id, rfl⟩
  | some (.literal none) => cases hfilled
  | some (.literal (some _)) => cases hliteral
  | none => cases hfilled

namespace Leaf.IsPlain

variable {leaf : Leaf}

/-- The identifiers can be gone through in order. -/
theorem of_mentions (hnumberless : leaf.hasLiteral = false)
    (hids : ∀ mention ∈ leaf.mentions, ∀ id ∈ mention.ids, Text.IsPlain mention.referent.marks id)
    (hdates : ∀ test, leaf.test = some test → ∀ value, test.operand.HoldsDate value →
      value.IsPlain) : leaf.IsPlain := by
  refine ⟨hnumberless, fun referent id hid ↦ ?_, hdates⟩
  obtain ⟨mention, hmention, rfl, hmem⟩ := Leaf.carries_iff.1 hid
  exact hids mention hmention id hmem

theorem isWord (h : leaf.IsPlain) {referent : Referent} {id : String}
    (hid : leaf.Carries referent id) : IsWord id.toList :=
  (h.ids referent id hid).isWord referent.marks_subset

theorem identity (h : leaf.IsPlain) (hfilled : leaf.subject.identity.isFilled = true) :
    leaf.subject.identity.IsLegible leaf.kind := by
  have hadmitted := leaf.subject.admitted
  cases hidentity : leaf.subject.identity with
  | implied => exact .implied
  | named id =>
    have hcarries := Leaf.carries_of_identity hidentity
    refine .named (h.isWord hcarries) fun hkind ↦ ?_
    have hplain := h.ids _ _ hcarries
    rw [hkind] at hplain
    exact hplain.colon_notMem
  | system field =>
    rw [hidentity] at hfilled hadmitted
    obtain ⟨date, rfl⟩ := Option.isSome_iff_exists.1 hfilled
    refine .system date ?_
    generalize leaf.kind = kind at hadmitted
    cases kind <;> first | rfl | cases hadmitted

theorem operand (h : leaf.IsPlain) {test : Test leaf.kind} (htest : leaf.test = some test)
    (hfilled : test.isFilled = true) : test.operand.IsLegible := by
  have hnumberless : test.operand.hasLiteral = false := by
    have hleaf := h.numberless
    rwa [Leaf.hasLiteral, htest] at hleaf
  rw [Test.isFilled] at hfilled
  cases hoperand : test.operand with
  | nothing => exact .nothing
  | text value => exact .text value
  | cycles values => exact .cycles values
  | number value =>
    rw [hoperand] at hfilled hnumberless
    obtain ⟨id, rfl⟩ := NumberValue.exists_reference hfilled hnumberless
    exact .number (h.isWord (Leaf.carries_of_compares htest (.inl hoperand)))
  | numberRange lower upper =>
    rw [hoperand] at hfilled hnumberless
    obtain ⟨hlower, hupper⟩ := Bool.and_eq_true_iff.1 hfilled
    obtain ⟨hlowers, huppers⟩ := Bool.or_eq_false_iff.1 hnumberless
    obtain ⟨first, rfl⟩ := NumberValue.exists_reference hlower hlowers
    obtain ⟨last, rfl⟩ := NumberValue.exists_reference hupper huppers
    exact .numberRange (h.isWord (Leaf.carries_of_compares htest (.inr (.inl ⟨_, hoperand⟩))))
      (h.isWord (Leaf.carries_of_compares htest (.inr (.inr ⟨_, hoperand⟩))))
  | date value =>
    rw [hoperand] at hfilled
    obtain ⟨value, rfl, -⟩ := (Option.any_eq_true _ _).1 hfilled
    exact .date (h.dates test htest value (.inl hoperand)).isWord
  | dateRange lower upper =>
    rw [hoperand] at hfilled
    obtain ⟨hlower, hupper⟩ := Bool.and_eq_true_iff.1 hfilled
    obtain ⟨first, rfl, -⟩ := (Option.any_eq_true _ _).1 hlower
    obtain ⟨last, rfl, -⟩ := (Option.any_eq_true _ _).1 hupper
    exact .dateRange (h.dates test htest first (.inr (.inl ⟨_, hoperand⟩))).isWord
      (h.dates test htest last (.inr (.inr ⟨_, hoperand⟩))).isWord
  | one sort id => exact .one (h.isWord (Leaf.carries_of_lists htest (.inl hoperand)))
  | many sort ids =>
    exact .many fun id hid ↦
      h.isWord (Leaf.carries_of_lists htest (.inr ⟨ids, hoperand, hid⟩))
  | cards ids =>
    rw [hoperand] at hfilled
    obtain ⟨ids, rfl, -⟩ := (Option.any_eq_true _ _).1 hfilled
    refine .cards fun id hid ↦ h.isWord (Leaf.carries_of_operand htest ?_)
    rw [hoperand]
    exact hid

theorem isLegible (h : leaf.IsPlain) (hcomplete : leaf.isComplete = true) : leaf.IsLegible := by
  obtain ⟨hsubject, hfilled⟩ := Bool.and_eq_true_iff.1 hcomplete
  obtain ⟨kind, subject, _ | test⟩ := leaf
  · cases hfilled
  · have hidentity := h.identity (Bool.and_eq_true_iff.1 hsubject).1
    exact .mk (fun way hway hop hhop ↦ h.isWord (.hop hway hhop)) hidentity (h.operand rfl hfilled)

end Leaf.IsPlain

/-! ## Nodes -/

namespace Node

mutual

theorem chars_visible : (node : Node) → node.visible.chars = node.chars
  | .leaf item => item.chars_visible
  | .group connective children => by
    have hchildren := allChars_allVisible
      (if children.length = 1 then .and else connective) children
    rw [visible, chars, chars, hchildren]
    match children with
    | [] => rfl
    | [child] => rfl
    | _ :: _ :: _ => rfl

theorem allChars_allVisible (connective : Connective) : (nodes : List Node) →
    allChars connective (allVisible nodes) = allChars connective nodes
  | [] => rfl
  | [node] => chars_visible node
  | node :: next :: rest => by
    have hrest := allChars_allVisible connective (next :: rest)
    rw [allVisible] at hrest
    simp only [allVisible, allChars, chars_visible node, hrest]

end

/-- Whether a node is complete and its leaves are legible. -/
structure IsLegible (node : Node) : Prop where
  complete : node.isComplete = true
  leaves : ∀ leaf ∈ node.leaves, leaf.IsLegible

/-- Whether the same holds of all nodes. -/
structure AllLegible (nodes : List Node) : Prop where
  complete : allComplete nodes = true
  leaves : ∀ leaf ∈ allLeaves nodes, leaf.IsLegible

theorem IsLegible.of_leaf {item : Leaf} (h : (leaf item).IsLegible) : item.IsLegible :=
  h.leaves item List.mem_cons_self

theorem IsLegible.of_group {connective : Connective} {children : List Node}
    (h : (group connective children).IsLegible) : children ≠ [] ∧ AllLegible children := by
  obtain ⟨hsome, hcomplete⟩ := Bool.and_eq_true_iff.1 h.complete
  exact ⟨by simpa using hsome, hcomplete, h.leaves⟩

theorem AllLegible.of_cons {node : Node} {nodes : List Node} (h : AllLegible (node :: nodes)) :
    node.IsLegible ∧ AllLegible nodes := by
  obtain ⟨hnode, hnodes⟩ := Bool.and_eq_true_iff.1 h.complete
  have hleaves := List.forall_mem_append.1 h.leaves
  exact ⟨⟨hnode, hleaves.1⟩, hnodes, hleaves.2⟩

theorem length_allVisible (nodes : List Node) : (allVisible nodes).length = nodes.length := by
  induction nodes with
  | nil => rfl
  | cons node nodes ih => rw [allVisible, List.length_cons, ih, List.length_cons]

/-- The connective stands behind the first child. -/
theorem allChars_append (connective : Connective) (node next : Node) (nodes : List Node)
    (rest : List Char) :
    allChars connective (node :: next :: nodes) ++ rest = node.chars ++
      ' ' :: (connective.name.toList ++ ' ' :: (allChars connective (next :: nodes) ++ rest)) := by
  simp only [allChars, List.append_assoc, List.cons_append]

mutual

/-- Two lines that begin with nodes begin with the same one, as far as it shows. -/
theorem chars_append_inj {rest behind : List Char} : (node other : Node) → node.IsLegible →
    other.IsLegible → Ends rest → Ends behind → node.chars ++ rest = other.chars ++ behind →
    node.visible = other.visible ∧ rest = behind
  | .leaf item, .leaf another, hnode, hother, hrest, hbehind, h => by
    obtain ⟨hvisible, hsame⟩ := Leaf.chars_append_inj hnode.of_leaf hother.of_leaf hrest hbehind h
    exact ⟨congrArg Node.leaf hvisible, hsame⟩
  | .leaf item, .group _ _, _, _, _, _, h => absurd h.symm (item.cons_ne_chars (by decide))
  | .group _ _, .leaf item, _, _, _, _, h => absurd h (item.cons_ne_chars (by decide))
  | .group connective children, .group another others, hnode, hother, _, _, h => by
    have hlist : allChars connective children ++ ')' :: rest =
        allChars another others ++ ')' :: behind := by
      simpa only [chars, List.cons_append, List.append_assoc, List.cons.injEq, true_and,
        List.nil_append] using h
    obtain ⟨hsome, hchildren⟩ := hnode.of_group
    obtain ⟨hothers, hall⟩ := hother.of_group
    obtain ⟨hvisible, hconnective, hsame⟩ :=
      allChars_append_inj children others hsome hothers hchildren hall hlist
    -- Either connective is hidden by the same count of children, or both show.
    have hlength := congrArg List.length hvisible
    rw [length_allVisible, length_allVisible] at hlength
    refine ⟨?_, hsame⟩
    rw [visible, visible, hvisible, ← hlength]
    split
    · rfl
    · rename_i hmany
      rw [hconnective.resolve_left hmany]

/-- Children are told apart up to the end of their group, and the connective shows between the first
two of them. -/
theorem allChars_append_inj {connective another : Connective} {rest behind : List Char} :
    (nodes others : List Node) → nodes ≠ [] → others ≠ [] → AllLegible nodes → AllLegible others →
    allChars connective nodes ++ ')' :: rest = allChars another others ++ ')' :: behind →
    allVisible nodes = allVisible others ∧ (nodes.length = 1 ∨ connective = another) ∧
      rest = behind
  | [], _, hsome, _, _, _, _ => absurd rfl hsome
  | _, [], _, hsome, _, _, _ => absurd rfl hsome
  | [node], [other], _, _, hnodes, hothers, h => by
    obtain ⟨hvisible, hsame⟩ := chars_append_inj node other hnodes.of_cons.1 hothers.of_cons.1
      (ends_cons (by decide) _) (ends_cons (by decide) _) h
    exact ⟨congrArg (fun node ↦ [node]) hvisible, .inl rfl, (List.cons.inj hsame).2⟩
  | [node], other :: next :: others, _, _, hnodes, hothers, h => by
    -- One group ends where the other goes on with its connective.
    rw [allChars_append] at h
    have hsame := (chars_append_inj node other hnodes.of_cons.1 hothers.of_cons.1
      (ends_cons (by decide) _) (ends_cons (by decide) _) h).2
    exact absurd (List.cons.inj hsame).1 (by decide)
  | node :: next :: nodes, [other], _, _, hnodes, hothers, h => by
    rw [allChars_append] at h
    have hsame := (chars_append_inj node other hnodes.of_cons.1 hothers.of_cons.1
      (ends_cons (by decide) _) (ends_cons (by decide) _) h).2
    exact absurd (List.cons.inj hsame).1 (by decide)
  | node :: next :: nodes, other :: following :: others, _, _, hnodes, hothers, h => by
    obtain ⟨hnode, hmore⟩ := hnodes.of_cons
    obtain ⟨hother, hfollowing⟩ := hothers.of_cons
    rw [allChars_append, allChars_append] at h
    obtain ⟨hvisible, hnext⟩ := chars_append_inj node other hnode hother
      (ends_cons (by decide) _) (ends_cons (by decide) _) h
    obtain ⟨hname, hrest⟩ := connective.isWord_name.append_inj another.isWord_name
      (ends_cons (by decide) _) (ends_cons (by decide) _) (List.cons.inj hnext).2
    obtain ⟨hvisibles, -, hsame⟩ := allChars_append_inj (next :: nodes) (following :: others)
      (List.cons_ne_nil _ _) (List.cons_ne_nil _ _) hmore hfollowing (List.cons.inj hrest).2
    have hconnective := Connective.name_injective (String.toList_inj.1 hname)
    exact ⟨List.cons_eq_cons.2 ⟨hvisible, hvisibles⟩, .inr hconnective, hsame⟩

end

theorem cons_ne_chars {rest : List Char} (node : Node) : '<' :: rest ≠ node.chars := by
  cases node with
  | leaf item =>
    have hne : '<' :: rest ≠ item.chars ++ [] := item.cons_ne_chars (by decide)
    rwa [List.append_nil] at hne
  | group connective children => exact fun h ↦ absurd (List.cons.inj h).1 (by decide)

end Node

/-! ## Conditions -/

namespace Condition

theorem text_visible (condition : Condition) : condition.visible.text = condition.text := by
  obtain ⟨_ | root⟩ := condition
  · rfl
  · exact congrArg String.ofList root.chars_visible

theorem IsPlain.isLegible {root : Node} (h : (ofNode root).IsPlain) : root.IsLegible :=
  ⟨h.complete, fun leaf hleaf ↦
    (h.leaves leaf hleaf).isLegible (root.isComplete_of_mem_leaves h.complete hleaf)⟩

/-- The line of a complete and plain condition shows the condition, but for the connective of a
group with one child and for the way in which dates are given. -/
theorem text_eq_iff_visible_eq {first second : Condition} (hfirst : first.IsPlain)
    (hsecond : second.IsPlain) : first.text = second.text ↔ first.visible = second.visible := by
  constructor
  · intro h
    have hchars : first.chars = second.chars := String.ofList_injective h
    obtain ⟨_ | root⟩ := first <;> obtain ⟨_ | other⟩ := second
    · rfl
    -- A missing root is put as no node is.
    · exact absurd hchars other.cons_ne_chars
    · exact absurd hchars.symm root.cons_ne_chars
    · have hroots : root.chars ++ [] = other.chars ++ [] := by
        rw [List.append_nil, List.append_nil]
        exact hchars
      have hvisible := (Node.chars_append_inj root other hfirst.isLegible hsecond.isLegible
        ends_nil ends_nil hroots).1
      exact congrArg ofNode hvisible
  · intro h
    rw [← first.text_visible, h, second.text_visible]

/-- A text that looks like the end of a group and the beginning of another one, in front of a group
with one child.  Neither the connective of that group nor the way in which its date is given
shows. -/
theorem text_eq_iff_visible_eq_nested :
    let text : Leaf := ⟨.text, ⟨.named "f1", none, rfl⟩,
      some ⟨⟨"EQ", .eq, .text⟩, .text "a\") OR (b", by decide, rfl⟩⟩
    let date (value : DateValue) : Leaf :=
      ⟨.date, ⟨.named "due", some ⟨["l1:SOURCE"]⟩, rfl⟩, some (.isBefore value)⟩
    let nested (connective : Connective) (value : DateValue) :=
      ofNode (.group .or [.leaf text, .group connective [.leaf (date value)]])
    let first := nested .and (.keyDate "2024-01-05")
    let second := nested .or (.specific "2024-01-05")
    first.IsPlain ∧ second.IsPlain ∧ first.text = second.text ∧ first.visible = second.visible ∧
      first ≠ second := by
  intro text date nested first second
  have htext : text.IsPlain := by
    refine .of_mentions rfl (by decide) ?_
    rintro _ ⟨⟩ _ (h | ⟨_, h⟩ | ⟨_, h⟩) <;> cases h
  have hdate {value : DateValue} (hvalue : value.IsPlain) : (date value).IsPlain := by
    have hmentions : (date value).mentions =
        [⟨.link, ["l1:SOURCE"]⟩, ⟨.field, ["due"]⟩, ⟨.field, []⟩] := rfl
    refine .of_mentions rfl (by rw [hmentions]; decide) ?_
    rintro _ ⟨⟩ _ (h | ⟨_, h⟩ | ⟨_, h⟩) <;> cases h
    exact hvalue
  have hleaves {connective : Connective} {value : DateValue} (hvalue : value.IsPlain) :
      ∀ leaf ∈ (nested connective value).leaves, leaf.IsPlain := by
    have hlist : (nested connective value).leaves = [text, date value] := rfl
    rw [hlist, List.forall_mem_cons, List.forall_mem_singleton]
    exact ⟨htext, hdate hvalue⟩
  have hfirst : first.IsPlain := ⟨by decide, hleaves (by decide)⟩
  have hsecond : second.IsPlain := ⟨by decide, hleaves (by decide)⟩
  have hsame : first.text = second.text := by rfl
  exact ⟨hfirst, hsecond, hsame, (text_eq_iff_visible_eq hfirst hsecond).1 hsame, by decide⟩

end Condition

end CardFilter
