import CardFilter.Condition.Completeness
import CardFilter.Proofs.Condition.Nodes
import CardFilter.Proofs.Condition.Subjects

/-!
# What unread values do to completeness

A leaf loses a value when its subject, its test or the built-in date of its subject cannot be read.
What is lost is left unset, and a leaf with an unset part is meant to be incomplete.  That holds of
a test and of a subject that has to be named.  It fails for a subject that the kind implies: unset,
it still looks like a subject without a path, so the leaf is complete as soon as its test is.  The
results say exactly which leaves and which documents are complete although a value was lost.
-/

namespace CardFilter

open Reading (Unread lenient)

/-! ## Losses of one leaf -/

/-- A value of a leaf that cannot be read: its subject, its test, or the built-in date in it. -/
inductive Leaf.Loses (kind : Kind) (fields : List (String × Json)) : Prop
  | subject : Unread (Subject.read? kind) (fields.lookup "subject") → Loses kind fields
  | test : Unread (Test.read? kind) (fields.lookup "operator") → Loses kind fields
  | date {value rest : Json} : kind = .date → fields.lookup "subject" = some value →
    value.canonical.tagged? "type" = some (.string "SYSTEM", rest) →
    Unread (Json.choice? false SystemDate.named)
      ((rest.fields ["systemField", "path"]).lookup "systemField") →
    Loses kind fields

/-- A leaf whose subject goes without saying and whose test is read and filled. -/
def Leaf.Excused (kind : Kind) (fields : List (String × Json)) : Prop :=
  kind.subjectForm = .implied ∧ ∃ value test, fields.lookup "operator" = some value ∧
    Test.read? kind value.canonical = some test ∧ test.isFilled = true

theorem Kind.eq_date {kind : Kind} (h : kind.subjectForm = .date) : kind = .date := by
  cases kind <;> first | rfl | cases h

theorem Subject.isFilled_unset (kind : Kind) :
    (Subject.unset kind).isFilled = true ↔ kind.subjectForm = .implied := by
  cases kind <;> decide

/-- The date of a record in order is looked up where it stands, unless the record is unread. -/
theorem readSystemFields_cases {rest : Json}
    (h : ∀ members, rest = .object members → Table.Sorted members) :
    (readSystemFields rest).value = none ∨
      ∃ path, readSystemFields rest =
        ⟨some ((readSystemDate ((rest.fields ["systemField", "path"]).lookup "systemField")).value,
          path),
        (readSystemDate ((rest.fields ["systemField", "path"]).lookup "systemField")).discarded⟩ := by
  cases rest with
  | null | bool | number | string => exact .inl rfl
  | array items =>
    -- The date is the first element, so no path can stop the reading before it.
    have hlookup : ((Json.fields ["systemField", "path"] (.array items)).takeWhile fun field ↦
        field.1 != "path" || (Json.nullable? Path.read? field.2).isSome).lookup "systemField" =
        (Json.fields ["systemField", "path"] (.array items)).lookup "systemField" := by
      match items with
      | [] => rfl
      | [_] => rfl
      | _ :: _ :: _ => simp [Json.fields]
    rw [readSystemFields, hlookup]
    split
    · cases hpath : readPath? (Json.fields ["systemField", "path"] (.array items)) with
      | none => exact .inl rfl
      | some path => exact .inr ⟨path, rfl⟩
    · exact .inl rfl
  | object members =>
    have hsorted := h members rfl
    cases hpath : readPath? members with
    | none =>
      apply Or.inl
      simp only [readSystemFields, Json.isRecord_object hsorted, Json.fields, if_true,
        readPath?_record (show "path" ∈ ["systemField", "path"] by decide), hpath]
      rfl
    | some path =>
      have hfield := Table.lookup_filter (fun other ↦ ["systemField", "path"].contains other)
        members "systemField"
      rw [if_pos (by decide)] at hfield
      refine .inr ⟨path, ?_⟩
      rw [readSystemFields_object hsorted hpath, Json.fields, hfield]

/-- Taking the tag off a canonical object leaves its members in order. -/
theorem Json.sorted_of_tagged? {value tag rest : Json} {name : String}
    (h : value.canonical.tagged? name = some (tag, rest)) (members : List (String × Json))
    (hmembers : rest = .object members) : Table.Sorted members := by
  subst hmembers
  cases value with
  | object others =>
    have hsorted := Json.sorted_table others
    rw [Json.canonical_object, Json.tagged?_object hsorted] at h
    obtain ⟨_, _, hrest⟩ := Option.map_eq_some_iff.1 h
    obtain rfl := Json.object.inj (Prod.mk.inj hrest).2
    exact hsorted.filter _
  | array items =>
    cases items with
    | nil => cases h
    | cons => cases (Prod.mk.inj (Option.some.inj h)).2
  | number number =>
    cases number with
    | integer => cases h
    | real real =>
      rw [Json.canonical] at h
      split at h <;> cases h
  | null | bool | string => cases h

namespace Subject

theorem read_system {value rest : Json}
    (h : value.tagged? "type" = some (.string "SYSTEM", rest)) :
    Subject.read .date value =
      ⟨(readSystemFields rest).value.map fun (field, path) ↦ ⟨.system field, path, rfl⟩,
        (readSystemFields rest).discarded⟩ := by
  have hform : DateSubjectForm.named.lookup "SYSTEM" = some .system := rfl
  simp only [Subject.read, Kind.subjectForm, SubjectForm.read, h, hform, Option.map_map]
  rfl

end Subject

theorem DateSubjectForm.eq_system {name : String} (h : named.lookup name = some .system) :
    name = "SYSTEM" := by
  by_contra hname
  rw [named, Table.lookup_cons_of_ne hname] at h
  by_cases hfield : name = "FIELD"
  · subst hfield
    cases h
  · rw [Table.lookup_cons_of_ne hfield] at h
    cases h

/-- Only a built-in date can be lost inside a subject. -/
theorem SubjectForm.system_of_discarded {form : SubjectForm} {value : Json}
    (h : (form.read value).discarded ≠ []) :
    form = .date ∧ ∃ rest, value.tagged? "type" = some (.string "SYSTEM", rest) := by
  cases form with
  | implied | keyed => exact absurd rfl h
  | date =>
    refine ⟨rfl, ?_⟩
    simp only [read] at h
    split at h
    · rename_i name rest htagged
      split at h
      · rename_i hname
        rw [DateSubjectForm.eq_system hname] at htagged
        exact ⟨rest, htagged⟩
      · exact absurd rfl h
      · exact absurd rfl h
    · exact absurd rfl h

theorem Subject.system_of_discarded {kind : Kind} {value : Json}
    (h : (Subject.read kind value).discarded ≠ []) :
    kind = .date ∧ ∃ rest, value.tagged? "type" = some (.string "SYSTEM", rest) := by
  have hform := SubjectForm.system_of_discarded h
  exact hform.imp_left Kind.eq_date

namespace Leaf

/-- A leaf sets something aside exactly when one of its values is lost. -/
theorem discarded_ofFields_ne_nil_iff (kind : Kind) (fields : List (String × Json)) :
    (Leaf.ofFields kind fields).discarded ≠ [] ↔ Loses kind fields := by
  have hparts : (Leaf.ofFields kind fields).discarded ≠ [] ↔
      Unread (Test.read? kind) (fields.lookup "operator") ∨
        (lenient (Subject.read kind) (fields.lookup "subject")).discarded ≠ [] := by
    rw [← Reading.discarded_lenient_plain_iff, ← not_and_or, ← List.append_eq_nil_iff]
    rfl
  rw [hparts, Reading.discarded_lenient_ne_nil_iff]
  constructor
  · rintro (htest | hsubject | ⟨value, hvalue, hnull, hdiscarded⟩)
    · exact .test htest
    · exact .subject hsubject
    · obtain ⟨rfl, rest, htagged⟩ := Subject.system_of_discarded hdiscarded
      rw [Subject.read_system htagged] at hdiscarded
      rcases readSystemFields_cases (Json.sorted_of_tagged? htagged) with hunread | ⟨path, hread⟩
      · refine .subject ⟨value, hvalue, hnull, ?_⟩
        rw [Subject.read?, Subject.read_system htagged, hunread]
        rfl
      · rw [hread] at hdiscarded
        exact .date rfl hvalue htagged ((Reading.discarded_lenient_plain_iff _ _).1 hdiscarded)
  · rintro (hsubject | htest | ⟨rfl, hvalue, htagged, hdate⟩)
    · exact .inr (.inl hsubject)
    · exact .inl htest
    · rename_i value rest
      have hnull : value ≠ .null := by
        rintro rfl
        cases htagged
      apply Or.inr
      rcases readSystemFields_cases (Json.sorted_of_tagged? htagged) with hunread | ⟨path, hread⟩
      · refine .inl ⟨value, hvalue, hnull, ?_⟩
        simp only [Subject.read_system htagged, hunread, Option.map_none]
      · refine .inr ⟨value, hvalue, hnull, ?_⟩
        simp only [Subject.read_system htagged, hread]
        exact (Reading.discarded_lenient_plain_iff _ _).2 hdate

/-! ## Completeness after a loss -/

theorem any_isFilled_iff (kind : Kind) (part : Option Json) :
    (lenient (fun value ↦ ⟨Test.read? kind value, []⟩) part).value.any Test.isFilled = true ↔
      ∃ value test, part = some value ∧ Test.read? kind value.canonical = some test ∧
        test.isFilled = true := by
  cases part with
  | none => simp
  | some value =>
    by_cases hnull : value = .null
    · subst hnull
      constructor
      · intro h
        cases h
      · rintro ⟨_, _, hvalue, hread, _⟩
        obtain rfl := Option.some.inj hvalue
        cases hread
    · rw [Reading.lenient_some _ hnull]
      simp [Option.any_eq_true]

theorem isFilled_subject_ofFields (kind : Kind) (fields : List (String × Json)) :
    (Leaf.ofFields kind fields).value.subject.isFilled =
      ((lenient (Subject.read kind) (fields.lookup "subject")).value.getD
        (Subject.unset kind)).isFilled := rfl

/-- Without its date a subject in the built-in form is not filled, whether the rest is read or
not. -/
theorem isFilled_of_unread_date {fields : List (String × Json)} {value rest : Json}
    (hvalue : fields.lookup "subject" = some value)
    (htagged : value.canonical.tagged? "type" = some (.string "SYSTEM", rest))
    (hdate : Unread (Json.choice? false SystemDate.named)
      ((rest.fields ["systemField", "path"]).lookup "systemField")) :
    (Leaf.ofFields .date fields).value.subject.isFilled = false := by
  have hnull : value ≠ .null := by
    rintro rfl
    cases htagged
  have hnone : (readSystemDate
      ((rest.fields ["systemField", "path"]).lookup "systemField")).value = none :=
    Reading.value_lenient_of_unread hdate
  rw [isFilled_subject_ofFields, hvalue, Reading.lenient_some _ hnull, Subject.read_system htagged]
  rcases readSystemFields_cases (Json.sorted_of_tagged? htagged) with hunread | ⟨path, hread⟩
  · rw [hunread]
    rfl
  · rw [hread, hnone]
    rfl

/-- A leaf that lost a value is complete exactly when it is excused. -/
theorem isComplete_ofFields_iff {kind : Kind} {fields : List (String × Json)}
    (h : Loses kind fields) :
    (Leaf.ofFields kind fields).value.isComplete = true ↔ Excused kind fields := by
  have htest := any_isFilled_iff kind (fields.lookup "operator")
  rw [Leaf.isComplete, Bool.and_eq_true_iff]
  rcases h with hsubject | hunread | ⟨rfl, hvalue, htagged, hdate⟩
  · have hunset : (lenient (Subject.read kind) (fields.lookup "subject")).value = none :=
      Reading.value_lenient_of_unread hsubject
    have hfilled : (Leaf.ofFields kind fields).value.subject.isFilled = true ↔
        kind.subjectForm = .implied := by
      rw [isFilled_subject_ofFields, hunset]
      exact Subject.isFilled_unset kind
    exact and_congr hfilled htest
  · have hnone : (Leaf.ofFields kind fields).value.test = none :=
      Reading.value_lenient_of_unread hunread
    constructor
    · rintro ⟨_, hfilled⟩
      rw [hnone] at hfilled
      cases hfilled
    · rintro ⟨_, value, test, hvalue, hread, _⟩
      obtain ⟨other, hother, _, hnot⟩ := hunread
      rw [hvalue] at hother
      obtain rfl := Option.some.inj hother
      rw [hread] at hnot
      cases hnot
  · have hempty := isFilled_of_unread_date hvalue htagged hdate
    constructor
    · rintro ⟨hfilled, _⟩
      rw [hempty] at hfilled
      cases hfilled
    · rintro ⟨himplied, _⟩
      cases himplied

end Leaf

/-! ## Documents -/

/-- Something holds of the members of a node object: the value itself, or one among its children at
any depth. -/
inductive Json.HasNode (holds : List (String × Json) → Prop) : Json → Prop
  | here {members : List (String × Json)} : holds members → HasNode holds (.object members)
  | child {members : List (String × Json)} {items : List Json} {item : Json} :
    members.lookup "nodeType" = some (.string Node.groupName) →
    Json.childItems? members = some items → item ∈ items → HasNode holds item →
    HasNode holds (.object members)

namespace Json

variable {holds : List (String × Json) → Prop} {members : List (String × Json)}

theorem hasNode_leaf_iff {kind : Kind}
    (hkind : members.lookup "nodeType" = some (.string kind.name)) :
    HasNode holds (.object members) ↔ holds members := by
  constructor
  · rintro (hhere | ⟨hgroup, -, -, -⟩)
    · exact hhere
    · rw [hkind] at hgroup
      exact absurd (Json.string.inj (Option.some.inj hgroup)) kind.name_ne_groupName
  · exact .here

theorem hasNode_group_iff {items : List Json}
    (hgroup : members.lookup "nodeType" = some (.string Node.groupName))
    (hitems : childItems? members = some items) :
    HasNode holds (.object members) ↔ holds members ∨ ∃ item ∈ items, HasNode holds item := by
  constructor
  · rintro (hhere | ⟨-, hother, hmem, hnode⟩)
    · exact .inl hhere
    · rw [hitems] at hother
      obtain rfl := Option.some.inj hother
      exact .inr ⟨_, hmem, hnode⟩
  · rintro (hhere | ⟨item, hmem, hnode⟩)
    · exact .here hhere
    · exact .child hgroup hitems hmem hnode

theorem HasNode.or {first second : List (String × Json) → Prop} {value : Json}
    (h : ∀ members, holds members → first members ∨ second members)
    (hnode : HasNode holds value) : HasNode first value ∨ HasNode second value := by
  induction hnode with
  | here hhere => exact (h _ hhere).imp .here .here
  | child hgroup hitems hmem _ ih =>
    exact ih.imp (.child hgroup hitems hmem) (.child hgroup hitems hmem)

end Json

/-- An object of a leaf that loses a value. -/
def Leaf.Losing (members : List (String × Json)) : Prop :=
  ∃ kind : Kind, members.lookup "nodeType" = some (.string kind.name) ∧ Leaf.Loses kind members

/-- A leaf that loses a value and passes for complete. -/
def Leaf.LosingUnseen (members : List (String × Json)) : Prop :=
  ∃ kind : Kind, members.lookup "nodeType" = some (.string kind.name) ∧
    Leaf.Loses kind members ∧ Leaf.Excused kind members

/-- A group without children, a leaf that loses a value and is not excused, or one that loses none
and is incomplete. -/
inductive Node.Gap (members : List (String × Json)) : Prop
  | empty : members.lookup "nodeType" = some (.string groupName) →
    Json.childItems? members = some [] → Gap members
  | loss {kind : Kind} : members.lookup "nodeType" = some (.string kind.name) →
    Leaf.Loses kind members → ¬ Leaf.Excused kind members → Gap members
  | unset {kind : Kind} : members.lookup "nodeType" = some (.string kind.name) →
    ¬ Leaf.Loses kind members → (Leaf.ofFields kind members).value.isComplete = false →
    Gap members

theorem Kind.eq_of_lookup {kind other : Kind} {members : List (String × Json)}
    (hkind : members.lookup "nodeType" = some (.string kind.name))
    (hother : members.lookup "nodeType" = some (.string other.name)) : other = kind :=
  Kind.name_injective (Json.string.inj (Option.some.inj (hother.symm.trans hkind)))

namespace Leaf

variable {kind : Kind} {members : List (String × Json)}

theorem losing_iff (hkind : members.lookup "nodeType" = some (.string kind.name)) :
    Losing members ↔ Loses kind members := by
  constructor
  · rintro ⟨other, hother, hloses⟩
    obtain rfl := Kind.eq_of_lookup hkind hother
    exact hloses
  · exact fun hloses ↦ ⟨kind, hkind, hloses⟩

theorem gap_iff (hkind : members.lookup "nodeType" = some (.string kind.name)) :
    Node.Gap members ↔ (Leaf.ofFields kind members).value.isComplete = false := by
  constructor
  · rintro (⟨hgroup, -⟩ | ⟨hother, hloses, hexcused⟩ | ⟨hother, -, hopen⟩)
    · rw [hkind] at hgroup
      exact absurd (Json.string.inj (Option.some.inj hgroup)) kind.name_ne_groupName
    · obtain rfl := Kind.eq_of_lookup hkind hother
      exact Bool.eq_false_iff.2 fun hcomplete ↦
        hexcused ((isComplete_ofFields_iff hloses).1 hcomplete)
    · obtain rfl := Kind.eq_of_lookup hkind hother
      exact hopen
  · intro hopen
    by_cases hloses : Loses kind members
    · apply Node.Gap.loss hkind hloses
      intro hexcused
      rw [(isComplete_ofFields_iff hloses).2 hexcused] at hopen
      cases hopen
    · exact .unset hkind hloses hopen

end Leaf

namespace Node

theorem exists_mem_iff_of_forall₂ {α β : Type} {p : α → Prop} {q : β → Prop} {items : List α}
    {children : List β} (h : List.Forall₂ (fun item child ↦ q child ↔ p item) items children) :
    (∃ child ∈ children, q child) ↔ ∃ item ∈ items, p item := by
  induction h with
  | nil => simp
  | cons hfirst _ ih => simp [hfirst, ih]

theorem discarded_inherited :
    Inherited fun value _ discarded ↦ discarded ≠ [] ↔ value.HasNode Leaf.Losing where
  leaf {members kind} hkind := by
    rw [Json.hasNode_leaf_iff hkind, Leaf.losing_iff hkind]
    exact Leaf.discarded_ofFields_ne_nil_iff kind members
  group {members _ items children} hgroup _ hitems hchildren := by
    have hnot : ¬ Leaf.Losing members := by
      rintro ⟨kind, hkind, -⟩
      rw [hgroup] at hkind
      exact kind.name_ne_groupName (Json.string.inj (Option.some.inj hkind)).symm
    rw [Json.hasNode_group_iff hgroup hitems, or_iff_right hnot,
      ← exists_mem_iff_of_forall₂ hchildren]
    simp [List.flatMap_eq_nil_iff]

theorem allComplete_eq_false_iff (nodes : List Node) :
    allComplete nodes = false ↔ ∃ node ∈ nodes, node.isComplete = false := by
  induction nodes with
  | nil => simp [allComplete]
  | cons node rest ih => rw [allComplete, Bool.and_eq_false_iff, ih, List.exists_mem_cons_iff]

theorem gap_group_iff {members : List (String × Json)} {items : List Json}
    (hgroup : members.lookup "nodeType" = some (.string groupName))
    (hitems : Json.childItems? members = some items) : Gap members ↔ items = [] := by
  have hleaf (kind : Kind) : members.lookup "nodeType" ≠ some (.string kind.name) := by
    rw [hgroup]
    exact fun hkind ↦ kind.name_ne_groupName (Json.string.inj (Option.some.inj hkind)).symm
  constructor
  · rintro (⟨-, hempty⟩ | ⟨hkind, -, -⟩ | ⟨hkind, -, -⟩)
    · rw [hitems] at hempty
      exact Option.some.inj hempty
    · exact absurd hkind (hleaf _)
    · exact absurd hkind (hleaf _)
  · rintro rfl
    exact .empty hgroup hitems

theorem isComplete_inherited :
    Inherited fun value node _ ↦ node.isComplete = false ↔ value.HasNode Gap where
  leaf {members kind} hkind := by
    rw [Json.hasNode_leaf_iff hkind, Leaf.gap_iff hkind, isComplete]
  group {members connective items children} hgroup _ hitems hchildren := by
    have hempty : items = [] ↔ children = [] := by
      rw [← List.length_eq_zero_iff, hchildren.length_eq, List.length_eq_zero_iff]
    rw [Json.hasNode_group_iff hgroup hitems, gap_group_iff hgroup hitems, hempty,
      ← exists_mem_iff_of_forall₂ hchildren, isComplete, Bool.and_eq_false_iff,
      allComplete_eq_false_iff]
    simp

end Node

theorem Json.not_hasNode_of_no_kind {holds : List (String × Json) → Prop} (hnil : ¬ holds [])
    {value : Json} (h : value = .null ∨ value = .object []) : ¬ value.HasNode holds := by
  rintro (hhere | ⟨hgroup, -, -, -⟩)
  · rcases h with h | h
    · cases h
    · obtain rfl := Json.object.inj h
      exact hnil hhere
  · rcases h with h | h
    · cases h
    · obtain rfl := Json.object.inj h
      cases hgroup

namespace Condition

/-- A document sets something aside exactly when a leaf in it loses a value. -/
theorem discarded_parseValue_ne_nil_iff {value : Json} {condition : Condition}
    (h : (parseValue value).value = .ok condition) :
    (parseValue value).discarded ≠ [] ↔ value.root.HasNode Leaf.Losing := by
  rcases parseValue_cases h with ⟨-, hdiscarded, hroot⟩ | ⟨node, -, hnode, hdiscarded⟩
  · have hnil : ¬ Leaf.Losing [] := by
      rintro ⟨_, hkind, -⟩
      cases hkind
    exact iff_of_false (not_not_intro hdiscarded) (Json.not_hasNode_of_no_kind hnil hroot)
  · rw [hdiscarded]
    exact Node.parse_induction Node.discarded_inherited [] value.root node hnode

/-- A condition is complete exactly when its document has no gap. -/
theorem isComplete_parseValue_iff {value : Json} {condition : Condition}
    (h : (parseValue value).value = .ok condition) :
    condition.isComplete = true ↔ ¬ value.root.HasNode Node.Gap := by
  rcases parseValue_cases h with ⟨rfl, -, hroot⟩ | ⟨node, rfl, hnode, -⟩
  · have hnil : ¬ Node.Gap [] := by
      rintro (⟨hkind, -⟩ | ⟨hkind, -, -⟩ | ⟨hkind, -, -⟩) <;> cases hkind
    exact iff_of_true rfl (Json.not_hasNode_of_no_kind hnil hroot)
  · have hgap := Node.parse_induction Node.isComplete_inherited [] value.root node hnode
    rw [← hgap, isComplete, ofNode, Option.all_some, Bool.not_eq_false]

/-- When a lost value shows.  A leaf that lost one is complete exactly when it is excused, which only
a leaf without a subject of its own can be.  A document that lost a value is incomplete exactly when
it has a gap, and it has one unless a leaf in it lost a value and is excused. -/
theorem isComplete_of_loss_iff (kind : Kind) (fields : List (String × Json)) (value : Json)
    (condition : Condition) (h : (parseValue value).value = .ok condition) :
    ((Leaf.ofFields kind fields).discarded ≠ [] ↔ Leaf.Loses kind fields) ∧
      (Leaf.Loses kind fields →
        ((Leaf.ofFields kind fields).value.isComplete = true ↔ Leaf.Excused kind fields)) ∧
      ((parseValue value).discarded ≠ [] ↔ value.root.HasNode Leaf.Losing) ∧
      (((parseValue value).discarded ≠ [] → condition.isComplete = false) ↔
        (value.root.HasNode Leaf.Losing → value.root.HasNode Node.Gap)) ∧
      ((parseValue value).discarded ≠ [] → ¬ value.root.HasNode Leaf.LosingUnseen →
        condition.isComplete = false) := by
  have hdiscarded := discarded_parseValue_ne_nil_iff h
  have hgap : condition.isComplete = false ↔ value.root.HasNode Node.Gap := by
    rw [← Bool.not_eq_true, isComplete_parseValue_iff h, not_not]
  have hsplit : ∀ members, Leaf.Losing members → Node.Gap members ∨ Leaf.LosingUnseen members := by
    rintro members ⟨kind, hkind, hloses⟩
    by_cases hexcused : Leaf.Excused kind members
    · exact .inr ⟨kind, hkind, hloses, hexcused⟩
    · exact .inl (.loss hkind hloses hexcused)
  refine ⟨Leaf.discarded_ofFields_ne_nil_iff kind fields, Leaf.isComplete_ofFields_iff, hdiscarded,
    ?_, ?_⟩
  · rw [hdiscarded, hgap]
  · intro hlost hseen
    exact hgap.2 (((hdiscarded.1 hlost).or hsplit).resolve_right hseen)

/-- A path that cannot be read is lost, and the leaf is complete without it. -/
theorem isComplete_without_path :
    let members := [("nodeType", Json.string "TITLE"),
      ("operator", .object [("type", .string "IS_EMPTY")]),
      ("subject", .object [("path", .object [("linkNodes", .string "abc")])])]
    let condition := ofNode (.leaf ⟨.title, ⟨.implied, none, rfl⟩,
      some ⟨⟨"IS_EMPTY", .isEmpty, .nothing⟩, .nothing, by decide, rfl⟩⟩)
    (parseValue (.object members)).value = .ok condition ∧
      (parseValue (.object members)).discarded ≠ [] ∧ Leaf.Loses .title members ∧
      condition.isComplete = true := by
  intro members condition
  have hread : (parseValue (.object members)).value = .ok condition := rfl
  have hlost : (parseValue (.object members)).discarded ≠ [] := by
    intro h
    cases h
  have hloses : Leaf.Loses .title members :=
    (Leaf.discarded_ofFields_ne_nil_iff .title members).1 hlost
  exact ⟨hread, hlost, hloses, rfl⟩

/-- That leaf is excused; a text leaf whose subject cannot be read is not, and its document is
incomplete. -/
theorem isComplete_of_loss_examples :
    let title := [("nodeType", Json.string "TITLE"),
      ("operator", .object [("type", .string "IS_EMPTY")]),
      ("subject", .object [("path", .object [("linkNodes", .string "abc")])])]
    let text := [("nodeType", Json.string "TEXT"),
      ("operator", .object [("type", .string "IS_EMPTY")]), ("subject", .bool true)]
    let condition := ofNode (.leaf ⟨.text, ⟨.named "", none, rfl⟩,
      some ⟨⟨"IS_EMPTY", .isEmpty, .nothing⟩, .nothing, by decide, rfl⟩⟩)
    (parseValue (.object text)).value = .ok condition ∧
      (Leaf.Loses .title title ∧ Leaf.Excused .title title) ∧
      (parseValue (.object text)).discarded ≠ [] ∧
      ¬ (Json.object text).root.HasNode Leaf.LosingUnseen ∧ condition.isComplete = false := by
  intro title text condition
  have hread : (parseValue (.object text)).value = .ok condition := rfl
  have htitle : (Leaf.ofFields .title title).discarded ≠ [] := by
    intro h
    cases h
  have hlost : (parseValue (.object text)).discarded ≠ [] := by
    intro h
    cases h
  have hkind : text.lookup "nodeType" = some (.string Kind.text.name) := rfl
  have hseen : ¬ (Json.object text).root.HasNode Leaf.LosingUnseen := by
    rw [show (Json.object text).root = .object text from rfl, Json.hasNode_leaf_iff hkind]
    rintro ⟨kind, hother, -, himplied, -⟩
    obtain rfl := Kind.eq_of_lookup hkind hother
    cases himplied
  obtain ⟨hleaf, hexcused, -, -, hdocument⟩ :=
    isComplete_of_loss_iff .title title (.object text) condition hread
  have hloses := hleaf.1 htitle
  exact ⟨hread, ⟨hloses, (hexcused hloses).1 rfl⟩, hlost, hseen, hdocument hlost hseen⟩

end Condition

end CardFilter
