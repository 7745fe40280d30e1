import CardFilter.Condition.Completeness
import CardFilter.Proofs.Condition.Damage
import CardFilter.Proofs.Condition.Readers
import CardFilter.Proofs.Condition.Tests

/-!
# Relations in the table and in JSON

One table of a kind says which relations the kind admits, another which forms its tests have, and
each form brings a tag and a relation of its own.  The two agree: the forms have the admitted
relations, each under its own name.  So reading keeps to the first table although it looks things up
in the second: the test that is read from a member has the relation that the member names, a name
from outside the table gives no test, and no relation of the table is lost.  The last holds because
a relation alone makes a test: what it is compared with may be missing, whatever the form.

So a leaf that has a test has one that its kind admits, and whoever judges a leaf by its relation
first comes to the same verdict as the one who looks at the contents of its slots only.
-/

namespace CardFilter

/-! ## Leaves as both readers take them -/

namespace Json

theorem member?_eq_some_iff {value part : Json} {name : String} :
    value.member? name = some part ↔
      ∃ members, value = .object members ∧ members.lookup name = some part := by
  cases value with
  | object members => simp [member?]
  | null | bool | number | string | array => simp [member?]

theorem canonical_of_member? {value part : Json} (h : value.canonical = value) {name : String}
    (hpart : value.member? name = some part) : part.canonical = part := by
  obtain ⟨members, rfl, hlookup⟩ := member?_eq_some_iff.1 hpart
  exact canonical_of_lookup h hlookup

/-- A value is marked as a leaf of a kind, and this is its member for the test. -/
structure HasTest (item : Json) (kind : Kind) (part : Json) : Prop where
  kind_eq : item.canonical.member? "nodeType" = some (.string kind.name)
  part_eq : item.canonical.member? "operator" = some part

/-- Both readers take a value for a leaf, at whatever place, and these values are set aside. -/
structure ReadsAs (item : Json) (leaf : Leaf) (discarded : List Json) : Prop where
  decode : Node.decode? item = some (.leaf leaf)
  parse (place : List Nat) : Node.parse place item.canonical = ⟨.ok (.leaf leaf), discarded⟩

theorem readsAs_of_kind {item : Json} {kind : Kind}
    (h : item.canonical.member? "nodeType" = some (.string kind.name)) :
    let subject := item.canonical.member? "subject"
    let test := item.canonical.member? "operator"
    item.ReadsAs (Leaf.ofParts kind subject test)
      ((Reading.lenient (fun raw ↦ ⟨Test.read? kind raw, []⟩) test).discarded ++
        (Reading.lenient (Subject.read kind) subject).discarded) := by
  obtain ⟨members, hobject, hlookup⟩ := member?_eq_some_iff.1 h
  have hcanonical := item.canonical_canonical
  rw [hobject] at hcanonical ⊢
  constructor
  · rw [Node.decode?, hobject]
    exact (Node.read?_leaf (sorted_of_canonical hcanonical) hlookup kind.name_ne_groupName).2
      ⟨kind, rfl, rfl⟩
  · intro place
    rw [hobject]
    exact Node.parse_leaf place hlookup

/-- A member for a test that has members itself is an object in canonical form. -/
theorem HasTest.exists_members {item part : Json} {kind : Kind} (h : item.HasTest kind part)
    {name : String} {tag : Json} (htag : part.member? name = some tag) :
    ∃ members, part = .object members ∧ (Json.object members).canonical = .object members ∧
      members.lookup name = some tag := by
  have hcanonical := canonical_of_member? item.canonical_canonical h.part_eq
  obtain ⟨members, rfl, hlookup⟩ := member?_eq_some_iff.1 htag
  exact ⟨members, rfl, hcanonical, hlookup⟩

end Json

/-! ## The table -/

/-- The member of a test without a comparison value. -/
def Relation.toJson (relation : Relation) : Json := .object [("type", .string relation.name)]

namespace Kind

/-- The two tables have the same relations in the same order. -/
theorem relations_eq_forms (kind : Kind) : kind.relations = kind.forms.map TestForm.relation := by
  cases kind <;> rfl

/-- The tag of a form is the name of the relation that the form tests. -/
theorem tag_of_mem_forms (kind : Kind) : ∀ form ∈ kind.forms, form.tag = form.relation.name := by
  cases kind <;> decide

theorem tag_of_form? {kind : Kind} {tag : String} {form : { form // form ∈ kind.forms }}
    (h : kind.form? tag = some form) : form.1.tag = tag := by
  unfold form? at h
  have htag := List.find?_some h
  exact beq_iff_eq.1 htag

theorem mem_relations {kind : Kind} {relation : Relation} :
    relation ∈ kind.relations ↔ ∃ slot, ⟨relation.name, relation, slot⟩ ∈ kind.forms := by
  rw [relations_eq_forms, List.mem_map]
  constructor
  · rintro ⟨⟨tag, relation, slot⟩, hform, rfl⟩
    obtain rfl : tag = relation.name := kind.tag_of_mem_forms _ hform
    exact ⟨slot, hform⟩
  · rintro ⟨slot, hform⟩
    exact ⟨_, hform, rfl⟩

/-- A relation is tested without a value exactly where its form has nothing to compare with. -/
theorem needsValue_eq_false_iff (kind : Kind) : ∀ form ∈ kind.forms,
    form.relation.needsValue = false ↔ form.slot = .nothing := by
  cases kind <;> decide

end Kind

/-! ## Tests -/

/-- Whatever a value may be, it may be missing. -/
theorem Operand.exists_read?_nil (slot : Slot) :
    ∃ operand, Operand.read? (.object []) slot = some operand := by
  cases slot with
  | one sort | many sort => cases sort <;> exact ⟨_, rfl⟩
  | nothing | text | number | numberRange | date | dateRange | cards | cycles => exact ⟨_, rfl⟩

namespace Test

variable {kind : Kind}

theorem relation_mem (test : Test kind) : test.relation ∈ kind.relations := by
  rw [kind.relations_eq_forms]
  exact List.mem_map_of_mem test.listed

theorem operand_eq_nothing {test : Test kind} (h : test.relation.needsValue = false) :
    test.operand = .nothing := by
  obtain ⟨form, operand, listed, fits⟩ := test
  have hslot : operand.slot = .nothing := fits.trans ((kind.needsValue_eq_false_iff _ listed).1 h)
  cases operand with
  | nothing => rfl
  | text | number | numberRange | date | dateRange | one | many | cards | cycles => cases hslot

theorem isFilled_of_not_needsValue {test : Test kind} (h : test.relation.needsValue = false) :
    test.isFilled = true := by
  rw [isFilled, operand_eq_nothing h]
  rfl

/-- The relation of a test that is read is the one that its object names. -/
theorem name_of_read? {members : Table Json} (hsorted : members.Sorted) {test : Test kind}
    (h : Test.read? kind (.object members) = some test) :
    members.lookup "type" = some (.string test.relation.name) := by
  rw [read?, Json.tagged?_object hsorted] at h
  cases htag : members.lookup "type" with
  | none =>
    rw [htag] at h
    cases h
  | some tag =>
    rw [htag, Option.map_some] at h
    split at h
    · rename_i name rest heq
      obtain ⟨rfl, -⟩ := Prod.mk.inj (Option.some.inj heq)
      split at h
      · rename_i listed hform
        -- The form was found by this tag, and the tag is the name of its relation.
        obtain ⟨operand, -, rfl⟩ := Option.map_eq_some_iff.1 h
        rw [← Kind.tag_of_form? hform]
        exact congrArg (some ∘ Json.string) (kind.tag_of_mem_forms _ listed)
      · cases h
    · cases h

/-- A relation of the table makes a test on its own. -/
theorem exists_read?_toJson {relation : Relation} (h : relation ∈ kind.relations) :
    ∃ test, Test.read? kind relation.toJson = some test ∧ test.relation = relation := by
  obtain ⟨slot, hlisted⟩ := Kind.mem_relations.1 h
  obtain ⟨operand, hoperand⟩ := Operand.exists_read?_nil slot
  have hform := Kind.form?_of_mem hlisted
  refine ⟨⟨⟨relation.name, relation, slot⟩, operand.1, hlisted, operand.2⟩, ?_, rfl⟩
  have htagged : relation.toJson.tagged? "type" =
      some (.string relation.name, .object []) := rfl
  rw [read?, htagged]
  simp only [hform, hoperand, Option.map_some]

theorem lenient_object {members : Table Json}
    (h : (Json.object members).canonical = Json.object members) :
    Reading.lenient (fun raw ↦ ⟨Test.read? kind raw, []⟩) (some (.object members)) =
      ⟨Test.read? kind (.object members),
        if (Test.read? kind (.object members)).isSome then [] else [.object members]⟩ := by
  have hnull : Json.object members ≠ .null := fun hnull ↦ nomatch hnull
  rw [Reading.lenient_some _ hnull, h, List.nil_append]

theorem ofPart_object {members : Table Json}
    (h : (Json.object members).canonical = Json.object members) :
    Test.ofPart kind (some (.object members)) = Test.read? kind (.object members) := by
  rw [ofPart, lenient_object h]

end Test

/-! ## Leaves -/

namespace Leaf

/-- Whether a leaf is complete, judged by its relation first: the kind has to admit it, and what
it is compared with counts only if it needs a value. -/
def isCompleteByRelation (leaf : Leaf) : Bool :=
  match leaf.test with
  | none => false
  | some test =>
    if leaf.kind.allows test.relation then
      leaf.subject.isFilled && (!test.relation.needsValue || test.isFilled)
    else false

theorem allows_of_relation? {leaf : Leaf} {relation : Relation}
    (h : leaf.relation? = some relation) : leaf.kind.allows relation = true := by
  obtain ⟨test, -, rfl⟩ := Option.map_eq_some_iff.1 h
  exact List.contains_iff_mem.2 test.relation_mem

/-- The relation of a leaf is the one that the member for its test names. -/
theorem name_of_relation? {kind : Kind} {subject : Option Json} {members : Table Json}
    (hcanonical : (Json.object members).canonical = Json.object members) {name : String}
    (hname : members.lookup "type" = some (.string name)) {relation : Relation}
    (h : (ofParts kind subject (some (.object members))).relation? = some relation) :
    relation ∈ kind.relations ∧ relation.name = name := by
  obtain ⟨test, htest, rfl⟩ := Option.map_eq_some_iff.1 h
  have hread := (Test.ofPart_object hcanonical).symm.trans htest
  have hlookup := Test.name_of_read? (Json.sorted_of_canonical hcanonical) hread
  exact ⟨test.relation_mem, Json.string.inj (Option.some.inj (hlookup.symm.trans hname))⟩

theorem relation?_ofParts_toJson {kind : Kind} {relation : Relation} (h : relation ∈ kind.relations)
    (subject : Option Json) :
    (ofParts kind subject (some relation.toJson)).relation? = some relation := by
  obtain ⟨test, hread, hrelation⟩ := Test.exists_read?_toJson h
  have htest : Test.ofPart kind (some relation.toJson) = some test :=
    (Test.ofPart_object rfl).trans hread
  change (Test.ofPart kind (some relation.toJson)).map (·.relation) = some relation
  rw [htest, Option.map_some, hrelation]

theorem isCompleteByRelation_eq (leaf : Leaf) : leaf.isCompleteByRelation = leaf.isComplete := by
  obtain ⟨kind, subject, _ | test⟩ := leaf
  · exact (Bool.and_false _).symm
  · have hallowed : kind.allows test.relation = true := List.contains_iff_mem.2 test.relation_mem
    have hvalue : (!test.relation.needsValue || test.isFilled) = test.isFilled := by
      cases hneeds : test.relation.needsValue with
      | true => rfl
      | false => rw [Test.isFilled_of_not_needsValue hneeds, Bool.or_true]
    simp only [isCompleteByRelation, hallowed, if_true, hvalue]
    rfl

end Leaf

/-- The table of a kind and the reading of its leaves agree.  Whatever else stands in the member
for the test, the relation is the one that it names or there is none, and there is none for a name
from outside the table; a relation of the table with nothing beside it is always read.  A leaf of
the kind has no test that the kind does not admit, so to ask for that when its completeness is
judged never changes the verdict. -/
theorem Kind.table_agrees (kind : Kind) :
    (∀ (item part : Json) (name : String), item.HasTest kind part →
      part.member? "type" = some (.string name) →
      ∃ leaf discarded, item.ReadsAs leaf discarded ∧ leaf.kind = kind ∧
        (∀ relation, leaf.relation? = some relation → relation.name = name) ∧
        (name ∉ kind.relations.map Relation.name → leaf.relation? = none) ∧
        ∀ relation ∈ kind.relations, part = relation.toJson →
          leaf.relation? = some relation) ∧
      ∀ leaf : Leaf, leaf.kind = kind →
        (∀ relation, leaf.relation? = some relation → kind.allows relation = true) ∧
          leaf.isCompleteByRelation = leaf.isComplete := by
  refine ⟨?_, ?_⟩
  · intro item part name hitem htag
    obtain ⟨members, rfl, hcanonical, hlookup⟩ := hitem.exists_members htag
    have hreads := Json.readsAs_of_kind hitem.kind_eq
    simp only [hitem.part_eq] at hreads
    refine ⟨_, _, hreads, rfl, ?_, ?_, ?_⟩
    · intro relation hrelation
      exact (Leaf.name_of_relation? hcanonical hlookup hrelation).2
    · intro hname
      apply Option.eq_none_iff_forall_ne_some.2
      intro relation hrelation
      obtain ⟨hmem, rfl⟩ := Leaf.name_of_relation? hcanonical hlookup hrelation
      exact hname (List.mem_map_of_mem hmem)
    · intro relation hmem hpart
      rw [hpart]
      exact Leaf.relation?_ofParts_toJson hmem _
  · rintro leaf rfl
    exact ⟨fun _ ↦ Leaf.allows_of_relation?, leaf.isCompleteByRelation_eq⟩

/-- A status tested by a relation of texts, and by one of its own with nothing beside it. -/
theorem Kind.table_agrees_status :
    let item (members : List (String × Json)) := Json.object [("nodeType", .string "STATUS"),
      ("operator", .object members)]
    let foreign := item [("type", .string "CONTAINS"), ("statusId", .string "s")]
    let bare := item [("type", .string "REACHED")]
    let reached : Leaf := ⟨.status, ⟨.named "stream", none, rfl⟩,
      some ⟨⟨"REACHED", .reached, .one .status⟩, .one .status "s", by decide, rfl⟩⟩
    (∃ leaf discarded, foreign.ReadsAs leaf discarded ∧ leaf.relation? = none) ∧
      (∃ leaf discarded, bare.ReadsAs leaf discarded ∧ leaf.relation? = some .reached) ∧
      reached.isCompleteByRelation = reached.isComplete := by
  intro item foreign bare reached
  have hitem (members : List (String × Json)) :
      (item members).HasTest .status (Json.object members).canonical := by
    constructor <;> simp [item, Json.canonical_object, Json.member?, name]
  obtain ⟨hread, hleaf⟩ := table_agrees .status
  refine ⟨?_, ?_, (hleaf reached rfl).2⟩
  · obtain ⟨leaf, discarded, hreads, -, -, habsent, -⟩ :=
      hread foreign _ "CONTAINS" (hitem _) (by simp [Json.canonical_object, Json.member?])
    exact ⟨leaf, discarded, hreads, habsent (by decide)⟩
  · obtain ⟨leaf, discarded, hreads, -, -, -, hbare⟩ :=
      hread bare _ "REACHED" (hitem _) (by simp [Json.canonical_object, Json.member?])
    exact ⟨leaf, discarded, hreads, hbare .reached (by decide) rfl⟩

end CardFilter
