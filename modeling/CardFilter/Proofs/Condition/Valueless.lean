import CardFilter.Proofs.Condition.Relations

/-!
# Relations without a value

Presence and the current user are tested by a relation alone.  Such a relation takes every object
that names it for its test: the other members are passed over unread, so nothing in them can spoil
the test, set anything aside or come back when the leaf is written.  What is left to fill in is the
subject and the way to it.

A test with a value is different: a member that cannot be read takes the whole test with it.
-/

namespace CardFilter

/-- A relation of the kind that needs no value has nothing to compare with. -/
theorem Kind.mem_forms_of_not_needsValue {kind : Kind} {relation : Relation}
    (h : relation ∈ kind.relations) (hvalue : relation.needsValue = false) :
    ⟨relation.name, relation, .nothing⟩ ∈ kind.forms := by
  obtain ⟨slot, hlisted⟩ := mem_relations.1 h
  obtain rfl : slot = .nothing := (kind.needsValue_eq_false_iff _ hlisted).1 hvalue
  exact hlisted

section Valueless

variable {kind : Kind} {relation : Relation} (h : relation ∈ kind.relations)
  (hvalue : relation.needsValue = false)

/-- The test of a relation that needs no value. -/
def Test.valueless : Test kind :=
  ⟨⟨relation.name, relation, .nothing⟩, .nothing, Kind.mem_forms_of_not_needsValue h hvalue,
    Operand.slot_nothing⟩

/-- The other members of the object do not matter. -/
theorem Test.read?_valueless {members : Table Json} (hsorted : members.Sorted)
    (htag : members.lookup "type" = some (.string relation.name)) :
    Test.read? kind (.object members) = some (valueless h hvalue) := by
  have hform := Kind.form?_of_mem (Kind.mem_forms_of_not_needsValue h hvalue)
  rw [read?, Json.tagged?_object hsorted, htag]
  simp only [Option.map_some, hform]
  rfl

theorem Json.HasTest.readsAs_valueless {item part : Json} (hitem : item.HasTest kind part)
    (htag : part.member? "type" = some (.string relation.name)) :
    let subject := item.canonical.member? "subject"
    item.ReadsAs ⟨kind, Subject.ofPart kind subject, some (.valueless h hvalue)⟩
      (Reading.lenient (Subject.read kind) subject).discarded := by
  obtain ⟨members, rfl, hcanonical, hlookup⟩ := hitem.exists_members htag
  have hread := Test.read?_valueless h hvalue (sorted_of_canonical hcanonical) hlookup
  have htest : Reading.lenient (fun raw ↦ ⟨Test.read? kind raw, []⟩) (some (object members)) =
      ⟨some (.valueless h hvalue), []⟩ := by
    rw [Test.lenient_object hcanonical, hread]
    rfl
  have hreads := readsAs_of_kind hitem.kind_eq
  simp only [hitem.part_eq, Leaf.ofParts, Test.ofPart, htest, List.nil_append] at hreads
  exact hreads

/-- Whatever stands beside a relation that needs no value, the leaf is read with the test of that
relation, as from any value of the kind with the same subject and the relation alone.  Nothing is
set aside but what the subject leaves, nothing beside the relation is written, and the leaf is
complete as soon as its subject and its path are. -/
theorem Leaf.payload_ignored {item part : Json} (hitem : item.HasTest kind part)
    (htag : part.member? "type" = some (.string relation.name)) :
    let subject := item.canonical.member? "subject"
    let leaf : Leaf := ⟨kind, Subject.ofPart kind subject, some (.valueless h hvalue)⟩
    let discarded := (Reading.lenient (Subject.read kind) subject).discarded
    item.ReadsAs leaf discarded ∧
      (∀ bare : Json, bare.HasTest kind relation.toJson →
        bare.canonical.member? "subject" = subject → bare.ReadsAs leaf discarded) ∧
      leaf.relation? = some relation ∧
      leaf.toJson = .object [("nodeType", .string kind.name), ("subject", leaf.subject.toJson),
        ("operator", relation.toJson)] ∧
      leaf.isComplete = (leaf.subject.identity.isFilled && leaf.path.all Path.isFilled) := by
  intro subject leaf discarded
  refine ⟨hitem.readsAs_valueless h hvalue htag, ?_, rfl, rfl, Bool.and_true _⟩
  intro bare hbare hsubject
  have hreads := hbare.readsAs_valueless h hvalue rfl
  rw [hsubject] at hreads
  exact hreads

/-- A link with cards and a number beside a relation that takes neither. -/
theorem Leaf.payload_ignored_link :
    let item (members : List (String × Json)) := Json.object [("nodeType", .string "LINK"),
      ("operator", .object (("type", .string "HAS_ANY") :: members)),
      ("subject", .object [("linkFieldId", .string "l")])]
    let full := item [("value", .object [("type", .string "NONE")]), ("cardIds", Json.ofNat 7)]
    let leaf : Leaf := ⟨.link, ⟨.named "l", none, rfl⟩,
      some ⟨⟨"HAS_ANY", .hasAny, .nothing⟩, .nothing, by decide, rfl⟩⟩
    full.ReadsAs leaf [] ∧ (item []).ReadsAs leaf [] ∧ leaf.isComplete = true := by
  intro item full leaf
  have hitem (members : List (String × Json)) : (item members).HasTest .link
      (Json.object (("type", .string "HAS_ANY") :: members)).canonical := by
    constructor <;> simp [item, Json.canonical_object, Json.member?, Kind.name]
  have hsubject (members : List (String × Json)) : (item members).canonical.member? "subject" =
      some (.object [("linkFieldId", .string "l")]) := by
    simp [item, Json.canonical_object, Json.member?]
    rfl
  have hmem : Relation.hasAny ∈ Kind.link.relations := by decide
  have hfull : full.HasTest .link _ := hitem _
  obtain ⟨hreads, hbare, -, -, hcomplete⟩ := payload_ignored hmem rfl hfull
    (by simp [Json.canonical_object, Json.member?, Relation.name])
  rw [hsubject] at hreads hbare hcomplete
  exact ⟨hreads, hbare (item []) (hitem []) (hsubject []), hcomplete⟩

end Valueless

end CardFilter
