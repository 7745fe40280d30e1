import CardFilter.Condition.Completeness
import CardFilter.Condition.Preset
import CardFilter.Proofs.Condition.References
import CardFilter.Proofs.Condition.Relations
import CardFilter.Proofs.Condition.RoundTrip

/-!
# Presets for fields

The kind of a leaf for a field comes from a table, and where the table says nothing it is the one
for texts.  All of these kinds name what they look at, so the field that is asked for is put in and
is the only thing that the leaf refers to.

What the leaf then still lacks is a comparison value, except for dates, links and addresses, whose
presets need none or bring one along.
-/

namespace CardFilter

/-! ## Kinds for fields -/

namespace Kind

/-- Whether leaves of the kind can be made for a field. -/
inductive IsOfField : Kind → Prop
  | text : IsOfField .text
  | number : IsOfField .number
  | date : IsOfField .date
  | enum : IsOfField .enum
  | link : IsOfField .link
  | webUrl : IsOfField .webUrl

theorem mem_fieldKinds_or (fieldKind : String) :
    (fieldKind, ofField fieldKind) ∈ fieldKinds ∨ ofField fieldKind = .text := by
  unfold ofField ofField?
  cases hkind : fieldKinds.lookup fieldKind with
  | none => exact .inr rfl
  | some kind =>
    obtain ⟨before, after, hsplit, -⟩ := List.lookup_eq_some_iff.1 hkind
    rw [hsplit]
    exact .inl (List.mem_append_right _ List.mem_cons_self)

theorem ofField_of_mem {fieldKind : String} {kind : Kind} (h : (fieldKind, kind) ∈ fieldKinds) :
    ofField fieldKind = kind := by
  have hall : ∀ entry ∈ fieldKinds, ofField entry.1 = entry.2 := by decide
  exact hall _ h

theorem isOfField_ofField (fieldKind : String) : (ofField fieldKind).IsOfField := by
  have hall : ∀ entry ∈ fieldKinds, IsOfField entry.2 := by
    simp only [fieldKinds, List.forall_mem_cons]
    exact ⟨.text, .text, .number, .date, .enum, .enum, .link, .webUrl, nofun⟩
  rcases mem_fieldKinds_or fieldKind with h | h
  · exact hall _ h
  · rw [h]
    exact .text

/-- Only texts are also looked at where the table says nothing. -/
theorem ofField_eq_iff {fieldKind : String} {kind : Kind} (hkind : kind ≠ .text) :
    ofField fieldKind = kind ↔ (fieldKind, kind) ∈ fieldKinds := by
  refine ⟨?_, ofField_of_mem⟩
  rintro rfl
  exact (mem_fieldKinds_or fieldKind).resolve_right hkind

theorem ofField_eq_link_iff {fieldKind : String} :
    ofField fieldKind = .link ↔ fieldKind = "LINK_FIELD" := by
  rw [ofField_eq_iff (by decide)]
  simp [fieldKinds]

theorem ofField_mem_iff {fieldKind : String} :
    ofField fieldKind ∈ [date, link, webUrl] ↔
      fieldKind ∈ ["DATE_FIELD", "LINK_FIELD", "WEB_URL_FIELD"] := by
  simp only [List.mem_cons, List.not_mem_nil, or_false]
  rw [ofField_eq_iff (by decide), ofField_eq_iff (by decide), ofField_eq_iff (by decide)]
  simp [fieldKinds]

end Kind

/-! ## Leaves for fields -/

namespace Leaf

/-- A preset that looks at a named thing. -/
theorem exists_forField_eq (fieldKind fieldId : String) :
    ∃ admitted, forField fieldKind fieldId =
      ⟨Kind.ofField fieldKind, ⟨.named fieldId, none, admitted⟩, some (.preset _)⟩ := by
  have hkind := Kind.isOfField_ofField fieldKind
  unfold forField
  dsimp only
  generalize Kind.ofField fieldKind = kind at hkind
  cases hkind <;> exact ⟨rfl, rfl⟩

theorem canonical_forField (fieldKind fieldId : String) :
    (forField fieldKind fieldId).canonical = forField fieldKind fieldId := by
  have hkind := Kind.isOfField_ofField fieldKind
  unfold forField
  dsimp only
  generalize Kind.ofField fieldKind = kind at hkind
  cases hkind <;> rfl

variable {kind : Kind} {fieldId : String}

/-- Nothing but the field itself is referred to, and a blank one is not. -/
theorem addReferences_preset (hkind : kind.IsOfField)
    (admitted : kind.subjectForm.admits (.named fieldId)) :
    addReferences ⟨kind, ⟨.named fieldId, none, admitted⟩, some (.preset kind)⟩ .empty =
      if Text.isFilled fieldId then
        if kind = .link then { References.empty with links := [fieldId] }
        else { References.empty with fields := [fieldId] }
      else .empty := by
  -- No preset compares with an identifier, and none has a path.
  have howner : addReferences ⟨kind, ⟨.named fieldId, none, admitted⟩, some (.preset kind)⟩ .empty =
      References.addOwner kind fieldId .empty := by
    cases hkind <;> rfl
  rw [howner]
  split
  · rename_i hfilled
    have hids : References.filled [fieldId] = [fieldId] := List.filter_cons_of_pos hfilled
    cases hkind <;>
      simp only [References.addOwner, References.addFields, References.addLinks, hids] <;> rfl
  · rename_i hblank
    have hids : References.filled [fieldId] = [] := List.filter_cons_of_neg hblank
    cases hkind <;>
      simp only [References.addOwner, References.addFields, References.addLinks, hids] <;> rfl

theorem isComplete_preset_iff (hkind : kind.IsOfField)
    (admitted : kind.subjectForm.admits (.named fieldId)) :
    isComplete ⟨kind, ⟨.named fieldId, none, admitted⟩, some (.preset kind)⟩ = true ↔
      Text.isFilled fieldId = true ∧ kind ∈ [.date, .link, .webUrl] := by
  have htest : (Test.preset kind).isFilled = true ↔ kind ∈ [.date, .link, .webUrl] := by
    cases hkind <;> decide
  rw [← htest, isComplete, Bool.and_eq_true, Subject.isFilled, Bool.and_eq_true]
  exact and_congr_left' (and_iff_left rfl)

/-- The leaf for a field has the kind that the table gives, a relation of that kind, no path, and
its own JSON gives it back.  A condition that holds it alone refers to the field and to nothing
else, or to nothing at all when the field is blank; and it is complete exactly for a field that is
not blank and that holds dates, links or addresses. -/
theorem forField_refers_to_field (fieldKind fieldId : String) :
    let leaf := forField fieldKind fieldId
    leaf.kind = Kind.ofField fieldKind ∧
      (∃ test, leaf.test = some test ∧ leaf.kind.allows test.relation = true) ∧
      leaf.path = none ∧
      Leaf.read? leaf.toJson.canonical = some leaf ∧
      (∀ place, Node.parse place leaf.toJson.canonical = ⟨.ok (.leaf leaf), []⟩) ∧
      (∀ condition : Condition, condition.leaves = [leaf] →
        condition.references =
          if Text.isFilled fieldId then
            if fieldKind = "LINK_FIELD" then { References.empty with links := [fieldId] }
            else { References.empty with fields := [fieldId] }
          else .empty) ∧
      (leaf.isComplete = true ↔ Text.isFilled fieldId = true ∧
        fieldKind ∈ ["DATE_FIELD", "LINK_FIELD", "WEB_URL_FIELD"]) := by
  intro leaf
  have hcanonical : leaf.canonical = leaf := canonical_forField fieldKind fieldId
  have hkind := Kind.isOfField_ofField fieldKind
  obtain ⟨admitted, hleaf⟩ := exists_forField_eq fieldKind fieldId
  have hpath : leaf.path = none := congrArg Leaf.path hleaf
  refine ⟨rfl, ⟨_, rfl, List.contains_iff_mem.2 (Test.relation_mem _)⟩, hpath, ?_, ?_, ?_, ?_⟩
  · rw [leaf.read?_toJson, hcanonical]
  · intro place
    have hparse := (Node.leaf leaf).parse_toJson place
    rw [Node.canonical, hcanonical] at hparse
    exact hparse
  · intro condition hleaves
    have hadded : condition.references = leaf.addReferences .empty := by
      rw [condition.references_eq, hleaves]
      rfl
    simp only [← Kind.ofField_eq_link_iff]
    rw [hadded, ← addReferences_preset hkind admitted]
    exact congrArg (Leaf.addReferences · .empty) hleaf
  · rw [← Kind.ofField_mem_iff, ← isComplete_preset_iff hkind admitted]
    exact iff_of_eq (congrArg (Leaf.isComplete · = true) hleaf)

/-- Options of a field are looked for under the field, even if none of them is chosen yet; here next
to a group that is empty. -/
theorem forField_refers_to_field_options :
    let leaf := forField "SINGLE_SELECT_FIELD" "f"
    let condition := Condition.ofNode (.group .or [.group .and [], .leaf leaf])
    condition.references = { References.empty with fields := ["f"] } ∧
      leaf.kind = .enum ∧ leaf.isComplete = false := by
  intro leaf condition
  obtain ⟨hkind, -, -, -, -, hreferences, hcomplete⟩ :=
    forField_refers_to_field "SINGLE_SELECT_FIELD" "f"
  refine ⟨hreferences condition rfl, hkind, ?_⟩
  rw [Bool.eq_false_iff, Ne, hcomplete]
  decide

end Leaf

end CardFilter
