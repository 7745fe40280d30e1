import CardFilter.Proofs.Condition.References

/-!
# Entries of options

References are in order when no identifier in them is blank, when every field with an entry is one of
the fields, and when no entry is empty.  Whatever an unfinished condition holds, this is so for the
six sets and for the options in the entries.

It is not so for the names of the entries.  A blank field is kept out of the fields, but an option
that is named in a leaf of such a field is entered under it all the same.  The references are in
order exactly when no leaf does that.
-/

namespace CardFilter

/-- No identifier is blank, every entry belongs to one of the fields, and none is empty. -/
structure References.InOrder (references : References) : Prop where
  filled : ∀ ids ∈ [references.fields, references.links, references.cards, references.statuses,
    references.streams, references.users], ∀ id ∈ ids, Text.isFilled id = true
  named : ∀ entry ∈ references.options, Text.isFilled entry.1 = true
  chosen : ∀ entry ∈ references.options, ∀ id ∈ entry.2, Text.isFilled id = true
  known : ∀ entry ∈ references.options, entry.1 ∈ references.fields
  occupied : ∀ entry ∈ references.options, entry.2 ≠ []

/-- The field of an option that a leaf carries is carried as well. -/
theorem Leaf.carries_field_of_option (leaf : Leaf) {fieldId id : String}
    (h : leaf.Carries (.option fieldId) id) : leaf.Carries .field fieldId := by
  cases h with
  | option hkind hnamed => exact .field (by rw [hkind]; decide) hnamed

namespace References

variable {references : References} {fieldId id : String} {ids : NameSet}

theorem Tidy.holds_of_entry (h : references.Tidy) (hentry : (fieldId, ids) ∈ references.options)
    (hid : id ∈ ids) : references.Holds (.option fieldId) id := by
  rw [Holds, h.sorted.lookup_of_mem hentry]
  exact hid

theorem Tidy.ne_nil_of_entry (h : references.Tidy)
    (hentry : (fieldId, ids) ∈ references.options) : ids ≠ [] := by
  rintro rfl
  exact h.occupied fieldId (h.sorted.lookup_of_mem hentry)

/-- The six sets hold what stands for anything but an option. -/
theorem holds_of_mem_sets (hset : ids ∈ [references.fields, references.links, references.cards,
    references.statuses, references.streams, references.users]) (hid : id ∈ ids) :
    ∃ referent, references.Holds referent id := by
  simp only [List.mem_cons, List.not_mem_nil, or_false] at hset
  rcases hset with rfl | rfl | rfl | rfl | rfl | rfl
  · exact ⟨.field, hid⟩
  · exact ⟨.link, hid⟩
  · exact ⟨.card, hid⟩
  · exact ⟨.status, hid⟩
  · exact ⟨.stream, hid⟩
  · exact ⟨.user, hid⟩

end References

namespace Condition

variable {condition : Condition} {referent : Referent} {fieldId id : String} {ids : NameSet}

theorem isFilled_of_holds (h : condition.references.Holds referent id) :
    Text.isFilled id = true :=
  ((condition.holds_references_iff referent id).1 h).1

theorem carries_of_entry (hentry : (fieldId, ids) ∈ condition.references.options)
    (hid : id ∈ ids) : Text.isFilled id = true ∧ condition.Carries (.option fieldId) id :=
  (condition.holds_references_iff (.option fieldId) id).1
    (condition.tidy_references.holds_of_entry hentry hid)

/-- A field with an entry is left out of the fields only because it is blank. -/
theorem mem_fields_iff_of_entry (hentry : (fieldId, ids) ∈ condition.references.options) :
    fieldId ∈ condition.references.fields ↔ Text.isFilled fieldId = true := by
  constructor
  · intro hfield
    have hheld : condition.references.Holds .field fieldId := hfield
    exact isFilled_of_holds hheld
  · intro hfilled
    have hsome := condition.tidy_references.ne_nil_of_entry hentry
    obtain ⟨id, hid⟩ := List.exists_mem_of_ne_nil ids hsome
    obtain ⟨-, place, leaf, hplace, hcarries⟩ := carries_of_entry hentry hid
    exact (condition.holds_references_iff .field fieldId).2
      ⟨hfilled, place, leaf, hplace, leaf.carries_field_of_option hcarries⟩

/-- In what is collected no identifier of a set and no option is blank, no entry is empty, and a
field with an entry is one of the fields unless it is blank.  So everything is in order if and only
if no leaf names an option without naming its field. -/
theorem references_inOrder_iff (condition : Condition) :
    (∀ referent id, condition.references.Holds referent id → Text.isFilled id = true) ∧
      (∀ fieldId ids, (fieldId, ids) ∈ condition.references.options →
        ids ≠ [] ∧ (fieldId ∈ condition.references.fields ↔ Text.isFilled fieldId = true)) ∧
      (condition.references.InOrder ↔ ∀ fieldId id, condition.Carries (.option fieldId) id →
        Text.isFilled id = true → Text.isFilled fieldId = true) := by
  refine ⟨fun _ _ ↦ isFilled_of_holds, ?_, ?_, ?_⟩
  · intro fieldId ids hentry
    exact ⟨condition.tidy_references.ne_nil_of_entry hentry, mem_fields_iff_of_entry hentry⟩
  · intro horder fieldId id hcarries hfilled
    have hheld := (condition.holds_references_iff (.option fieldId) id).2 ⟨hfilled, hcarries⟩
    obtain ⟨ids, hentry, -⟩ := References.exists_entry_of_holds hheld
    exact horder.named (fieldId, ids) hentry
  · intro hnamed
    have hfield : ∀ entry ∈ condition.references.options, Text.isFilled entry.1 = true := by
      rintro ⟨fieldId, ids⟩ hentry
      have hsome := condition.tidy_references.ne_nil_of_entry hentry
      obtain ⟨id, hid⟩ := List.exists_mem_of_ne_nil ids hsome
      obtain ⟨hfilled, hcarries⟩ := carries_of_entry hentry hid
      exact hnamed fieldId id hcarries hfilled
    constructor
    · intro ids hset id hid
      obtain ⟨referent, hheld⟩ := References.holds_of_mem_sets hset hid
      exact isFilled_of_holds hheld
    · exact hfield
    · intro entry hentry id hid
      exact (carries_of_entry hentry hid).1
    · intro entry hentry
      exact (mem_fields_iff_of_entry hentry).2 (hfield entry hentry)
    · intro entry hentry
      exact condition.tidy_references.ne_nil_of_entry hentry

/-- Two leaves are unfinished, but neither names an option of a blank field. -/
theorem references_inOrder_iff_unfinished :
    let blank : Leaf :=
      ⟨.enum, ⟨.named "", none, rfl⟩,
        some ⟨⟨"IN", .oneOf, .many .option⟩, .many .option [" "], by decide, rfl⟩⟩
    let chosen : Leaf :=
      ⟨.enum, ⟨.named "f", none, rfl⟩,
        some ⟨⟨"IN", .oneOf, .many .option⟩, .many .option ["o", ""], by decide, rfl⟩⟩
    let condition := ofNode (.group .and [.leaf blank, .group .or [.leaf chosen]])
    condition.references.InOrder ∧ ("f", ["o"]) ∈ condition.references.options ∧
      "f" ∈ condition.references.fields ∧ condition.Carries (.option "") " " ∧
      ∀ fieldId id, condition.Carries (.option fieldId) id → Text.isFilled id = true →
        Text.isFilled fieldId = true := by
  intro blank chosen condition
  obtain ⟨-, hentries, horder⟩ := references_inOrder_iff condition
  have hentry : ("f", ["o"]) ∈ condition.references.options := by decide
  have hfield : "f" ∈ condition.references.fields := (hentries "f" ["o"] hentry).2.2 (by decide)
  have hheld : condition.references.InOrder :=
    ⟨by decide, by decide, by decide, by decide, by decide⟩
  have hcarried : condition.Carries (.option "") " " :=
    ⟨[0], blank, rfl, .option rfl rfl rfl (by decide) (.inr ⟨[" "], rfl, by decide⟩)⟩
  exact ⟨hheld, hentry, hfield, hcarried, horder.1 hheld⟩

/-- A leaf whose field is still to be chosen names an option already: the option has an entry under
the blank name, which is not one of the fields. -/
theorem options_of_blank_field :
    let leaf : Leaf := ⟨.enum, ⟨.named "", none, rfl⟩,
      some ⟨⟨"EQ", .eq, .one .option⟩, .one .option "o", by decide, rfl⟩⟩
    let references := (ofNode (.leaf leaf)).references
    references.options = [("", ["o"])] ∧ Text.isFilled "" = false ∧ "" ∉ references.fields ∧
      ¬ references.InOrder := by
  intro leaf references
  have hentry : ("", ["o"]) ∈ references.options := by decide
  have hblank : Text.isFilled "" = false := by decide
  refine ⟨by decide, hblank, by decide, ?_⟩
  intro horder
  have hfilled := horder.named ("", ["o"]) hentry
  rw [hblank] at hfilled
  cases hfilled

end Condition

end CardFilter
