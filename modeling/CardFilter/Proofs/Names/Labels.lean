import CardFilter.Names.Basic
import CardFilter.Proofs.Table

/-!
# Labels

All that a condition refers to is labelled in one table.  A field, a link, a card or a status stands
there under its identifier, and an option under the identifier of its field and its own, with a
slash between them.  Nothing keeps the keys apart: a field and a status may have one identifier, and
a slash may be part of an identifier.

No label gets into the table that is not due, and no key is missing from it.  But only one label
stays under a key, so a key gives all that is due under it exactly if that is one label.  Streams
and users have no labels.
-/

namespace CardFilter

theorem Table.exists_mem_ofPairs {α : Type} {pairs : List (String × α)} {key : String} {value : α}
    (h : (key, value) ∈ pairs) : ∃ held, (key, held) ∈ ofPairs pairs := by
  have hsome : (pairs.reverse.lookup key).isSome = true :=
    List.lookup_isSome_iff.2 ⟨(key, value), List.mem_reverse.2 h, beq_self_eq_true key⟩
  obtain ⟨held, hheld⟩ := Option.isSome_iff_exists.1 hsome
  exact ⟨held, mem_of_lookup ((lookup_ofPairs pairs key).trans hheld)⟩

namespace Names

/-- A label that is due under a key, because something that is referred to is called so. -/
inductive Due (names : Names) (references : References) : String → String → Prop
  | field {id : String} :
    id ∈ references.fields → Due names references id (names.fieldName id)
  | link {id : String} :
    id ∈ references.links → Due names references id (names.linkName id)
  | option {fieldId id : String} {ids : NameSet} :
    (fieldId, ids) ∈ references.options → id ∈ ids →
    Due names references (optionKey fieldId id) (names.optionName fieldId id)
  | card {id : String} :
    id ∈ references.cards → Due names references id (names.cardLabel id)
  | status {id : String} :
    id ∈ references.statuses → Due names references id (names.statusName id)

theorem mem_allLabels_iff {names : Names} {references : References} {key label : String} :
    (key, label) ∈ names.allLabels references ↔ names.Due references key label := by
  simp only [allLabels, labelsOf, List.mem_append, List.mem_flatMap, List.mem_map]
  constructor
  · rintro ((((⟨id, hid, heq⟩ | ⟨id, hid, heq⟩) | ⟨⟨fieldId, ids⟩, hentry, id, hid, heq⟩) |
      ⟨id, hid, heq⟩) | ⟨id, hid, heq⟩) <;> obtain ⟨rfl, rfl⟩ := Prod.mk.inj heq
    · exact .field hid
    · exact .link hid
    · exact .option hentry hid
    · exact .card hid
    · exact .status hid
  · rintro (hid | hid | ⟨hentry, hid⟩ | hid | hid)
    · exact .inl (.inl (.inl (.inl ⟨_, hid, rfl⟩)))
    · exact .inl (.inl (.inl (.inr ⟨_, hid, rfl⟩)))
    · exact .inl (.inl (.inr ⟨_, hentry, _, hid, rfl⟩))
    · exact .inl (.inr ⟨_, hid, rfl⟩)
    · exact .inr ⟨_, hid, rfl⟩

section

variable {names : Names} {references : References} {key label : String}

theorem due_of_mem_labels (h : (key, label) ∈ names.labels references) :
    names.Due references key label :=
  mem_allLabels_iff.1 (Table.mem_of_mem_ofPairs h)

theorem exists_mem_labels (h : names.Due references key label) :
    ∃ held, (key, held) ∈ names.labels references :=
  Table.exists_mem_ofPairs (mem_allLabels_iff.2 h)

end

/-- The table of labels holds every key that is due, once, and nothing that is not due.  A key gives
everything that is called by it its own label if and only if no two labels are due under it. -/
theorem labels_own_iff (names : Names) (references : References) :
    (names.labels references).Sorted ∧
      (∀ key label, (key, label) ∈ names.labels references → names.Due references key label) ∧
      (∀ key label, names.Due references key label →
        ∃ held, (key, held) ∈ names.labels references) ∧
      ∀ key, (∀ label, names.Due references key label →
          (names.labels references).lookup key = some label) ↔
        ∀ label other, names.Due references key label → names.Due references key other →
          label = other := by
  have hsorted : (names.labels references).Sorted := Table.sorted_ofPairs _
  refine ⟨hsorted, fun _ _ ↦ due_of_mem_labels, fun _ _ ↦ exists_mem_labels, fun key ↦ ?_⟩
  constructor
  · intro hown label other hlabel hother
    have hsame := (hown label hlabel).symm.trans (hown other hother)
    exact Option.some.inj hsame
  · intro hone label hlabel
    obtain ⟨held, hheld⟩ := exists_mem_labels hlabel
    rw [hone label held hlabel (due_of_mem_labels hheld)]
    exact hsorted.lookup_of_mem hheld

/-- A text field and a status have one identifier, and an option of one field has the key of an
option of another: the field and the first option are labelled with the names of the others. -/
theorem labels_lost :
    let text : Leaf := ⟨.text, ⟨.named "x", none, rfl⟩,
      some ⟨⟨"IS_EMPTY", .isEmpty, .nothing⟩, .nothing, by decide, rfl⟩⟩
    let staged : Leaf :=
      ⟨.status, ⟨.named "v", none, rfl⟩,
        some ⟨⟨"EQ", .eq, .one .status⟩, .one .status "x", by decide, rfl⟩⟩
    let high : Leaf :=
      ⟨.enum, ⟨.named "a", none, rfl⟩,
        some ⟨⟨"EQ", .eq, .one .option⟩, .one .option "b/c", by decide, rfl⟩⟩
    let low : Leaf :=
      ⟨.enum, ⟨.named "a/b", none, rfl⟩,
        some ⟨⟨"EQ", .eq, .one .option⟩, .one .option "c", by decide, rfl⟩⟩
    let condition := Condition.ofNode (.group .and
      [.leaf text, .leaf staged, .leaf high, .leaf low])
    let names : Names := { Names.empty with
      fields := [("x", "Priority")]
      options := [("a", [⟨"b/c", "High", none⟩]), ("a/b", [⟨"c", "Low", none⟩])]
      statuses := [("x", "Done")] }
    let labels := names.labels condition.references
    ("x" ∈ condition.references.fields ∧ names.fieldName "x" = "Priority" ∧
        labels.lookup "x" = some "Done") ∧
      ("a", ["b/c"]) ∈ condition.references.options ∧ names.optionName "a" "b/c" = "High" ∧
        labels.lookup (optionKey "a" "b/c") = some "Low" := by
  decide

end Names

end CardFilter
