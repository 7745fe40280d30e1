import CardFilter.Proofs.Condition.Carried
import CardFilter.Proofs.Table

/-!
# What is collected from a condition

The references of a condition are gathered leaf by leaf into sets that grow.  The sets hold exactly
what is carried anywhere in the tree and is not blank, and nothing that has been gathered is lost on
the way.

A blank field is no reference, but it can have options.
-/

namespace CardFilter

/-! ## What references hold -/

theorem NameSet.mem_insert {name other : String} {set : NameSet} :
    other ∈ NameSet.insert name set ↔ other = name ∨ other ∈ set := by
  induction set with
  | nil => simp [insert]
  | cons first rest ih =>
    simp only [insert]
    split
    · exact List.mem_cons
    · split
      · rename_i heq
        subst heq
        simp
      · rw [List.mem_cons, ih, List.mem_cons]
        exact or_left_comm

theorem NameSet.mem_insertAll {names : List String} {other : String} {set : NameSet} :
    other ∈ NameSet.insertAll names set ↔ other ∈ names ∨ other ∈ set := by
  induction names generalizing set with
  | nil => simp [insertAll]
  | cons name rest ih =>
    have hstep : insertAll (name :: rest) set = insertAll rest (insert name set) := rfl
    rw [hstep, ih, mem_insert, List.mem_cons, or_left_comm, or_assoc]

namespace References

/-- Whether an identifier is in the set of those that stand for the same sort of thing. -/
def Holds (references : References) : Referent → String → Prop
  | .field, id => id ∈ references.fields
  | .link, id => id ∈ references.links
  | .option fieldId, id => id ∈ (references.options.lookup fieldId).getD []
  | .card, id => id ∈ references.cards
  | .status, id => id ∈ references.statuses
  | .stream, id => id ∈ references.streams
  | .user, id => id ∈ references.users

instance decidableHolds (references : References) : (referent : Referent) → (id : String) →
    Decidable (references.Holds referent id)
  | .field, id => inferInstanceAs (Decidable (id ∈ references.fields))
  | .link, id => inferInstanceAs (Decidable (id ∈ references.links))
  | .option fieldId, id =>
    inferInstanceAs (Decidable (id ∈ (references.options.lookup fieldId).getD []))
  | .card, id => inferInstanceAs (Decidable (id ∈ references.cards))
  | .status, id => inferInstanceAs (Decidable (id ∈ references.statuses))
  | .stream, id => inferInstanceAs (Decidable (id ∈ references.streams))
  | .user, id => inferInstanceAs (Decidable (id ∈ references.users))

theorem exists_entry_of_holds {references : References} {fieldId id : String}
    (h : references.Holds (.option fieldId) id) :
    ∃ ids, (fieldId, ids) ∈ references.options ∧ id ∈ ids := by
  rw [Holds] at h
  cases hlookup : references.options.lookup fieldId with
  | none =>
    rw [hlookup] at h
    cases h
  | some ids =>
    rw [hlookup] at h
    exact ⟨ids, Table.mem_of_lookup hlookup, h⟩

/-- The entries of options are a table, each with an option. -/
structure Tidy (references : References) : Prop where
  sorted : references.options.Sorted
  occupied : ∀ fieldId, references.options.lookup fieldId ≠ some []

/-- The additions to the sets, by what the identifiers stand for. -/
def add : Referent → List String → References → References
  | .field => addFields
  | .link => addLinks
  | .option fieldId => addOptions fieldId
  | .card => addCards
  | .status => addStatuses
  | .stream => addStreams
  | .user => addUsers

theorem mem_filled_iff {ids : List String} {id : String} :
    id ∈ filled ids ↔ id ∈ ids ∧ Text.isFilled id = true := List.mem_filter

theorem mem_added_iff {ids : List String} {id : String} {set : NameSet} :
    id ∈ set.insertAll (filled ids) ↔ id ∈ ids ∧ Text.isFilled id = true ∨ id ∈ set := by
  rw [NameSet.mem_insertAll, mem_filled_iff]

/-- Without a filled option nothing is entered, and an entry is replaced by a larger one. -/
theorem lookup_addOptions (fieldId key : String) (ids : List String) (references : References) :
    ((addOptions fieldId ids references).options.lookup key).getD [] =
      if key = fieldId then
        NameSet.insertAll (filled ids) ((references.options.lookup fieldId).getD [])
      else (references.options.lookup key).getD [] := by
  unfold addOptions
  generalize hoptions :
    NameSet.insertAll (filled ids) ((references.options.lookup fieldId).getD []) = options
  have hheld : options = [] → (references.options.lookup fieldId).getD [] = [] := by
    rintro rfl
    rw [List.eq_nil_iff_forall_not_mem] at hoptions ⊢
    exact fun id hid ↦ hoptions id (NameSet.mem_insertAll.2 (.inr hid))
  by_cases hempty : options = []
  · by_cases hkey : key = fieldId
    · subst hkey
      simp [hempty, hheld hempty]
    · simp [hempty, hkey]
  · by_cases hkey : key = fieldId <;> simp [hempty, hkey, Table.lookup_insert]

theorem exists_addOptions (fieldId : String) (ids : List String) (references : References) :
    ∃ options, addOptions fieldId ids references = { references with options := options } := by
  unfold addOptions
  dsimp only
  split
  · exact ⟨references.options, rfl⟩
  · exact ⟨_, rfl⟩

/-- An addition enters what is filled and changes nothing else. -/
theorem holds_add (referent other : Referent) (ids : List String) (id : String)
    (references : References) :
    (add referent ids references).Holds other id ↔
      (other = referent ∧ id ∈ ids ∧ Text.isFilled id = true) ∨ references.Holds other id := by
  cases referent with
  | option fieldId =>
    cases other with
    | option key =>
      rw [add, Holds, lookup_addOptions, Holds]
      split
      · rename_i hkey
        subst hkey
        simp [mem_added_iff]
      · rename_i hkey
        simp [hkey]
    | field | link | card | status | stream | user =>
      obtain ⟨options, hoptions⟩ := exists_addOptions fieldId ids references
      simp [add, hoptions, Holds]
  | field => cases other <;> simp [add, addFields, Holds, mem_added_iff]
  | link => cases other <;> simp [add, addLinks, Holds, mem_added_iff]
  | card => cases other <;> simp [add, addCards, Holds, mem_added_iff]
  | status => cases other <;> simp [add, addStatuses, Holds, mem_added_iff]
  | stream => cases other <;> simp [add, addStreams, Holds, mem_added_iff]
  | user => cases other <;> simp [add, addUsers, Holds, mem_added_iff]

theorem Tidy.add {references : References} (h : references.Tidy) (referent : Referent)
    (ids : List String) : (add referent ids references).Tidy := by
  cases referent with
  | option fieldId =>
    unfold References.add addOptions
    dsimp only
    split
    · exact h
    · rename_i hoccupied
      refine ⟨Table.sorted_insert _ _ h.sorted, ?_⟩
      intro key
      rw [Table.lookup_insert]
      split
      · intro hempty
        exact hoccupied (by rw [Option.some.inj hempty]; rfl)
      · exact h.occupied key
  | field | link | card | status | stream | user => exact ⟨h.sorted, h.occupied⟩

theorem tidy_empty : empty.Tidy := ⟨.nil, fun _ ↦ nofun⟩

end References

/-! ## What a leaf adds -/

namespace References

def addMention (references : References) (mention : Mention) : References :=
  add mention.referent mention.ids references

theorem holds_mentions (mentions : List Mention) (references : References) (referent : Referent)
    (id : String) :
    (mentions.foldl addMention references).Holds referent id ↔
      (∃ mention ∈ mentions, mention.referent = referent ∧ id ∈ mention.ids ∧
        Text.isFilled id = true) ∨ references.Holds referent id := by
  induction mentions generalizing references with
  | nil => simp
  | cons mention rest ih =>
    rw [List.foldl_cons, ih, addMention, holds_add, List.exists_mem_cons_iff, or_left_comm,
      or_assoc, eq_comm]

theorem Tidy.mentions {references : References} (h : references.Tidy) (mentions : List Mention) :
    (mentions.foldl addMention references).Tidy := by
  induction mentions generalizing references with
  | nil => exact h
  | cons mention rest ih => exact ih (h.add mention.referent mention.ids)

theorem addOwner_eq (kind : Kind) (id : String) (references : References) :
    addOwner kind id references = references.addMention ⟨kind.referent, [id]⟩ := by
  cases kind <;> rfl

theorem addOperand_eq (owner : String) (operand : Operand) (references : References) :
    addOperand owner operand references = references.addMention (operand.mention owner) := by
  cases operand with
  | one sort | many sort => cases sort <;> rfl
  | _ => rfl

end References

/-- A leaf is gathered place by place. -/
theorem Leaf.addReferences_eq (leaf : Leaf) (references : References) :
    leaf.addReferences references = leaf.mentions.foldl References.addMention references := by
  unfold addReferences mentions
  rw [List.foldl_cons, List.foldl_append]
  cases leaf.id? with
  | none =>
    cases leaf.test with
    | none => rfl
    | some test => exact References.addOperand_eq _ _ _
  | some id =>
    cases leaf.test with
    | none => exact References.addOwner_eq _ _ _
    | some test =>
      dsimp only
      rw [References.addOperand_eq, References.addOwner_eq]
      rfl

namespace Leaf

/-- A leaf adds what it carries, as far as it is filled. -/
theorem holds_addReferences (leaf : Leaf) (references : References) (referent : Referent)
    (id : String) :
    (leaf.addReferences references).Holds referent id ↔
      (Text.isFilled id = true ∧ leaf.Carries referent id) ∨ references.Holds referent id := by
  rw [addReferences_eq, References.holds_mentions, carries_iff]
  apply or_congr_left
  constructor
  · rintro ⟨mention, hmention, hreferent, hid, hfilled⟩
    exact ⟨hfilled, mention, hmention, hreferent, hid⟩
  · rintro ⟨hfilled, mention, hmention, hreferent, hid⟩
    exact ⟨mention, hmention, hreferent, hid, hfilled⟩

theorem tidy_addReferences (leaf : Leaf) {references : References} (h : references.Tidy) :
    (leaf.addReferences references).Tidy := by
  rw [addReferences_eq]
  exact h.mentions leaf.mentions

end Leaf

/-! ## Whole trees -/

namespace Node

mutual

/-- A tree is gathered leaf by leaf. -/
theorem addReferences_eq : (node : Node) → (references : References) →
    node.addReferences references =
      node.leaves.foldl (fun references leaf ↦ leaf.addReferences references) references
  | .leaf item, references => by simp [addReferences, leaves]
  | .group connective children, references => by
    rw [addReferences, leaves, addAllReferences_eq children references]

theorem addAllReferences_eq : (nodes : List Node) → (references : References) →
    addAllReferences nodes references =
      (allLeaves nodes).foldl (fun references leaf ↦ leaf.addReferences references) references
  | [], references => rfl
  | node :: rest, references => by
    rw [addAllReferences, allLeaves, List.foldl_append, addReferences_eq node references,
      addAllReferences_eq rest]

end

end Node

namespace References

theorem holds_leaves (leaves : List Leaf) (references : References) (referent : Referent)
    (id : String) :
    (leaves.foldl (fun references leaf ↦ leaf.addReferences references) references).Holds
        referent id ↔
      (Text.isFilled id = true ∧ ∃ leaf ∈ leaves, leaf.Carries referent id) ∨
        references.Holds referent id := by
  induction leaves generalizing references with
  | nil => simp
  | cons leaf rest ih =>
    rw [List.foldl_cons, ih, leaf.holds_addReferences, List.exists_mem_cons_iff, or_left_comm,
      ← or_assoc, ← and_or_left]

theorem tidy_leaves (leaves : List Leaf) {references : References} (h : references.Tidy) :
    (leaves.foldl (fun references leaf ↦ leaf.addReferences references) references).Tidy := by
  induction leaves generalizing references with
  | nil => exact h
  | cons leaf rest ih => exact ih (leaf.tidy_addReferences h)

theorem not_holds_empty (referent : Referent) (id : String) : ¬ empty.Holds referent id := by
  cases referent <;> exact List.not_mem_nil

end References

namespace Condition

theorem references_eq (condition : Condition) :
    condition.references =
      condition.leaves.foldl (fun references leaf ↦ leaf.addReferences references) .empty := by
  obtain ⟨_ | root⟩ := condition
  · rfl
  · exact root.addReferences_eq .empty

theorem holds_references_iff (condition : Condition) (referent : Referent) (id : String) :
    condition.references.Holds referent id ↔
      Text.isFilled id = true ∧ condition.Carries referent id := by
  rw [references_eq, References.holds_leaves, carries_iff]
  exact or_iff_left (References.not_holds_empty referent id)

theorem tidy_references (condition : Condition) : condition.references.Tidy := by
  rw [references_eq]
  exact References.tidy_leaves condition.leaves References.tidy_empty

/-- A field has an entry exactly if one of its options is held. -/
theorem isSome_options_iff (condition : Condition) (fieldId : String) :
    (condition.references.options.lookup fieldId).isSome = true ↔
      ∃ id, condition.references.Holds (.option fieldId) id := by
  have hoccupied := condition.tidy_references.occupied fieldId
  cases hlookup : condition.references.options.lookup fieldId with
  | none => simp [References.Holds, hlookup]
  | some options =>
    cases options with
    | nil => exact absurd hlookup hoccupied
    | cons id rest => simp [References.Holds, hlookup]

/-- The sets hold exactly the identifiers that are not blank and stand in a leaf at some place, each
under what it stands for.  A field has one entry if a leaf of that field carries an option, and none
otherwise.  Whatever has been gathered stays when another node follows. -/
theorem references_hold_carried (condition : Condition) :
    (∀ referent id, condition.references.Holds referent id ↔
      Text.isFilled id = true ∧ condition.Carries referent id) ∧
    (∀ fieldId, (condition.references.options.lookup fieldId).isSome = true ↔
      ∃ id, Text.isFilled id = true ∧ condition.Carries (.option fieldId) id) ∧
    condition.references.options.Sorted ∧
    ∀ (node : Node) (references : References) (referent : Referent) (id : String),
      references.Holds referent id → (node.addReferences references).Holds referent id := by
  refine ⟨condition.holds_references_iff, ?_, condition.tidy_references.sorted, ?_⟩
  · intro fieldId
    rw [isSome_options_iff]
    exact exists_congr fun id ↦ condition.holds_references_iff (.option fieldId) id
  · intro node references referent id hheld
    rw [node.addReferences_eq, References.holds_leaves]
    exact .inr hheld

/-- Of two leaves of one field the later one has no option that is filled; the option of the first
one is held all the same. -/
theorem references_hold_carried_earlier :
    let first : Leaf :=
      ⟨.enum, ⟨.named "f", none, rfl⟩,
        some ⟨⟨"EQ", .eq, .one .option⟩, .one .option "o", by decide, rfl⟩⟩
    let later : Leaf :=
      ⟨.enum, ⟨.named "f", none, rfl⟩,
        some ⟨⟨"IN", .oneOf, .many .option⟩, .many .option [" "], by decide, rfl⟩⟩
    let condition := ofNode (.group .and [.group .or [.leaf first], .leaf later])
    (first.addReferences .empty).Holds (.option "f") "o" ∧
      ((Node.leaf later).addReferences (first.addReferences .empty)).Holds (.option "f") "o" ∧
      condition.Carries (.option "f") " " ∧ ¬ condition.references.Holds (.option "f") " " ∧
      (condition.references.options.lookup "f").isSome = true := by
  intro first later condition
  obtain ⟨hholds, hentry, -, hstays⟩ := references_hold_carried condition
  have hfirst : (first.addReferences .empty).Holds (.option "f") "o" := by decide
  have hcarried : condition.Carries (.option "f") "o" := ⟨[0, 0], first, rfl,
    .option rfl rfl rfl (by decide) (.inl rfl)⟩
  have hblank : condition.Carries (.option "f") " " := ⟨[1], later, rfl,
    .option rfl rfl rfl (by decide) (.inr ⟨[" "], rfl, by decide⟩)⟩
  refine ⟨hfirst, hstays _ _ _ _ hfirst, hblank, ?_, (hentry "f").2 ⟨"o", by decide, hcarried⟩⟩
  intro hheld
  exact absurd ((hholds _ _).1 hheld).1 (by decide)

end Condition

end CardFilter
