import CardFilter.Proofs.Condition.References
import CardFilter.Proofs.Session.History

/-!
# Names for a complete condition

A complete condition carries no identifier that is blank, so all that it carries is among its
references.  If an answer has an entry for every reference and the first load of a session ends with
that answer, every lookup for an identifier in the condition gives the entry of the answer.  None of
them falls back on the identifier, wherever it stands in the tree and whatever happened to the
session while the answer was on its way.

Streams and users have no names and no lookups.  What is pushed after the load is not looked at
here.
-/

namespace CardFilter

open Run (after)

namespace Names

/-- Whether there is an entry for every reference that can have one. -/
structure Covers (names : Names) (references : References) : Prop where
  fields : ∀ id ∈ references.fields, (names.fields.lookup id).isSome = true
  links : ∀ id ∈ references.links, (names.links.lookup id).isSome = true
  options : ∀ entry ∈ references.options, ∀ id ∈ entry.2,
    ∃ option ∈ names.optionsOf entry.1, option.id = id
  cards : ∀ id ∈ references.cards, (names.cards.lookup id).isSome = true
  statuses : ∀ id ∈ references.statuses, (names.statuses.lookup id).isSome = true

/-- Whether the lookups for an identifier give the entry that an answer has for it. -/
def Give (names answer : Names) : Referent → String → Prop
  | .field, id => ∃ name, answer.fields.lookup id = some name ∧ names.fieldName id = name
  | .link, id => ∃ name, answer.links.lookup id = some name ∧ names.linkName id = name
  | .option fieldId, id => ∃ options option, answer.options.lookup fieldId = some options ∧
    options.find? (·.id == id) = some option ∧ names.optionsOf fieldId = options ∧
      names.optionName fieldId id = option.name
  | .card, id => ∃ card, answer.cards.lookup id = some card ∧ names.card? id = some card ∧
    names.cardLabel id = card.label
  | .status, id => ∃ name, answer.statuses.lookup id = some name ∧ names.statusName id = name
  | .stream, _ | .user, _ => True

theorem exists_option {names : Names} {fieldId id : String}
    (h : ∃ option ∈ names.optionsOf fieldId, option.id = id) :
    ∃ options option, names.options.lookup fieldId = some options ∧
      options.find? (·.id == id) = some option := by
  obtain ⟨held, hheld, hid⟩ := h
  unfold optionsOf at hheld
  cases hlookup : names.options.lookup fieldId with
  | none =>
    rw [hlookup] at hheld
    cases hheld
  | some options =>
    rw [hlookup] at hheld
    have hfound : (options.find? (·.id == id)).isSome = true :=
      List.find?_isSome.2 ⟨held, hheld, beq_iff_eq.2 hid⟩
    obtain ⟨option, hoption⟩ := Option.isSome_iff_exists.1 hfound
    exact ⟨options, option, rfl, hoption⟩

/-- An answer that covers the references gives its own entries for them. -/
theorem Covers.give {answer : Names} {references : References} (h : answer.Covers references)
    {referent : Referent} {id : String} (hheld : references.Holds referent id) :
    answer.Give answer referent id := by
  cases referent with
  | field =>
    obtain ⟨name, hname⟩ := Option.isSome_iff_exists.1 (h.fields id hheld)
    exact ⟨name, hname, by rw [fieldName, hname]; rfl⟩
  | link =>
    obtain ⟨name, hname⟩ := Option.isSome_iff_exists.1 (h.links id hheld)
    exact ⟨name, hname, by rw [linkName, hname]; rfl⟩
  | option fieldId =>
    obtain ⟨ids, hentry, hid⟩ := References.exists_entry_of_holds hheld
    obtain ⟨options, option, hoptions, hoption⟩ := exists_option (h.options _ hentry id hid)
    have hoptionsOf : answer.optionsOf fieldId = options := by rw [optionsOf, hoptions]; rfl
    refine ⟨options, option, hoptions, hoption, hoptionsOf, ?_⟩
    rw [optionName, hoptionsOf, hoption]
    rfl
  | card =>
    obtain ⟨card, hcard⟩ := Option.isSome_iff_exists.1 (h.cards id hheld)
    exact ⟨card, hcard, hcard, by rw [cardLabel, card?, hcard]; rfl⟩
  | status =>
    obtain ⟨name, hname⟩ := Option.isSome_iff_exists.1 (h.statuses id hheld)
    exact ⟨name, hname, by rw [statusName, hname]; rfl⟩
  | stream | user => trivial

end Names

namespace Run

variable {question : Nat} {answer : Names}

/-- Once a load has ended with the answer, the names are those of the answer. -/
theorem names_of_settle {loads : List Waiting} {session : Session}
    (h : some .loaded ∈ (settle question (.ok answer) loads session).1 ∨
      session.names = answer) :
    (settle question (.ok answer) loads session).2.2.names = answer := by
  induction loads generalizing session with
  | nil => exact h.resolve_left List.not_mem_nil
  | cons load rest ih =>
    unfold settle at h ⊢
    by_cases hquestion : load.question = question
    · simp only [if_pos hquestion] at h ⊢
      apply ih
      by_cases hgeneration : session.generation = load.generation
      · right
        simp [Session.finish, hgeneration]
      · simpa [Session.finish, hgeneration] using h
    · simp only [if_neg hquestion] at h ⊢
      exact ih (h.imp_left fun hmem ↦ by simpa using hmem)

theorem names_of_answer {run : Run} {outcomes : List (Option LoadOutcome)}
    (h : (run.answer question (.ok answer)).1 = some outcomes) (hloaded : some .loaded ∈ outcomes) :
    (run.answer question (.ok answer)).2.session.names = answer := by
  unfold Run.answer at h ⊢
  split at h
  · rename_i hwaits
    rw [if_pos hwaits]
    obtain rfl := Option.some.inj h
    exact names_of_settle (.inl hloaded)
  · cases h

end Run

/-- The first load of a session asks the first question.  If the answer covers what a complete
condition refers to, the load ends with it unless it is disturbed, and whenever it does, each lookup
for an identifier of the condition gives the entry of the answer. -/
theorem complete_condition_named (condition : Condition) (answer : Names)
    (hcomplete : condition.isComplete = true) (hroot : condition.root.isSome = true)
    (hcovers : answer.Covers condition.references) :
    (after [.act (.load condition)]).told (.act (.answer 0 (.ok answer))) =
        .settled (some [some .loaded]) ∧
      ∀ (meanwhile : List Event) (outcomes : List (Option LoadOutcome)),
        (after (.act (.load condition) :: meanwhile)).told (.act (.answer 0 (.ok answer))) =
          .settled (some outcomes) → some .loaded ∈ outcomes →
        ∀ referent id, condition.Carries referent id →
          ((after (.act (.load condition) :: meanwhile)).act
            (.answer 0 (.ok answer))).session.names.Give answer referent id := by
  constructor
  · obtain ⟨_ | root⟩ := condition
    · cases hroot
    · rfl
  · intro meanwhile outcomes htold hloaded referent id hcarries
    have hnames := Run.names_of_answer (Told.settled.inj htold) hloaded
    have hfilled := Condition.isFilled_of_carries hcomplete hcarries
    have hheld := (condition.holds_references_iff referent id).2 ⟨hfilled, hcarries⟩
    rw [Run.act, hnames]
    exact hcovers.give hheld

/-- A card behind a link, a number between two others, an option and a status.  While the answer is
on its way another load begins and a name is pushed. -/
theorem complete_condition_named_meanwhile :
    let linked : Leaf := ⟨.link, ⟨.named "l:SOURCE", some ⟨["p:TARGET"]⟩, rfl⟩,
      some ⟨⟨"IN", .oneOf, .cards⟩, .cards (some ["c"]), by decide, rfl⟩⟩
    let between : Leaf := ⟨.number, ⟨.named "n", none, rfl⟩,
      some ⟨⟨"BETWEEN", .between, .numberRange⟩,
        .numberRange (some (.reference "lo")) (some (.reference "hi")), by decide, rfl⟩⟩
    let chosen : Leaf :=
      ⟨.enum, ⟨.named "e", none, rfl⟩,
        some ⟨⟨"NOT_IN", .notOneOf, .many .option⟩, .many .option ["o"], by decide, rfl⟩⟩
    let staged : Leaf :=
      ⟨.status, ⟨.named "s", none, rfl⟩,
        some ⟨⟨"PASSED", .passed, .one .status⟩, .one .status "x", by decide, rfl⟩⟩
    let condition := Condition.ofNode (.group .and [.leaf linked,
      .group .or [.leaf between, .group .and [.leaf chosen]], .leaf staged])
    let answer : Names := ⟨[("e", "Choice"), ("hi", "High"), ("lo", "Low"), ("n", "Number")],
      [("l:SOURCE", "Blocks"), ("p:TARGET", "Parent")], [("e", [⟨"o", "Option", none⟩])],
      [("c", ⟨"c", "C-1", "Card"⟩)], [("x", "Done")]⟩
    let meanwhile := [Event.act (.load condition), .act (.push (.field "hi" "Pushed"))]
    let session := ((after (.act (.load condition) :: meanwhile)).act
      (.answer 0 (.ok answer))).session
    condition.isComplete = true ∧ condition.root.isSome = true ∧
      answer.Covers condition.references ∧ condition.Carries .field "hi" ∧
      session.names.Give answer .field "hi" ∧ session.names.Give answer (.option "e") "o" := by
  intro linked between chosen staged condition answer meanwhile session
  have hcomplete : condition.isComplete = true := by decide
  have hcovers : answer.Covers condition.references :=
    ⟨by decide, by decide, by decide, by decide, by decide⟩
  have hbetween : condition.Carries .field "hi" :=
    ⟨[1, 0], between, rfl, .number rfl rfl (.inr (.inr ⟨_, rfl⟩))⟩
  have hchosen : condition.Carries (.option "e") "o" := ⟨[1, 1, 0], chosen, rfl,
    .option rfl rfl rfl (by decide) (.inr ⟨["o"], rfl, by decide⟩)⟩
  obtain ⟨-, hgive⟩ := complete_condition_named condition answer hcomplete rfl hcovers
  have hnamed := hgive meanwhile [some .loaded] rfl (by decide)
  exact ⟨hcomplete, rfl, hcovers, hbetween, hnamed _ _ hbetween, hnamed _ _ hchosen⟩

end CardFilter
