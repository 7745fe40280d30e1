import CardFilter.Proofs.Condition.Relations
import Mathlib.Data.List.FinRange
import Mathlib.Data.List.TakeWhile

/-!
# What a leaf needs

A leaf is written like a form with slots to fill in: what it looks at, the hops on the way, and the
comparison value of its test, of which a range has two.  A *need* is one such slot, with all that may
stand in it and a way to put that there.  Which slots there are follows from the kind and from the
relation; what fills a slot is said for each sort of contents apart from how completeness is judged.

A leaf is complete exactly when its test is chosen and its needs are met, and they are met
independently of one another: other contents in one slot of a complete leaf leave it complete
exactly when they fill that slot.  A hop is a slot that must not be blank, but nothing requires a
path to have hops.
-/

namespace CardFilter

/-! ## Needs -/

/-- A slot to be filled in something: what can stand in it, what of that fills it, what stands in it
now, and the whole with something put there. -/
structure Need {Whole : Type} (whole : Whole) where
  Content : Type
  Met : Content → Prop
  content : Content
  put : Content → Whole
  put_content : put content = whole

namespace Need

variable {Part Whole : Type} {part : Part} {whole : Whole}

/-- Whether the slot is filled by what stands in it. -/
def IsMet (need : Need whole) : Prop := need.Met need.content

/-- A slot of a part as a slot of the whole. -/
def map (build : Part → Whole) (need : Need part) : Need (build part) where
  Content := need.Content
  Met := need.Met
  content := need.content
  put := build ∘ need.put
  put_content := congrArg build need.put_content

end Need

/-- Needs decide a verdict when it is given exactly if they are met, and when from then on each of
them alone decides it by what is put there. -/
structure Decides {Whole : Type} {whole : Whole} (needs : List (Need whole))
    (verdict : Whole → Bool) : Prop where
  iff_met : verdict whole = true ↔ ∀ need ∈ needs, need.IsMet
  put : verdict whole = true → ∀ need ∈ needs, ∀ content,
    (verdict (need.put content) = true ↔ need.Met content)

namespace Decides

variable {Part Whole : Type} {part : Part} {whole : Whole} {verdict : Whole → Bool}

theorem nil (h : verdict whole = true) : Decides ([] : List (Need whole)) verdict :=
  ⟨iff_of_true h (fun _ ↦ nofun), fun _ _ ↦ nofun⟩

theorem singleton {need : Need whole}
    (h : ∀ content, verdict (need.put content) = true ↔ need.Met content) :
    Decides [need] verdict := by
  constructor
  · have hself := h need.content
    rw [need.put_content] at hself
    rw [List.forall_mem_singleton]
    exact hself
  · intro _
    rw [List.forall_mem_singleton]
    exact h

/-- Two slots decide a verdict when it takes both of them, whichever is filled last. -/
theorem pair {first second : Need whole}
    (hfirst : ∀ content, verdict (first.put content) = true ↔ first.Met content ∧ second.IsMet)
    (hsecond : ∀ content, verdict (second.put content) = true ↔ first.IsMet ∧ second.Met content) :
    Decides [first, second] verdict := by
  have hboth : verdict whole = true ↔ first.IsMet ∧ second.IsMet := by
    have hself := hfirst first.content
    rw [first.put_content] at hself
    exact hself
  constructor
  · rw [hboth, List.forall_mem_cons, List.forall_mem_singleton]
  · intro hverdict
    obtain ⟨hmet, hother⟩ := hboth.1 hverdict
    rw [List.forall_mem_cons, List.forall_mem_singleton]
    exact ⟨fun content ↦ (hfirst content).trans (and_iff_left hother),
      fun content ↦ (hsecond content).trans (and_iff_right hmet)⟩

theorem map {needs : List (Need part)} {partly : Part → Bool} {build : Part → Whole}
    (h : Decides needs partly) (hbuild : ∀ other, verdict (build other) = partly other) :
    Decides (needs.map (Need.map build)) verdict := by
  constructor
  · rw [hbuild, h.iff_met, List.forall_mem_map]
    exact Iff.rfl
  · intro hverdict
    rw [hbuild] at hverdict
    rw [List.forall_mem_map]
    intro need hneed content
    have hput := h.put hverdict need hneed content
    rw [← hbuild] at hput
    exact hput

/-- Two verdicts hold together when the slots of one do not matter to the other. -/
theorem append {first second : List (Need whole)} {left right : Whole → Bool}
    (hfirst : Decides first left) (hsecond : Decides second right)
    (hboth : ∀ other, verdict other = (left other && right other))
    (hright : ∀ need ∈ first, ∀ content, right (need.put content) = right whole)
    (hleft : ∀ need ∈ second, ∀ content, left (need.put content) = left whole) :
    Decides (first ++ second) verdict := by
  constructor
  · rw [hboth, Bool.and_eq_true_iff, hfirst.iff_met, hsecond.iff_met, List.forall_mem_append]
  · intro hverdict
    rw [hboth, Bool.and_eq_true_iff] at hverdict
    obtain ⟨hheld, hother⟩ := hverdict
    rw [List.forall_mem_append]
    constructor
    · intro need hneed content
      rw [hboth, hright need hneed content, hother, Bool.and_true]
      exact hfirst.put hheld need hneed content
    · intro need hneed content
      rw [hboth, hleft need hneed content, hheld, Bool.true_and]
      exact hsecond.put hother need hneed content

end Decides

/-! ## What fills a slot -/

/-- A number is given by a finite literal or by the field of another one. -/
inductive NumberValue.Given : Option NumberValue → Prop
  | literal {value : Binary64} : value.isFinite = true → Given (some (.literal (some value)))
  | reference {fieldId : String} : Text.isFilled fieldId = true → Given (some (.reference fieldId))

/-- A date is given by a token or by a text that names one; neither is blank. -/
inductive DateValue.Given : Option DateValue → Prop
  | keyDate {token : String} : Text.isFilled token = true → Given (some (.keyDate token))
  | specific {text : String} : Text.isFilled text = true → Calendar.namesDate text = true →
    Given (some (.specific text))

/-- What is looked at is given by its identifier, or as one of the dates that every card has. -/
inductive Identity.Given : Identity → Prop
  | named {id : String} : Text.isFilled id = true → Given (.named id)
  | system {field : SystemDate} : Given (.system (some field))

/-- Identifiers are given when there are some and none of them is blank. -/
def IdsGiven (ids : List String) : Prop := ids ≠ [] ∧ ∀ id ∈ ids, Text.isFilled id = true

theorem NumberValue.any_isFilled_iff (value : Option NumberValue) :
    value.any NumberValue.isFilled = true ↔ NumberValue.Given value := by
  constructor
  · intro h
    match value with
    | some (.literal (some _)) => exact .literal h
    | some (.reference _) => exact .reference h
  · rintro (h | h) <;> exact h

/-- Nothing is left of a blank text to name a date. -/
theorem Text.isFilled_of_namesDate {text : String} (h : Calendar.namesDate text = true) :
    isFilled text = true := by
  cases hfilled : isFilled text with
  | true => rfl
  | false =>
    have hblank : ∀ c ∈ text.toList, isWhiteSpace c = true := by
      rw [isFilled, Bool.not_eq_false', isBlank, List.all_eq_true] at hfilled
      exact hfilled
    have htrim : trim text.toList = [] := by
      rw [trim, trimStart, List.dropWhile_eq_nil_iff.2 hblank]
      rfl
    rw [Calendar.namesDate, Calendar.date?, htrim] at h
    cases h

theorem DateValue.any_isFilled_iff (value : Option DateValue) :
    value.any DateValue.isFilled = true ↔ DateValue.Given value := by
  constructor
  · intro h
    match value with
    | some (.keyDate _) => exact .keyDate h
    | some (.specific _) => exact .specific (Text.isFilled_of_namesDate h) h
  · rintro (h | ⟨-, h⟩) <;> exact h

theorem Identity.isFilled_iff {identity : Identity} (h : identity ≠ .implied) :
    identity.isFilled = true ↔ identity.Given := by
  constructor
  · intro hfilled
    match identity with
    | .named _ => exact .named hfilled
    | .system (some _) => exact .system
  · rintro (hfilled | _)
    · exact hfilled
    · rfl

theorem allFilled_iff (ids : List String) : allFilled ids = true ↔ IdsGiven ids := by
  rw [allFilled, IdsGiven, Bool.and_eq_true_iff, List.all_eq_true, Bool.not_eq_true',
    List.isEmpty_eq_false_iff]

theorem any_allFilled_iff (ids : Option (List String)) :
    ids.any allFilled = true ↔ ∃ given, ids = some given ∧ IdsGiven given := by
  simp only [Option.any_eq_true, allFilled_iff]

/-! ## The needs of a test -/

namespace Test

variable {kind : Kind}

/-- The slots of a comparison value; other contents leave its form as it is. -/
def valueNeeds : (test : Test kind) → List (Need test)
  | ⟨_, .nothing, _, _⟩ => []
  | ⟨form, .text value, listed, fits⟩ =>
    [⟨String, (Text.isFilled · = true), value, (⟨form, .text ·, listed, fits⟩), rfl⟩]
  | ⟨form, .number value, listed, fits⟩ =>
    [⟨Option NumberValue, NumberValue.Given, value, (⟨form, .number ·, listed, fits⟩), rfl⟩]
  | ⟨form, .numberRange lower upper, listed, fits⟩ => [
    ⟨Option NumberValue, NumberValue.Given, lower,
      (⟨form, .numberRange · upper, listed, fits⟩), rfl⟩,
    ⟨Option NumberValue, NumberValue.Given, upper,
      (⟨form, .numberRange lower ·, listed, fits⟩), rfl⟩]
  | ⟨form, .date value, listed, fits⟩ =>
    [⟨Option DateValue, DateValue.Given, value, (⟨form, .date ·, listed, fits⟩), rfl⟩]
  | ⟨form, .dateRange lower upper, listed, fits⟩ => [
    ⟨Option DateValue, DateValue.Given, lower, (⟨form, .dateRange · upper, listed, fits⟩), rfl⟩,
    ⟨Option DateValue, DateValue.Given, upper, (⟨form, .dateRange lower ·, listed, fits⟩), rfl⟩]
  | ⟨form, .one sort id, listed, fits⟩ =>
    [⟨String, (Text.isFilled · = true), id, (⟨form, .one sort ·, listed, fits⟩), rfl⟩]
  | ⟨form, .many sort ids, listed, fits⟩ =>
    [⟨List String, IdsGiven, ids, (⟨form, .many sort ·, listed, fits⟩), rfl⟩]
  | ⟨form, .cards ids, listed, fits⟩ =>
    [⟨Option (List String), fun ids ↦ ∃ given, ids = some given ∧ IdsGiven given, ids,
      (⟨form, .cards ·, listed, fits⟩), rfl⟩]
  | ⟨form, .cycles values, listed, fits⟩ =>
    [⟨List Cycle, (· ≠ []), values, (⟨form, .cycles ·, listed, fits⟩), rfl⟩]

/-- What a test needs: a comparison value, if its relation compares with one. -/
def needs (test : Test kind) : List (Need test) :=
  if test.relation.needsValue then test.valueNeeds else []

end Test

theorem Test.decides_valueNeeds {kind : Kind} (test : Test kind) :
    Decides test.valueNeeds Test.isFilled := by
  obtain ⟨form, operand, listed, fits⟩ := test
  have hcycles (values : List Cycle) : (!values.isEmpty) = true ↔ values ≠ [] := by simp
  cases operand with
  | nothing => exact .nil rfl
  | text | one => exact .singleton fun _ ↦ Iff.rfl
  | number => exact .singleton NumberValue.any_isFilled_iff
  | date => exact .singleton DateValue.any_isFilled_iff
  | many => exact .singleton allFilled_iff
  | cards => exact .singleton any_allFilled_iff
  | cycles => exact .singleton hcycles
  | numberRange lower upper =>
    have hrange (lower upper : Option NumberValue) :
        (lower.any NumberValue.isFilled && upper.any NumberValue.isFilled) = true ↔
          NumberValue.Given lower ∧ NumberValue.Given upper := by
      rw [Bool.and_eq_true_iff, NumberValue.any_isFilled_iff, NumberValue.any_isFilled_iff]
    exact .pair (hrange · upper) (hrange lower ·)
  | dateRange lower upper =>
    have hrange (lower upper : Option DateValue) :
        (lower.any DateValue.isFilled && upper.any DateValue.isFilled) = true ↔
          DateValue.Given lower ∧ DateValue.Given upper := by
      rw [Bool.and_eq_true_iff, DateValue.any_isFilled_iff, DateValue.any_isFilled_iff]
    exact .pair (hrange · upper) (hrange lower ·)

/-- A test whose relation needs no value is filled as it stands. -/
theorem Test.decides_needs {kind : Kind} (test : Test kind) : Decides test.needs Test.isFilled := by
  unfold needs
  split
  · exact test.decides_valueNeeds
  · rename_i hvalue
    exact .nil (isFilled_of_not_needsValue (Bool.eq_false_iff.2 hvalue))

/-! ## The needs of a subject -/

/-- What may be looked at in leaves of a kind. -/
structure AdmittedIdentity (kind : Kind) where
  identity : Identity
  admitted : kind.subjectForm.admits identity = true

namespace Subject

variable {kind : Kind}

/-- What is looked at, unless the kind says it. -/
def identityNeeds (subject : Subject kind) : List (Need subject) :=
  if kind.subjectForm = .implied then []
  else [{
    Content := AdmittedIdentity kind
    Met := fun content ↦ content.identity.Given
    content := ⟨subject.identity, subject.admitted⟩
    put := fun content ↦ ⟨content.identity, subject.path, content.admitted⟩
    put_content := rfl }]

/-- Each hop on the way. -/
def hopNeeds : (subject : Subject kind) → List (Need subject)
  | ⟨_, none, _⟩ => []
  | ⟨identity, some path, admitted⟩ => (List.finRange path.hops.length).map fun index : Fin _ ↦ {
      Content := String
      Met := (Text.isFilled · = true)
      content := path.hops[index]
      put := fun hop ↦ ⟨identity, some ⟨path.hops.set index hop⟩, admitted⟩
      put_content := by simp }

def needs (subject : Subject kind) : List (Need subject) := subject.identityNeeds ++ subject.hopNeeds

end Subject

theorem SubjectForm.identity_eq_implied_iff {form : SubjectForm} {identity : Identity}
    (h : form.admits identity = true) : identity = .implied ↔ form = .implied := by
  cases form <;> cases identity <;> simp [admits] at h ⊢

theorem Subject.decides_identityNeeds {kind : Kind} (subject : Subject kind) :
    Decides subject.identityNeeds fun other ↦ other.identity.isFilled := by
  unfold identityNeeds
  split
  · rename_i hform
    apply Decides.nil
    rw [(SubjectForm.identity_eq_implied_iff subject.admitted).2 hform]
    rfl
  · rename_i hform
    apply Decides.singleton
    rintro ⟨identity, hadmitted⟩
    apply Identity.isFilled_iff
    rwa [Ne, SubjectForm.identity_eq_implied_iff hadmitted]

theorem Subject.decides_hopNeeds {kind : Kind} (subject : Subject kind) :
    Decides subject.hopNeeds fun other ↦ other.path.all Path.isFilled := by
  have hpath (hops : List String) :
      (some (Path.mk hops)).all Path.isFilled = true ↔ ∀ hop ∈ hops, Text.isFilled hop = true :=
    List.all_eq_true
  match subject with
  | ⟨_, none, _⟩ => exact .nil rfl
  | ⟨identity, some ⟨hops⟩, admitted⟩ =>
    unfold hopNeeds
    constructor
    · rw [List.forall_mem_map, hpath, List.forall_mem_iff_getElem]
      constructor
      · intro hfilled index _
        exact hfilled index index.2
      · intro hmet index hindex
        exact hmet ⟨index, hindex⟩ (List.mem_finRange _)
    · intro hfilled
      rw [hpath] at hfilled
      rw [List.forall_mem_map]
      intro index _ hop
      apply (hpath (hops.set index hop)).trans
      constructor
      · intro hall
        exact hall hop (List.mem_set index.2 hop)
      · intro hhop other hother
        -- The other hops are filled already, because the path was.
        rcases List.mem_or_eq_of_mem_set hother with hother | rfl
        · exact hfilled other hother
        · exact hhop

theorem Subject.decides_needs {kind : Kind} (subject : Subject kind) :
    Decides subject.needs Subject.isFilled := by
  apply subject.decides_identityNeeds.append subject.decides_hopNeeds fun _ ↦ rfl
  · unfold identityNeeds
    split
    · exact fun _ ↦ nofun
    · rw [List.forall_mem_singleton]
      exact fun _ ↦ rfl
  · match subject with
    | ⟨_, none, _⟩ => exact fun _ ↦ nofun
    | ⟨_, some _, _⟩ =>
      unfold hopNeeds
      rw [List.forall_mem_map]
      exact fun _ _ _ ↦ rfl

/-! ## Leaves -/

namespace Leaf

/-- What a leaf needs beside its test being chosen. -/
def needs : (leaf : Leaf) → List (Need leaf)
  | ⟨kind, subject, none⟩ => subject.needs.map (Need.map (Leaf.mk kind · none))
  | ⟨kind, subject, some test⟩ =>
    subject.needs.map (Need.map (Leaf.mk kind · (some test))) ++
      test.needs.map (Need.map fun other ↦ Leaf.mk kind subject (some other))

theorem decides_needs {kind : Kind} (subject : Subject kind) (test : Test kind) :
    Decides (needs ⟨kind, subject, some test⟩) Leaf.isComplete := by
  have hsubject : Decides (subject.needs.map (Need.map (Leaf.mk kind · (some test))))
      fun other ↦ other.subject.isFilled := subject.decides_needs.map fun _ ↦ rfl
  have htest : Decides
      (test.needs.map (Need.map fun other ↦ Leaf.mk kind subject (some other)))
      fun other ↦ other.test.any Test.isFilled := test.decides_needs.map fun _ ↦ rfl
  refine hsubject.append htest (fun _ ↦ rfl) ?_ ?_
  · rw [List.forall_mem_map]
    exact fun _ _ _ ↦ rfl
  · rw [List.forall_mem_map]
    exact fun _ _ _ ↦ rfl

/-- A leaf is complete exactly if its test is chosen and all its needs are met.  In a complete leaf
another test, or none, leaves it complete exactly if there is one and its needs are met, and so do
other contents in a single slot exactly if they fill that slot. -/
theorem isComplete_iff_needs_met (leaf : Leaf) :
    (leaf.isComplete = true ↔ leaf.test.isSome = true ∧ ∀ need ∈ leaf.needs, need.IsMet) ∧
      (leaf.isComplete = true →
        (∀ test : Option (Test leaf.kind), ({ leaf with test := test } : Leaf).isComplete = true ↔
          ∃ chosen, test = some chosen ∧ ∀ need ∈ chosen.needs, need.IsMet) ∧
        ∀ need ∈ leaf.needs, ∀ content,
          ((need.put content).isComplete = true ↔ need.Met content)) := by
  obtain ⟨kind, subject, _ | test⟩ := leaf
  · have hopen : Leaf.isComplete ⟨kind, subject, none⟩ = false := Bool.and_false _
    simp [hopen]
  · have hneeds := decides_needs subject test
    refine ⟨?_, fun hcomplete ↦ ⟨?_, hneeds.put hcomplete⟩⟩
    · rw [hneeds.iff_met]
      exact (and_iff_right rfl).symm
    · intro other
      obtain ⟨hsubject, -⟩ := Bool.and_eq_true_iff.1 hcomplete
      have hother : Leaf.isComplete ⟨kind, subject, other⟩ = other.any Test.isFilled := by
        rw [isComplete, hsubject, Bool.true_and]
      rw [hother, Option.any_eq_true]
      exact exists_congr fun chosen ↦ and_congr_right fun _ ↦ chosen.decides_needs.iff_met

/-- A range of numbers on the way over a link: it needs both ends, and its hop must not be blank. -/
theorem isComplete_iff_needs_met_range :
    let subject : Subject .number := ⟨.named "n", some ⟨["l:SOURCE"]⟩, rfl⟩
    let lower : NumberValue := .literal (some .zero)
    let build (hop : String) (upper : Option NumberValue) : Leaf :=
      ⟨.number, subject.withPath (some ⟨[hop]⟩),
        some ⟨⟨"BETWEEN", .between, .numberRange⟩, .numberRange (some lower) upper, by decide, rfl⟩⟩
    let leaf := build "l:SOURCE" (some (.reference "m"))
    let hop : Need leaf :=
      ⟨String, (Text.isFilled · = true), "l:SOURCE", (build · (some (.reference "m"))), rfl⟩
    let upper : Need leaf :=
      ⟨Option NumberValue, NumberValue.Given, some (.reference "m"), build "l:SOURCE", rfl⟩
    leaf.isComplete = true ∧ hop ∈ leaf.needs ∧ upper ∈ leaf.needs ∧
      (build " " (some (.reference "m"))).isComplete = false ∧
      (build "l:SOURCE" none).isComplete = false ∧
      (build "l:SOURCE" (some (.reference "k"))).isComplete = true ∧
      Leaf.isComplete ⟨.number, subject, none⟩ = false := by
  intro subject lower build leaf hop upper
  have hcomplete : leaf.isComplete = true := by decide
  have hhop : hop ∈ leaf.needs := .tail _ (.head _)
  have hupper : upper ∈ leaf.needs := .tail _ (.tail _ (.tail _ (.head _)))
  obtain ⟨-, hput⟩ := isComplete_iff_needs_met leaf
  obtain ⟨htest, hneeds⟩ := hput hcomplete
  refine ⟨hcomplete, hhop, hupper, ?_, ?_, ?_, ?_⟩
  · exact Bool.eq_false_iff.2 fun h ↦ absurd ((hneeds hop hhop " ").1 h) (by decide)
  · exact Bool.eq_false_iff.2 fun h ↦ nomatch (hneeds upper hupper none).1 h
  · exact (hneeds upper hupper (some (.reference "k"))).2 (.reference (by decide))
  · refine Bool.eq_false_iff.2 fun h ↦ ?_
    obtain ⟨chosen, hnone, -⟩ := (htest none).1 h
    cases hnone

end Leaf

end CardFilter
