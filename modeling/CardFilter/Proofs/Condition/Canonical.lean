import CardFilter.Condition.Parse
import CardFilter.Proofs.Condition.Lenient
import CardFilter.Proofs.Json.Held

/-!
# Canonical conditions

A condition is canonical when no leaf has a path without hops and no literal number is one that
JSON cannot hold.  The canonical form drops such paths and such numbers and keeps all the rest: the
tree, the connectives, tests and ends of ranges that are missing, and every text.

Everything that is read from a value in memory is canonical already, because paths are dropped while
they are read and a value in memory has finite numbers only.
-/

namespace CardFilter

attribute [ext] Test Subject

/-! ## Canonical form -/

/-- A literal that is not finite is left without a value. -/
def NumberValue.canonical : NumberValue → NumberValue
  | .literal value => .literal (value.filter Binary64.isFinite)
  | .reference fieldId => .reference fieldId

def Operand.canonical : Operand → Operand
  | .number value => .number (value.map NumberValue.canonical)
  | .numberRange lower upper =>
    .numberRange (lower.map NumberValue.canonical) (upper.map NumberValue.canonical)
  | operand => operand

theorem Operand.slot_canonical (operand : Operand) : operand.canonical.slot = operand.slot := by
  cases operand <;> rfl

def Test.canonical {kind : Kind} (test : Test kind) : Test kind where
  form := test.form
  operand := test.operand.canonical
  listed := test.listed
  fits := test.operand.slot_canonical.trans test.fits

/-- A path without hops is dropped. -/
def Subject.canonical {kind : Kind} (subject : Subject kind) : Subject kind :=
  subject.withPath (normalPath subject.path)

def Leaf.canonical (leaf : Leaf) : Leaf where
  kind := leaf.kind
  subject := leaf.subject.canonical
  test := leaf.test.map Test.canonical

namespace Node

mutual

def canonical : Node → Node
  | .group connective children => .group connective (canonicalAll children)
  | .leaf item => .leaf item.canonical

def canonicalAll : List Node → List Node
  | [] => []
  | child :: rest => canonical child :: canonicalAll rest

end

end Node

def Condition.canonical (condition : Condition) : Condition :=
  ⟨condition.root.map Node.canonical⟩

/-! ## Values that are read are canonical -/

theorem normalPath_normalPath (path : Option Path) :
    normalPath (normalPath path) = normalPath path := by
  match path with
  | none => rfl
  | some ⟨[]⟩ => rfl
  | some ⟨_ :: _⟩ => rfl

theorem normalPath_of_readPath? {fields : List (String × Json)} {path : Option Path}
    (h : readPath? fields = some path) : normalPath path = path := by
  obtain ⟨raw, _, rfl⟩ := Option.map_eq_some_iff.1 h
  exact normalPath_normalPath raw

theorem Json.eq_none_or_read_of_nullable? {α : Type} {read : Json → Option α} {value : Json}
    {result : Option α} (h : Json.nullable? read value = some result) :
    result = none ∨ ∃ inner, read value = some inner ∧ result = some inner := by
  cases value with
  | null => exact .inl (Option.some.inj h).symm
  | bool | number | string | array | object =>
    obtain ⟨inner, hinner, rfl⟩ := Option.map_eq_some_iff.1 h
    exact .inr ⟨inner, hinner, rfl⟩

/-- A field that may be missing or null is read canonically when its value is. -/
theorem map_eq_self_of_field {α : Type} {f : α → α} {read : Json → Option α}
    (hread : ∀ value : Json, value.isHeld = true → ∀ result, read value = some result →
      f result = result)
    {fields : List (String × Json)} (hheld : ∀ field ∈ fields, field.2.isHeld = true)
    {name : String} {result : Option α}
    (h : Json.fieldOr fields name none (Json.nullable? read) = some result) :
    result.map f = result := by
  rcases Json.fieldOr_cases h with rfl | ⟨value, hlookup, hvalue⟩
  · rfl
  · rcases Json.eq_none_or_read_of_nullable? hvalue with rfl | ⟨inner, hinner, rfl⟩
    · rfl
    · rw [Option.map_some, hread value (Json.isHeld_of_lookup hheld hlookup) inner hinner]

theorem NumberValue.canonical_of_read? {held : Bool} {value : Json} (hheld : value.isHeld = true)
    {number : NumberValue} (h : NumberValue.read? held value = some number) :
    number.canonical = number := by
  simp only [NumberValue.read?, Option.bind_eq_bind, Option.bind_eq_some_iff] at h
  obtain ⟨⟨tag, rest⟩, htagged, fields, hfields, form, -, h⟩ := h
  have hrest := Json.isHeld_of_record? (Json.isHeld_of_tagged? hheld htagged) hfields
  split at h
  · obtain ⟨literal, hliteral, rfl⟩ := Option.map_eq_some_iff.1 h
    rw [canonical]
    rcases Json.fieldOr_cases hliteral with rfl | ⟨value, hlookup, hvalue⟩
    · rfl
    · rcases Json.eq_none_or_read_of_nullable? hvalue with rfl | ⟨real, hreal, rfl⟩
      · rfl
      · have hfinite := Json.isFinite_of_real? (Json.isHeld_of_lookup hrest hlookup) hreal
        rw [Option.filter_some, if_pos hfinite]
  · obtain ⟨reference, -, rfl⟩ := Option.map_eq_some_iff.1 h
    rfl
  · cases h

theorem Operand.canonical_of_read? {rest : Json} (hheld : rest.isHeld = true) {slot : Slot}
    {operand : { operand : Operand // operand.slot = slot }}
    (h : Operand.read? rest slot = some operand) : operand.1.canonical = operand.1 := by
  have hnumber : ∀ value : Json, value.isHeld = true → ∀ number,
      NumberValue.read? true value = some number → number.canonical = number :=
    fun _ hvalue _ hread ↦ NumberValue.canonical_of_read? hvalue hread
  obtain ⟨operand, hslot⟩ := operand
  cases slot with
  | number =>
    simp only [Operand.read?, Option.bind_eq_some_iff, Option.map_eq_some_iff] at h
    obtain ⟨fields, hfields, value, hvalue, h⟩ := h
    obtain rfl := congrArg Subtype.val h
    simp only [canonical, map_eq_self_of_field hnumber (Json.isHeld_of_record? hheld hfields) hvalue]
  | numberRange =>
    simp only [Operand.read?, Option.bind_eq_some_iff, Option.map_eq_some_iff] at h
    obtain ⟨fields, hfields, lower, hlower, upper, hupper, h⟩ := h
    have hall := Json.isHeld_of_record? hheld hfields
    obtain rfl := congrArg Subtype.val h
    simp only [canonical, map_eq_self_of_field hnumber hall hlower,
      map_eq_self_of_field hnumber hall hupper]
  | nothing | text | date | dateRange | one | many | cards | cycles =>
    cases operand with
    | number | numberRange => cases hslot
    | _ => rfl

theorem Test.canonical_of_read? {kind : Kind} {value : Json} (hheld : value.isHeld = true)
    {test : Test kind} (h : Test.read? kind value = some test) : test.canonical = test := by
  simp only [Test.read?] at h
  split at h
  · rename_i name rest htagged
    split at h
    · obtain ⟨operand, hoperand, rfl⟩ := Option.map_eq_some_iff.1 h
      ext1
      · rfl
      · exact Operand.canonical_of_read? (Json.isHeld_of_tagged? hheld htagged) hoperand
    · cases h
  · cases h

theorem normalPath_of_readSystemFields {value : Json} {field : Option SystemDate}
    {path : Option Path} (h : (readSystemFields value).value = some (field, path)) :
    normalPath path = path := by
  simp only [readSystemFields] at h
  split at h
  · obtain ⟨_, hpath, h⟩ := Option.map_eq_some_iff.1 h
    obtain ⟨-, rfl⟩ := Prod.mk.inj h
    exact normalPath_of_readPath? hpath
  · cases h

theorem SubjectForm.normalPath_of_read {value : Json} {form : SubjectForm}
    {identity : { identity : Identity // form.admits identity = true }} {path : Option Path}
    (h : (SubjectForm.read value form).value = some (identity, path)) : normalPath path = path := by
  cases form with
  | implied =>
    simp only [SubjectForm.read, Option.bind_eq_some_iff, Option.map_eq_some_iff] at h
    obtain ⟨_, _, _, hpath, h⟩ := h
    obtain ⟨-, rfl⟩ := Prod.mk.inj h
    exact normalPath_of_readPath? hpath
  | keyed member =>
    simp only [SubjectForm.read, Option.bind_eq_some_iff, Option.map_eq_some_iff] at h
    obtain ⟨_, _, _, _, _, hpath, h⟩ := h
    obtain ⟨-, rfl⟩ := Prod.mk.inj h
    exact normalPath_of_readPath? hpath
  | date =>
    simp only [SubjectForm.read] at h
    split at h
    · split at h
      · obtain ⟨⟨field, raw⟩, hsystem, h⟩ := Option.map_eq_some_iff.1 h
        obtain ⟨-, rfl⟩ := Prod.mk.inj h
        exact normalPath_of_readSystemFields hsystem
      · simp only [Option.bind_eq_some_iff, Option.map_eq_some_iff] at h
        obtain ⟨_, _, _, _, _, hpath, h⟩ := h
        obtain ⟨-, rfl⟩ := Prod.mk.inj h
        exact normalPath_of_readPath? hpath
      · cases h
    · cases h

theorem Subject.canonical_of_read {kind : Kind} {value : Json} {subject : Subject kind}
    (h : (Subject.read kind value).value = some subject) : subject.canonical = subject := by
  obtain ⟨⟨identity, path⟩, hread, rfl⟩ := Option.map_eq_some_iff.1 h
  ext1
  · rfl
  · exact SubjectForm.normalPath_of_read hread

theorem Subject.canonical_unset (kind : Kind) : (unset kind).canonical = unset kind := by
  cases kind <;> rfl

theorem Leaf.subject_canonical_ofFields (kind : Kind) (fields : List (String × Json)) :
    (Leaf.ofFields kind fields).value.subject.canonical =
      (Leaf.ofFields kind fields).value.subject := by
  simp only [ofFields]
  cases hsubject : (Reading.lenient (Subject.read kind) (fields.lookup "subject")).value with
  | none => exact Subject.canonical_unset kind
  | some subject =>
    obtain ⟨_, _, hread⟩ := Reading.eq_some_of_lenient hsubject
    exact Subject.canonical_of_read hread

/-- Whatever stands in the fields of a leaf, its parts are canonical. -/
theorem Leaf.canonical_ofFields (kind : Kind) {fields : List (String × Json)}
    (hheld : ∀ field ∈ fields, field.2.isHeld = true) :
    (Leaf.ofFields kind fields).value.canonical = (Leaf.ofFields kind fields).value := by
  have hsubject := Leaf.subject_canonical_ofFields kind fields
  simp only [ofFields, canonical, Leaf.mk.injEq, heq_eq_eq, true_and] at hsubject ⊢
  refine ⟨hsubject, ?_⟩
  cases htest : (Reading.lenient (fun raw ↦ ⟨Test.read? kind raw, []⟩)
      (fields.lookup "operator")).value with
  | none => rfl
  | some test =>
    obtain ⟨value, hlookup, hread⟩ := Reading.eq_some_of_lenient htest
    have hvalue := Json.isHeld_canonical value (Json.isHeld_of_lookup hheld hlookup)
    rw [Option.map_some, Test.canonical_of_read? hvalue hread]

end CardFilter
