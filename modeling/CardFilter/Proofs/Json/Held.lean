import CardFilter.Proofs.Json.Canonical
import CardFilter.Proofs.Number.Finite

/-!
# Values that are held in memory

A number in memory is an integer of 64 bits, with or without a sign, or a finite real.  Every part
of such a value is one again, and every real that is read out of one is finite; nothing is asked of
the order of members or of how often a name stands.
-/

namespace CardFilter.Json

mutual

/-- Whether every number of a value fits into memory. -/
def isHeld : Json → Bool
  | .number (.integer value) => decide (-2 ^ 63 ≤ value ∧ value < 2 ^ 64)
  | .number (.real value) => value.isFinite
  | .array items => allHeld items
  | .object members => allMembersHeld members
  | _ => true

def allHeld : List Json → Bool
  | [] => true
  | item :: rest => isHeld item && allHeld rest

def allMembersHeld : List (String × Json) → Bool
  | [] => true
  | (_, value) :: rest => isHeld value && allMembersHeld rest

end

theorem allHeld_iff (items : List Json) :
    allHeld items = true ↔ ∀ item ∈ items, item.isHeld = true := by
  induction items with
  | nil => simp [allHeld]
  | cons item rest ih => simp [allHeld, ih]

theorem allMembersHeld_iff (members : List (String × Json)) :
    allMembersHeld members = true ↔ ∀ member ∈ members, member.2.isHeld = true := by
  induction members with
  | nil => simp [allMembersHeld]
  | cons member rest ih => simp [allMembersHeld, ih]

theorem isHeld_array (items : List Json) :
    (array items).isHeld = true ↔ ∀ item ∈ items, item.isHeld = true := by
  rw [isHeld, allHeld_iff]

theorem isHeld_object (members : List (String × Json)) :
    (object members).isHeld = true ↔ ∀ member ∈ members, member.2.isHeld = true := by
  rw [isHeld, allMembersHeld_iff]

/-! ## Canonical form -/

mutual

theorem isHeld_canonical : (value : Json) → value.isHeld = true → value.canonical.isHeld = true
  | .null, _ => rfl
  | .bool _, _ => rfl
  | .string _, _ => rfl
  | .number (.integer _), h => h
  | .number (.real value), h => by
    have hfinite : value.isFinite = true := h
    rw [canonical, if_pos hfinite]
    exact h
  | .array items, h => allHeld_canonicalItems items h
  | .object members, h => by
    have hmembers := (allMembersHeld_iff _).1 (allMembersHeld_canonicalMembers members h)
    apply (isHeld_object _).2
    intro member hmember
    exact hmembers member (Table.mem_of_mem_ofPairs hmember)

theorem allHeld_canonicalItems : (items : List Json) → allHeld items = true →
    allHeld (canonicalItems items) = true
  | [], _ => rfl
  | item :: rest, h => by
    obtain ⟨hitem, hrest⟩ := Bool.and_eq_true_iff.1 h
    simp only [canonicalItems, allHeld, isHeld_canonical item hitem,
      allHeld_canonicalItems rest hrest, Bool.and_self]

theorem allMembersHeld_canonicalMembers : (members : List (String × Json)) →
    allMembersHeld members = true → allMembersHeld (canonicalMembers members) = true
  | [], _ => rfl
  | (_, value) :: rest, h => by
    obtain ⟨hvalue, hrest⟩ := Bool.and_eq_true_iff.1 h
    simp only [canonicalMembers, allMembersHeld, isHeld_canonical value hvalue,
      allMembersHeld_canonicalMembers rest hrest, Bool.and_self]

end

/-! ## Parts -/

theorem isFinite_of_real? {value : Json} (h : value.isHeld = true) {real : Binary64}
    (hreal : value.real? = some real) : real.isFinite = true := by
  match value with
  | .number (.integer integer) =>
    obtain ⟨hlow, hhigh⟩ := of_decide_eq_true h
    obtain rfl : Binary64.ofInt integer = real := Option.some.inj hreal
    exact Binary64.isFinite_ofInt hlow hhigh
  | .number (.real other) =>
    obtain rfl : other = real := Option.some.inj hreal
    exact h

theorem isHeld_of_lookup {members : List (String × Json)} {name : String} {value : Json}
    (h : ∀ member ∈ members, member.2.isHeld = true) (hlookup : members.lookup name = some value) :
    value.isHeld = true :=
  h (name, value) (Table.mem_of_lookup hlookup)

theorem isHeld_of_record? {names : List String} {value : Json} (h : value.isHeld = true)
    {fields : List (String × Json)} (hrecord : value.record? names = some fields) :
    ∀ field ∈ fields, field.2.isHeld = true := by
  have hfields : fields = value.fields names := by
    simp only [record?] at hrecord
    split at hrecord
    · exact (Option.some.inj hrecord).symm
    · cases hrecord
  subst hfields
  intro field hfield
  cases value with
  | object members => exact (isHeld_object members).1 h field (List.mem_filter.1 hfield).1
  | array items => exact (isHeld_array items).1 h field.2 (List.of_mem_zip hfield).2
  | null | bool | number | string => exact absurd hfield List.not_mem_nil

theorem isHeld_of_tagged? {name : String} {value tag rest : Json} (h : value.isHeld = true)
    (htagged : value.tagged? name = some (tag, rest)) : rest.isHeld = true := by
  cases value with
  | object members =>
    simp only [tagged?] at htagged
    split at htagged
    · obtain ⟨_, rfl⟩ := Prod.mk.inj (Option.some.inj htagged)
      apply (isHeld_object _).2
      intro member hmember
      exact (isHeld_object members).1 h member (List.mem_filter.1 hmember).1
    · cases htagged
  | array items =>
    cases items with
    | nil => cases htagged
    | cons first items =>
      obtain ⟨_, rfl⟩ := Prod.mk.inj (Option.some.inj htagged)
      exact (isHeld_array items).2 fun item hitem ↦
        (isHeld_array (first :: items)).1 h item (List.mem_cons_of_mem _ hitem)
  | null | bool | number | string => cases htagged

/-- What is read from a field is read from a part of the value, unless the field is missing. -/
theorem fieldOr_cases {α : Type} {fields : List (String × Json)} {name : String} {absent : α}
    {read : Json → Option α} {result : α} (h : fieldOr fields name absent read = some result) :
    result = absent ∨ ∃ value, fields.lookup name = some value ∧ read value = some result := by
  simp only [fieldOr] at h
  split at h
  · exact .inl (Option.some.inj h).symm
  · exact .inr ⟨_, ‹_›, h⟩

end CardFilter.Json
