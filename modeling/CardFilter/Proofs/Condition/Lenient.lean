import CardFilter.Condition.Decode

/-!
# Lenient reading

What a part of a leaf that is read leniently gives, and what it sets aside.  A part that is missing
or null gives nothing and sets nothing aside; any other part gives what its reader makes of it, and
is set aside itself exactly when that is nothing.
-/

namespace CardFilter

namespace Reading

variable {α : Type}

@[simp] theorem lenient_none (read : Json → Reading (Option α)) : lenient read none = ⟨none, []⟩ :=
  rfl

@[simp] theorem lenient_null (read : Json → Reading (Option α)) :
    lenient read (some .null) = ⟨none, []⟩ := rfl

theorem lenient_some (read : Json → Reading (Option α)) {value : Json} (h : value ≠ .null) :
    lenient read (some value) =
      ⟨(read value.canonical).value, (read value.canonical).discarded ++
        if (read value.canonical).value.isSome then [] else [value.canonical]⟩ := by
  cases value with
  | null => exact absurd rfl h
  | bool | number | string | array | object =>
    simp only [lenient]
    split <;> simp [*]

/-- What is given was read from a part that is there. -/
theorem eq_some_of_lenient {read : Json → Reading (Option α)} {raw : Option Json} {result : α}
    (h : (lenient read raw).value = some result) :
    ∃ value, raw = some value ∧ (read value.canonical).value = some result := by
  cases raw with
  | none => cases h
  | some value =>
    by_cases hnull : value = .null
    · subst hnull
      cases h
    · rw [lenient_some read hnull] at h
      exact ⟨value, rfl, h⟩

/-- A part is unread when there is one other than null of which its reader makes nothing. -/
def Unread (read : Json → Option α) (part : Option Json) : Prop :=
  ∃ value, part = some value ∧ value ≠ .null ∧ read value.canonical = none

/-- Something is set aside when the part is unread, or else while it is read. -/
theorem discarded_lenient_ne_nil_iff (read : Json → Reading (Option α)) (part : Option Json) :
    (lenient read part).discarded ≠ [] ↔
      Unread (fun value ↦ (read value).value) part ∨
        ∃ value, part = some value ∧ value ≠ .null ∧ (read value.canonical).discarded ≠ [] := by
  cases part with
  | none => simp [Unread]
  | some value =>
    by_cases hnull : value = .null
    · simp [Unread, hnull]
    · rw [lenient_some read hnull]
      cases hread : (read value.canonical).value <;> simp [Unread, hnull, hread]

theorem discarded_lenient_plain_iff (read : Json → Option α) (part : Option Json) :
    (lenient (fun value ↦ ⟨read value, []⟩) part).discarded ≠ [] ↔ Unread read part := by
  simp [discarded_lenient_ne_nil_iff]

theorem value_lenient_of_unread {read : Json → Reading (Option α)} {part : Option Json}
    (h : Unread (fun value ↦ (read value).value) part) : (lenient read part).value = none := by
  obtain ⟨value, rfl, hnull, hread⟩ := h
  rw [lenient_some read hnull]
  exact hread

end Reading

end CardFilter
