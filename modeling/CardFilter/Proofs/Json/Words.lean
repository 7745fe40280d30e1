import CardFilter.Json.Writer
import Mathlib.Data.Nat.Notation

/-!
# The words of written JSON

Constants and numbers are written as words: runs of characters from one short list, in which no
mark, no quote and no blank occurs.  Nothing is said here about the number that such a word stands
for.
-/

namespace CardFilter.Json

/-- The characters of constants and of the texts of numbers. -/
def wordChars : List Char := "0123456789+-.Naefilnrstu".toList

theorem mem_wordChars_of_isDigit {c : Char} (h : c.isDigit = true) : c ∈ wordChars := by
  obtain ⟨hlow, hhigh⟩ : 48 ≤ c.toNat ∧ c.toNat ≤ 57 := Char.isDigit_iff_toNat.1 h
  have hall : ∀ value < 10, Char.ofNat (48 + value) ∈ wordChars := by decide
  have hc := hall (c.toNat - 48) (by omega)
  rwa [Nat.add_sub_cancel' hlow, Char.ofNat_toNat] at hc

theorem toDigits_subset (value : Nat) : Nat.toDigits 10 value ⊆ wordChars := by
  intro c hc
  exact mem_wordChars_of_isDigit (Nat.isDigit_of_mem_toDigits (by decide) (by decide) hc)

theorem integerText_subset (value : Int) : integerText value ⊆ wordChars := by
  have hminus : '-' ∈ wordChars := by decide
  have hdigits := toDigits_subset value.natAbs
  unfold integerText
  split
  · exact List.cons_subset.2 ⟨hminus, hdigits⟩
  · exact hdigits

theorem integerText_ne_nil (value : Int) : integerText value ≠ [] := by
  unfold integerText
  split
  · exact List.cons_ne_nil _ _
  · exact Nat.toDigits_ne_nil

section Style

variable {style : NumberStyle}

theorem positionalText_subset (hmark : style.wholeMark ⊆ wordChars) {digits : List Char}
    (h : digits ⊆ wordChars) (lead : Int) : style.positionalText digits lead ⊆ wordChars := by
  have hzeros (count : Nat) : List.replicate count '0' ⊆ wordChars := by
    intro c hc
    rw [List.eq_of_mem_replicate hc]
    decide
  unfold NumberStyle.positionalText
  split
  · exact List.append_subset.2 ⟨List.append_subset.2 ⟨by decide, hzeros _⟩, h⟩
  · simp only
    split
    · exact List.append_subset.2 ⟨List.append_subset.2 ⟨h, hzeros _⟩, hmark⟩
    · apply List.append_subset.2
      refine ⟨fun c hc ↦ h (List.mem_of_mem_take hc), List.cons_subset.2 ⟨by decide, ?_⟩⟩
      exact fun c hc ↦ h (List.mem_of_mem_drop hc)

theorem scientific_subset {digits : List Char} (h : digits ⊆ wordChars) (lead : Int) :
    NumberStyle.scientific digits lead ⊆ wordChars := by
  have hsign : (if lead < 0 then '-' else '+') ∈ wordChars := by split <;> decide
  unfold NumberStyle.scientific NumberStyle.exponentText
  refine List.append_subset.2 ⟨List.append_subset.2 ⟨fun c hc ↦ h (List.mem_of_mem_take hc), ?_⟩,
    List.cons_subset.2 ⟨by decide, List.cons_subset.2 ⟨hsign, toDigits_subset _⟩⟩⟩
  split
  · exact List.nil_subset _
  · exact List.cons_subset.2 ⟨by decide, fun c hc ↦ h (List.mem_of_mem_drop hc)⟩

theorem magnitudeText_subset (hmark : style.wholeMark ⊆ wordChars) (value : Binary64) :
    style.magnitudeText value ⊆ wordChars := by
  unfold NumberStyle.magnitudeText
  split
  · exact List.cons_subset.2 ⟨by decide, hmark⟩
  · simp only
    split
    · exact positionalText_subset hmark (toDigits_subset _) _
    · split
      · exact positionalText_subset hmark (toDigits_subset _) _
      · exact scientific_subset (toDigits_subset _) _

theorem styledText_subset (hmark : style.wholeMark ⊆ wordChars) (value : Binary64) :
    style.text value ⊆ wordChars := by
  unfold NumberStyle.text
  split
  · decide
  · have hmagnitude : (if value.isFinite then style.magnitudeText value else "inf".toList) ⊆
        wordChars := by
      split
      · exact magnitudeText_subset hmark value
      · decide
    simp only
    split
    · exact List.cons_subset.2 ⟨by decide, hmagnitude⟩
    · exact hmagnitude

theorem magnitudeText_ne_nil (value : Binary64) : style.magnitudeText value ≠ [] := by
  have hdigits : Nat.toDigits 10 (value.shortest style.tie).coefficient ≠ [] := Nat.toDigits_ne_nil
  have hpositional (lead : Int) : style.positionalText
      (Nat.toDigits 10 (value.shortest style.tie).coefficient) lead ≠ [] := by
    unfold NumberStyle.positionalText
    split
    · simp
    · simp only
      split <;> simp [hdigits]
  unfold NumberStyle.magnitudeText
  split
  · exact List.cons_ne_nil _ _
  · simp only
    split
    · exact hpositional _
    · split
      · exact hpositional _
      · simp [NumberStyle.scientific]

theorem styledText_ne_nil (value : Binary64) : style.text value ≠ [] := by
  have hmagnitude : (if value.isFinite then style.magnitudeText value else "inf".toList) ≠ [] := by
    split
    · exact magnitudeText_ne_nil value
    · decide
  unfold NumberStyle.text
  split
  · decide
  · simp only
    split
    · exact List.cons_ne_nil _ _
    · exact hmagnitude

end Style

theorem numberText_subset (number : Number) : number.text ⊆ wordChars := by
  cases number with
  | integer value => exact integerText_subset value
  | real value =>
    have hmark : realStyle.wholeMark ⊆ wordChars := by decide
    have hnull : "null".toList ⊆ wordChars := by decide
    simp only [Number.text]
    split
    · exact styledText_subset hmark value
    · exact hnull

theorem numberText_ne_nil (number : Number) : number.text ≠ [] := by
  cases number with
  | integer value => exact integerText_ne_nil value
  | real value =>
    simp only [Number.text]
    split
    · exact styledText_ne_nil value
    · decide

end CardFilter.Json
