import CardFilter.Proofs.Json.Assembly
import CardFilter.Proofs.Number.Literals
import CardFilter.Proofs.Number.Rounding

/-!
# Written counts

A count is written as its decimal digits, of which the first is zero only for zero.  The reader
takes any number where a count is due, and so goes through binary64: what it finds is the count as
binary64 holds it.
-/

namespace CardFilter

namespace Json.Relaxed

theorem hexDigits?_of_digits {digits : List Char} (h : ∀ c ∈ digits, Literal.isDigit c = true) :
    hexDigits? digits = none := by
  unfold hexDigits?
  split
  · exact absurd (h 'x' (by simp)) (by decide)
  · exact absurd (h 'X' (by simp)) (by decide)
  · rfl

/-- Digits are no word. -/
theorem ne_of_digits {digits word : List Char} (h : ∀ c ∈ digits, Literal.isDigit c = true)
    (hword : word.all Literal.isDigit = false) : digits ≠ word := by
  rintro rfl
  rw [List.all_eq_true.2 h] at hword
  cases hword

theorem word?_of_digits {digits : List Char} (h : ∀ c ∈ digits, Literal.isDigit c = true) :
    word? digits = none := by
  unfold word?
  rw [if_neg (ne_of_digits h (by decide)), if_neg (ne_of_digits h (by decide)), if_neg]
  rintro (heq | heq)
  · exact ne_of_digits h (by decide) heq
  · exact ne_of_digits h (by decide) heq

theorem hasForm_toDigits (value : Nat) :
    hasForm ⟨none, Nat.toDigits 10 value, none, none⟩ = true := by
  have hdigits : (Nat.toDigits 10 value).isEmpty = false := by
    simp [Nat.toDigits_ne_nil]
  have hzero : ((Nat.toDigits 10 value).length ≤ 1 ||
      (Nat.toDigits 10 value).head? != some '0') = true := by
    by_cases h : value = 0
    · rw [h]
      rfl
    · simp [Literal.head?_toDigits h]
  simp [hasForm, Literal.hasDigits, hdigits, hzero]

theorem decimal?_toDigits (value : Nat) :
    decimal? (Nat.toDigits 10 value) = some ⟨none, Nat.toDigits 10 value, none, none⟩ := by
  simp only [decimal?, Literal.ofChars?_toDigits, hasForm_toDigits, if_true]

theorem isNumber_toDigits (value : Nat) : isNumber (Nat.toDigits 10 value) = true := by
  unfold isNumber
  rw [Literal.ofChars?_toDigits, Option.map_some, hasForm_toDigits]
  simp

variable {value : Nat}

theorem toBinary64_toDigits (h : value < 2 ^ 64) :
    Literal.toBinary64 ⟨none, Nat.toDigits 10 value, none, none⟩ = .ofRatio false value 1 := by
  have hdecimal : Literal.decimal ⟨none, Nat.toDigits 10 value, none, none⟩ = ⟨value, 0⟩ := by
    simp [Literal.decimal, Literal.fractionDigits, Literal.exponentValue,
      Literal.natOfDigits_toDigits]
  have hcount : Decimal.digitCount value ≤ 20 :=
    (Nat.length_toDigits_le_iff (by decide) (by decide)).2 (by omega)
  unfold Literal.toBinary64 Decimal.toBinary64
  rw [hdecimal]
  simp only
  by_cases hzero : value = 0
  · rw [if_pos (.inl hzero), hzero]
    rfl
  · rw [if_neg (by omega), if_neg (by omega), if_pos (by decide)]
    simp [Literal.isNegative]

/-- The digits of a count are read as the count that binary64 holds. -/
theorem count?_toDigits (h : value < 2 ^ 64) :
    count? (Nat.toDigits 10 value) = some (.integer (Binary64.rounded value)) := by
  have hdigits : ∀ c ∈ Nat.toDigits 10 value, Literal.isDigit c = true := by
    exact fun c ↦ Literal.isDigit_of_mem_toDigits
  have hfinite := Binary64.isFinite_ofRatio_one false h
  unfold count? hex?
  rw [word?_of_digits hdigits, hexDigits?_of_digits hdigits, decimal?_toDigits]
  simp only [Option.bind_none, toBinary64_toDigits h, finite?, hfinite]
  rfl

theorem seen?_count (h : value < 2 ^ 64) :
    grammar.seen? .count (.ofNat value) = some (.ofNat (Binary64.rounded value)) := by
  have htext : scalarText (.ofNat value) = Nat.toDigits 10 value := by
    simp [ofNat, scalarText, Number.text, integerText]
  have hdigits : ∀ c ∈ Nat.toDigits 10 value, Literal.isDigit c = true := by
    exact fun c ↦ Literal.isDigit_of_mem_toDigits
  have hseen : grammar.seen? .count (.ofNat value) =
      grammar.atomValue? .count (Nat.toDigits 10 value) := by
    rw [← htext]
    rfl
  rw [hseen, Grammar.atomValue?, if_neg (ne_of_digits hdigits (by decide)),
    if_neg (ne_of_digits hdigits (by decide)), if_neg (ne_of_digits hdigits (by decide)),
    show grammar.isNumber = isNumber from rfl, if_pos (isNumber_toDigits value)]
  simp only [show grammar.count? = count? from rfl, count?_toDigits h]
  rfl

end Json.Relaxed

end CardFilter
