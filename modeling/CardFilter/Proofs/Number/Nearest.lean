import CardFilter.Number.Decimal
import CardFilter.Proofs.Number.Finite
import Mathlib.Tactic.Ring

/-!
# What rounds to a number

A finite number has an interval around it: from halfway to the number below up to halfway to the
number above, ends included when its significand is even.  Everything in the interval rounds to the
number.  Just above a power of two the number below is at half the distance, so the interval is
shorter on that side; what lies there is rounded on the finer scale and carried over.

A decimal near a finite number other than zero is within the reach of the format, so it is read by
way of one quotient, and that quotient rounds to the number.
-/

namespace CardFilter

namespace Binary64

/-! ## Quotients -/

/-- A whole number at most half away is the nearest one, if it is even or nothing lies halfway. -/
theorem divNearestEven_eq {num den value : Nat} (hden : 0 < den)
    (hlow : 2 * (value * den) ≤ 2 * num + den) (hhigh : 2 * num ≤ 2 * (value * den) + den)
    (hodd : value % 2 = 1 → 2 * (value * den) < 2 * num + den ∧ 2 * num < 2 * (value * den) + den) :
    divNearestEven num den = value := by
  have hsplit := Nat.div_add_mod num den
  have hrest := Nat.mod_lt num hden
  rw [Nat.mul_comm] at hsplit
  unfold divNearestEven
  simp only
  generalize num / den = quotient at hsplit ⊢
  generalize num % den = rest at hsplit hrest ⊢
  have hnear : value = quotient ∨ value = quotient + 1 := by
    have hbelow : quotient ≤ value := by
      by_contra hless
      have hmul := Nat.mul_le_mul_right den (Nat.lt_of_not_le hless)
      rw [Nat.succ_mul] at hmul
      omega
    have habove : value ≤ quotient + 1 := by
      by_contra hmore
      have hmul := Nat.mul_le_mul_right den (Nat.lt_of_not_le hmore)
      rw [Nat.succ_mul, Nat.succ_mul] at hmul
      omega
    omega
  rcases hnear with rfl | rfl
  · rw [if_pos]
    omega
  · have hnext : (quotient + 1) * den = quotient * den + den := Nat.succ_mul _ _
    rw [hnext] at hlow hhigh hodd
    rw [if_neg]
    omega

/-! ## Intervals -/

/-- The magnitude of a number as a word is its significand behind its scale. -/
theorem magnitude_eq {x : Binary64} :
    x.word.toNat % 2 ^ 63 = x.scale * 2 ^ 52 + x.significand := by
  unfold scale significand exponentField fraction
  simp only [Nat.pow_eq]
  split <;> omega

theorem ofSignedWord_magnitude (x : Binary64) :
    ofSignedWord x.isNegative (x.word.toNat % 2 ^ 63) = x := by
  have hlimit : x.word.toNat < 2 ^ 64 := x.word.toNat_lt
  have hword : UInt64.ofNat ((if x.isNegative then Nat.pow 2 63 else 0) +
      x.word.toNat % 2 ^ 63) = x.word := by
    apply UInt64.toNat_inj.1
    rw [UInt64.toNat_ofNat', isNegative, Nat.pow_eq]
    by_cases hsign : 2 ^ 63 ≤ x.word.toNat
    · rw [decide_eq_true hsign, if_pos rfl]
      omega
    · rw [decide_eq_false hsign, if_neg Bool.false_ne_true]
      omega
  exact congrArg Binary64.mk hword

theorem significand_lt (x : Binary64) : x.significand < 2 ^ 53 := by
  unfold significand fraction
  simp only [Nat.pow_eq]
  split <;> omega

/-- Only on the finest scale are there significands with fewer digits. -/
theorem significand_ge {x : Binary64} (h : 0 < x.scale) : 2 ^ 52 ≤ x.significand := by
  unfold scale at h
  unfold significand
  rw [if_neg (by omega), Nat.pow_eq]
  exact Nat.le_add_right _ _

theorem magnitude_lt_infinityWord {x : Binary64} (h : x.isFinite = true) :
    x.word.toNat % 2 ^ 63 < infinityWord := by
  have hfield : x.exponentField ≠ 2047 := by simpa [isFinite] using h
  unfold exponentField at hfield
  unfold infinityWord
  simp only [Nat.pow_eq] at hfield ⊢
  omega

/-- How close `num / den` has to be to a number to round to it, in quarters of a unit. -/
structure Near (x : Binary64) (num den : Nat) : Prop where
  low : (4 * x.units - x.halfGaps.1) * den ≤ 4 * num
  high : 4 * num ≤ (4 * x.units + x.halfGaps.2) * den
  /-- The ends are not near enough if the significand is odd. -/
  strict : x.significand % 2 = 1 →
    (4 * x.units - x.halfGaps.1) * den < 4 * num ∧ 4 * num < (4 * x.units + x.halfGaps.2) * den

theorem halfGaps_of_carry {x : Binary64} (h : x.significand = 2 ^ 52) (hscale : 0 < x.scale) :
    x.halfGaps = (2 ^ x.scale, 2 * 2 ^ x.scale) := by
  unfold halfGaps
  simp only [Nat.pow_eq, h, hscale, and_self, if_true]

theorem halfGaps_of_not_carry {x : Binary64} (h : ¬ (x.significand = 2 ^ 52 ∧ 0 < x.scale)) :
    x.halfGaps = (2 * 2 ^ x.scale, 2 * 2 ^ x.scale) := by
  unfold halfGaps
  simp only [Nat.pow_eq, if_neg h]

theorem halfGaps_le (x : Binary64) :
    x.halfGaps.1 ≤ 2 * 2 ^ x.scale ∧ x.halfGaps.2 = 2 * 2 ^ x.scale := by
  by_cases h : x.significand = 2 ^ 52 ∧ 0 < x.scale
  · rw [halfGaps_of_carry h.1 h.2]
    omega
  · rw [halfGaps_of_not_carry h]
    omega

/-- The scale of a quotient is where its 53 leading binary digits end. -/
theorem log2_div_eq {num den scale : Nat} (hden : 0 < den) (hhigh : num < 2 ^ (53 + scale) * den)
    (hlow : scale = 0 ∨ 2 ^ (52 + scale) * den ≤ num) : Nat.log2 (num / den) - 52 = scale := by
  have hdiv := (Nat.div_lt_iff_lt_mul hden).2 hhigh
  by_cases hzero : num / den = 0
  · have hscale : scale = 0 := hlow.resolve_right fun hle ↦ by
      have hpos := (Nat.le_div_iff_mul_le hden).2 hle
      rw [hzero] at hpos
      exact absurd hpos (Nat.not_le.2 (Nat.two_pow_pos _))
    rw [hzero, hscale]
    rfl
  · have htop := (Nat.log2_lt hzero).2 hdiv
    rcases hlow with rfl | hle
    · omega
    · have hbottom := (Nat.le_log2 hzero).2 ((Nat.le_div_iff_mul_le hden).2 hle)
      omega

/-- A quotient of 53 binary digits on a scale rounds to the whole number of steps next to it. -/
theorem rounds_on_scale {num den scale value : Nat} (hden : 0 < den)
    (hfull : scale = 0 ∨ 2 ^ 52 * (2 ^ scale * den) ≤ num)
    (hfits : num < 2 ^ 53 * (2 ^ scale * den))
    (hlow : 2 * (value * (2 ^ scale * den)) ≤ 2 * num + 2 ^ scale * den)
    (hhigh : 2 * num ≤ 2 * (value * (2 ^ scale * den)) + 2 ^ scale * den)
    (hodd : value % 2 = 1 → 2 * (value * (2 ^ scale * den)) < 2 * num + 2 ^ scale * den ∧
      2 * num < 2 * (value * (2 ^ scale * den)) + 2 ^ scale * den) :
    (Nat.log2 (num / den) - 52) * 2 ^ 52 +
        divNearestEven num (den * 2 ^ (Nat.log2 (num / den) - 52)) =
      scale * 2 ^ 52 + value := by
  have hpower (digits : Nat) : 2 ^ digits * (2 ^ scale * den) = 2 ^ (digits + scale) * den := by
    rw [Nat.pow_add, Nat.mul_assoc]
  rw [hpower] at hfull hfits
  rw [log2_div_eq hden hfits hfull, Nat.mul_comm den,
    divNearestEven_eq (Nat.mul_pos (Nat.two_pow_pos _) hden) hlow hhigh hodd]

/-- What is near a number rounds to it. -/
theorem Near.rounds {x : Binary64} {num den : Nat} (hden : 0 < den) (h : x.Near num den) :
    (Nat.log2 (num / den) - 52) * 2 ^ 52 +
        divNearestEven num (den * 2 ^ (Nat.log2 (num / den) - 52)) =
      x.scale * 2 ^ 52 + x.significand := by
  have hdigits := x.significand_lt
  obtain ⟨hbelow, habove⟩ := x.halfGaps_le
  obtain ⟨hlow, hhigh, hstrict⟩ := h
  have hgap : 0 < 2 ^ x.scale * den := Nat.mul_pos (Nat.two_pow_pos _) hden
  have hunits : 4 * x.units * den = 4 * (x.significand * (2 ^ x.scale * den)) := by
    rw [units, Nat.pow_eq]
    ring
  have hhalf : 2 * 2 ^ x.scale * den = 2 * (2 ^ x.scale * den) := Nat.mul_assoc _ _ _
  have hquarter := Nat.mul_le_mul_right den hbelow
  rw [Nat.add_mul, hunits, habove, hhalf] at hhigh hstrict
  rw [Nat.sub_mul, hunits] at hlow hstrict
  rw [hhalf] at hquarter
  by_cases hcarry : 0 < x.scale ∧ num < 2 ^ 52 * (2 ^ x.scale * den)
  · -- Below the least number of its scale there is room on the finer scale only.
    obtain ⟨hscale, hless⟩ := hcarry
    have hfull := significand_ge hscale
    have hsignificand : x.significand = 2 ^ 52 := by
      by_contra hne
      have hmul := Nat.mul_le_mul_right (2 ^ x.scale * den) (show 2 ^ 52 + 1 ≤ x.significand by omega)
      rw [Nat.add_mul] at hmul
      omega
    rw [hsignificand, halfGaps_of_carry hsignificand hscale] at hlow
    obtain ⟨scale, hsucc⟩ : ∃ scale, x.scale = scale + 1 := ⟨x.scale - 1, by omega⟩
    have hdouble : 2 ^ x.scale * den = 2 * (2 ^ scale * den) := by
      rw [hsucc, Nat.pow_succ]
      ring
    rw [hdouble] at hlow hless
    have hcarried : scale * 2 ^ 52 + 2 ^ 53 = x.scale * 2 ^ 52 + x.significand := by omega
    exact (rounds_on_scale hden (.inr (by omega)) (by omega) (by omega) (by omega)
      (by omega)).trans hcarried
  · have hmul := Nat.mul_le_mul_right (2 ^ x.scale * den) (show x.significand + 1 ≤ 2 ^ 53 by omega)
    rw [Nat.add_mul] at hmul
    apply rounds_on_scale hden <;> omega

/-- What is near a finite number other than zero is read as it. -/
theorem Near.ofRatio_eq {x : Binary64} (hfinite : x.isFinite = true) {num den : Nat}
    (hnum : num ≠ 0) (hden : 0 < den) (h : x.Near (num * unitsPerOne) den) :
    ofRatio x.isNegative num den = x := by
  unfold ofRatio
  simp only [Nat.pow_eq, if_neg hnum]
  rw [h.rounds hden, ← magnitude_eq, Nat.min_eq_left (magnitude_lt_infinityWord hfinite).le]
  exact ofSignedWord_magnitude x

/-- How near a quotient is does not depend on how it is written. -/
theorem Near.of_eq {x : Binary64} {num den num' den' : Nat} (h : x.Near num den) (hden : 0 < den)
    (hden' : 0 < den') (heq : num * den' = num' * den) : x.Near num' den' := by
  have hcross (bound : Nat) : bound * den * den' = bound * den' * den ∧
      4 * num * den' = 4 * num' * den := by
    rw [Nat.mul_assoc 4, heq, Nat.mul_assoc 4, Nat.mul_right_comm]
    exact ⟨rfl, rfl⟩
  have hlow (bound : Nat) : bound * den ≤ 4 * num ↔ bound * den' ≤ 4 * num' := by
    rw [← Nat.mul_le_mul_right_iff hden', (hcross bound).1, (hcross bound).2,
      Nat.mul_le_mul_right_iff hden]
  have hhigh (bound : Nat) : 4 * num ≤ bound * den ↔ 4 * num' ≤ bound * den' := by
    rw [← Nat.mul_le_mul_right_iff hden', (hcross bound).1, (hcross bound).2,
      Nat.mul_le_mul_right_iff hden]
  refine ⟨(hlow _).1 h.low, (hhigh _).1 h.high, fun hodd ↦ ?_⟩
  have hstrict := h.strict hodd
  rwa [← Nat.not_le, ← Nat.not_le, hlow, hhigh, Nat.not_le, Nat.not_le] at hstrict

end Binary64

/-! ## Decimals -/

namespace Decimal

/-- The numerator of a decimal as a quotient. -/
def num (value : Decimal) : Nat := value.coefficient * 10 ^ value.exponent.toNat

/-- The denominator of a decimal as a quotient. -/
def den (value : Decimal) : Nat := 10 ^ (-value.exponent).toNat

theorem den_pos (value : Decimal) : 0 < value.den := Nat.pow_pos (by decide)

theorem lt_pow_digitCount (value : Nat) : value < 10 ^ digitCount value :=
  (Nat.length_toDigits_le_iff (by decide) Nat.length_toDigits_pos).1 (Nat.le_refl _)

theorem pow_digitCount_le {value : Nat} (h : value ≠ 0) : 10 ^ (digitCount value - 1) ≤ value := by
  by_contra hless
  have hpos : 0 < digitCount value - 1 := by
    by_contra hshort
    rw [Nat.eq_zero_of_not_pos hshort, Nat.pow_zero] at hless
    omega
  have hcount := (Nat.length_toDigits_le_iff (by decide) hpos).2 (Nat.lt_of_not_le hless)
  unfold digitCount at hcount hpos
  omega

theorem num_lt (value : Decimal) :
    value.num < 10 ^ (digitCount value.coefficient + value.exponent.toNat) := by
  rw [num, Nat.pow_add]
  exact Nat.mul_lt_mul_of_pos_right (lt_pow_digitCount _) (Nat.pow_pos (by decide))

theorem le_num {value : Decimal} (h : value.coefficient ≠ 0) :
    10 ^ (digitCount value.coefficient - 1 + value.exponent.toNat) ≤ value.num := by
  rw [num, Nat.pow_add]
  exact Nat.mul_le_mul_right _ (pow_digitCount_le h)

/-- Within the reach of the format a decimal is read by its quotient. -/
theorem toBinary64_eq_ofRatio {value : Decimal} (negative : Bool) (h : value.coefficient ≠ 0)
    (hlow : -400 ≤ value.exponent + digitCount value.coefficient)
    (hhigh : value.exponent + digitCount value.coefficient ≤ 400) :
    value.toBinary64 negative = .ofRatio negative value.num value.den := by
  unfold toBinary64 num den
  simp only [Nat.pow_eq]
  rw [if_neg (by omega), if_neg (by omega)]
  split
  · rename_i hwhole
    rw [Int.toNat_eq_zero.2 (by omega : -value.exponent ≤ 0), Nat.pow_zero]
  · rename_i hpart
    rw [Int.toNat_eq_zero.2 (by omega : value.exponent ≤ 0), Nat.pow_zero, Nat.mul_one]

end Decimal

namespace Binary64

theorem readsBack_iff (x : Binary64) (value : Decimal) :
    x.readsBack value = true ↔ x.Near (value.num * unitsPerOne) value.den := by
  have hcandidate : 4 * value.coefficient * 10 ^ value.exponent.toNat * unitsPerOne =
      4 * (value.num * unitsPerOne) := by
    rw [Decimal.num, Nat.mul_assoc 4, Nat.mul_assoc 4]
  unfold readsBack
  simp only [Nat.pow_eq, hcandidate]
  split
  · rename_i heven
    rw [Bool.and_eq_true, decide_eq_true_iff, decide_eq_true_iff]
    exact ⟨fun h ↦ ⟨h.1, h.2, fun hodd ↦ by omega⟩, fun h ↦ ⟨h.low, h.high⟩⟩
  · rename_i hodd
    rw [Bool.and_eq_true, decide_eq_true_iff, decide_eq_true_iff]
    exact ⟨fun h ↦ ⟨h.1.le, h.2.le, fun _ ↦ h⟩, fun h ↦ h.strict (by omega)⟩

theorem units_lt {x : Binary64} (h : x.isFinite = true) : x.units < 2 ^ 2098 := by
  have hfield : x.exponentField ≠ 2047 := by simpa [isFinite] using h
  have hscale : x.scale ≤ 2045 := by
    unfold scale
    unfold exponentField at hfield ⊢
    simp only [Nat.pow_eq] at hfield ⊢
    omega
  exact mul_two_pow_lt x.significand_lt (by omega)

theorem pow_scale_le_units {x : Binary64} (h : x.units ≠ 0) : 2 ^ x.scale ≤ x.units :=
  Nat.le_mul_of_pos_left _ (Nat.pos_of_ne_zero fun hzero ↦ h (by rw [units, hzero, Nat.zero_mul]))

theorem units_ne_zero {x : Binary64} (h : x.isZero = false) : x.units ≠ 0 := by
  intro hunits
  have hsignificand : x.significand = 0 :=
    (Nat.mul_eq_zero.1 hunits).resolve_right (Nat.two_pow_pos x.scale).ne'
  have hscale : x.scale = 0 := by
    by_contra hscale
    have hdigits := significand_ge (Nat.pos_of_ne_zero hscale)
    omega
  have hmagnitude := x.magnitude_eq
  rw [hsignificand, hscale, Nat.zero_mul] at hmagnitude
  rw [isZero, Nat.pow_eq, hmagnitude] at h
  cases h

/-- What is near a number is at least half a unit. -/
theorem Near.den_le {x : Binary64} (hunits : x.units ≠ 0) {num den : Nat} (h : x.Near num den) :
    den ≤ 2 * num := by
  have hpower := pow_scale_le_units hunits
  have hbelow := x.halfGaps_le.1
  have hlow := (Nat.mul_le_mul_right den (show 2 ≤ 4 * x.units - x.halfGaps.1 by omega)).trans h.low
  omega

/-- What is near a finite number is not far above the largest one. -/
theorem Near.num_le {x : Binary64} (hfinite : x.isFinite = true) (hunits : x.units ≠ 0)
    {num den : Nat} (h : x.Near num den) : num ≤ 2 ^ 2101 * den := by
  have hpower := pow_scale_le_units hunits
  have habove := x.halfGaps_le.2
  have hlarge := units_lt hfinite
  have hhigh := h.high.trans
    (Nat.mul_le_mul_right den (show 4 * x.units + x.halfGaps.2 ≤ 2 ^ 2101 by omega))
  omega

/-- A decimal near a finite number other than zero is read as that number. -/
theorem Near.toBinary64_eq {x : Binary64} (hfinite : x.isFinite = true) (hunits : x.units ≠ 0)
    {value : Decimal} (hcoefficient : value.coefficient ≠ 0)
    (h : x.Near (value.num * unitsPerOne) value.den) : value.toBinary64 x.isNegative = x := by
  have hnum : value.num ≠ 0 := Nat.mul_ne_zero hcoefficient (Nat.pow_pos (by decide)).ne'
  have hden := h.den_le hunits
  have hfits := h.num_le hfinite hunits
  rw [Decimal.toBinary64_eq_ofRatio _ hcoefficient]
  · exact h.ofRatio_eq hfinite hnum value.den_pos
  · by_contra hreach
    have hlarge : 10 ^ 401 * 10 ^ (Decimal.digitCount value.coefficient + value.exponent.toNat) ≤
        value.den := by
      rw [← Nat.pow_add]
      exact Nat.pow_le_pow_right (by decide) (by omega)
    have hunit : 2 * unitsPerOne ≤ 10 ^ 401 := by decide +kernel
    have hless : value.den < value.den := calc
      _ ≤ 2 * (value.num * unitsPerOne) := hden
      _ = 2 * unitsPerOne * value.num := by rw [Nat.mul_right_comm, Nat.mul_assoc]
      _ < 2 * unitsPerOne *
          10 ^ (Decimal.digitCount value.coefficient + value.exponent.toNat) :=
        Nat.mul_lt_mul_of_pos_left value.num_lt (Nat.mul_pos (by decide) unitsPerOne_pos)
      _ ≤ value.den := (Nat.mul_le_mul_right _ hunit).trans hlarge
    exact absurd hless (Nat.lt_irrefl _)
  · by_contra hreach
    have hlarge : 10 ^ 400 * value.den ≤ value.num := by
      rw [Decimal.den, ← Nat.pow_add]
      exact (Nat.pow_le_pow_right (by decide) (by omega)).trans (Decimal.le_num hcoefficient)
    have hunit : 2 ^ 2101 < 10 ^ 400 * unitsPerOne := by decide +kernel
    have hless : value.num * unitsPerOne < value.num * unitsPerOne := calc
      _ ≤ 2 ^ 2101 * value.den := hfits
      _ < 10 ^ 400 * unitsPerOne * value.den := Nat.mul_lt_mul_of_pos_right hunit value.den_pos
      _ = 10 ^ 400 * value.den * unitsPerOne := Nat.mul_right_comm _ _ _
      _ ≤ value.num * unitsPerOne := Nat.mul_le_mul_right _ hlarge
    exact absurd hless (Nat.lt_irrefl _)

end Binary64

end CardFilter
