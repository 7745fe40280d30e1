import CardFilter.Number.Binary64
import Mathlib.Algebra.Group.Int.Defs
import Mathlib.Algebra.Group.Nat.Defs
import Mathlib.Order.Lattice

/-!
# Finite results

A quotient below the range of binary64 rounds to a finite number.  In particular every integer that
fits a word of 64 bits, with or without a sign, has a finite nearest number.
-/

namespace CardFilter.Binary64

/-- A magnitude below the word of infinity is that of a finite number, whatever the sign. -/
theorem isFinite_ofSignedWord (negative : Bool) {magnitude : Nat} (h : magnitude < infinityWord) :
    (ofSignedWord negative magnitude).isFinite = true := by
  have hfield : (ofSignedWord negative magnitude).exponentField ≠ 2047 := by
    unfold infinityWord at h
    rw [Nat.pow_eq] at h
    cases negative <;> simp [ofSignedWord, exponentField] <;> omega
  simpa [isFinite] using hfield

theorem isNaN_of_isFinite {x : Binary64} (h : x.isFinite = true) : x.isNaN = false := by
  have hfield : (x.exponentField == 2047) = false := by simpa [isFinite] using h
  rw [isNaN, hfield]
  rfl

theorem divNearestEven_le (num den : Nat) : divNearestEven num den ≤ num / den + 1 := by
  simp only [divNearestEven]
  split <;> omega

/-- Scaled down by its own power of two a number has at most 53 binary digits. -/
theorem div_scale_lt (value : Nat) : value / 2 ^ (Nat.log2 value - 52) < 2 ^ 53 := by
  rw [Nat.div_lt_iff_lt_mul (Nat.two_pow_pos _), ← Nat.pow_add]
  exact Nat.lt_log2_self.trans_le (Nat.pow_le_pow_right (by omega) (by omega))

theorem isFinite_ofRatio (negative : Bool) {num den : Nat}
    (h : num * unitsPerOne / den < 2 ^ 2097) : (ofRatio negative num den).isFinite = true := by
  unfold ofRatio
  simp only [Nat.pow_eq]
  by_cases hzero : num = 0
  · rw [if_pos hzero]
    exact isFinite_ofSignedWord negative (by decide)
  · rw [if_neg hzero]
    generalize num * unitsPerOne = scaled at h
    have hscale : Nat.log2 (scaled / den) - 52 ≤ 2044 := by
      by_cases hpos : scaled / den = 0
      · simp [hpos]
      · have hlog := (Nat.log2_lt hpos).2 h
        omega
    have hrounded := divNearestEven_le scaled (den * 2 ^ (Nat.log2 (scaled / den) - 52))
    have hdigits := div_scale_lt (scaled / den)
    rw [Nat.div_div_eq_div_mul] at hdigits
    apply isFinite_ofSignedWord
    unfold infinityWord
    rw [Nat.pow_eq]
    omega

theorem mul_two_pow_lt {value digits shift bound : Nat} (h : value < 2 ^ digits)
    (hbound : digits + shift ≤ bound) : value * 2 ^ shift < 2 ^ bound := by
  calc
    _ < 2 ^ digits * 2 ^ shift := Nat.mul_lt_mul_of_pos_right h (Nat.two_pow_pos _)
    _ = 2 ^ (digits + shift) := by rw [Nat.pow_add]
    _ ≤ 2 ^ bound := Nat.pow_le_pow_right (by omega) hbound

theorem unitsPerOne_eq : unitsPerOne = 2 ^ 1074 := by
  unfold unitsPerOne
  -- With a variable in its place nothing tries to compute the power.
  generalize 1074 = exponent
  rfl

theorem unitsPerOne_pos : 0 < unitsPerOne := by
  unfold unitsPerOne
  generalize 1074 = exponent
  exact Nat.two_pow_pos exponent

theorem isFinite_ofRatio_one (negative : Bool) {value : Nat} (h : value < 2 ^ 64) :
    (ofRatio negative value 1).isFinite = true := by
  apply isFinite_ofRatio
  rw [Nat.div_one, unitsPerOne_eq]
  exact @mul_two_pow_lt _ 64 1074 2097 h (by omega)

theorem isFinite_ofInt {value : Int} (hlow : -2 ^ 63 ≤ value) (hhigh : value < 2 ^ 64) :
    (ofInt value).isFinite = true := by
  exact isFinite_ofRatio_one _ (by omega)

end CardFilter.Binary64
