import CardFilter.Proofs.Number.Finite

/-!
# Whole numbers through binary64

A natural number below `2 ^ 64` that goes to the nearest binary64 number and is cut back to a word
keeps its 53 leading binary digits, rounded.  So it comes back as it was exactly if all digits
behind those are zero, or if it is the largest word, to which everything above is cut.
-/

namespace CardFilter.Binary64

/-- By how many binary digits a number is too long for a significand. -/
def surplus (value : Nat) : Nat := Nat.log2 value - 52

/-- What becomes of a natural number in binary64. -/
def rounded (value : Nat) : Nat := (ofRatio false value 1).toWord

/-! ## Quotients -/

theorem divNearestEven_mul_right {factor : Nat} (h : 0 < factor) (num den : Nat) :
    divNearestEven (num * factor) (den * factor) = divNearestEven num den := by
  have htwice (rest : Nat) : 2 * (rest * factor) < den * factor ↔ 2 * rest < den := by
    rw [← Nat.mul_assoc]
    exact Nat.mul_lt_mul_right h
  have hhalf (rest : Nat) : 2 * (rest * factor) = den * factor ↔ 2 * rest = den := by
    rw [← Nat.mul_assoc]
    exact Nat.mul_left_inj h.ne'
  simp only [divNearestEven, Nat.mul_div_mul_right _ _ h, Nat.mul_mod_mul_right, htwice, hhalf]

theorem divNearestEven_of_dvd {num den : Nat} (hden : 0 < den) (h : den ∣ num) :
    divNearestEven num den = num / den := by
  have hrest : 2 * (num % den) < den := by rw [Nat.mod_eq_zero_of_dvd h]; exact hden
  exact if_pos (.inl hrest)

theorem le_divNearestEven (num den : Nat) : num / den ≤ divNearestEven num den := by
  simp only [divNearestEven]
  split <;> omega

/-! ## Words -/

/-- A significand of 53 digits behind its scale; a carry out of it moves on to the scale. -/
theorem units_ofSignedWord {scale digits : Nat} (hlow : 2 ^ 52 ≤ digits) (hhigh : digits ≤ 2 ^ 53)
    (hscale : scale < 2045) :
    (ofSignedWord false (scale * 2 ^ 52 + digits)).units = digits * 2 ^ scale := by
  have hword : (ofSignedWord false (scale * 2 ^ 52 + digits)).word.toNat =
      scale * 2 ^ 52 + digits := by
    simp only [ofSignedWord, UInt64.toNat_ofNat']
    simp
    omega
  unfold units significand Binary64.scale exponentField fraction
  simp only [hword, Nat.pow_eq]
  rcases Nat.lt_or_eq_of_le hhigh with hcarry | rfl
  · have hfield : (scale * 2 ^ 52 + digits) / 2 ^ 52 % 2 ^ 11 = scale + 1 := by omega
    have hrest : (scale * 2 ^ 52 + digits) % 2 ^ 52 = digits - 2 ^ 52 := by omega
    rw [hfield, hrest, if_neg (by omega), Nat.add_sub_cancel' hlow, Nat.add_sub_cancel]
  · have hfield : (scale * 2 ^ 52 + 2 ^ 53) / 2 ^ 52 % 2 ^ 11 = scale + 2 := by omega
    have hrest : (scale * 2 ^ 52 + 2 ^ 53) % 2 ^ 52 = 0 := by omega
    rw [hfield, hrest, if_neg (by omega), Nat.add_zero, Nat.add_sub_assoc (by omega), Nat.pow_add]
    omega

theorem isNegative_ofSignedWord {magnitude : Nat} (h : magnitude < 2 ^ 63) :
    (ofSignedWord false magnitude).isNegative = false := by
  simp [ofSignedWord, isNegative]
  omega

/-! ## Rounding -/

theorem log2_mul_two_pow {value : Nat} (h : value ≠ 0) (shift : Nat) :
    Nat.log2 (value * 2 ^ shift) = Nat.log2 value + shift := by
  have hpos : 0 < 2 ^ shift := Nat.two_pow_pos shift
  rw [Nat.log2_eq_iff (Nat.mul_ne_zero h hpos.ne'), Nat.pow_add, Nat.add_right_comm, Nat.pow_add]
  exact ⟨Nat.mul_le_mul_right _ (Nat.log2_self_le h),
    Nat.mul_lt_mul_of_pos_right Nat.lt_log2_self hpos⟩

/-- Among numbers as small as `2 ^ (-unit)` a whole number is rounded as among whole ones. -/
theorem divNearestEven_scaled {unit : Nat} (hunit : 52 ≤ unit) (value : Nat) :
    divNearestEven (value * 2 ^ unit) (2 ^ (Nat.log2 value + unit - 52)) *
        2 ^ (Nat.log2 value + unit - 52) =
      divNearestEven value (2 ^ surplus value) * 2 ^ surplus value * 2 ^ unit := by
  unfold surplus
  generalize Nat.log2 value = top
  rcases Nat.le_total top 52 with hshort | hlong
  · have hdvd : 2 ^ (top + unit - 52) ∣ value * 2 ^ unit := by
      exact Nat.dvd_mul_left_of_dvd (Nat.pow_dvd_pow 2 (by omega)) value
    rw [divNearestEven_of_dvd (Nat.two_pow_pos _) hdvd, Nat.div_mul_cancel hdvd,
      Nat.sub_eq_zero_of_le hshort, Nat.pow_zero, divNearestEven_of_dvd (by decide) (Nat.one_dvd _),
      Nat.div_one, Nat.mul_one]
  · rw [Nat.sub_add_comm hlong, Nat.pow_add, divNearestEven_mul_right (Nat.two_pow_pos _),
      Nat.mul_assoc]

theorem digits_bounds {value : Nat} (h : value ≠ 0) {unit : Nat} (hunit : 52 ≤ unit) :
    2 ^ 52 ≤ divNearestEven (value * 2 ^ unit) (2 ^ (Nat.log2 value + unit - 52)) ∧
      divNearestEven (value * 2 ^ unit) (2 ^ (Nat.log2 value + unit - 52)) ≤ 2 ^ 53 := by
  have hscaled := log2_mul_two_pow h unit
  have hne : value * 2 ^ unit ≠ 0 := Nat.mul_ne_zero h (Nat.two_pow_pos unit).ne'
  have hdigits := div_scale_lt (value * 2 ^ unit)
  have hlow := Nat.log2_self_le hne
  rw [hscaled] at hdigits hlow
  have hfull : 2 ^ 52 ≤ value * 2 ^ unit / 2 ^ (Nat.log2 value + unit - 52) := by
    rw [Nat.le_div_iff_mul_le (Nat.two_pow_pos _), ← Nat.pow_add]
    rwa [Nat.add_sub_cancel' (by omega)]
  exact ⟨hfull.trans (le_divNearestEven _ _), (divNearestEven_le _ _).trans hdigits⟩

/-- The magnitude of a whole number that was rounded. -/
theorem exists_ofRatio_one {value : Nat} (h : value < 2 ^ 64) :
    ∃ magnitude, ofRatio false value 1 = ofSignedWord false magnitude ∧
      magnitude < 1100 * 2 ^ 52 ∧
      (ofSignedWord false magnitude).units =
        divNearestEven value (2 ^ surplus value) * 2 ^ surplus value * unitsPerOne := by
  by_cases hzero : value = 0
  · refine ⟨0, by rw [ofRatio, if_pos hzero], by decide, ?_⟩
    rw [hzero, divNearestEven_of_dvd (Nat.two_pow_pos _) (Nat.dvd_zero _), Nat.zero_div,
      Nat.zero_mul, Nat.zero_mul]
    rfl
  · -- The exponent is a variable, so that nothing tries to compute the power.
    obtain ⟨unit, hunit, hlow, hhigh⟩ : ∃ unit, unitsPerOne = 2 ^ unit ∧ 52 ≤ unit ∧ unit ≤ 1074 :=
      ⟨1074, unitsPerOne_eq, by decide, by decide⟩
    have htop : Nat.log2 value < 64 := (Nat.log2_lt hzero).2 h
    have hscaled := divNearestEven_scaled hlow value
    obtain ⟨hdigits, hcarry⟩ := digits_bounds hzero hlow
    refine ⟨(Nat.log2 value + unit - 52) * 2 ^ 52 +
      divNearestEven (value * 2 ^ unit) (2 ^ (Nat.log2 value + unit - 52)), ?_, ?_, ?_⟩
    · unfold ofRatio infinityWord
      simp only [Nat.pow_eq, if_neg hzero, hunit, Nat.div_one, Nat.one_mul,
        log2_mul_two_pow hzero]
      rw [Nat.min_eq_left]
      omega
    · omega
    · rw [units_ofSignedWord hdigits hcarry (by omega), hscaled, hunit]

theorem rounded_eq {value : Nat} (h : value < 2 ^ 64) :
    rounded value =
      min (divNearestEven value (2 ^ surplus value) * 2 ^ surplus value) (2 ^ 64 - 1) := by
  obtain ⟨magnitude, hratio, hmagnitude, hunits⟩ := exists_ofRatio_one h
  have hfinite := isFinite_ofRatio_one false h
  have hnumber := isNaN_of_isFinite hfinite
  have hsign : (ofSignedWord false magnitude).isNegative = false := by
    apply isNegative_ofSignedWord
    omega
  rw [hratio] at hfinite hnumber
  unfold rounded toWord
  rw [hratio, hnumber, hsign, hfinite, hunits, Nat.mul_div_cancel _ unitsPerOne_pos]
  rfl

/-! ## What comes back -/

/-- Whether no more than 53 binary digits stand up to the last one that is not zero, or all the 64
digits of a word are ones. -/
def isExact (value : Nat) : Bool := value == 2 ^ 64 - 1 || value % 2 ^ surplus value == 0

theorem isExact_iff (value : Nat) :
    isExact value = true ↔ value = 2 ^ 64 - 1 ∨ 2 ^ surplus value ∣ value := by
  unfold isExact
  rw [Bool.or_eq_true_iff, beq_iff_eq, beq_iff_eq, Nat.dvd_iff_mod_eq_zero]

theorem rounded_eq_self_iff {value : Nat} (h : value < 2 ^ 64) :
    rounded value = value ↔ isExact value = true := by
  rw [rounded_eq h, isExact_iff]
  constructor
  · intro hself
    rcases Nat.lt_or_ge (divNearestEven value (2 ^ surplus value) * 2 ^ surplus value) (2 ^ 64)
      with hfits | hlarge
    · right
      rw [Nat.min_eq_left (by omega)] at hself
      exact ⟨_, hself.symm.trans (Nat.mul_comm _ _)⟩
    · left
      omega
  · rintro (rfl | hdvd)
    · decide
    · rw [divNearestEven_of_dvd (Nat.two_pow_pos _) hdvd, Nat.div_mul_cancel hdvd,
        Nat.min_eq_left (by omega)]

theorem rounded_lt {value : Nat} (h : value < 2 ^ 64) : rounded value < 2 ^ 64 := by
  rw [rounded_eq h]
  omega

/-- What becomes of a word in binary64. -/
def roundedWord (value : UInt64) : UInt64 := .ofNat (rounded value.toNat)

theorem toNat_roundedWord (value : UInt64) : (roundedWord value).toNat = rounded value.toNat := by
  have hword := rounded_lt value.toNat_lt
  simp [roundedWord]
  omega

theorem roundedWord_eq_self_iff (value : UInt64) :
    roundedWord value = value ↔ isExact value.toNat = true := by
  rw [← rounded_eq_self_iff value.toNat_lt, ← toNat_roundedWord, UInt64.toNat_inj]

/-- The first whole number that does not come back. -/
example : rounded (2 ^ 53 + 1) = 2 ^ 53 := by rw [rounded_eq (by decide)]; decide

end CardFilter.Binary64
