import CardFilter.Proofs.Number.Nearest

/-!
# The shortest decimal reads back

The number is at least the power of ten that its leading exponent names, so a grid with sixteen
more digits has steps that are shorter than the interval around the number: one of the two
neighbours on that grid lies inside.  The search over grids therefore ends with a decimal inside
the interval, and that is read as the number.
-/

namespace CardFilter.Binary64

variable {x : Binary64}

/-- A number is at least the power of ten of its leading exponent. -/
theorem pow_leadingExponent_le (h : x.units ≠ 0) :
    unitsPerOne * 10 ^ x.leadingExponent.toNat ≤ x.units * 10 ^ (-x.leadingExponent).toNat := by
  unfold leadingExponent
  split
  · rename_i hwhole
    have hquotient : x.units / unitsPerOne ≠ 0 := (Nat.div_pos hwhole unitsPerOne_pos).ne'
    have hcount : 0 < Decimal.digitCount (x.units / unitsPerOne) := Nat.length_toDigits_pos
    have hle := (Nat.le_div_iff_mul_le unitsPerOne_pos).1 (Decimal.pow_digitCount_le hquotient)
    generalize Decimal.digitCount (x.units / unitsPerOne) = count at hcount hle
    rw [show ((count : Int) - 1).toNat = count - 1 by omega,
      show (-((count : Int) - 1)).toNat = 0 by omega, Nat.pow_zero, Nat.mul_one, Nat.mul_comm]
    exact hle
  · have hlt := (Nat.div_lt_iff_lt_mul (Nat.pos_of_ne_zero h)).1
      (Decimal.lt_pow_digitCount (unitsPerOne / x.units))
    rw [Int.toNat_eq_zero.2 (by omega), Int.neg_neg, Int.toNat_natCast, Nat.pow_zero, Nat.mul_one,
      Nat.mul_comm]
    exact hlt.le

/-- The interval around a number is wide compared to the number. -/
theorem units_lt_halfGaps (x : Binary64) :
    4 * x.units < 10 ^ 16 * (x.halfGaps.1 + x.halfGaps.2) := by
  have hpower : 0 < 2 ^ x.scale := Nat.two_pow_pos _
  have hdigits := Nat.mul_le_mul_right (2 ^ x.scale) x.significand_lt.le
  by_cases hcarry : x.significand = 2 ^ 52 ∧ 0 < x.scale
  · rw [halfGaps_of_carry hcarry.1 hcarry.2, units, hcarry.1, Nat.pow_eq]
    omega
  · rw [halfGaps_of_not_carry hcarry, units, Nat.pow_eq]
    omega

/-! ## Grids -/

/-- A grid with sixteen more digits than the leading one divides a number into as many steps. -/
theorem grid_le {unit value : Nat} {lead exponent : Int} (hexponent : exponent = lead - 16)
    (h : unit * 10 ^ lead.toNat ≤ value * 10 ^ (-lead).toNat) :
    10 ^ 16 * (unit * 10 ^ exponent.toNat) ≤ value * 10 ^ (-exponent).toNat := by
  have hpos : 0 < 10 ^ (-lead).toNat := Nat.pow_pos (by decide)
  have hpowers : 10 ^ lead.toNat * 10 ^ (-exponent).toNat =
      10 ^ 16 * 10 ^ exponent.toNat * 10 ^ (-lead).toNat := by
    rw [← Nat.pow_add, ← Nat.pow_add, ← Nat.pow_add]
    congr 1
    omega
  apply Nat.le_of_mul_le_mul_right _ hpos
  calc
    _ = unit * (10 ^ 16 * 10 ^ exponent.toNat * 10 ^ (-lead).toNat) := by
      rw [Nat.mul_left_comm, Nat.mul_assoc]
    _ = unit * 10 ^ lead.toNat * 10 ^ (-exponent).toNat := by rw [← hpowers, Nat.mul_assoc]
    _ ≤ value * 10 ^ (-lead).toNat * 10 ^ (-exponent).toNat := Nat.mul_le_mul_right _ h
    _ = _ := Nat.mul_right_comm _ _ _

theorem halfGaps_pos (x : Binary64) : 0 < x.halfGaps.1 ∧ 0 < x.halfGaps.2 := by
  have hpower : 0 < 2 ^ x.scale := Nat.two_pow_pos _
  by_cases hcarry : x.significand = 2 ^ 52 ∧ 0 < x.scale
  · rw [halfGaps_of_carry hcarry.1 hcarry.2]
    omega
  · rw [halfGaps_of_not_carry hcarry]
    omega

/-- One of the two neighbours on a grid is near if its steps are shorter than the interval. -/
theorem near_or_near (h : x.units ≠ 0) {step den quotient : Nat} (hden : 0 < den)
    (hwide : 4 * step < (x.halfGaps.1 + x.halfGaps.2) * den)
    (hlow : quotient * step ≤ x.units * den) (hhigh : x.units * den < (quotient + 1) * step) :
    x.Near (quotient * step) den ∨ x.Near ((quotient + 1) * step) den := by
  have hpower := pow_scale_le_units h
  have hhalf := x.halfGaps_le.1
  have hinside := Nat.mul_le_mul_right den (show x.halfGaps.1 ≤ 2 * x.units by omega)
  have hbelow := Nat.mul_pos x.halfGaps_pos.1 hden
  have habove := Nat.mul_pos x.halfGaps_pos.2 hden
  have hunits : 4 * x.units * den = 4 * (x.units * den) := Nat.mul_assoc _ _ _
  rw [Nat.add_mul] at hwide
  rw [Nat.succ_mul] at hhigh ⊢
  rw [Nat.mul_assoc] at hinside
  have hnear {candidate : Nat}
      (hlow : 4 * (x.units * den) < 4 * candidate + x.halfGaps.1 * den)
      (hhigh : 4 * candidate < 4 * (x.units * den) + x.halfGaps.2 * den) : x.Near candidate den := by
    constructor <;> simp only [Nat.sub_mul, Nat.add_mul, hunits] <;> omega
  by_cases hfloor : 4 * (x.units * den) < 4 * (quotient * step) + x.halfGaps.1 * den
  · exact .inl (hnear hfloor (by omega))
  · exact .inr (hnear (by omega) (by omega))

/-- A grid with sixteen more digits than the leading one has a neighbour that reads back. -/
theorem isSome_onGrid (tie : Tie) (h : x.units ≠ 0) {exponent : Int}
    (hexponent : exponent = x.leadingExponent - 16) : (x.onGrid tie exponent).isSome = true := by
  have hgrid := grid_le hexponent (pow_leadingExponent_le h)
  have hneighbours (quotient : Nat) : (x.readsBack ⟨quotient, exponent⟩ = true ↔
      x.Near (quotient * (unitsPerOne * 10 ^ exponent.toNat)) (10 ^ (-exponent).toNat)) := by
    rw [readsBack_iff, Decimal.num, Decimal.den, Nat.mul_assoc, Nat.mul_comm _ unitsPerOne]
  have hstep : 0 < unitsPerOne * 10 ^ exponent.toNat :=
    Nat.mul_pos unitsPerOne_pos (Nat.pow_pos (by decide))
  unfold onGrid
  simp only [Nat.pow_eq]
  generalize unitsPerOne * 10 ^ exponent.toNat = step at *
  have hdown : 0 < 10 ^ (-exponent).toNat := Nat.pow_pos (by decide)
  have hwide := Nat.mul_lt_mul_of_pos_right x.units_lt_halfGaps hdown
  rw [Nat.mul_assoc, Nat.mul_assoc (10 ^ 16)] at hwide
  have hlow := Nat.div_mul_le_self (x.units * 10 ^ (-exponent).toNat) step
  have hhigh := Nat.lt_mul_div_succ (x.units * 10 ^ (-exponent).toNat) hstep
  have hfloor : x.units * 10 ^ (-exponent).toNat / step ≠ 0 := (Nat.div_pos (by omega) hstep).ne'
  rw [Nat.mul_comm step] at hhigh
  generalize x.units * 10 ^ (-exponent).toNat / step = quotient at *
  have hnear := near_or_near h hdown (by omega) hlow hhigh
  rw [← hneighbours, ← hneighbours] at hnear
  split
  · rfl
  · rfl
  · rfl
  · rename_i hnofloor hnoceiling
    rcases hnear with hnear | hnear
    · rw [hnear, Bool.true_and] at hnofloor
      exact absurd hnofloor (by simpa using hfloor)
    · rw [hnear] at hnoceiling
      cases hnoceiling

theorem readsBack_of_onGrid {tie : Tie} {exponent : Int} {value : Decimal}
    (h : x.onGrid tie exponent = some value) :
    x.readsBack value = true ∧ value.coefficient ≠ 0 := by
  unfold onGrid at h
  simp only at h
  split at h
  · rename_i hfloor hceiling
    obtain ⟨hback, hcoefficient⟩ := Bool.and_eq_true_iff.1 hfloor
    obtain rfl := Option.some.inj h
    split
    · exact ⟨hback, bne_iff_ne.1 hcoefficient⟩
    · exact ⟨hceiling, Nat.succ_ne_zero _⟩
  · rename_i hfloor hceiling
    obtain ⟨hback, hcoefficient⟩ := Bool.and_eq_true_iff.1 hfloor
    obtain rfl := Option.some.inj h
    exact ⟨hback, bne_iff_ne.1 hcoefficient⟩
  · rename_i hfloor hceiling
    obtain rfl := Option.some.inj h
    exact ⟨hceiling, Nat.succ_ne_zero _⟩
  · cases h

/-! ## The search -/

/-- Zeros at the end of a coefficient may as well be part of the exponent. -/
theorem Near.decimal_shift {coefficient shift : Nat} {exponent : Int} :
    x.Near ((Decimal.num ⟨coefficient * 10 ^ shift, exponent⟩) * unitsPerOne)
        (Decimal.den ⟨coefficient * 10 ^ shift, exponent⟩) ↔
      x.Near ((Decimal.num ⟨coefficient, exponent + shift⟩) * unitsPerOne)
        (Decimal.den ⟨coefficient, exponent + shift⟩) := by
  have hcross : Decimal.num ⟨coefficient * 10 ^ shift, exponent⟩ * unitsPerOne *
      Decimal.den ⟨coefficient, exponent + shift⟩ =
        Decimal.num ⟨coefficient, exponent + shift⟩ * unitsPerOne *
          Decimal.den ⟨coefficient * 10 ^ shift, exponent⟩ := by
    rw [Nat.mul_right_comm, Nat.mul_right_comm _ unitsPerOne]
    congr 1
    simp only [Decimal.num, Decimal.den, Nat.mul_assoc, ← Nat.pow_add]
    congr 2
    omega
  exact ⟨fun h ↦ h.of_eq (Decimal.den_pos _) (Decimal.den_pos _) hcross,
    fun h ↦ h.of_eq (Decimal.den_pos _) (Decimal.den_pos _) hcross.symm⟩

/-- The search ends with a decimal that is near. -/
theorem near_shortest (tie : Tie) (h : x.units ≠ 0) :
    (x.shortest tie).coefficient ≠ 0 ∧
      x.Near ((x.shortest tie).num * unitsPerOne) (x.shortest tie).den := by
  have hfound : ((List.range 17).findSome? fun (count : Nat) ↦
      x.onGrid tie (x.leadingExponent - (count : Int))).isSome = true := by
    rw [List.findSome?_isSome_iff]
    exact ⟨16, by simp, isSome_onGrid tie h rfl⟩
  obtain ⟨value, hvalue⟩ := Option.isSome_iff_exists.1 hfound
  obtain ⟨count, -, hgrid⟩ := List.exists_of_findSome?_eq_some hvalue
  obtain ⟨hback, hcoefficient⟩ := readsBack_of_onGrid hgrid
  rw [readsBack_iff] at hback
  unfold shortest
  simp only [hvalue]
  split
  · rename_i hten
    obtain ⟨coefficient, exponent⟩ := value
    obtain rfl : coefficient = 10 := hten
    exact ⟨Nat.one_ne_zero, (@Near.decimal_shift x 1 1 exponent).1 hback⟩
  · exact ⟨hcoefficient, hback⟩

/-- The decimal that is found is read as the number. -/
theorem toBinary64_shortest (tie : Tie) (hfinite : x.isFinite = true) (h : x.units ≠ 0) :
    (x.shortest tie).toBinary64 x.isNegative = x := by
  obtain ⟨hcoefficient, hnear⟩ := near_shortest tie h
  exact hnear.toBinary64_eq hfinite h hcoefficient

end CardFilter.Binary64
