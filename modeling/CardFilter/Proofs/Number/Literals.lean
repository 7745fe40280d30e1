import CardFilter.Number.Literal
import CardFilter.Proofs.Number.Shortest
import Mathlib.Data.List.Basic
import Mathlib.Data.List.TakeWhile

/-!
# Numbers as literals

A regular literal is read as the parts that it was put together from.  Every layout of a finite
number is a regular literal, as long as the style marks whole numbers, and none of them changes the
value of the digits: so the text of a number is read as the number.
-/

namespace CardFilter

namespace Literal

/-! ## Decimal digits -/

/-- At least one digit, and nothing else. -/
def IsDigits (digits : List Char) : Prop := digits ≠ [] ∧ ∀ c ∈ digits, isDigit c = true

theorem isDigit_of_mem_toDigits {value : Nat} {c : Char} (h : c ∈ Nat.toDigits 10 value) :
    isDigit c = true := by
  have hdigit := Char.isDigit_iff_toNat.1 (Nat.isDigit_of_mem_toDigits (by decide) (by decide) h)
  simpa [isDigit, Char.le_def, UInt32.le_iff_toNat_le] using hdigit

theorem isDigits_toDigits (value : Nat) : IsDigits (Nat.toDigits 10 value) :=
  ⟨Nat.toDigits_ne_nil, fun _ ↦ isDigit_of_mem_toDigits⟩

theorem natOfDigits_toDigits (value : Nat) : natOfDigits (Nat.toDigits 10 value) = value :=
  Nat.ofDigitChars_ten_toDigits

theorem natOfDigits_replicate_append (count : Nat) (digits : List Char) :
    natOfDigits (List.replicate count '0' ++ digits) = natOfDigits digits := by
  induction count with
  | zero => rfl
  | succ count ih => exact ih

theorem natOfDigits_append_replicate (digits : List Char) (count : Nat) :
    natOfDigits (digits ++ List.replicate count '0') = natOfDigits digits * 10 ^ count := by
  calc
    _ = Nat.ofDigitChars 10 (List.replicate count '0') (natOfDigits digits) :=
      Nat.ofDigitChars_append 0
    _ = _ := by rw [Nat.ofDigitChars_replicate_zero, Nat.mul_comm]

theorem head?_toDigits {value : Nat} (h : value ≠ 0) :
    (Nat.toDigits 10 value).head? ≠ some '0' := by
  have hdigit : ∀ digit < 10, digit ≠ 0 → Nat.digitChar digit ≠ '0' := by decide
  induction value using Nat.strongRecOn with
  | ind value ih =>
    rw [Nat.toDigits_eq_if (by decide)]
    split
    · rename_i hsmall
      simpa using hdigit value hsmall h
    · rw [List.head?_append_of_ne_nil _ Nat.toDigits_ne_nil]
      exact ih (value / 10) (by omega) (by omega)

/-! ## Parts of a literal -/

def fractionChars : Option (List Char) → List Char
  | none => []
  | some digits => '.' :: digits

def exponentChars : Option (Option Char × List Char) → List Char
  | none => []
  | some (sign, digits) => 'e' :: (sign.toList ++ digits)

/-- The text of a literal. -/
def chars (literal : Literal) : List Char :=
  literal.sign.toList ++
    (literal.whole ++ (fractionChars literal.fraction ++ exponentChars literal.exponent))

/-- Digits wherever they are due, no zero in front, and a sign only where one is needed. -/
structure IsRegular (literal : Literal) : Prop where
  sign : literal.sign = none ∨ literal.sign = some '-'
  whole : IsDigits literal.whole
  leading : literal.whole.length = 1 ∨ literal.whole.head? ≠ some '0'
  fraction : ∀ digits, literal.fraction = some digits → IsDigits digits
  exponent : ∀ sign digits, literal.exponent = some (sign, digits) →
    (sign = some '+' ∨ sign = some '-') ∧ IsDigits digits

theorem takeSign_digits_append {digits : List Char} (h : IsDigits digits) (rest : List Char) :
    takeSign (digits ++ rest) = (none, digits ++ rest) := by
  obtain ⟨hne, hdigits⟩ := h
  cases digits with
  | nil => exact absurd rfl hne
  | cons c others =>
    have hc := hdigits c List.mem_cons_self
    unfold takeSign
    split
    · rename_i heq
      obtain rfl := (List.cons.inj heq).1
      exact absurd hc (by decide)
    · rename_i heq
      obtain rfl := (List.cons.inj heq).1
      exact absurd hc (by decide)
    · rfl

theorem takeWhile_digits_append {digits rest : List Char} (h : ∀ c ∈ digits, isDigit c = true)
    (hrest : rest.head?.all fun c ↦ !isDigit c) :
    (digits ++ rest).takeWhile isDigit = digits ∧ (digits ++ rest).dropWhile isDigit = rest := by
  rw [List.takeWhile_append_of_pos h, List.dropWhile_append_of_pos h]
  cases rest with
  | nil => exact ⟨List.append_nil _, rfl⟩
  | cons c others =>
    have hc : ¬ isDigit c = true := by simpa using hrest
    rw [List.takeWhile_cons_of_neg hc, List.dropWhile_cons_of_neg hc, List.append_nil]
    exact ⟨rfl, rfl⟩

theorem head?_exponentChars (exponent : Option (Option Char × List Char)) :
    ((exponentChars exponent).head?.all fun c ↦ !isDigit c) = true := by
  cases exponent <;> rfl

theorem takeFraction_chars {fraction : Option (List Char)}
    (h : ∀ digits, fraction = some digits → IsDigits digits)
    (exponent : Option (Option Char × List Char)) :
    takeFraction (fractionChars fraction ++ exponentChars exponent) =
      (fraction, exponentChars exponent) := by
  cases fraction with
  | none => cases exponent <;> rfl
  | some digits =>
    obtain ⟨htaken, hrest⟩ := takeWhile_digits_append (h digits rfl).2
      (head?_exponentChars exponent)
    change (some ((digits ++ exponentChars exponent).takeWhile isDigit),
      (digits ++ exponentChars exponent).dropWhile isDigit) = _
    rw [htaken, hrest]

theorem exponent?_chars {exponent : Option (Option Char × List Char)}
    (h : ∀ sign digits, exponent = some (sign, digits) →
      (sign = some '+' ∨ sign = some '-') ∧ IsDigits digits) :
    exponent? (exponentChars exponent) = some exponent := by
  cases exponent with
  | none => rfl
  | some exponent =>
    obtain ⟨sign, digits⟩ := exponent
    obtain ⟨hsign, hne, hdigits⟩ := h sign digits rfl
    have hall : digits.all isDigit = true := List.all_eq_true.2 hdigits
    have htaken : takeSign (sign.toList ++ digits) = (sign, digits) := by
      rcases hsign with rfl | rfl <;> rfl
    unfold exponentChars exponent?
    simp [htaken, hall, hne]

/-- A regular literal is read as it was written. -/
theorem ofChars?_chars {literal : Literal} (h : literal.IsRegular) :
    ofChars? literal.chars = some literal := by
  have hhead : ((fractionChars literal.fraction ++ exponentChars literal.exponent).head?.all
      fun c ↦ !isDigit c) = true := by
    cases literal.fraction with
    | none => exact head?_exponentChars _
    | some digits => rfl
  obtain ⟨hwhole, hrest⟩ := takeWhile_digits_append h.whole.2 hhead
  have hsign : takeSign literal.chars = (literal.sign,
      literal.whole ++ (fractionChars literal.fraction ++ exponentChars literal.exponent)) := by
    unfold chars
    rcases h.sign with hsign | hsign
    · rw [hsign]
      exact takeSign_digits_append h.whole _
    · rw [hsign]
      rfl
  unfold ofChars?
  rw [hsign]
  simp only [hwhole, hrest, takeFraction_chars h.fraction, exponent?_chars h.exponent]

/-- The digits of a natural number, with a sign or without. -/
theorem isRegular_toDigits (value : Nat) {sign : Option Char}
    (hsign : sign = none ∨ sign = some '-') :
    IsRegular ⟨sign, Nat.toDigits 10 value, none, none⟩ where
  sign := hsign
  whole := isDigits_toDigits value
  leading := by
    by_cases hzero : value = 0
    · rw [hzero]
      exact .inl rfl
    · exact .inr (head?_toDigits hzero)
  fraction := nofun
  exponent := nofun

theorem ofChars?_toDigits (value : Nat) :
    ofChars? (Nat.toDigits 10 value) = some ⟨none, Nat.toDigits 10 value, none, none⟩ := by
  have hread := ofChars?_chars (isRegular_toDigits value (.inl rfl))
  simpa [chars, fractionChars, exponentChars] using hread

/-! ## Layouts -/

/-- A literal that is regular, has no sign, stands for a real, and has the value of the digits at
their place. -/
structure IsLayout (literal : Literal) (digits : List Char) (exponent : Int) : Prop where
  regular : literal.IsRegular
  unsigned : literal.sign = none
  real : literal.isInteger = false
  decimal : ∃ shift : Nat,
    literal.decimal = ⟨natOfDigits digits * 10 ^ shift, exponent - shift⟩

theorem isDigits_zero : IsDigits ['0'] :=
  ⟨List.cons_ne_nil _ _, List.forall_mem_singleton.2 rfl⟩

theorem isDigits_replicate_append {digits : List Char} (h : IsDigits digits) (count : Nat) :
    IsDigits (List.replicate count '0' ++ digits) := by
  refine ⟨by simp [h.1], fun c hc ↦ ?_⟩
  rcases List.mem_append.1 hc with hc | hc
  · rw [(List.mem_replicate.1 hc).2]
    decide
  · exact h.2 c hc

theorem isDigits_append_replicate {digits : List Char} (h : IsDigits digits) (count : Nat) :
    IsDigits (digits ++ List.replicate count '0') := by
  refine ⟨by simp [h.1], fun c hc ↦ ?_⟩
  rcases List.mem_append.1 hc with hc | hc
  · exact h.2 c hc
  · rw [(List.mem_replicate.1 hc).2]
    decide

end Literal

namespace NumberStyle

open Literal (IsDigits isDigits_zero)

variable {style : NumberStyle} {digits : List Char}

/-- Zeros in front, behind the point. -/
theorem isLayout_small (h : IsDigits digits) {exponent : Int} {count : Nat}
    (hexponent : exponent + count + digits.length = 0) :
    Literal.IsLayout ⟨none, ['0'], some (List.replicate count '0' ++ digits), none⟩ digits
      exponent where
  regular := {
    sign := .inl rfl
    whole := isDigits_zero
    leading := .inl rfl
    fraction := by
      rintro _ ⟨⟩
      exact Literal.isDigits_replicate_append h count
    exponent := nofun }
  unsigned := rfl
  real := rfl
  decimal := by
    have hvalue := Literal.natOfDigits_replicate_append (count + 1) digits
    refine ⟨0, ?_⟩
    unfold Literal.decimal
    congr 1
    · rw [Nat.pow_zero, Nat.mul_one]
      exact hvalue
    · simp [Literal.exponentValue, Literal.fractionDigits]
      omega

/-- Zeros behind, up to the point, and one behind it. -/
theorem isLayout_whole (h : IsDigits digits) (hleading : digits.head? ≠ some '0') {exponent : Int}
    {count : Nat} (hexponent : exponent = count) :
    Literal.IsLayout ⟨none, digits ++ List.replicate count '0', some ['0'], none⟩ digits
      exponent where
  regular := {
    sign := .inl rfl
    whole := Literal.isDigits_append_replicate h count
    leading := by
      rw [List.head?_append_of_ne_nil _ h.1]
      exact .inr hleading
    fraction := by
      rintro _ ⟨⟩
      exact isDigits_zero
    exponent := nofun }
  unsigned := rfl
  real := rfl
  decimal := by
    have hvalue := Literal.natOfDigits_append_replicate digits (count + 1)
    rw [List.replicate_succ', ← List.append_assoc] at hvalue
    refine ⟨count + 1, ?_⟩
    unfold Literal.decimal
    congr 1
    simp [Literal.exponentValue, Literal.fractionDigits]
    omega

/-- The point between the digits. -/
theorem isLayout_split (h : IsDigits digits) (hleading : digits.head? ≠ some '0') {exponent : Int}
    {count : Nat} (hexponent : exponent + digits.length = count) (hpos : 0 < count)
    (hcount : count < digits.length) :
    Literal.IsLayout ⟨none, digits.take count, some (digits.drop count), none⟩ digits
      exponent where
  regular := {
    sign := .inl rfl
    whole := ⟨by simp [h.1, hpos.ne'], fun c hc ↦ h.2 c (List.mem_of_mem_take hc)⟩
    leading := by
      rw [List.head?_take, if_neg hpos.ne']
      exact .inr hleading
    fraction := by
      rintro _ ⟨⟩
      exact ⟨by simpa using hcount, fun c hc ↦ h.2 c (List.mem_of_mem_drop hc)⟩
    exponent := nofun }
  unsigned := rfl
  real := rfl
  decimal := by
    refine ⟨0, ?_⟩
    unfold Literal.decimal
    simp only [Literal.fractionDigits, Option.getD_some, List.take_append_drop]
    congr 1
    · rw [Nat.pow_zero, Nat.mul_one]
    · simp [Literal.exponentValue]
      omega

theorem exists_layout_positional (hmark : style.wholeMark = ['.', '0']) (h : IsDigits digits)
    (hleading : digits.head? ≠ some '0') {exponent lead : Int}
    (hlead : lead = exponent + digits.length - 1) :
    ∃ literal : Literal, literal.IsLayout digits exponent ∧
      literal.chars = style.positionalText digits lead := by
  have hlength : 0 < digits.length := List.length_pos_iff.2 h.1
  unfold positionalText
  split
  · have hlayout := @isLayout_small _ h exponent ((-lead).toNat - 1) (by omega)
    exact ⟨_, hlayout, by simp [Literal.chars, Literal.fractionChars, Literal.exponentChars]⟩
  · simp only
    split
    · have hlayout := @isLayout_whole _ h hleading exponent (lead.toNat + 1 - digits.length)
        (by omega)
      exact ⟨_, hlayout,
        by simp [Literal.chars, Literal.fractionChars, Literal.exponentChars, hmark]⟩
    · have hlayout := @isLayout_split _ h hleading exponent (lead.toNat + 1) (by omega) (by omega)
        (by omega)
      exact ⟨_, hlayout, by simp [Literal.chars, Literal.fractionChars, Literal.exponentChars]⟩

/-- The exponent of a literal. -/
def exponentPart (lead : Int) : Option (Option Char × List Char) :=
  some (some (if lead < 0 then '-' else '+'), Nat.toDigits 10 lead.natAbs)

theorem exponentChars_exponentPart (lead : Int) :
    Literal.exponentChars (exponentPart lead) = 'e' :: exponentText lead := rfl

theorem exponentValue_exponentPart (sign : Option Char) (whole : List Char)
    (fraction : Option (List Char)) (lead : Int) :
    Literal.exponentValue ⟨sign, whole, fraction, exponentPart lead⟩ = lead := by
  unfold Literal.exponentValue exponentPart
  simp only [Literal.natOfDigits_toDigits]
  by_cases hnegative : lead < 0
  · rw [if_pos hnegative, if_pos (by decide)]
    omega
  · rw [if_neg hnegative, if_neg (by decide)]
    omega

/-- The point behind the leading digit, if there are more, and an exponent. -/
theorem isLayout_scientific (h : IsDigits digits) {exponent lead : Int}
    (hlead : lead = exponent + digits.length - 1) {fraction : Option (List Char)}
    (hfraction : fraction.getD [] = digits.drop 1) (hoccupied : fraction ≠ some []) :
    Literal.IsLayout ⟨none, digits.take 1, fraction, exponentPart lead⟩ digits exponent where
  regular := {
    sign := .inl rfl
    whole := ⟨by simp [h.1], fun c hc ↦ h.2 c (List.mem_of_mem_take hc)⟩
    leading := by
      have hlength : 0 < digits.length := List.length_pos_iff.2 h.1
      rw [List.length_take]
      omega
    fraction := by
      rintro others rfl
      obtain rfl : others = digits.drop 1 := hfraction
      exact ⟨fun hnil ↦ hoccupied (congrArg some hnil), fun c hc ↦ h.2 c (List.mem_of_mem_drop hc)⟩
    exponent := by
      rintro _ _ ⟨⟩
      refine ⟨?_, Literal.isDigits_toDigits _⟩
      split
      · exact .inr rfl
      · exact .inl rfl }
  unsigned := rfl
  real := Bool.and_false _
  decimal := by
    have hlength : 0 < digits.length := List.length_pos_iff.2 h.1
    refine ⟨0, ?_⟩
    unfold Literal.decimal
    simp only [Literal.fractionDigits, hfraction, exponentValue_exponentPart,
      List.take_append_drop]
    congr 1
    · rw [Nat.pow_zero, Nat.mul_one]
    · rw [List.length_drop]
      omega

theorem exists_layout_scientific (h : IsDigits digits) {exponent lead : Int}
    (hlead : lead = exponent + digits.length - 1) :
    ∃ literal : Literal, literal.IsLayout digits exponent ∧
      literal.chars = scientific digits lead := by
  unfold scientific
  split
  · rename_i hshort
    have hnone : (none : Option (List Char)).getD [] = digits.drop 1 := by
      rw [List.drop_eq_nil_of_le hshort]
      rfl
    refine ⟨_, isLayout_scientific h hlead hnone (Option.some_ne_none _).symm, ?_⟩
    simp [Literal.chars, Literal.fractionChars, exponentChars_exponentPart]
  · rename_i hlong
    have hoccupied : some (digits.drop 1) ≠ some [] := fun hnil ↦
      hlong (List.drop_eq_nil_iff.1 (Option.some.inj hnil))
    refine ⟨_, isLayout_scientific h hlead rfl hoccupied, ?_⟩
    simp [Literal.chars, Literal.fractionChars, exponentChars_exponentPart]

/-! ## Numbers -/

/-- What a layout of the digits of the shortest decimal is read as. -/
theorem toBinary64_of_isLayout {x : Binary64} (tie : Tie) (hfinite : x.isFinite = true)
    (h : x.units ≠ 0) {literal : Literal}
    (hlayout : literal.IsLayout (Nat.toDigits 10 (x.shortest tie).coefficient)
      (x.shortest tie).exponent) : literal.decimal.toBinary64 x.isNegative = x := by
  obtain ⟨hcoefficient, hnear⟩ := Binary64.near_shortest tie h
  obtain ⟨shift, hdecimal⟩ := hlayout.decimal
  rw [Literal.natOfDigits_toDigits] at hdecimal
  rw [hdecimal]
  apply Binary64.Near.toBinary64_eq hfinite h
  · exact Nat.mul_ne_zero hcoefficient (Nat.pow_pos (by decide)).ne'
  · rw [Binary64.Near.decimal_shift, Int.sub_add_cancel]
    exact hnear

/-- The text of zero. -/
theorem isRegular_zero : Literal.IsRegular ⟨none, ['0'], some ['0'], none⟩ where
  sign := .inl rfl
  whole := isDigits_zero
  leading := .inl rfl
  fraction := by
    rintro _ ⟨⟩
    exact isDigits_zero
  exponent := nofun

/-- The text of a finite number without its sign is a literal for the number. -/
theorem exists_literal_magnitude (hmark : style.wholeMark = ['.', '0']) {x : Binary64}
    (hfinite : x.isFinite = true) :
    ∃ literal : Literal, literal.IsRegular ∧ literal.sign = none ∧ literal.isInteger = false ∧
      literal.chars = style.magnitudeText x ∧ literal.decimal.toBinary64 x.isNegative = x := by
  by_cases hzero : x.isZero = true
  · have hmagnitude := Binary64.ofSignedWord_magnitude x
    have hnone : x.word.toNat % 2 ^ 63 = 0 := beq_iff_eq.1 hzero
    rw [hnone] at hmagnitude
    refine ⟨_, isRegular_zero, rfl, rfl, ?_, hmagnitude⟩
    rw [magnitudeText, if_pos hzero, hmark]
    rfl
  · have hunits := Binary64.units_ne_zero (Bool.eq_false_of_not_eq_true hzero)
    have hdigits := Literal.isDigits_toDigits (x.shortest style.tie).coefficient
    have hleading := Literal.head?_toDigits (Binary64.near_shortest style.tie hunits).1
    have hlayout : ∃ literal : Literal, literal.IsLayout
        (Nat.toDigits 10 (x.shortest style.tie).coefficient) (x.shortest style.tie).exponent ∧
          literal.chars = style.magnitudeText x := by
      unfold magnitudeText
      rw [if_neg hzero]
      simp only
      split
      · exact exists_layout_positional hmark hdigits hleading rfl
      · split
        · exact exists_layout_positional hmark hdigits hleading rfl
        · exact exists_layout_scientific hdigits rfl
    obtain ⟨literal, hlayout, hchars⟩ := hlayout
    exact ⟨literal, hlayout.regular, hlayout.unsigned, hlayout.real, hchars,
      toBinary64_of_isLayout _ hfinite hunits hlayout⟩

/-- The text of a finite number is a literal that is read as the number. -/
theorem exists_literal (hmark : style.wholeMark = ['.', '0']) {x : Binary64}
    (hfinite : x.isFinite = true) :
    ∃ literal : Literal, literal.IsRegular ∧ literal.isInteger = false ∧
      literal.chars = style.text x ∧ literal.toBinary64 = x := by
  obtain ⟨literal, hregular, hunsigned, hreal, hchars, hvalue⟩ :=
    exists_literal_magnitude hmark hfinite
  have htext : style.text x =
      if x.isNegative then '-' :: style.magnitudeText x else style.magnitudeText x := by
    unfold text
    rw [Binary64.isNaN_of_isFinite hfinite, hfinite]
    rfl
  cases hsign : x.isNegative with
  | true =>
    rw [hsign] at hvalue
    refine ⟨{ literal with sign := some '-' }, { hregular with sign := .inr rfl }, hreal, ?_,
      hvalue⟩
    rw [htext, hsign, ← hchars, Literal.chars, Literal.chars, hunsigned]
    rfl
  | false =>
    rw [hsign] at hvalue
    refine ⟨literal, hregular, hreal, ?_, ?_⟩
    · rw [htext, hsign, hchars]
      rfl
    · rw [Literal.toBinary64, Literal.isNegative, hunsigned]
      exact hvalue

end NumberStyle

end CardFilter
