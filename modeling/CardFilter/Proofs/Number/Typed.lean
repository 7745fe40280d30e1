import CardFilter.Number.Count

/-!
# Typed counts

A text is read as a count exactly if it consists of digits, at least one of them, with a plus sign
in front or not, and if their value fits into 64 bits; the count is that value.  Zeros in front do
not matter, and neither does how many there are.

The reader gives up at the first digit at which the value is too large.  It may do so because the
value never falls when digits follow.
-/

namespace CardFilter.Count

/-- Whether a text spells a count. -/
def Spells (text : String) (count : UInt64) : Prop :=
  ∃ digits, (text.toList = digits ∨ text.toList = '+' :: digits) ∧ digits ≠ [] ∧
    (∀ c ∈ digits, Literal.isDigit c = true) ∧ Literal.natOfDigits digits = count.toNat

/-- The value of digits behind a value. -/
def valueBehind (value : Nat) (digits : List Char) : Nat :=
  digits.foldl (fun value c ↦ 10 * value + Literal.digitValue c) value

theorem le_valueBehind (value : Nat) (digits : List Char) : value ≤ valueBehind value digits := by
  induction digits generalizing value with
  | nil => exact Nat.le_refl value
  | cons c rest ih =>
    have hrest := ih (10 * value + Literal.digitValue c)
    have hstep : valueBehind value (c :: rest) =
        valueBehind (10 * value + Literal.digitValue c) rest := rfl
    omega

theorem readDigits_eq_ok_iff {value : Nat} {digits : List Char} {count : UInt64}
    (hvalue : value < UInt64.size) :
    readDigits value digits = .ok count ↔
      (∀ c ∈ digits, Literal.isDigit c = true) ∧ valueBehind value digits = count.toNat := by
  induction digits generalizing value with
  | nil =>
    have hnat : (UInt64.ofNat value).toNat = value := Nat.mod_eq_of_lt hvalue
    simp [readDigits, valueBehind, ← UInt64.toNat_inj, hnat]
  | cons c rest ih =>
    have hstep : valueBehind value (c :: rest) =
        valueBehind (10 * value + Literal.digitValue c) rest := rfl
    rw [readDigits, List.forall_mem_cons, hstep]
    by_cases hdigit : Literal.isDigit c = true
    · rw [if_pos hdigit]
      by_cases hnext : 10 * value + Literal.digitValue c < UInt64.size
      · simp only [if_pos hnext, ih hnext, hdigit, true_and]
      · have hlarge := le_valueBehind (10 * value + Literal.digitValue c) rest
        have hfits : count.toNat < UInt64.size := count.toNat_lt
        simp only [if_neg hnext, reduceCtorEq, false_iff]
        omega
    · simp [hdigit]

theorem ofChars_eq_ok_iff {chars : List Char} {count : UInt64} :
    ofChars chars = .ok count ↔
      ∃ digits, (chars = digits ∨ chars = '+' :: digits) ∧ digits ≠ [] ∧
        (∀ c ∈ digits, Literal.isDigit c = true) ∧
          Literal.natOfDigits digits = count.toNat := by
  have hread (digits : List Char) : readDigits 0 digits = .ok count ↔
      (∀ c ∈ digits, Literal.isDigit c = true) ∧ Literal.natOfDigits digits = count.toNat :=
    readDigits_eq_ok_iff (by decide)
  have hplus {digits : List Char} (h : ∀ c ∈ '+' :: digits, Literal.isDigit c = true) : False :=
    absurd (h '+' List.mem_cons_self) (by decide)
  unfold ofChars
  split
  · simp
  · constructor
    · nofun
    · rintro ⟨_, rfl | h, hsome, hdigits, -⟩
      · exact (hplus hdigits).elim
      · exact absurd (List.cons.inj h).2.symm hsome
  · rename_i digits hsome
    rw [hread]
    constructor
    · intro h
      exact ⟨digits, .inr rfl, fun hnil ↦ hsome hnil, h⟩
    · rintro ⟨_, rfl | h, -, hdigits⟩
      · exact (hplus hdigits.1).elim
      · exact (List.cons.inj h).2 ▸ hdigits
  · rename_i hsome _ hunsigned
    rw [hread]
    constructor
    · intro h
      exact ⟨chars, .inl rfl, fun hnil ↦ hsome hnil, h⟩
    · rintro ⟨digits, rfl | h, -, hdigits⟩
      · exact hdigits
      · exact absurd h (hunsigned digits)

theorem ofText_eq_ok_iff {text : String} {count : UInt64} :
    ofText text = .ok count ↔ Spells text count := ofChars_eq_ok_iff

end CardFilter.Count
