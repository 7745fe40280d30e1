import CardFilter.Condition.Preset
import CardFilter.Proofs.Calendar.Spelling
import CardFilter.Proofs.Number.Literals

/-!
# Written dates

The text of a date is a date in full, with a sign when it is needed to tell where the year ends.  So
it is read as that same date, over the whole calendar, and a leaf that compares with it lacks
nothing.  No two dates have the same text.
-/

namespace CardFilter

theorem Text.trim_eq_self {text : List Char} (h : ∀ c ∈ text, isWhiteSpace c = false) :
    trim text = text := by
  have hdrop {chars : List Char} (h : ∀ c ∈ chars, isWhiteSpace c = false) :
      chars.dropWhile isWhiteSpace = chars := by
    cases chars with
    | nil => rfl
    | cons c rest => rw [List.dropWhile_cons_of_neg (by simp [h c List.mem_cons_self])]
  have hreversed := hdrop fun c hc ↦ h c (List.mem_reverse.1 hc)
  rw [trim, trimStart, hdrop h, trimEnd, hreversed, List.reverse_reverse]

namespace Date

/-! ## Filled digits -/

theorem natOfDigits_padded (width value : Nat) :
    Literal.natOfDigits (padded width value) = value := by
  rw [padded, Literal.natOfDigits_replicate_append, Literal.natOfDigits_toDigits]

theorem isDigit_of_mem_padded {width value : Nat} {c : Char} (h : c ∈ padded width value) :
    Literal.isDigit c = true := by
  rcases List.mem_append.1 h with h | h
  · rw [(List.mem_replicate.1 h).2]
    decide
  · exact Literal.isDigit_of_mem_toDigits h

theorem length_padded (width value : Nat) :
    (padded width value).length = max width (Nat.toDigits 10 value).length := by
  rw [padded, List.length_append, List.length_replicate]
  omega

theorem length_padded_of_lt {width value : Nat} (hwidth : 0 < width) (h : value < 10 ^ width) :
    (padded width value).length = width := by
  rw [length_padded]
  exact max_eq_left ((Nat.length_toDigits_le_iff (by decide) hwidth).2 h)

/-! ## The parts of a date -/

def sign (date : Date) : Option Char :=
  if date.year < 0 then some '-' else if 9999 < date.year then some '+' else none

def spelling (date : Date) : Calendar.Spelling :=
  ⟨date.sign, padded 4 date.year.natAbs, padded 2 date.month, padded 2 date.day, []⟩

variable (date : Date)

theorem chars_spelling : date.spelling.chars = date.chars := by
  have hyear : date.sign.toList ++ padded 4 date.year.natAbs = yearText date.year := by
    unfold sign yearText
    split
    · rfl
    · split <;> rfl
  rw [chars, ← hyear]
  simp [Calendar.Spelling.chars, Calendar.Spelling.dateChars, spelling]

theorem month_lt : date.month < 100 := by
  have hnamed := date.named
  simp only [Calendar.isDay, Bool.and_eq_true, decide_eq_true_eq] at hnamed
  omega

theorem day_lt : date.day < 100 := by
  have hnamed := date.named
  have hmonth : Calendar.daysInMonth date.year date.month ≤ 31 := by
    unfold Calendar.daysInMonth
    split
    · split <;> decide
    · split <;> decide
  simp only [Calendar.isDay, Bool.and_eq_true, decide_eq_true_eq] at hnamed
  omega

theorem isPair_padded {value : Nat} (h : value < 100) : Calendar.IsPair (padded 2 value) :=
  ⟨length_padded_of_lt Nat.two_pos h, fun _ ↦ isDigit_of_mem_padded⟩

theorem isFull_spelling : date.spelling.IsFull := by
  refine ⟨?_, isPair_padded date.month_lt, isPair_padded date.day_lt⟩
  rw [spelling, length_padded]
  exact le_max_left ..

theorem looseNumeral_padded {value : Nat} (h : value < 100) :
    Calendar.LooseNumeral (padded 2 value) value := by
  have hnumeral := (isPair_padded h).numeral
  rw [natOfDigits_padded] at hnumeral
  exact hnumeral.loose

theorem sign_eq_none_iff : date.sign = none ↔ 0 ≤ date.year ∧ date.year ≤ 9999 := by
  unfold sign
  split
  · simp; omega
  · split <;> simp <;> omega

theorem sign_eq_minus_iff : date.sign = some '-' ↔ date.year < 0 := by
  unfold sign
  split
  · simpa
  · split <;> simp <;> omega

/-- The sign and the digits give the year back. -/
theorem yearNumeral_spelling :
    Calendar.YearNumeral date.spelling.sign date.spelling.year date.year := by
  refine ⟨?_, fun _ ↦ isDigit_of_mem_padded, ?_, ?_⟩
  · change date.sign ∈ _
    unfold sign
    split
    · simp
    · split <;> simp
  · exact List.length_pos_iff.1 (Nat.lt_of_lt_of_le (by decide) date.isFull_spelling.year)
  · change date.year = if date.sign = some '-' then -(Literal.natOfDigits (padded 4 _) : Int)
      else Literal.natOfDigits (padded 4 _)
    rw [natOfDigits_padded]
    split
    · rename_i hsign
      have hnegative := date.sign_eq_minus_iff.1 hsign
      omega
    · rename_i hsign
      have hpositive := mt date.sign_eq_minus_iff.2 hsign
      omega

theorem means_spelling : date.spelling.Means date := by
  refine ⟨date.yearNumeral_spelling, fun hsign ↦ ?_, looseNumeral_padded date.month_lt,
    looseNumeral_padded date.day_lt⟩
  have hyear := date.sign_eq_none_iff.1 hsign
  have hbound : date.year.natAbs < 10 ^ 4 := by omega
  exact (length_padded_of_lt (by decide) hbound).le

theorem names_spelling : date.spelling.Names date := ⟨date.means_spelling, .inl rfl⟩

/-! ## Reading back -/

theorem isWhiteSpace_of_mem_chars {c : Char} (h : c ∈ date.chars) :
    Text.isWhiteSpace c = false := by
  have hdigits {width value : Nat} (hc : c ∈ padded width value) : Text.isWhiteSpace c = false :=
    Calendar.isWhiteSpace_of_isDigit (isDigit_of_mem_padded hc)
  have hmark (hc : c = '-') : Text.isWhiteSpace c = false := hc ▸ by decide
  rw [← chars_spelling] at h
  simp only [Calendar.Spelling.chars, Calendar.Spelling.dateChars, spelling, List.append_nil,
    List.mem_append, List.mem_cons, Option.mem_toList] at h
  rcases h with hsign | hyear | hc | hmonth | hc | hday
  · unfold sign at hsign
    split at hsign
    · exact Option.some.inj hsign ▸ by decide
    · split at hsign
      · exact Option.some.inj hsign ▸ by decide
      · cases hsign
  · exact hdigits hyear
  · exact hmark hc
  · exact hdigits hmonth
  · exact hmark hc
  · exact hdigits hday

theorem trim_text : Text.trim date.text.toList = date.chars := by
  rw [text, String.toList_ofList]
  exact Text.trim_eq_self fun _ ↦ date.isWhiteSpace_of_mem_chars

theorem whole_looseDate?_text :
    Calendar.whole? Calendar.looseDate? date.text.toList = some date := by
  rw [text, String.toList_ofList, Calendar.whole_looseDate?_iff, ← chars_spelling,
    Calendar.Spelling.chars, spelling, List.append_nil]
  exact date.means_spelling.looseDate

theorem text_injective {date other : Date} (h : date.text = other.text) : date = other := by
  have hread := date.whole_looseDate?_text
  rw [h, other.whole_looseDate?_text] at hread
  exact (Option.some.inj hread).symm

theorem isFilled_ofDate : (DateValue.ofDate date).isFilled = true := by
  refine Calendar.namesDate_iff.2 ⟨date.spelling, date, ?_, date.names_spelling⟩
  rw [trim_text, chars_spelling]

end Date

/-- Whether a test compares with the value, which may be one end of a range with the other end
filled. -/
def Operand.ComparesDate (operand : Operand) (value : DateValue) : Prop :=
  operand = .date (some value) ∨ ∃ other : DateValue, other.isFilled = true ∧
    (operand = .dateRange (some value) (some other) ∨
      operand = .dateRange (some other) (some value))

theorem Operand.isFilled_of_comparesDate {operand : Operand} {value : DateValue}
    (h : operand.ComparesDate value) (hvalue : value.isFilled = true) :
    operand.isFilled = true := by
  rcases h with rfl | ⟨other, hother, rfl | rfl⟩
  · exact hvalue
  · exact Bool.and_eq_true_iff.2 ⟨hvalue, hother⟩
  · exact Bool.and_eq_true_iff.2 ⟨hother, hvalue⟩

/-- The text of every date is in full and names that date and no other.  A leaf that compares with
it is complete as soon as its subject is filled. -/
theorem Date.text_names_date (date : Date) :
    Calendar.namesDate date.text = true ∧
      Calendar.whole? Calendar.looseDate? date.text.toList = some date ∧
      Calendar.Documented date.text.toList ∧
      (∀ other : Date, other.text = date.text → other = date) ∧
      ∀ (leaf : Leaf) (test : Test leaf.kind), leaf.subject.isFilled = true →
        leaf.test = some test → test.operand.ComparesDate (.ofDate date) →
        leaf.isComplete = true := by
  refine ⟨date.isFilled_ofDate, date.whole_looseDate?_text, ?_, fun _ ↦ text_injective, ?_⟩
  · rw [text, String.toList_ofList, ← chars_spelling, date.names_spelling.documented_iff]
    exact date.isFull_spelling
  · intro leaf test hsubject htest hcompares
    have hfilled := Operand.isFilled_of_comparesDate hcompares date.isFilled_ofDate
    rw [Leaf.isComplete, hsubject, htest]
    exact hfilled

/-- A leap day far ahead, and a day before the year zero at the other end of the range. -/
theorem Date.text_names_date_range :
    let first : Date := ⟨-44, 3, 15, by decide⟩
    let last : Date := ⟨12000, 2, 29, by decide⟩
    let test : Test .date := ⟨⟨"BETWEEN", .between, .dateRange⟩,
      .dateRange (some (.ofDate first)) (some (.ofDate last)), by decide, rfl⟩
    let leaf : Leaf := .onFieldDate "d" test
    first.text = "-0044-03-15" ∧ last.text = "+12000-02-29" ∧
      leaf.subject.isFilled = true ∧ leaf.test = some test ∧
      test.operand.ComparesDate (.ofDate last) ∧
      Calendar.whole? Calendar.looseDate? last.text.toList = some last ∧
      leaf.isComplete = true := by
  intro first last test leaf
  obtain ⟨hfirst, -⟩ := text_names_date first
  obtain ⟨-, hread, -, -, hcomplete⟩ := text_names_date last
  have hcompares : test.operand.ComparesDate (.ofDate last) :=
    .inr ⟨.ofDate first, hfirst, .inr rfl⟩
  exact ⟨by decide, by decide, by decide, rfl, hcompares, hread,
    hcomplete leaf test (by decide) rfl hcompares⟩

end CardFilter
