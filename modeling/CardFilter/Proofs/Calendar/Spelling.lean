import CardFilter.Condition.Completeness
import CardFilter.Proofs.Calendar.Forms

/-!
# Dates in full and dates cut short

A date in full has a year of at least four digits, a month of two and a day of two, and nothing in
between but the marks.  What names a date need not be like that.  Shorter numbers are taken as well,
and so is white space before them, except in an absolute moment.

Of the parts that a text is put together from there is only one choice, so for a text that names a
date it can be told from its parts whether it has the documented form: it does exactly when the date
in it is in full.
-/

namespace CardFilter.Calendar

/-! ## Parts -/

/-- The parts of a text that names a date; the marks between them are left out. -/
structure Spelling where
  sign : Option Char
  year : List Char
  month : List Char
  day : List Char
  tail : List Char

def IsPair (text : List Char) : Prop :=
  text.length = 2 ∧ ∀ c ∈ text, Literal.isDigit c = true

/-- A time of day, with a distance from universal time or not. -/
def IsTimeOfDay (text : List Char) : Prop :=
  TimeForm LooseNumeral text ∨ ∃ time offset, text = time ++ offset ∧
    TimeForm (Numeral 2 2) time ∧ IsOffset offset

namespace Spelling

def dateChars (spelling : Spelling) : List Char :=
  spelling.sign.toList ++ (spelling.year ++ '-' :: (spelling.month ++ '-' :: spelling.day))

def chars (spelling : Spelling) : List Char := spelling.dateChars ++ spelling.tail

/-- The parts of the date as they are read. -/
structure Means (spelling : Spelling) (date : Date) : Prop where
  year : YearNumeral spelling.sign spelling.year date.year
  short : spelling.sign = none → spelling.year.length ≤ 4
  month : LooseNumeral spelling.month date.month
  day : LooseNumeral spelling.day date.day

/-- The year has at least four digits, month and day have two. -/
structure IsFull (spelling : Spelling) : Prop where
  year : 4 ≤ spelling.year.length
  month : IsPair spelling.month
  day : IsPair spelling.day

/-- A date alone, with a time of day, or as an absolute moment, which is always in full. -/
structure Names (spelling : Spelling) (date : Date) : Prop where
  means : spelling.Means date
  tail : spelling.tail = [] ∨
    (∃ time, spelling.tail = 'T' :: time ∧ TimeForm LooseNumeral time) ∨
      ((spelling.sign = none ∧ spelling.IsFull) ∧ ∃ mark time offset,
        spelling.tail = mark :: (time ++ offset) ∧ mark ∈ ['T', 't', ' '] ∧
          TimeForm (Numeral 2 2) time ∧ IsOffset offset)

end Spelling

/-- The documented form: a date in full, and behind it nothing or a mark and a time of day. -/
def Documented (text : List Char) : Prop :=
  ∃ (spelling : Spelling) (date : Date), spelling.chars = text ∧ spelling.IsFull ∧
    YearNumeral spelling.sign spelling.year date.year ∧
    Literal.natOfDigits spelling.month = date.month ∧
    Literal.natOfDigits spelling.day = date.day ∧
    (spelling.tail = [] ∨ ∃ mark time, spelling.tail = mark :: time ∧ mark ∈ ['T', 't', ' '] ∧
      IsTimeOfDay time)

/-! ## Spelled dates are read -/

theorem IsPair.numeral {text : List Char} (h : IsPair text) :
    Numeral 2 2 text (Literal.natOfDigits text) := ⟨h.2, h.1.ge, h.1.le, rfl⟩

theorem Numeral.isPair {text : List Char} {value : Nat} (h : Numeral 2 2 text value) :
    IsPair text := ⟨le_antisymm h.most h.least, h.digit⟩

theorem Numeral.loose {text : List Char} {value : Nat} (h : Numeral 2 2 text value) :
    LooseNumeral text value :=
  ⟨[], text, rfl, nofun, h.digit, Nat.le_of_succ_le h.least, h.most, h.value⟩

/-- A gap is no part of a run of digits. -/
theorem gap_eq_nil {gap digits rest : List Char} (hgap : IsGap gap)
    (hhead : ∀ c, (gap ++ digits ++ rest).head? = some c → Literal.isDigit c = true) :
    gap = [] := by
  cases gap with
  | nil => rfl
  | cons c others =>
    have hspace := isWhiteSpace_of_isDigit (hhead c rfl)
    rw [hgap c List.mem_cons_self] at hspace
    cases hspace

theorem digits_unique {digits others rest behind : List Char}
    (hdigits : ∀ c ∈ digits, Literal.isDigit c = true)
    (hothers : ∀ c ∈ others, Literal.isDigit c = true) (hrest : NoDigit rest)
    (hbehind : NoDigit behind) (h : digits ++ rest = others ++ behind) :
    digits = others ∧ rest = behind := by
  have htaken := congrArg (List.takeWhile Literal.isDigit) h
  rw [List.takeWhile_append_of_pos hdigits, List.takeWhile_append_of_pos hothers,
    hrest.takeWhile_eq_nil, hbehind.takeWhile_eq_nil, List.append_nil, List.append_nil] at htaken
  exact ⟨htaken, List.append_cancel_left (htaken ▸ h)⟩

/-- Where two digits can be read there is no other number. -/
theorem LooseNumeral.eq_of_append {taken digits rest behind : List Char} {value : Nat}
    (h : LooseNumeral taken value) (hdigits : IsPair digits) (hrest : NoDigit rest)
    (hbehind : NoDigit behind) (heq : taken ++ rest = digits ++ behind) :
    taken = digits ∧ value = Literal.natOfDigits digits ∧ rest = behind := by
  obtain ⟨gap, run, rfl, hgap, hrun⟩ := h
  have hne : digits ≠ [] := List.length_pos_iff.1 (hdigits.1 ▸ Nat.two_pos)
  have hhead := head?_digits_append hne hdigits.2 behind
  rw [← heq] at hhead
  obtain rfl := gap_eq_nil hgap hhead
  obtain ⟨rfl, rfl⟩ := digits_unique hrun.digit hdigits.2 hrest hbehind heq
  exact ⟨rfl, hrun.value.symm, rfl⟩

theorem LooseNumeral.eq_natOfDigits {text : List Char} {value : Nat} (h : LooseNumeral text value)
    (hpair : IsPair text) : value = Literal.natOfDigits text :=
  (h.eq_of_append hpair noDigit_nil noDigit_nil rfl).2.1

theorem takeSign_append {sign : Option Char} {digits : List Char} {year : Int}
    (h : YearNumeral sign digits year) (rest : List Char) :
    Literal.takeSign (sign.toList ++ (digits ++ rest)) = (sign, digits ++ rest) := by
  have hknown := h.known
  simp only [List.mem_cons, List.not_mem_nil, or_false] at hknown
  rcases hknown with rfl | rfl | rfl
  · have hhead := head?_digits_append h.occupied h.digit rest
    rw [Option.toList_none, List.nil_append]
    unfold Literal.takeSign
    split
    · rename_i heq
      exact absurd (hhead '+' (by rw [heq]; rfl)) (by decide)
    · rename_i heq
      exact absurd (hhead '-' (by rw [heq]; rfl)) (by decide)
    · rfl
  · rfl
  · rfl

namespace Spelling

variable {spelling other : Spelling} {date : Date}

theorem Means.looseDate (h : spelling.Means date) : LooseDate spelling.dateChars date :=
  ⟨spelling.sign.toList ++ spelling.year, spelling.month, spelling.day,
    (List.append_assoc ..).symm, ⟨[], spelling.sign, spelling.year, rfl, nofun, h.year, h.short⟩,
    h.month, h.day⟩

theorem Means.exactDate (h : spelling.Means date) (hfull : spelling.IsFull)
    (hsign : spelling.sign = none) : ExactDate spelling.dateChars date := by
  have hnumber {text : List Char} {value : Nat} (hloose : LooseNumeral text value)
      (hpair : IsPair text) : Numeral 2 2 text value := by
    rw [hloose.eq_natOfDigits hpair]
    exact hpair.numeral
  have hvalue := h.year.value
  rw [hsign, if_neg nofun] at hvalue
  refine ⟨spelling.year, spelling.month, spelling.day, by rw [dateChars, hsign]; rfl,
    ⟨_, ⟨h.year.digit, hfull.year, h.short hsign, rfl⟩, hvalue⟩, hnumber h.month hfull.month,
    hnumber h.day hfull.day⟩

/-- A text that does not begin with white space has no gap before its year. -/
theorem exists_of_looseDate {taken tail : List Char} (h : LooseDate taken date)
    (hhead : ∀ c, (taken ++ tail).head? = some c → Text.isWhiteSpace c = false) :
    ∃ spelling : Spelling, spelling.chars = taken ++ tail ∧ spelling.tail = tail ∧
      spelling.Means date := by
  obtain ⟨_, month, day, rfl, ⟨gap, sign, digits, rfl, hgap, hyear, hshort⟩, hmonth, hday⟩ := h
  obtain rfl : gap = [] := by
    cases gap with
    | nil => rfl
    | cons c others =>
      have hspace := hhead c rfl
      rw [hgap c List.mem_cons_self] at hspace
      cases hspace
  exact ⟨⟨sign, digits, month, day, tail⟩, by simp [chars, dateChars], rfl, hyear, hshort, hmonth,
    hday⟩

theorem exists_of_exactDate {taken : List Char} (h : ExactDate taken date) (tail : List Char) :
    ∃ spelling : Spelling, spelling.chars = taken ++ tail ∧ spelling.tail = tail ∧
      spelling.sign = none ∧ spelling.IsFull ∧ spelling.Means date := by
  obtain ⟨year, month, day, rfl, ⟨value, hyear, hvalue⟩, hmonth, hday⟩ := h
  have hne : year ≠ [] := List.length_pos_iff.1 (Nat.le_trans (by decide) hyear.least)
  refine ⟨⟨none, year, month, day, tail⟩, rfl, rfl, rfl, ⟨hyear.least, hmonth.isPair, hday.isPair⟩,
    ⟨by simp, hyear.digit, hne, ?_⟩, fun _ ↦ hyear.most, hmonth.loose, hday.loose⟩
  rw [if_neg nofun, hvalue, hyear.value]

theorem Names.noDigit_tail (h : spelling.Names date) : NoDigit spelling.tail := by
  rcases h.tail with htail | ⟨time, htail, -⟩ | ⟨-, mark, time, offset, htail, hmark, -⟩
  · rw [htail]
    exact noDigit_nil
  · rw [htail]
    exact noDigit_cons (by decide) time
  · rw [htail]
    exact noDigit_mark hmark (time ++ offset)

/-- A text with a date in full cannot be put together from other parts. -/
theorem Means.isFull_of_chars_eq {year : Int} (h : spelling.Means date)
    (htail : NoDigit spelling.tail) (hyear : YearNumeral other.sign other.year year)
    (hfull : other.IsFull) (hother : NoDigit other.tail) (heq : spelling.chars = other.chars) :
    spelling.IsFull := by
  have hmark (behind : List Char) : NoDigit ('-' :: behind) := noDigit_cons (by decide) behind
  simp only [chars, dateChars, List.append_assoc, List.cons_append] at heq
  -- From the left, every part ends where its run of digits does, on either side.
  have hsigns := congrArg Literal.takeSign heq
  rw [takeSign_append h.year, takeSign_append hyear] at hsigns
  obtain ⟨-, hyears⟩ := Prod.mk.inj hsigns
  obtain ⟨hsame, hmonths⟩ :=
    digits_unique h.year.digit hyear.digit (hmark _) (hmark _) hyears
  obtain ⟨hmonth, -, hdays⟩ :=
    h.month.eq_of_append hfull.month (hmark _) (hmark _) (List.cons.inj hmonths).2
  obtain ⟨hday, -, -⟩ := h.day.eq_of_append hfull.day htail hother (List.cons.inj hdays).2
  exact ⟨hsame ▸ hfull.year, hmonth ▸ hfull.month, hday ▸ hfull.day⟩

/-- A text that names a date has the documented form exactly when its date is in full. -/
theorem Names.documented_iff (h : spelling.Names date) :
    Documented spelling.chars ↔ spelling.IsFull := by
  constructor
  · rintro ⟨other, _, heq, hfull, hyear, -, -, htail⟩
    refine h.means.isFull_of_chars_eq h.noDigit_tail hyear hfull ?_ heq.symm
    rcases htail with htail | ⟨mark, time, htail, hmark, -⟩
    · rw [htail]
      exact noDigit_nil
    · rw [htail]
      exact noDigit_mark hmark time
  · intro hfull
    refine ⟨spelling, date, rfl, hfull, h.means.year, (h.means.month.eq_natOfDigits hfull.month).symm,
      (h.means.day.eq_natOfDigits hfull.day).symm, ?_⟩
    rcases h.tail with htail | ⟨time, htail, htime⟩ |
      ⟨-, mark, time, offset, htail, hmark, htime, hoffset⟩
    · exact .inl htail
    · exact .inr ⟨'T', time, htail, by simp, .inl htime⟩
    · exact .inr ⟨mark, time ++ offset, htail, hmark, .inr ⟨time, offset, rfl, htime, hoffset⟩⟩

end Spelling

/-! ## Texts that name a date -/

theorem head?_trim {text : List Char} {c : Char} (h : (Text.trim text).head? = some c) :
    Text.isWhiteSpace c = false := by
  have hstart := List.head?_dropWhile_not Text.isWhiteSpace text
  have hpart : Text.trim text <+: Text.trimStart text := by
    rw [Text.trim, Text.trimEnd, ← List.reverse_suffix, List.reverse_reverse]
    exact List.dropWhile_suffix _
  obtain ⟨rest, hrest⟩ := hpart
  have hhead : (Text.trimStart text).head? = some c := by
    rw [← hrest, List.head?_append, h, Option.some_or]
  rw [Text.trimStart] at hhead
  rw [hhead] at hstart
  exact hstart

theorem namesDate_iff {text : String} :
    namesDate text = true ↔ ∃ (spelling : Spelling) (date : Date),
      spelling.chars = Text.trim text.toList ∧ spelling.Names date := by
  have hhead {taken tail : List Char} (h : Text.trim text.toList = taken ++ tail) :
      ∀ c, (taken ++ tail).head? = some c → Text.isWhiteSpace c = false := fun c hc ↦
    head?_trim (h ▸ hc)
  rw [namesDate, date?, Option.isSome_or, Option.isSome_or, Bool.or_eq_true, Bool.or_eq_true,
    Option.isSome_iff_exists, Option.isSome_iff_exists, Option.isSome_iff_exists]
  constructor
  · rintro ((⟨date, h⟩ | ⟨date, h⟩) | ⟨date, h⟩)
    · have hform := whole_looseDate?_iff.1 h
      obtain ⟨spelling, hchars, htail, hmeans⟩ :=
        Spelling.exists_of_looseDate hform (hhead (List.append_nil _).symm)
      exact ⟨spelling, date, hchars.trans (List.append_nil _), hmeans, .inl htail⟩
    · obtain ⟨taken, mark, time, offset, htext, hform, hrest⟩ := whole_absoluteMoment?_iff.1 h
      obtain ⟨spelling, hchars, htail, hsign, hfull, hmeans⟩ :=
        Spelling.exists_of_exactDate hform (mark :: (time ++ offset))
      exact ⟨spelling, date, hchars.trans htext.symm, hmeans,
        .inr (.inr ⟨⟨hsign, hfull⟩, mark, time, offset, htail, hrest⟩)⟩
    · obtain ⟨taken, time, htext, hform, htime⟩ := whole_localMoment?_iff.1 h
      obtain ⟨spelling, hchars, htail, hmeans⟩ :=
        Spelling.exists_of_looseDate hform (hhead htext)
      exact ⟨spelling, date, hchars.trans htext.symm, hmeans, .inr (.inl ⟨time, htail, htime⟩)⟩
  · rintro ⟨spelling, date, hchars, hmeans, htail | ⟨time, htail, htime⟩ |
      ⟨⟨hsign, hfull⟩, mark, time, offset, htail, hrest⟩⟩
    · left; left
      refine ⟨date, whole_looseDate?_iff.2 ?_⟩
      rw [← hchars, Spelling.chars, htail, List.append_nil]
      exact hmeans.looseDate
    · right
      refine ⟨date, whole_localMoment?_iff.2 ⟨spelling.dateChars, time, ?_, hmeans.looseDate, htime⟩⟩
      rw [← hchars, Spelling.chars, htail]
    · left; right
      refine ⟨date, whole_absoluteMoment?_iff.2 ⟨spelling.dateChars, mark, time, offset, ?_,
        hmeans.exactDate hfull hsign, hrest⟩⟩
      rw [← hchars, Spelling.chars, htail]

/-- What names a date is put together from a year, a month and a day, each of them read loosely, and
perhaps a time of day, or else it is an absolute moment.  Such a text has the documented form if and
only if its date is in full. -/
theorem specific_documented_iff (text : String) :
    ((DateValue.specific text).isFilled = true ↔ ∃ (spelling : Spelling) (date : Date),
      spelling.chars = Text.trim text.toList ∧ spelling.Names date) ∧
    ∀ (spelling : Spelling) (date : Date), spelling.chars = Text.trim text.toList →
      spelling.Names date → (Documented (Text.trim text.toList) ↔ spelling.IsFull) := by
  refine ⟨namesDate_iff, fun spelling date hchars hnames ↦ ?_⟩
  rw [← hchars]
  exact hnames.documented_iff

/-- A leap day in full, with a time of day of which the numbers are cut short. -/
theorem specific_documented_iff_leapDay :
    let text := " 2024-02-29T9:05:7.25 "
    let spelling : Spelling := ⟨none, ['2', '0', '2', '4'], ['0', '2'], ['2', '9'],
      ['T', '9', ':', '0', '5', ':', '7', '.', '2', '5']⟩
    let date : Date := ⟨2024, 2, 29, by decide⟩
    spelling.chars = Text.trim text.toList ∧ spelling.Names date ∧
      (DateValue.specific text).isFilled = true ∧ Documented (Text.trim text.toList) := by
  intro text spelling date
  have hchars : spelling.chars = Text.trim text.toList := by decide
  have hfull : spelling.IsFull := ⟨by decide, ⟨rfl, List.all_eq_true.1 rfl⟩, rfl, List.all_eq_true.1 rfl⟩
  have hmonth : Numeral 2 2 spelling.month 2 := hfull.month.numeral
  have hday : Numeral 2 2 spelling.day 29 := hfull.day.numeral
  have hhour : Numeral 1 2 ['9'] 9 := ⟨List.all_eq_true.1 rfl, by decide, by decide, rfl⟩
  have hminute : Numeral 1 2 ['0', '5'] 5 := ⟨List.all_eq_true.1 rfl, by decide, by decide, rfl⟩
  have hsecond : Numeral 1 2 ['7'] 7 := ⟨List.all_eq_true.1 rfl, by decide, by decide, rfl⟩
  have htime : TimeForm LooseNumeral ['9', ':', '0', '5', ':', '7', '.', '2', '5'] :=
    ⟨['9'], ['0', '5'], ['7'], ['.', '2', '5'], 9, 5, 7, rfl, ⟨[], _, rfl, nofun, hhour⟩,
      ⟨[], _, rfl, nofun, hminute⟩, ⟨[], _, rfl, nofun, hsecond⟩, rfl,
      .inr ⟨['2', '5'], rfl, nofun, List.all_eq_true.1 rfl⟩⟩
  have hnames : spelling.Names date :=
    ⟨⟨⟨by decide, List.all_eq_true.1 rfl, nofun, rfl⟩, by decide, hmonth.loose, hday.loose⟩,
      .inr (.inl ⟨_, rfl, htime⟩)⟩
  obtain ⟨hfilled, hdocumented⟩ := specific_documented_iff text
  exact ⟨hchars, hnames, hfilled.2 ⟨spelling, date, hchars, hnames⟩,
    (hdocumented spelling date hchars hnames).2 hfull⟩

/-- Month and day of one digit are taken, and that is not the documented form. -/
theorem specific_short_not_documented :
    (DateValue.specific "2024-1-5").isFilled = true ∧
      ¬ Documented (Text.trim "2024-1-5".toList) := by
  let spelling : Spelling := ⟨none, ['2', '0', '2', '4'], ['1'], ['5'], []⟩
  have hchars : spelling.chars = Text.trim "2024-1-5".toList := by decide
  have hmonth : Numeral 1 2 ['1'] 1 := ⟨List.all_eq_true.1 rfl, by decide, by decide, rfl⟩
  have hday : Numeral 1 2 ['5'] 5 := ⟨List.all_eq_true.1 rfl, by decide, by decide, rfl⟩
  have hnames : spelling.Names ⟨2024, 1, 5, by decide⟩ :=
    ⟨⟨⟨by decide, List.all_eq_true.1 rfl, nofun, rfl⟩, by decide, ⟨[], _, rfl, nofun, hmonth⟩,
      ⟨[], _, rfl, nofun, hday⟩⟩, .inl rfl⟩
  refine ⟨namesDate_iff.2 ⟨spelling, _, hchars, hnames⟩, fun hdocumented ↦ ?_⟩
  rw [← hchars, hnames.documented_iff] at hdocumented
  exact absurd hdocumented.month.1 (by decide)

end CardFilter.Calendar
