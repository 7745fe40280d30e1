import CardFilter.Calendar.Moment
import Mathlib.Data.List.Infix
import Mathlib.Data.List.TakeWhile

/-!
# How dates are spelled

The three grammars of dates are given here by the texts themselves and not by the way in which they
are read: which characters stand where, and what they say.  A reader takes a prefix of a text, and
it takes the texts of a form when everything it takes has the form, and when it takes a text of the
form from everything that begins with it, unless a digit follows that could belong to it.
-/

namespace CardFilter.Calendar

/-! ## Readers -/

/-- The text does not go on with a digit. -/
def NoDigit (rest : List Char) : Prop := ∀ c, rest.head? = some c → Literal.isDigit c = false

/-- The reader takes the texts of the form and gives their values. -/
structure Reads {α : Type} (read : List Char → Option (α × List Char))
    (Form : List Char → α → Prop) : Prop where
  sound {text rest : List Char} {value : α} : read text = some (value, rest) →
    ∃ taken, text = taken ++ rest ∧ Form taken value
  complete {taken rest : List Char} {value : α} : Form taken value → NoDigit rest →
    read (taken ++ rest) = some (value, rest)

theorem noDigit_nil : NoDigit [] := nofun

theorem noDigit_cons {c : Char} (h : Literal.isDigit c = false) (rest : List Char) :
    NoDigit (c :: rest) := by
  rintro _ ⟨⟩
  exact h

theorem NoDigit.take {rest : List Char} (h : NoDigit rest) (count : Nat) :
    NoDigit (rest.take count) := by
  intro c hc
  rw [List.head?_take] at hc
  split at hc
  · cases hc
  · exact h c hc

theorem NoDigit.takeWhile_eq_nil {rest : List Char} (h : NoDigit rest) :
    rest.takeWhile Literal.isDigit = [] := by
  cases rest with
  | nil => rfl
  | cons c others => rw [List.takeWhile_cons_of_neg (by simp [h c rfl])]

theorem mark?_eq_some_iff {mark : Char} {text rest : List Char} :
    mark? mark text = some rest ↔ text = mark :: rest := by
  cases text with
  | nil => simp [mark?]
  | cons c others =>
    rw [mark?]
    split
    · rename_i hc
      rw [hc, Option.some_inj, List.cons.injEq, and_iff_right rfl]
    · rename_i hc
      simp [hc]

/-! ## Numbers -/

/-- A run of digits, its length within bounds. -/
structure Numeral (least most : Nat) (digits : List Char) (value : Nat) : Prop where
  digit : ∀ c ∈ digits, Literal.isDigit c = true
  least : least ≤ digits.length
  most : digits.length ≤ most
  value : Literal.natOfDigits digits = value

theorem reads_digits (least most : Nat) : Reads (digits? least most) (Numeral least most) := by
  constructor
  · intro text rest value h
    unfold digits? at h
    dsimp only at h
    split at h
    · cases h
    · rename_i hleast
      obtain ⟨hvalue, hrest⟩ := Prod.mk.inj (Option.some.inj h)
      set run := (text.take most).takeWhile Literal.isDigit with hrun
      have htake : run <+: text.take most := List.takeWhile_prefix _
      refine ⟨run, ?_, fun c ↦ List.mem_takeWhile_imp, not_lt.1 hleast, ?_, hvalue⟩
      · rw [← hrest]
        exact (List.prefix_iff_eq_append.1 (htake.trans (List.take_prefix ..))).symm
      · exact htake.length_le.trans (List.length_take_le ..)
  · rintro digits rest value ⟨hdigit, hleast, hmost, rfl⟩ hrest
    have htake : (digits ++ rest).take most = digits ++ rest.take (most - digits.length) := by
      rw [List.take_append, List.take_of_length_le hmost]
    have hstop := (hrest.take (most - digits.length)).takeWhile_eq_nil
    unfold digits?
    simp only [htake, List.takeWhile_append_of_pos hdigit, hstop, List.append_nil,
      if_neg (not_lt.2 hleast), List.drop_left]

/-- White space in front of something. -/
def IsGap (gap : List Char) : Prop := ∀ c ∈ gap, Text.isWhiteSpace c = true

theorem isWhiteSpace_of_isDigit {c : Char} (h : Literal.isDigit c = true) :
    Text.isWhiteSpace c = false := by
  have hcode : 48 ≤ c.toNat ∧ c.toNat ≤ 57 := by
    simpa [Literal.isDigit, Char.le_def, UInt32.le_iff_toNat_le] using h
  simp [Text.isWhiteSpace, Text.inRanges, Text.whiteSpaceRanges]
  omega

/-- A number of one or two digits that may have a gap before it. -/
def LooseNumeral (taken : List Char) (value : Nat) : Prop :=
  ∃ gap digits, taken = gap ++ digits ∧ IsGap gap ∧ Numeral 1 2 digits value

/-- A text is a gap and what does not begin with white space. -/
theorem exists_gap (text : List Char) : ∃ gap, IsGap gap ∧ text = gap ++ Text.trimStart text :=
  ⟨text.takeWhile Text.isWhiteSpace, fun _ ↦ List.mem_takeWhile_imp,
    List.takeWhile_append_dropWhile.symm⟩

theorem trimStart_append {gap rest : List Char} (hgap : IsGap gap)
    (hrest : ∀ c, rest.head? = some c → Text.isWhiteSpace c = false) :
    Text.trimStart (gap ++ rest) = rest := by
  rw [Text.trimStart, List.dropWhile_append_of_pos hgap]
  cases rest with
  | nil => rfl
  | cons c others => rw [List.dropWhile_cons_of_neg (by simp [hrest c rfl])]

theorem head?_digits_append {digits : List Char} (hdigits : digits ≠ [])
    (hdigit : ∀ c ∈ digits, Literal.isDigit c = true) (rest : List Char) :
    ∀ c, (digits ++ rest).head? = some c → Literal.isDigit c = true := by
  intro c hc
  rw [List.head?_append_of_ne_nil _ hdigits] at hc
  exact hdigit c (List.mem_of_head? hc)

theorem reads_looseNumber : Reads looseNumber? LooseNumeral := by
  constructor
  · intro text rest value h
    obtain ⟨gap, hgap, htext⟩ := exists_gap text
    obtain ⟨digits, hdigits, hnumeral⟩ := (reads_digits 1 2).sound h
    refine ⟨gap ++ digits, ?_, gap, digits, rfl, hgap, hnumeral⟩
    rw [List.append_assoc, ← hdigits]
    exact htext
  · rintro _ rest value ⟨gap, digits, rfl, hgap, hnumeral⟩ hrest
    have hhead := head?_digits_append (List.length_pos_iff.1 hnumeral.least) hnumeral.digit rest
    rw [looseNumber?, List.append_assoc, trimStart_append hgap fun c hc ↦
      isWhiteSpace_of_isDigit (hhead c hc)]
    exact (reads_digits 1 2).complete hnumeral hrest

/-! ## Years -/

/-- A sign or none, and digits. -/
structure YearNumeral (sign : Option Char) (digits : List Char) (year : Int) : Prop where
  known : sign ∈ [none, some '-', some '+']
  digit : ∀ c ∈ digits, Literal.isDigit c = true
  occupied : digits ≠ []
  value : year =
    if sign = some '-' then -(Literal.natOfDigits digits : Int) else Literal.natOfDigits digits

/-- A year behind a gap, without a sign if it has more than four digits. -/
def LooseYear (taken : List Char) (year : Int) : Prop :=
  ∃ gap sign digits, taken = gap ++ (Option.toList sign ++ digits) ∧ IsGap gap ∧
    YearNumeral sign digits year ∧ (sign = none → digits.length ≤ 4)

theorem reads_looseYear : Reads looseYear? LooseYear := by
  constructor
  · intro text rest year h
    obtain ⟨gap, hgap, htext⟩ := exists_gap text
    have hyear (sign : Option Char) {most : Nat} {behind : List Char} {value : Nat}
        (hknown : sign ∈ [none, some '-', some '+'])
        (htrimmed : Text.trimStart text = sign.toList ++ behind)
        (hdigits : digits? 1 most behind = some (value, rest)) (hmost : sign = none → most ≤ 4)
        (hvalue : year = if sign = some '-' then -(value : Int) else value) :
        ∃ taken, text = taken ++ rest ∧ LooseYear taken year := by
      obtain ⟨digits, rfl, hdigit, hleast, hlength, rfl⟩ := (reads_digits 1 most).sound hdigits
      refine ⟨gap ++ (sign.toList ++ digits), ?_, gap, sign, digits, rfl, hgap,
        ⟨hknown, hdigit, List.length_pos_iff.1 hleast, hvalue⟩, fun hnone ↦
          hlength.trans (hmost hnone)⟩
      rw [htext, htrimmed, List.append_assoc, List.append_assoc]
    unfold looseYear? at h
    split at h
    · rename_i behind htrimmed
      obtain ⟨⟨value, _⟩, hdigits, hpair⟩ := Option.map_eq_some_iff.1 h
      obtain ⟨rfl, rfl⟩ := Prod.mk.inj hpair
      exact hyear (some '-') (by simp) htrimmed hdigits nofun rfl
    · rename_i behind htrimmed
      obtain ⟨⟨value, _⟩, hdigits, hpair⟩ := Option.map_eq_some_iff.1 h
      obtain ⟨rfl, rfl⟩ := Prod.mk.inj hpair
      exact hyear (some '+') (by simp) htrimmed hdigits nofun rfl
    · obtain ⟨⟨value, _⟩, hdigits, hpair⟩ := Option.map_eq_some_iff.1 h
      obtain ⟨rfl, rfl⟩ := Prod.mk.inj hpair
      exact hyear none (by simp) rfl hdigits (fun _ ↦ le_rfl) rfl
  · rintro _ rest year ⟨gap, sign, digits, rfl, hgap, ⟨hknown, hdigit, hoccupied, rfl⟩, hshort⟩ hrest
    have hleast : 1 ≤ digits.length := List.length_pos_iff.2 hoccupied
    have hhead := head?_digits_append hoccupied hdigit rest
    have hnumeral : Numeral 1 (digits ++ rest).length digits (Literal.natOfDigits digits) :=
      ⟨hdigit, hleast, by simp, rfl⟩
    rw [looseYear?, List.append_assoc, List.append_assoc]
    simp only [List.mem_cons, List.not_mem_nil, or_false] at hknown
    rcases hknown with rfl | rfl | rfl
    · rw [Option.toList_none, List.nil_append, trimStart_append hgap fun c hc ↦
        isWhiteSpace_of_isDigit (hhead c hc)]
      split
      · rename_i heq
        exact absurd (hhead '-' (by rw [heq]; rfl)) (by decide)
      · rename_i heq
        exact absurd (hhead '+' (by rw [heq]; rfl)) (by decide)
      · rw [(reads_digits 1 4).complete ⟨hdigit, hleast, hshort rfl, rfl⟩ hrest]
        rfl
    · rw [Option.toList_some, List.singleton_append, trimStart_append hgap (by rintro _ ⟨⟩; decide)]
      simp only [(reads_digits 1 _).complete hnumeral hrest]
      rfl
    · rw [Option.toList_some, List.singleton_append, trimStart_append hgap (by rintro _ ⟨⟩; decide)]
      simp only [(reads_digits 1 _).complete hnumeral hrest]
      rfl

/-- A year of four digits. -/
def ExactYear (digits : List Char) (year : Int) : Prop :=
  ∃ value : Nat, Numeral 4 4 digits value ∧ year = value

/-! ## Days -/

/-- The reader of year, month and day with marks between them. -/
def dateBy (readYear : List Char → Option (Int × List Char))
    (readNumber : List Char → Option (Nat × List Char)) (text : List Char) :
    Option (Date × List Char) := do
  let (year, rest) ← readYear text
  let (month, rest) ← readNumber (← mark? '-' rest)
  let (day, rest) ← readNumber (← mark? '-' rest)
  (Date.of? year month day).map (·, rest)

theorem looseDate?_eq : looseDate? = dateBy looseYear? looseNumber? := rfl

def exactYear? (text : List Char) : Option (Int × List Char) :=
  (digits? 4 4 text).map fun (year, rest) ↦ ((year : Int), rest)

theorem exactDate?_eq : exactDate? = dateBy exactYear? (digits? 2 2) := by
  funext text
  rw [exactDate?, dateBy, exactYear?]
  cases digits? 4 4 text <;> rfl

theorem reads_exactYear : Reads exactYear? ExactYear := by
  constructor
  · intro text rest year h
    obtain ⟨⟨value, _⟩, hdigits, hpair⟩ := Option.map_eq_some_iff.1 h
    obtain ⟨rfl, rfl⟩ := Prod.mk.inj hpair
    obtain ⟨digits, rfl, hnumeral⟩ := (reads_digits 4 4).sound hdigits
    exact ⟨digits, rfl, value, hnumeral, rfl⟩
  · rintro digits rest _ ⟨value, hnumeral, rfl⟩ hrest
    rw [exactYear?, (reads_digits 4 4).complete hnumeral hrest]
    rfl

theorem of?_eq_some_iff {year : Int} {month day : Nat} {date : Date} :
    Date.of? year month day = some date ↔
      date.year = year ∧ date.month = month ∧ date.day = day := by
  rw [Date.of?]
  constructor
  · intro h
    split at h
    · obtain rfl := Option.some.inj h
      exact ⟨rfl, rfl, rfl⟩
    · cases h
  · rintro ⟨rfl, rfl, rfl⟩
    rw [dif_pos date.named]

/-- Year, month and day of a date, each in its form. -/
def DateForm (Year : List Char → Int → Prop) (Number : List Char → Nat → Prop)
    (taken : List Char) (date : Date) : Prop :=
  ∃ year month day, taken = year ++ '-' :: (month ++ '-' :: day) ∧ Year year date.year ∧
    Number month date.month ∧ Number day date.day

section Forms

variable {readYear : List Char → Option (Int × List Char)}
  {readNumber : List Char → Option (Nat × List Char)} {Year : List Char → Int → Prop}
  {Number : List Char → Nat → Prop}

theorem reads_dateBy (hyear : Reads readYear Year) (hnumber : Reads readNumber Number) :
    Reads (dateBy readYear readNumber) (DateForm Year Number) := by
  constructor
  · intro text rest date h
    obtain ⟨⟨year, behindYear⟩, hreadYear, h⟩ := Option.bind_eq_some_iff.1 h
    obtain ⟨fromMonth, hfirst, h⟩ := Option.bind_eq_some_iff.1 h
    obtain ⟨⟨month, behindMonth⟩, hreadMonth, h⟩ := Option.bind_eq_some_iff.1 h
    obtain ⟨fromDay, hsecond, h⟩ := Option.bind_eq_some_iff.1 h
    obtain ⟨⟨day, behindDay⟩, hreadDay, h⟩ := Option.bind_eq_some_iff.1 h
    obtain ⟨other, hother, hpair⟩ := Option.map_eq_some_iff.1 h
    obtain ⟨rfl, rfl⟩ := Prod.mk.inj hpair
    obtain ⟨rfl, rfl, rfl⟩ := of?_eq_some_iff.1 hother
    obtain ⟨yearText, rfl, hyearText⟩ := hyear.sound hreadYear
    obtain ⟨monthText, rfl, hmonthText⟩ := hnumber.sound hreadMonth
    obtain ⟨dayText, rfl, hdayText⟩ := hnumber.sound hreadDay
    refine ⟨yearText ++ '-' :: (monthText ++ '-' :: dayText), ?_, yearText, monthText, dayText, rfl,
      hyearText, hmonthText, hdayText⟩
    rw [mark?_eq_some_iff.1 hfirst, mark?_eq_some_iff.1 hsecond]
    simp only [List.append_assoc, List.cons_append]
  · rintro _ rest date ⟨year, month, day, rfl, hyearText, hmonthText, hdayText⟩ hrest
    have hmark (behind : List Char) : NoDigit ('-' :: behind) := noDigit_cons (by decide) behind
    rw [dateBy]
    simp only [List.append_assoc, List.cons_append, hyear.complete hyearText (hmark _),
      Option.bind_eq_bind, Option.bind_some, mark?_eq_some_iff.2 rfl,
      hnumber.complete hmonthText (hmark _), hnumber.complete hdayText hrest,
      of?_eq_some_iff.2 ⟨rfl, rfl, rfl⟩, Option.map_some]

/-! ## Times of day -/

/-- Nothing, or a point and digits. -/
def IsFraction (text : List Char) : Prop :=
  text = [] ∨ ∃ digits, text = '.' :: digits ∧ digits ≠ [] ∧ ∀ c ∈ digits, Literal.isDigit c = true

/-- Hour, minute, second and perhaps a fraction of it. -/
def TimeForm (Number : List Char → Nat → Prop) (taken : List Char) : Prop :=
  ∃ hourText minuteText secondText fraction hour minute second,
    taken = hourText ++ ':' :: (minuteText ++ ':' :: (secondText ++ fraction)) ∧
      Number hourText hour ∧ Number minuteText minute ∧ Number secondText second ∧
        isTime hour minute second = true ∧ IsFraction fraction

theorem exists_of_fraction? {text rest : List Char} (h : fraction? text = some rest) :
    ∃ taken, text = taken ++ rest ∧ IsFraction taken := by
  unfold fraction? at h
  split at h
  · obtain ⟨⟨value, _⟩, hdigits, rfl⟩ := Option.map_eq_some_iff.1 h
    obtain ⟨digits, rfl, hnumeral⟩ := (reads_digits 1 _).sound hdigits
    exact ⟨'.' :: digits, rfl,
      .inr ⟨digits, rfl, List.length_pos_iff.1 hnumeral.least, hnumeral.digit⟩⟩
  · obtain rfl := Option.some.inj h
    exact ⟨[], rfl, .inl rfl⟩

theorem fraction?_append {taken rest : List Char} (h : IsFraction taken) (hrest : NoDigit rest)
    (hpoint : rest.head? ≠ some '.') : fraction? (taken ++ rest) = some rest := by
  rcases h with rfl | ⟨digits, rfl, hoccupied, hdigit⟩
  · rw [List.nil_append]
    unfold fraction?
    split
    · exact absurd rfl hpoint
    · rfl
  · have hnumeral : Numeral 1 (digits ++ rest).length digits (Literal.natOfDigits digits) :=
      ⟨hdigit, List.length_pos_iff.2 hoccupied, by simp, rfl⟩
    rw [List.cons_append, fraction?, (reads_digits 1 _).complete hnumeral hrest]
    rfl

theorem exists_of_time? (hnumber : Reads readNumber Number) {text rest : List Char}
    (h : time? readNumber text = some rest) : ∃ taken, text = taken ++ rest ∧ TimeForm Number taken := by
  obtain ⟨⟨hour, behindHour⟩, hreadHour, h⟩ := Option.bind_eq_some_iff.1 h
  obtain ⟨fromMinute, hfirst, h⟩ := Option.bind_eq_some_iff.1 h
  obtain ⟨⟨minute, behindMinute⟩, hreadMinute, h⟩ := Option.bind_eq_some_iff.1 h
  obtain ⟨fromSecond, hsecond, h⟩ := Option.bind_eq_some_iff.1 h
  obtain ⟨⟨second, behindSecond⟩, hreadSecond, h⟩ := Option.bind_eq_some_iff.1 h
  dsimp only at h
  split at h
  · rename_i htime
    obtain ⟨fraction, rfl, hfraction⟩ := exists_of_fraction? h
    obtain ⟨hourText, rfl, hhourText⟩ := hnumber.sound hreadHour
    obtain ⟨minuteText, rfl, hminuteText⟩ := hnumber.sound hreadMinute
    obtain ⟨secondText, hsecondRest, hsecondText⟩ := hnumber.sound hreadSecond
    refine ⟨hourText ++ ':' :: (minuteText ++ ':' :: (secondText ++ fraction)), ?_, hourText,
      minuteText, secondText, fraction, hour, minute, second, rfl, hhourText, hminuteText,
      hsecondText, htime, hfraction⟩
    rw [mark?_eq_some_iff.1 hfirst, mark?_eq_some_iff.1 hsecond, hsecondRest]
    simp only [List.append_assoc, List.cons_append]
  · cases h

theorem time?_append (hnumber : Reads readNumber Number) {taken rest : List Char}
    (h : TimeForm Number taken) (hrest : NoDigit rest) (hpoint : rest.head? ≠ some '.') :
    time? readNumber (taken ++ rest) = some rest := by
  obtain ⟨hourText, minuteText, secondText, fraction, hour, minute, second, rfl, hhourText,
    hminuteText, hsecondText, htime, hfraction⟩ := h
  have hmark (behind : List Char) : NoDigit (':' :: behind) := noDigit_cons (by decide) behind
  have hbehind : NoDigit (fraction ++ rest) := by
    rcases hfraction with rfl | ⟨digits, rfl, -⟩
    · exact hrest
    · exact noDigit_cons (by decide) (digits ++ rest)
  rw [time?]
  simp only [List.append_assoc, List.cons_append, hnumber.complete hhourText (hmark _),
    Option.bind_eq_bind, Option.bind_some, mark?_eq_some_iff.2 rfl,
    hnumber.complete hminuteText (hmark _), hnumber.complete hsecondText hbehind, htime, if_true,
    fraction?_append hfraction hrest hpoint]

end Forms

/-! ## Distances from universal time -/

/-- `Z`, or a sign and less than a day. -/
def IsOffset (text : List Char) : Prop :=
  text = ['Z'] ∨ text = ['z'] ∨ ∃ sign hourText minuteText hour minute,
    text = sign :: (hourText ++ ':' :: minuteText) ∧ sign ∈ ['+', '-', '\u2212'] ∧
      Numeral 2 2 hourText hour ∧ Numeral 2 2 minuteText minute ∧ hour ≤ 23 ∧ minute ≤ 59

theorem sign?_eq_some_iff {text rest : List Char} :
    sign? text = some rest ↔ ∃ sign ∈ ['+', '-', '\u2212'], text = sign :: rest := by
  constructor
  · intro h
    unfold sign? at h
    split at h
    · exact ⟨'+', by simp, by rw [Option.some.inj h]⟩
    · exact ⟨'-', by simp, by rw [Option.some.inj h]⟩
    · exact ⟨'\u2212', by simp, by rw [Option.some.inj h]⟩
    · cases h
  · rintro ⟨sign, hsign, rfl⟩
    simp only [List.mem_cons, List.not_mem_nil, or_false] at hsign
    rcases hsign with rfl | rfl | rfl <;> rfl

theorem isOffset_of_offset? {text : List Char} (h : offset? text = some []) : IsOffset text := by
  unfold offset? at h
  split at h
  · rw [Option.some.inj h]
    exact .inl rfl
  · rw [Option.some.inj h]
    exact .inr (.inl rfl)
  · obtain ⟨fromHour, hsign, h⟩ := Option.bind_eq_some_iff.1 h
    obtain ⟨⟨hour, behindHour⟩, hreadHour, h⟩ := Option.bind_eq_some_iff.1 h
    obtain ⟨fromMinute, hmark, h⟩ := Option.bind_eq_some_iff.1 h
    obtain ⟨⟨minute, behindMinute⟩, hreadMinute, h⟩ := Option.bind_eq_some_iff.1 h
    dsimp only at h
    split at h
    · rename_i hbounds
      obtain rfl := Option.some.inj h
      obtain ⟨sign, hmem, rfl⟩ := sign?_eq_some_iff.1 hsign
      obtain ⟨hourText, rfl, hhourText⟩ := (reads_digits 2 2).sound hreadHour
      obtain ⟨minuteText, hminuteRest, hminuteText⟩ := (reads_digits 2 2).sound hreadMinute
      refine .inr (.inr ⟨sign, hourText, minuteText, hour, minute, ?_, hmem, hhourText, hminuteText,
        hbounds⟩)
      rw [mark?_eq_some_iff.1 hmark, hminuteRest, List.append_nil]
    · cases h

theorem offset?_of_isOffset {text : List Char} (h : IsOffset text) : offset? text = some [] := by
  rcases h with rfl | rfl | ⟨sign, hourText, minuteText, hour, minute, rfl, hsign, hhourText,
    hminuteText, hbounds⟩
  · rfl
  · rfl
  · have hhour := (reads_digits 2 2).complete hhourText
      (noDigit_cons (c := ':') (by decide) minuteText)
    have hminute := (reads_digits 2 2).complete hminuteText noDigit_nil
    rw [List.append_nil] at hminute
    unfold offset?
    split
    · rename_i heq
      rw [(List.cons.inj heq).1] at hsign
      exact absurd hsign (by decide)
    · rename_i heq
      rw [(List.cons.inj heq).1] at hsign
      exact absurd hsign (by decide)
    · simp only [sign?_eq_some_iff.2 ⟨sign, hsign, rfl⟩, Option.bind_eq_bind, Option.bind_some,
        hhour, mark?_eq_some_iff.2 rfl, hminute, if_pos hbounds]

theorem IsOffset.stops {text : List Char} (h : IsOffset text) :
    NoDigit text ∧ text.head? ≠ some '.' := by
  rcases h with rfl | rfl | ⟨sign, hourText, minuteText, -, -, rfl, hsign, -⟩
  · exact ⟨noDigit_cons (by decide) [], by decide⟩
  · exact ⟨noDigit_cons (by decide) [], by decide⟩
  · have hstops : ∀ sign ∈ ['+', '-', '\u2212'], Literal.isDigit sign = false ∧ sign ≠ '.' := by
      simp [Literal.isDigit]
    obtain ⟨hdigit, hpoint⟩ := hstops sign hsign
    exact ⟨noDigit_cons hdigit _, fun h ↦ hpoint (Option.some.inj h)⟩

/-! ## Whole texts -/

theorem between?_eq_some_iff {text rest : List Char} :
    between? text = some rest ↔ ∃ mark ∈ ['T', 't', ' '], text = mark :: rest := by
  constructor
  · intro h
    unfold between? at h
    split at h
    · exact ⟨'T', by simp, by rw [Option.some.inj h]⟩
    · exact ⟨'t', by simp, by rw [Option.some.inj h]⟩
    · exact ⟨' ', by simp, by rw [Option.some.inj h]⟩
    · cases h
  · rintro ⟨mark, hmark, rfl⟩
    simp only [List.mem_cons, List.not_mem_nil, or_false] at hmark
    rcases hmark with rfl | rfl | rfl <;> rfl

theorem noDigit_mark {mark : Char} (h : mark ∈ ['T', 't', ' ']) (rest : List Char) :
    NoDigit (mark :: rest) := by
  have hmarks : ∀ mark ∈ ['T', 't', ' '], Literal.isDigit mark = false := by simp [Literal.isDigit]
  exact noDigit_cons (hmarks mark h) rest

theorem whole?_eq_some_iff {read : List Char → Option (Date × List Char)} {text : List Char}
    {date : Date} : whole? read text = some date ↔ read text = some (date, []) := by
  rw [whole?]
  constructor
  · intro h
    split at h
    · rename_i hread
      rw [hread, Option.some.inj h]
    · cases h
  · intro h
    rw [h]

abbrev LooseDate := DateForm LooseYear LooseNumeral

abbrev ExactDate := DateForm ExactYear (Numeral 2 2)

theorem reads_looseDate : Reads looseDate? LooseDate :=
  looseDate?_eq ▸ reads_dateBy reads_looseYear reads_looseNumber

theorem reads_exactDate : Reads exactDate? ExactDate :=
  exactDate?_eq ▸ reads_dateBy reads_exactYear (reads_digits 2 2)

theorem whole_looseDate?_iff {text : List Char} {date : Date} :
    whole? looseDate? text = some date ↔ LooseDate text date := by
  rw [whole?_eq_some_iff]
  constructor
  · intro h
    obtain ⟨taken, htext, hform⟩ := reads_looseDate.sound h
    rwa [htext, List.append_nil]
  · intro h
    have hread := reads_looseDate.complete h noDigit_nil
    rwa [List.append_nil] at hread

theorem whole_localMoment?_iff {text : List Char} {date : Date} :
    whole? localMoment? text = some date ↔
      ∃ taken time, text = taken ++ 'T' :: time ∧ LooseDate taken date ∧
        TimeForm LooseNumeral time := by
  rw [whole?_eq_some_iff]
  constructor
  · intro h
    obtain ⟨⟨other, behindDate⟩, hdate, h⟩ := Option.bind_eq_some_iff.1 h
    obtain ⟨fromTime, hmark, h⟩ := Option.bind_eq_some_iff.1 h
    obtain ⟨rest, htime, hpair⟩ := Option.bind_eq_some_iff.1 h
    obtain ⟨rfl, rfl⟩ := Prod.mk.inj (Option.some.inj hpair)
    obtain ⟨taken, rfl, hform⟩ := reads_looseDate.sound hdate
    obtain ⟨time, hrest, htimeForm⟩ := exists_of_time? reads_looseNumber htime
    refine ⟨taken, time, ?_, hform, htimeForm⟩
    rw [mark?_eq_some_iff.1 hmark, hrest, List.append_nil]
  · rintro ⟨taken, time, rfl, hform, htimeForm⟩
    have hdate := reads_looseDate.complete hform (noDigit_cons (c := 'T') (by decide) time)
    have htime := time?_append reads_looseNumber htimeForm noDigit_nil (by simp)
    rw [List.append_nil] at htime
    rw [localMoment?]
    simp only [hdate, Option.bind_eq_bind,
      Option.bind_some, mark?_eq_some_iff.2 rfl, htime]

theorem whole_absoluteMoment?_iff {text : List Char} {date : Date} :
    whole? absoluteMoment? text = some date ↔
      ∃ taken mark time offset, text = taken ++ mark :: (time ++ offset) ∧ ExactDate taken date ∧
        mark ∈ ['T', 't', ' '] ∧ TimeForm (Numeral 2 2) time ∧ IsOffset offset := by
  rw [whole?_eq_some_iff]
  constructor
  · intro h
    obtain ⟨⟨other, behindDate⟩, hdate, h⟩ := Option.bind_eq_some_iff.1 h
    obtain ⟨fromTime, hbetween, h⟩ := Option.bind_eq_some_iff.1 h
    obtain ⟨fromOffset, htime, h⟩ := Option.bind_eq_some_iff.1 h
    obtain ⟨rest, hoffset, hpair⟩ := Option.bind_eq_some_iff.1 h
    obtain ⟨rfl, rfl⟩ := Prod.mk.inj (Option.some.inj hpair)
    obtain ⟨taken, rfl, hform⟩ := reads_exactDate.sound hdate
    obtain ⟨mark, hmark, rfl⟩ := between?_eq_some_iff.1 hbetween
    obtain ⟨time, rfl, htimeForm⟩ := exists_of_time? (reads_digits 2 2) htime
    exact ⟨taken, mark, time, fromOffset, rfl, hform, hmark, htimeForm, isOffset_of_offset? hoffset⟩
  · rintro ⟨taken, mark, time, offset, rfl, hform, hmark, htimeForm, hoffset⟩
    rw [absoluteMoment?]
    simp only [reads_exactDate.complete hform (noDigit_mark hmark _),
      Option.bind_eq_bind, Option.bind_some, between?_eq_some_iff.2 ⟨mark, hmark, rfl⟩,
      time?_append (reads_digits 2 2) htimeForm hoffset.stops.1 hoffset.stops.2,
      offset?_of_isOffset hoffset]

end CardFilter.Calendar
