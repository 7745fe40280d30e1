import CardFilter.Text.Quoted
import Mathlib.Data.List.Basic
import Mathlib.Data.String.Basic

/-!
# Telling where texts end

A word ends where a character follows that no word holds.  A quoted text ends at the first quote
that is not escaped, so it may hold anything, and what follows it may be anything too.

So when two lines begin with words, or with quoted texts, the lines are equal only if they begin
with the same one and go on in the same way.
-/

namespace CardFilter.Text

/-! ## Words -/

/-- Whether a character is a letter, a digit, a hyphen, an underscore or one of some marks. -/
def isPlainChar (marks : List Char) (c : Char) : Bool :=
  c.isAlphanum || c == '-' || c == '_' || marks.contains c

def isWordChar (c : Char) : Bool := isPlainChar [':', '+'] c

structure IsWord (chars : List Char) : Prop where
  occupied : chars ≠ []
  only : ∀ c ∈ chars, isWordChar c = true

instance (chars : List Char) : Decidable (IsWord chars) :=
  decidable_of_iff (chars ≠ [] ∧ chars.all isWordChar = true)
    ⟨fun h ↦ ⟨h.1, List.all_eq_true.1 h.2⟩, fun h ↦ ⟨h.occupied, List.all_eq_true.2 h.only⟩⟩

/-- No word goes on. -/
def Ends (rest : List Char) : Prop := ∀ c, rest.head? = some c → isWordChar c = false

variable {word other rest behind : List Char}

theorem ends_nil : Ends [] := nofun

theorem ends_cons {c : Char} (h : isWordChar c = false) (rest : List Char) : Ends (c :: rest) := by
  rintro _ ⟨⟩
  exact h

theorem Ends.takeWhile_eq_nil (h : Ends rest) : rest.takeWhile isWordChar = [] := by
  cases rest with
  | nil => rfl
  | cons c others => rw [List.takeWhile_cons_of_neg (by simp [h c rfl])]

theorem IsWord.exists_cons (h : IsWord word) :
    ∃ c more, word = c :: more ∧ isWordChar c = true := by
  obtain ⟨c, more, rfl⟩ := List.exists_cons_of_ne_nil h.occupied
  exact ⟨c, more, rfl, h.only c List.mem_cons_self⟩

theorem IsWord.append_inj (hword : IsWord word) (hother : IsWord other) (hrest : Ends rest)
    (hbehind : Ends behind) (h : word ++ rest = other ++ behind) :
    word = other ∧ rest = behind := by
  have htaken := congrArg (List.takeWhile isWordChar) h
  rw [List.takeWhile_append_of_pos hword.only, List.takeWhile_append_of_pos hother.only,
    hrest.takeWhile_eq_nil, hbehind.takeWhile_eq_nil, List.append_nil, List.append_nil] at htaken
  exact ⟨htaken, List.append_cancel_left (htaken ▸ h)⟩

theorem IsWord.cons_ne_append {c : Char} (hc : isWordChar c = false) (hword : IsWord word) :
    c :: rest ≠ word ++ behind := by
  obtain ⟨first, more, rfl, hfirst⟩ := hword.exists_cons
  intro h
  rw [(List.cons.inj h).1, hfirst] at hc
  cases hc

/-- Two words with dots between them, and with a mark in front of the second one. -/
theorem IsWord.range_append_inj {lower upper lower' upper' : List Char} (hlower : IsWord lower)
    (hlower' : IsWord lower') (hupper : IsWord upper) (hupper' : IsWord upper') (hrest : Ends rest)
    (hbehind : Ends behind) (mark : List Char)
    (h : lower ++ '.' :: '.' :: (mark ++ (upper ++ rest)) =
      lower' ++ '.' :: '.' :: (mark ++ (upper' ++ behind))) :
    lower = lower' ∧ upper = upper' ∧ rest = behind := by
  obtain ⟨hlowers, hnext⟩ := hlower.append_inj hlower' (ends_cons (by decide) _)
    (ends_cons (by decide) _) h
  have huppers := List.append_cancel_left (List.cons.inj (List.cons.inj hnext).2).2
  exact ⟨hlowers, hupper.append_inj hupper' hrest hbehind huppers⟩

/-! ## Code points -/

theorem exists_of_mem_hexText {value : Nat} {c : Char} (h : c ∈ hexText value) :
    ∃ digit < 16, c = Nat.digitChar digit := by
  unfold hexText at h
  induction value using Nat.strongRecOn with
  | ind value ih =>
    rw [Nat.toDigits_eq_if (by decide)] at h
    split at h
    · rename_i hsmall
      exact ⟨value, hsmall, List.mem_singleton.1 h⟩
    · rcases List.mem_append.1 h with h | h
      · exact ih (value / 16) (by omega) h
      · exact ⟨value % 16, Nat.mod_lt _ (by decide), List.mem_singleton.1 h⟩

theorem isWord_hexText (value : Nat) : IsWord (hexText value) := by
  have hdigit : ∀ digit < 16, isWordChar (Nat.digitChar digit) = true := by decide
  refine ⟨Nat.toDigits_ne_nil, fun c hc ↦ ?_⟩
  obtain ⟨digit, hsmall, rfl⟩ := exists_of_mem_hexText hc
  exact hdigit digit hsmall

theorem hexText_injective : Function.Injective hexText := by
  have hdigit : ∀ digit < 16, ∀ other < 16,
      Nat.digitChar digit = Nat.digitChar other → digit = other := by decide
  have hlast (digits : List Char) (first last : Char) (hdigits : digits ≠ []) :
      [first] ≠ digits ++ [last] := by
    intro h
    have hlength := congrArg List.length h
    have hpos := List.length_pos_iff.2 hdigits
    simp only [List.length_append, List.length_singleton] at hlength
    omega
  intro value other h
  unfold hexText at h
  induction value using Nat.strongRecOn generalizing other with
  | ind value ih =>
    have hvalueDigits := @Nat.toDigits_eq_if 16 value (by decide)
    have hotherDigits := @Nat.toDigits_eq_if 16 other (by decide)
    rw [hvalueDigits, hotherDigits] at h
    split at h <;> split at h
    · rename_i hvalue hother
      exact hdigit value hvalue other hother (List.singleton_inj.1 h)
    · exact absurd h (hlast _ _ _ Nat.toDigits_ne_nil)
    · exact absurd h.symm (hlast _ _ _ Nat.toDigits_ne_nil)
    · obtain ⟨hdigits, hlasts⟩ := List.append_inj' h rfl
      have hquotient := ih (value / 16) (by omega) hdigits
      have hremainder := hdigit _ (Nat.mod_lt _ (by decide)) _ (Nat.mod_lt _ (by decide))
        (List.singleton_inj.1 hlasts)
      omega

/-! ## Quotes -/

/-- The characters that a letter stands for behind a backslash. -/
def letters : List (Char × Char) :=
  [('"', '"'), ('\\', '\\'), ('\n', 'n'), ('\r', 'r'), ('\t', 't'), ('\x00', '0')]

/-- The ways in which a character stands inside quotes. -/
inductive Quoting (c : Char) : List Char → Prop
  | itself : c ≠ '"' → c ≠ '\\' → Quoting c [c]
  | letter {letter : Char} : (c, letter) ∈ letters → Quoting c ['\\', letter]
  | code : Quoting c ('\\' :: 'u' :: '\x7b' :: (hexText c.toNat ++ ['\x7d']))

theorem quoting_quotedChar (c : Char) : Quoting c (quotedChar c) := by
  unfold quotedChar
  split
  iterate 6 · exact .letter (by decide)
  · rename_i hquote hbackslash _ _ _ _
    split
    · exact .itself hquote hbackslash
    · exact .code

namespace Quoting

variable {c d : Char}

/-- Quotes do not end here. -/
theorem quote_ne (h : Quoting c word) : '"' :: rest ≠ word ++ behind := by
  cases h with
  | itself hquote => exact fun heq ↦ hquote (List.cons.inj heq).1.symm
  | letter | code => simp

theorem append_inj (hword : Quoting c word) (hother : Quoting d other)
    (h : word ++ rest = other ++ behind) : c = d ∧ rest = behind := by
  have hletters : ∀ entry ∈ letters, entry.2 ≠ 'u' ∧
      ∀ other ∈ letters, entry.2 = other.2 → entry.1 = other.1 := by decide
  cases hword with
  | itself _ hc =>
    cases hother with
    | itself => exact List.cons.inj h
    | letter | code => exact absurd (List.cons.inj h).1 hc
  | letter hletter =>
    obtain ⟨hplain, hunique⟩ := hletters _ hletter
    cases hother with
    | itself _ hd => exact absurd (List.cons.inj h).1.symm hd
    | letter hother =>
      obtain ⟨hsame, hrest⟩ := List.cons.inj (List.cons.inj h).2
      exact ⟨hunique _ hother hsame, hrest⟩
    | code => exact absurd (List.cons.inj (List.cons.inj h).2).1 hplain
  | code =>
    cases hother with
    | itself _ hd => exact absurd (List.cons.inj h).1.symm hd
    | letter hletter =>
      exact absurd (List.cons.inj (List.cons.inj h).2).1.symm (hletters _ hletter).1
    | code =>
      simp only [List.cons_append, List.append_assoc, List.cons.injEq, true_and] at h
      obtain ⟨hhex, hrest⟩ := (isWord_hexText c.toNat).append_inj (isWord_hexText d.toNat)
        (ends_cons (by decide) _) (ends_cons (by decide) _) h
      exact ⟨Char.toNat_inj.1 (hexText_injective hhex), (List.cons.inj hrest).2⟩

end Quoting

theorem quotedChars_append_inj {chars others : List Char}
    (h : chars.flatMap quotedChar ++ '"' :: rest = others.flatMap quotedChar ++ '"' :: behind) :
    chars = others ∧ rest = behind := by
  have hends (c : Char) (more rest behind : List Char) :
      '"' :: rest ≠ (c :: more).flatMap quotedChar ++ behind := by
    rw [List.flatMap_cons, List.append_assoc]
    exact (quoting_quotedChar c).quote_ne
  induction chars generalizing others with
  | nil =>
    cases others with
    | nil => exact ⟨rfl, (List.cons.inj h).2⟩
    | cons d others => exact absurd h (hends d others rest _)
  | cons c chars ih =>
    cases others with
    | nil => exact absurd h.symm (hends c chars behind _)
    | cons d others =>
      rw [List.flatMap_cons, List.flatMap_cons, List.append_assoc, List.append_assoc] at h
      obtain ⟨rfl, hmore⟩ := (quoting_quotedChar c).append_inj (quoting_quotedChar d) h
      obtain ⟨rfl, hrest⟩ := ih hmore
      exact ⟨rfl, hrest⟩

theorem quoted_append_inj {text other : String}
    (h : quoted text ++ rest = quoted other ++ behind) : text = other ∧ rest = behind := by
  simp only [quoted, List.cons_append, List.append_assoc, List.cons.injEq, true_and] at h
  obtain ⟨htext, hrest⟩ := quotedChars_append_inj h
  exact ⟨String.toList_inj.1 htext, hrest⟩

end CardFilter.Text
