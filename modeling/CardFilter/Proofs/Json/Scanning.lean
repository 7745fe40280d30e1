import CardFilter.Json.Relaxed
import CardFilter.Proofs.Json.Words

/-!
# Scanning written text

A text that is laid out as tokens, with blanks and ends of lines between them, is scanned as those
tokens by every lexicon that knows the escapes of the writer and ends words where it does, unless a
string holds a character that the lexicon refuses.

Relaxed text admits more than is ever written, but it also refuses something: two characters that
end a line, the separators of lines and of paragraphs, may not stand in a string, and the writer
does not escape them.

How the tokens of a value are laid out is no matter here, and neither is what they mean.
-/

namespace CardFilter

namespace Text

/-- The separators of lines and of paragraphs, which stand in written strings as they are. -/
def isSeparator (c : Char) : Bool := c == '\u2028' || c == '\u2029'

/-- Whether a text holds no separator. -/
def isUnbroken (text : String) : Bool := !text.toList.any isSeparator

theorem isSeparator_of_control {c : Char} (h : c < ' ') : isSeparator c = false := by
  have hline : c ≠ '\u2028' ∧ c ≠ '\u2029' := by
    constructor <;> rintro rfl <;> exact absurd h (by decide)
  simp [isSeparator, hline]

end Text

namespace Json

open Text (isSeparator)

/-! ## Steps of the scan -/

theorem scan_taken (lexicon : Lexicon) (position : Scan) (taken : List Token) (text : List Char) :
    lexicon.scan position taken text =
      (lexicon.scan position [] text).map (taken.reverse ++ ·) := by
  induction text generalizing position taken with
  | nil => cases h : Lexicon.finish position <;> simp [Lexicon.scan, h]
  | cons c rest ih =>
    unfold Lexicon.scan
    cases h : lexicon.step c position with
    | none => rfl
    | some result =>
      obtain ⟨next, tokens⟩ := result
      simp only
      rw [ih next (tokens.reverse ++ taken), ih next (tokens.reverse ++ [])]
      simp [Function.comp_def]

theorem scan_cons_quiet {lexicon : Lexicon} {c : Char} {position next : Scan}
    (h : lexicon.step c position = some (next, [])) (rest : List Char) :
    lexicon.scan position [] (c :: rest) = lexicon.scan next [] rest := by
  rw [Lexicon.scan, h]
  rfl

theorem scan_cons_token {lexicon : Lexicon} {c : Char} {position next : Scan} {token : Token}
    (h : lexicon.step c position = some (next, [token])) (rest : List Char) :
    lexicon.scan position [] (c :: rest) = (lexicon.scan next [] rest).map (token :: ·) := by
  rw [Lexicon.scan, h]
  exact scan_taken lexicon next [token] rest

theorem scan_cons_none {lexicon : Lexicon} {c : Char} {position : Scan}
    (h : lexicon.step c position = none) (rest : List Char) :
    lexicon.scan position [] (c :: rest) = none := by
  rw [Lexicon.scan, h]

/-! ## Pieces of written strings -/

/-- What a character of a written string is read back as; most controls come as their number. -/
def pieceOf (c : Char) : Piece :=
  if c < ' ' ∧ c ∉ ['\x08', '\x0c', '\n', '\r', '\t'] then .unit c.toNat else .char c

/-- The pieces that a written string is read back as. -/
def piecesOf (value : String) : List Piece := value.toList.map pieceOf

theorem pieceOf_of_control {c : Char} (h : c < ' ')
    (hshort : c ∉ ['\x08', '\x0c', '\n', '\r', '\t']) : pieceOf c = .unit c.toNat :=
  if_pos ⟨h, hshort⟩

theorem pieceOf_of_visible {c : Char} (h : ¬ c < ' ') : pieceOf c = .char c :=
  if_neg fun hcontrol ↦ h hcontrol.1

theorem joinPieces_map_pieceOf (chars : List Char) :
    joinPieces (chars.map pieceOf) = some chars := by
  induction chars with
  | nil => rfl
  | cons c rest ih =>
    by_cases h : c < ' ' ∧ c ∉ ['\x08', '\x0c', '\n', '\r', '\t']
    · have hnumber : c.toNat < 32 := h.1
      have hhigh : isHighSurrogate c.toNat = false := by
        simp [isHighSurrogate]
        omega
      have hlow : isLowSurrogate c.toNat = false := by
        simp [isLowSurrogate]
        omega
      rw [List.map_cons, pieceOf, if_pos h]
      unfold joinPieces
      simp [hhigh, hlow, ih]
    · rw [List.map_cons, pieceOf, if_neg h, joinPieces, ih]
      rfl

theorem textOfPieces_piecesOf (value : String) : textOfPieces (piecesOf value) = some value := by
  rw [textOfPieces, piecesOf, joinPieces_map_pieceOf, Option.map_some, String.ofList_toList]

/-- The letters behind a backslash that stand for one character, and the character. -/
def shortEscapes : List (Char × Char) := [
  ('"', '"'), ('\\', '\\'), ('b', '\x08'), ('f', '\x0c'), ('n', '\n'), ('r', '\r'), ('t', '\t')]

/-- A lexicon scans what is written as it was meant, but for characters that it refuses in
strings. -/
structure Lexicon.Admits (lexicon : Lexicon) (refused : Char → Bool) : Prop where
  space : lexicon.isSpace ' ' = true ∧ lexicon.isSpace '\n' = true
  mark : "[]\x7b\x7d:,".toList.any lexicon.isSpace = false
  word : wordChars.any lexicon.endsAtom = false
  quote : lexicon.start '"' = (.string '"' [] .plain, [])
  short : ∀ escape ∈ shortEscapes, lexicon.escape escape.1 = some (.char escape.2)
  numbered : lexicon.escape 'u' = some (.digits 4)
  plain : ∀ c, ¬ c < ' ' → c ≠ '"' → c ≠ '\\' → lexicon.isPlain c = !refused c
  escaped : ∀ c, c < ' ' ∨ c = '"' ∨ c = '\\' → refused c = false

section Admits

variable {lexicon : Lexicon} {refused : Char → Bool}

/-! ## Strings -/

theorem hexValue?_hexByte {value : Nat} (h : value < 32) :
    hexValue? (Nat.digitChar (value / 16)) = some (value / 16) ∧
      hexValue? (Nat.digitChar (value % 16)) = some (value % 16) := by
  revert value
  decide

theorem scan_backslash (taken : List Piece) (rest : List Char) :
    lexicon.scan (.string '"' taken .plain) [] ('\\' :: rest) =
      lexicon.scan (.string '"' taken .escaped) [] rest :=
  scan_cons_quiet rfl rest

theorem scan_digit (taken : List Piece) (value : Nat) {left digit : Nat} {c : Char}
    (h : hexValue? c = some digit) (hleft : 1 < left) (rest : List Char) :
    lexicon.scan (.string '"' taken (.digits left value)) [] (c :: rest) =
      lexicon.scan (.string '"' taken (.digits (left - 1) (16 * value + digit))) [] rest := by
  apply scan_cons_quiet
  simp [Lexicon.step, Lexicon.stringStep, h, Nat.not_le.2 hleft]

/-- A control without a letter of its own is written by its number, in four digits. -/
theorem scan_numbered (h : lexicon.Admits refused) (taken : List Piece) {c : Char}
    (hcontrol : c < ' ') (rest : List Char) :
    lexicon.scan (.string '"' taken .plain) []
        (['\\', 'u', '0', '0'] ++ hexByte c.toNat ++ rest) =
      lexicon.scan (.string '"' (.unit c.toNat :: taken) .plain) [] rest := by
  have hnumber : c.toNat < 32 := hcontrol
  obtain ⟨hhigh, hlow⟩ := hexValue?_hexByte hnumber
  have hmark : lexicon.step 'u' (.string '"' taken .escaped) =
      some (.string '"' taken (.digits 4 0), []) := by
    simp [Lexicon.step, Lexicon.stringStep, h.numbered]
  have hlast : lexicon.step (Nat.digitChar (c.toNat % 16))
      (.string '"' taken (.digits 1 (c.toNat / 16))) =
        some (.string '"' (.unit (16 * (c.toNat / 16) + c.toNat % 16) :: taken) .plain, []) := by
    simp only [Lexicon.step, Lexicon.stringStep, hlow]
    rfl
  calc
    _ = lexicon.scan (.string '"' taken (.digits 4 0)) [] ('0' :: '0' :: (hexByte c.toNat ++ rest)) :=
      (scan_backslash taken _).trans (scan_cons_quiet hmark _)
    _ = lexicon.scan (.string '"' taken (.digits 2 0)) [] (hexByte c.toNat ++ rest) := by
      have hzero : hexValue? '0' = some 0 := rfl
      have hfour : 1 < 4 := by decide
      have hthree : 1 < 3 := by decide
      exact (scan_digit taken 0 hzero hfour _).trans (scan_digit taken 0 hzero hthree _)
    _ = lexicon.scan (.string '"' taken (.digits 1 (c.toNat / 16))) []
        (Nat.digitChar (c.toNat % 16) :: rest) := by
      refine (scan_digit taken 0 hhigh Nat.one_lt_two _).trans ?_
      rw [Nat.mul_zero, Nat.zero_add]
      rfl
    _ = _ := by rw [scan_cons_quiet hlast, Nat.div_add_mod]

theorem scan_short (h : lexicon.Admits refused) (taken : List Piece) {letter value : Char}
    (hescape : (letter, value) ∈ shortEscapes) (rest : List Char) :
    lexicon.scan (.string '"' taken .plain) [] ('\\' :: letter :: rest) =
      lexicon.scan (.string '"' (.char value :: taken) .plain) [] rest := by
  rw [scan_backslash]
  apply scan_cons_quiet
  simp [Lexicon.step, Lexicon.stringStep, h.short _ hescape]

/-- A character that is written as it stands goes into the string, unless it is refused. -/
theorem scan_visible (h : lexicon.Admits refused) (taken : List Piece) {c : Char}
    (hvisible : ¬ c < ' ') (hquote : c ≠ '"') (hbackslash : c ≠ '\\') (rest : List Char) :
    lexicon.scan (.string '"' taken .plain) [] (c :: rest) =
      if refused c then none
      else lexicon.scan (.string '"' (.char c :: taken) .plain) [] rest := by
  have hplain := h.plain c hvisible hquote hbackslash
  have hstep : lexicon.step c (.string '"' taken .plain) =
      if refused c then none else some (.string '"' (.char c :: taken) .plain, []) := by
    cases hrefused : refused c <;>
      simp [Lexicon.step, Lexicon.stringStep, Lexicon.stringPlain, hquote, hbackslash, hplain,
        hrefused]
  by_cases hrefused : refused c = true
  · rw [if_pos hrefused] at hstep ⊢
    exact scan_cons_none hstep rest
  · rw [if_neg hrefused] at hstep ⊢
    exact scan_cons_quiet hstep rest

theorem scan_escapedChar (h : lexicon.Admits refused) (taken : List Piece) (c : Char)
    (rest : List Char) :
    lexicon.scan (.string '"' taken .plain) [] (escapedChar c ++ rest) =
      if refused c then none
      else lexicon.scan (.string '"' (pieceOf c :: taken) .plain) [] rest := by
  have hshort {letter value : Char} (hescape : (letter, value) ∈ shortEscapes)
      (hvalue : value < ' ' ∨ value = '"' ∨ value = '\\') (hpiece : pieceOf value = .char value) :
      lexicon.scan (.string '"' taken .plain) [] (['\\', letter] ++ rest) =
        if refused value then none
        else lexicon.scan (.string '"' (pieceOf value :: taken) .plain) [] rest := by
    rw [h.escaped value hvalue, hpiece]
    exact scan_short h taken hescape rest
  unfold escapedChar
  split
  · exact hshort (by decide) (by decide) rfl
  · exact hshort (by decide) (by decide) rfl
  · exact hshort (by decide) (by decide) rfl
  · exact hshort (by decide) (by decide) rfl
  · exact hshort (by decide) (by decide) rfl
  · exact hshort (by decide) (by decide) rfl
  · exact hshort (by decide) (by decide) rfl
  · rename_i hquote hbackslash hb hf hn hr ht
    split
    · rename_i hcontrol
      have hpiece : pieceOf c = .unit c.toNat := by
        apply pieceOf_of_control hcontrol
        simpa using ⟨hb, hf, hn, hr, ht⟩
      rw [h.escaped c (.inl hcontrol), hpiece]
      exact scan_numbered h taken hcontrol rest
    · rename_i hvisible
      rw [pieceOf_of_visible hvisible]
      exact scan_visible h taken hvisible hquote hbackslash rest

theorem scan_escaped (h : lexicon.Admits refused) (taken : List Piece) (chars rest : List Char) :
    lexicon.scan (.string '"' taken .plain) [] (chars.flatMap escapedChar ++ '"' :: rest) =
      if chars.any refused then none
      else (lexicon.scan .between [] rest).map
        (.string (taken.reverse ++ chars.map pieceOf) :: ·) := by
  induction chars generalizing taken with
  | nil =>
    have hquote : lexicon.step '"' (.string '"' taken .plain) =
        some (.between, [.string taken.reverse]) := rfl
    simpa using scan_cons_token hquote rest
  | cons c chars ih =>
    rw [List.flatMap_cons, List.append_assoc, scan_escapedChar h, List.any_cons]
    cases hrefused : refused c with
    | true => rfl
    | false =>
      simp only [Bool.false_eq_true, if_false, Bool.false_or, ih]
      simp

/-- Whether a token holds none of the characters. -/
def Token.avoids (refused : Char → Bool) : Token → Bool
  | .string pieces => pieces.all fun
    | .char c => !refused c
    | .unit _ => true
  | _ => true

theorem Token.avoids_string (hcontrol : ∀ c, c < ' ' → refused c = false) (value : String) :
    (Token.string (piecesOf value)).avoids refused = !value.toList.any refused := by
  have hpiece (c : Char) : (match pieceOf c with
      | .char c => !refused c
      | .unit _ => true) = !refused c := by
    by_cases hnumbered : c < ' ' ∧ c ∉ ['\x08', '\x0c', '\n', '\r', '\t']
    · rw [pieceOf, if_pos hnumbered, hcontrol c hnumbered.1]
      rfl
    · rw [pieceOf, if_neg hnumbered]
  rw [List.not_any_eq_all_not, avoids, piecesOf, List.all_map]
  exact List.all_congr rfl hpiece

theorem scan_string (h : lexicon.Admits refused) (value : String) (text : List Char) :
    lexicon.scan .between [] (stringText value ++ text) =
      if (Token.string (piecesOf value)).avoids refused then
        (lexicon.scan .between [] text).map (.string (piecesOf value) :: ·)
      else none := by
  have hquote : lexicon.step '"' .between = some (.string '"' [] .plain, []) :=
    congrArg some h.quote
  unfold stringText
  rw [List.append_assoc, List.cons_append, scan_cons_quiet hquote, List.singleton_append,
    scan_escaped h, Token.avoids_string fun c hc ↦ h.escaped c (.inl hc)]
  cases value.toList.any refused <;> rfl

/-! ## Words and marks -/

theorem mem_of_mark {c : Char} {token : Token} (h : punctuation? c = some token) :
    c ∈ "[]\x7b\x7d:,".toList := by
  unfold punctuation? at h
  split at h <;> first | decide | cases h

theorem Lexicon.Admits.isSpace_of_mark (h : lexicon.Admits refused) {c : Char} {token : Token}
    (hmark : punctuation? c = some token) : lexicon.isSpace c = false :=
  Bool.eq_false_iff.2 (List.any_eq_false.1 h.mark c (mem_of_mark hmark))

theorem Lexicon.Admits.endsAtom_of_mem (h : lexicon.Admits refused) {c : Char}
    (hc : c ∈ wordChars) : lexicon.endsAtom c = false :=
  Bool.eq_false_iff.2 (List.any_eq_false.1 h.word c hc)

/-- Whether a word that stands in front of the text ends there: behind it stands a mark, or the end
of the line or of the text. -/
def endsWord (text : List Char) : Bool :=
  text.head?.all fun c ↦ c == '\n' || (punctuation? c).isSome

theorem endsAtom_of_endsWord (h : lexicon.Admits refused) {c : Char} {rest : List Char}
    (hends : endsWord (c :: rest) = true) : lexicon.endsAtom c = true := by
  have hc : c = '\n' ∨ (punctuation? c).isSome = true := by simpa [endsWord] using hends
  rcases hc with rfl | hmark
  · simp [Lexicon.endsAtom, h.space.2]
  · simp [Lexicon.endsAtom, hmark]

theorem scan_word_ended (h : lexicon.Admits refused) {taken text : List Char}
    (hends : endsWord text = true) :
    lexicon.scan (.atom taken) [] text =
      (lexicon.scan .between [] text).map (.atom taken.reverse :: ·) := by
  cases text with
  | nil => rfl
  | cons c rest =>
    have hstep : lexicon.step c (.atom taken) =
        some ((lexicon.start c).1, .atom taken.reverse :: (lexicon.start c).2) := by
      simp [Lexicon.step, endsAtom_of_endsWord h hends]
    have hbetween : lexicon.step c .between = some (lexicon.start c) := rfl
    rw [Lexicon.scan, Lexicon.scan, hstep, hbetween]
    simp only
    rw [scan_taken, scan_taken _ _ ((lexicon.start c).2.reverse ++ [])]
    simp [Function.comp_def]

theorem scan_word (h : lexicon.Admits refused) {taken word text : List Char}
    (hword : word ⊆ wordChars) (hends : endsWord text = true) :
    lexicon.scan (.atom taken) [] (word ++ text) =
      (lexicon.scan .between [] text).map (.atom (taken.reverse ++ word) :: ·) := by
  induction word generalizing taken with
  | nil => simpa using scan_word_ended h hends
  | cons c rest ih =>
    obtain ⟨hc, hrest⟩ := List.cons_subset.1 hword
    have hstep : lexicon.step c (.atom taken) = some (.atom (c :: taken), []) := by
      simp [Lexicon.step, h.endsAtom_of_mem hc]
    rw [List.cons_append, scan_cons_quiet hstep, ih hrest]
    simp

theorem start_of_mem (h : lexicon.Admits refused) {c : Char} (hc : c ∈ wordChars) :
    lexicon.start c = (.atom [c], []) := by
  have hends := h.endsAtom_of_mem hc
  unfold Lexicon.endsAtom at hends
  simp only [Bool.or_eq_false_iff, Option.isSome_eq_false_iff, Option.isNone_iff_eq_none] at hends
  obtain ⟨⟨⟨hspace, hmark⟩, hquote⟩, hcomment⟩ := hends
  simp [Lexicon.start, hspace, hmark, hquote, hcomment]

theorem scan_mark (h : lexicon.Admits refused) {c : Char} {token : Token}
    (hmark : punctuation? c = some token) (text : List Char) :
    lexicon.scan .between [] (c :: text) =
      (lexicon.scan .between [] text).map (token :: ·) := by
  apply scan_cons_token
  rw [Lexicon.step, Lexicon.start, h.isSpace_of_mark hmark, hmark]
  rfl

/-! ## Layout -/

/-- A text that is laid out as tokens: one behind the other, with blanks and ends of lines between
them. -/
inductive Layout : List Char → List Token → Prop
  | done : Layout [] []
  | space {c : Char} {text : List Char} {tokens : List Token} :
    c = ' ' ∨ c = '\n' → Layout text tokens → Layout (c :: text) tokens
  | mark {c : Char} {token : Token} {text : List Char} {tokens : List Token} :
    punctuation? c = some token → Layout text tokens → Layout (c :: text) (token :: tokens)
  | string (value : String) {text : List Char} {tokens : List Token} :
    Layout text tokens → Layout (stringText value ++ text) (.string (piecesOf value) :: tokens)
  | word {word text : List Char} {tokens : List Token} :
    word ≠ [] → word ⊆ wordChars → endsWord text = true → Layout text tokens →
    Layout (word ++ text) (.atom word :: tokens)

/-- A text that is laid out as tokens is scanned as them, unless a string of them holds a character
that is refused: then it is not scanned at all. -/
theorem Layout.tokens? {text : List Char} {tokens : List Token} (h : Layout text tokens)
    (hlexicon : lexicon.Admits refused) :
    lexicon.tokens? text = if tokens.all (Token.avoids refused) then some tokens else none := by
  unfold Lexicon.tokens?
  induction h with
  | done => rfl
  | @space c text tokens hspace _ ih =>
    have hc : lexicon.isSpace c = true := by
      rcases hspace with rfl | rfl
      · exact hlexicon.space.1
      · exact hlexicon.space.2
    rw [← ih]
    apply scan_cons_quiet
    rw [Lexicon.step, Lexicon.start, hc, if_pos rfl]
  | @mark c token text tokens hmark _ ih =>
    have htoken : token.avoids refused = true := by
      unfold punctuation? at hmark
      split at hmark <;> cases hmark <;> rfl
    rw [scan_mark hlexicon hmark, ih, List.all_cons, htoken]
    cases tokens.all (Token.avoids refused) <;> rfl
  | @string value text tokens _ ih =>
    rw [scan_string hlexicon, ih, List.all_cons]
    cases (Token.string (piecesOf value)).avoids refused <;>
      cases tokens.all (Token.avoids refused) <;> rfl
  | @word word text tokens hword hchars hends _ ih =>
    have hword' : (Token.atom word).avoids refused = true := rfl
    cases word with
    | nil => exact absurd rfl hword
    | cons c rest =>
      obtain ⟨hc, hrest⟩ := List.cons_subset.1 hchars
      have hstep : lexicon.step c .between = some (.atom [c], []) := by
        rw [Lexicon.step, start_of_mem hlexicon hc]
      rw [List.cons_append, scan_cons_quiet hstep, scan_word hlexicon hrest hends, ih,
        List.all_cons, hword']
      cases tokens.all (Token.avoids refused) <;> rfl

end Admits

/-! ## Relaxed text -/

/-- Whether a token holds no separator. -/
def Token.isUnbroken : Token → Bool := Token.avoids isSeparator

theorem Token.isUnbroken_string (value : String) :
    (Token.string (piecesOf value)).isUnbroken = Text.isUnbroken value :=
  avoids_string (fun _ ↦ Text.isSeparator_of_control) value

theorem Relaxed.admits : Relaxed.lexicon.Admits isSeparator where
  space := by decide
  mark := by decide
  word := by decide
  quote := by decide
  short := by decide
  numbered := by decide
  plain c hvisible _ _ := by
    have hfeed : (c == '\n') = false := by
      rw [beq_eq_false_iff_ne]
      rintro rfl
      exact hvisible (by decide)
    have hreturn : (c == '\r') = false := by
      rw [beq_eq_false_iff_ne]
      rintro rfl
      exact hvisible (by decide)
    simp [Relaxed.lexicon, Relaxed.endsLine, isSeparator, hfeed, hreturn]
  escaped c h := by
    rcases h with hcontrol | rfl | rfl
    · exact Text.isSeparator_of_control hcontrol
    · decide
    · decide

end Json

end CardFilter
