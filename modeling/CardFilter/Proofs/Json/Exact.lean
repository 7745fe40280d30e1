import CardFilter.Json.Strict
import CardFilter.Proofs.Json.Assembly
import CardFilter.Proofs.Number.Literals

/-!
# What a written text says

The interchange format does not limit how deep values nest, how large integers are, or how precise
reals.  Read without any limit, a written text says exactly the value that was written, in the order
in which it was written; null stands for a real that is not finite.
-/

namespace CardFilter.Json

/-! ## Finite values -/

mutual

/-- The value with null for reals that are not finite. -/
def finite : Json → Json
  | .number (.real value) => if value.isFinite then .number (.real value) else .null
  | .array items => .array (finiteItems items)
  | .object members => .object (finiteMembers members)
  | value => value

def finiteItems : List Json → List Json
  | [] => []
  | item :: rest => finite item :: finiteItems rest

def finiteMembers : List (String × Json) → List (String × Json)
  | [] => []
  | (name, value) :: rest => (name, finite value) :: finiteMembers rest

end

mutual

/-- The canonical form does not have those reals either. -/
theorem canonical_finite : (value : Json) → value.finite.canonical = value.canonical
  | .null => rfl
  | .bool _ => rfl
  | .string _ => rfl
  | .number (.integer _) => rfl
  | .number (.real value) => by cases h : value.isFinite <;> simp [finite, canonical, h]
  | .array items => by simp only [finite, canonical, canonicalItems_finiteItems items]
  | .object members => by simp only [finite, canonical, canonicalMembers_finiteMembers members]

theorem canonicalItems_finiteItems : (items : List Json) →
    canonicalItems (finiteItems items) = canonicalItems items
  | [] => rfl
  | item :: rest => by
    simp only [finiteItems, canonicalItems, canonical_finite item, canonicalItems_finiteItems rest]

theorem canonicalMembers_finiteMembers : (members : List (String × Json)) →
    canonicalMembers (finiteMembers members) = canonicalMembers members
  | [] => rfl
  | (_, value) :: rest => by
    simp only [finiteMembers, canonicalMembers, canonical_finite value,
      canonicalMembers_finiteMembers rest]

end

/-! ## Reading without limits -/

theorem Token.avoids_nothing (token : Token) : token.avoids (fun _ ↦ false) = true := by
  cases token with
  | string pieces =>
    apply List.all_eq_true.2
    intro piece _
    cases piece <;> rfl
  | _ => rfl

/-- The strict lexicon refuses nothing that is written. -/
theorem Strict.admits : Strict.lexicon.Admits fun _ ↦ false where
  space := by decide
  mark := by decide
  word := by decide
  quote := by decide
  short := by decide
  numbered := by decide
  plain c hvisible _ _ := decide_eq_true (Char.not_lt.1 hvisible)
  escaped _ _ := rfl

namespace Exact

def number? (text : List Char) : Option Number :=
  (Literal.ofChars? text).map fun literal ↦
    if literal.isInteger then .integer literal.toInt else .real literal.toBinary64

/-- The interchange grammar without a limit on depth, on integers or on precision. -/
def grammar : Grammar where
  lexicon := Strict.lexicon
  isNumber := Strict.isNumber
  number? := number?
  count? := number?
  name? _ := none
  trailingComma := false
  depthLimit := none
  unnamed := .value
  dropsSurplus := false

/-- What a text says, if it is JSON. -/
def read? (text : String) : Option Json := grammar.read? .value text

theorem hasForm_of_isRegular {literal : Literal} (h : literal.IsRegular) :
    Strict.hasForm literal = true := by
  have hsign : (literal.sign != some '+') = true := by
    rcases h.sign with hsign | hsign <;> rw [hsign] <;> rfl
  have hleading : (literal.whole.length == 1 || literal.whole.head? != some '0') = true := by
    simpa using h.leading
  have hfraction : (literal.fraction != some []) = true := by
    rw [bne_iff_ne]
    exact fun hnil ↦ (h.fraction [] hnil).1 rfl
  have hwhole : (!literal.whole.isEmpty) = true := by simpa using h.whole.1
  rw [Strict.hasForm, hsign, hleading, hfraction, hwhole]
  rfl

/-- A regular literal is no constant. -/
theorem chars_ne {literal : Literal} (h : literal.IsRegular) {word : List Char}
    (hword : (word.head?.any fun c ↦ !Literal.isDigit c && c != '-') = true) :
    literal.chars ≠ word := by
  rintro rfl
  obtain ⟨hne, hdigits⟩ := h.whole
  rw [Literal.chars] at hword
  rcases h.sign with hsign | hsign
  · rw [hsign, Option.toList_none, List.nil_append, List.head?_append_of_ne_nil _ hne,
      List.head?_eq_some_head hne] at hword
    simp [hdigits _ (List.head_mem hne)] at hword
  · rw [hsign] at hword
    cases hword

theorem atomValue?_chars {literal : Literal} (h : literal.IsRegular) :
    grammar.atomValue? .value literal.chars =
      some (.number (if literal.isInteger then .integer literal.toInt
        else .real literal.toBinary64)) := by
  have hnumber : grammar.isNumber literal.chars = true := by
    change Strict.isNumber literal.chars = true
    rw [Strict.isNumber, Literal.ofChars?_chars h, Option.map_some, hasForm_of_isRegular h]
    rfl
  have hvalue : grammar.number? literal.chars = some (if literal.isInteger then
      .integer literal.toInt else .real literal.toBinary64) := by
    change number? literal.chars = _
    rw [number?, Literal.ofChars?_chars h, Option.map_some]
  unfold Grammar.atomValue?
  rw [if_neg (chars_ne h (by decide)), if_neg (chars_ne h (by decide)),
    if_neg (chars_ne h (by decide)), if_pos hnumber]
  simp only [hvalue, Option.map_some]

theorem exists_literal_integer (value : Int) :
    ∃ literal : Literal, literal.IsRegular ∧ literal.isInteger = true ∧
      literal.chars = integerText value ∧ literal.toInt = value := by
  have hvalue := Literal.natOfDigits_toDigits value.natAbs
  by_cases hsign : value < 0
  · refine ⟨_, Literal.isRegular_toDigits value.natAbs (.inr rfl), rfl, ?_, ?_⟩
    · simp [integerText, hsign, Literal.chars, Literal.fractionChars, Literal.exponentChars]
    · change -(Literal.natOfDigits (Nat.toDigits 10 value.natAbs) : Int) = value
      omega
  · refine ⟨_, Literal.isRegular_toDigits value.natAbs (.inl rfl), rfl, ?_, ?_⟩
    · simp [integerText, hsign, Literal.chars, Literal.fractionChars, Literal.exponentChars]
    · change (Literal.natOfDigits (Nat.toDigits 10 value.natAbs) : Int) = value
      omega

theorem atomValue?_number (value : Number) :
    grammar.atomValue? .value value.text = some (finite (.number value)) := by
  cases value with
  | integer value =>
    obtain ⟨literal, hregular, hwhole, hchars, hvalue⟩ := exists_literal_integer value
    have hread := atomValue?_chars hregular
    rw [hwhole, hchars, hvalue] at hread
    exact hread
  | real value =>
    cases hfinite : value.isFinite with
    | true =>
      obtain ⟨literal, hregular, hreal, hchars, hvalue⟩ :=
        @NumberStyle.exists_literal realStyle rfl value hfinite
      have hread := atomValue?_chars hregular
      rw [hreal, hchars, hvalue] at hread
      simpa [Number.text, finite, hfinite] using hread
    | false =>
      simp only [Number.text, finite, hfinite]
      rfl

mutual

/-- Every part of a written value is read back. -/
theorem seen?_value : (value : Json) → grammar.seen? .value value = some value.finite
  | .null => rfl
  | .bool true => rfl
  | .bool false => rfl
  | .string _ => rfl
  | .number value => atomValue?_number value
  | .array items => by
    rw [Grammar.seen?, seenItems?_value items]
    rfl
  | .object members => by
    rw [Grammar.seen?, seenMembers?_value members]
    rfl

theorem seenItems?_value {index : Nat} : (items : List Json) →
    grammar.seenItems? .value index items = some (finiteItems items)
  | [] => rfl
  | item :: rest => by
    rw [Grammar.seenItems?, Schema.element, seen?_value item, Option.bind_some,
      seenItems?_value rest]
    rfl

theorem seenMembers?_value : (members : List (String × Json)) →
    grammar.seenMembers? .value members = some (finiteMembers members)
  | [] => rfl
  | (name, value) :: rest => by
    rw [Grammar.seenMembers?]
    simp only [Schema.member, Schema.isSkipped, seen?_value value, seenMembers?_value rest]
    rfl

end

/-- A written text says the value. -/
theorem read?_of_writing {value : Json} {text : String} (h : Writing value text) :
    read? text = some value.finite := by
  have hall : value.tokens.all (Token.avoids fun _ ↦ false) = true :=
    List.all_eq_true.2 fun token _ ↦ token.avoids_nothing
  rw [read?, Grammar.read?_of_writing rfl Strict.admits h, hall, if_pos rfl, seen?_value]

end Exact

end CardFilter.Json
