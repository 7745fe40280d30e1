import CardFilter.Proofs.Condition.Leaves

/-!
# The line that people read

The line about a condition is put together from its texts, from names and from the texts of numbers,
and only the texts can hold a separator.  Quoted ones are escaped, so the line may be unbroken while
the condition is not.
-/

namespace CardFilter

namespace Text

/-- Whether no character is a separator. -/
def isUnbrokenRun (chars : List Char) : Bool := !chars.any isSeparator

theorem isUnbroken_eq (text : String) : isUnbroken text = isUnbrokenRun text.toList := rfl

@[simp] theorem isUnbrokenRun_nil : isUnbrokenRun [] = true := rfl

@[simp] theorem isUnbrokenRun_cons (c : Char) (chars : List Char) :
    isUnbrokenRun (c :: chars) = (!isSeparator c && isUnbrokenRun chars) := by
  simp [isUnbrokenRun]

@[simp] theorem isUnbrokenRun_append (chars others : List Char) :
    isUnbrokenRun (chars ++ others) = (isUnbrokenRun chars && isUnbrokenRun others) := by
  simp [isUnbrokenRun]

end Text

open Text (isSeparator isUnbroken isUnbrokenRun)

/-! ## Parts of the line -/

theorem isUnbrokenRun_joined {separator : String} (hseparator : isUnbroken separator = true)
    {texts : List (List Char)} (h : texts.all isUnbrokenRun = true) :
    isUnbrokenRun (joined separator texts) = true := by
  unfold joined
  induction texts with
  | nil => rfl
  | cons text rest ih =>
    obtain ⟨htext, hrest⟩ := Bool.and_eq_true_iff.1 h
    cases rest with
    | nil => simpa [List.intercalate] using htext
    | cons next others =>
      rw [List.intercalate_cons_cons, Text.isUnbrokenRun_append, Text.isUnbrokenRun_append, htext,
        ← Text.isUnbroken_eq, hseparator, ih hrest]
      rfl

theorem isUnbrokenRun_joinedNames {separator : String} (hseparator : isUnbroken separator = true)
    {names : List String} (h : names.all isUnbroken = true) :
    isUnbrokenRun (joinedNames separator names) = true := by
  apply isUnbrokenRun_joined hseparator
  rw [List.all_map]
  exact h

theorem isUnbrokenRun_bracketed {names : List String} (h : names.all isUnbroken = true) :
    isUnbrokenRun (bracketed names) = true := by
  have hseparator : isUnbroken ", " = true := by decide
  have hnames := isUnbrokenRun_joinedNames hseparator h
  simp [bracketed, hnames, isSeparator]

theorem isUnbrokenRun_hexText (value : Nat) : isUnbrokenRun (Text.hexText value) = true := by
  have hdigit : ∀ digit < 16, isSeparator (Nat.digitChar digit) = false := by decide
  unfold Text.hexText
  induction value using Nat.strongRecOn with
  | ind value ih =>
    rw [Nat.toDigits_eq_if (by decide)]
    split
    · rename_i hsmall
      rw [Text.isUnbrokenRun_cons, hdigit value hsmall]
      rfl
    · rw [Text.isUnbrokenRun_append, ih (value / 16) (by omega), Text.isUnbrokenRun_cons,
        hdigit (value % 16) (Nat.mod_lt _ (by decide))]
      rfl

theorem isUnbrokenRun_quoted {text : String} (h : isUnbroken text = true) :
    isUnbrokenRun (Text.quoted text) = true := by
  have hchar (c : Char) (hc : isSeparator c = false) :
      isUnbrokenRun (Text.quotedChar c) = true := by
    unfold Text.quotedChar
    split
    iterate 6 · rfl
    · split
      · simpa using hc
      · simp [isUnbrokenRun_hexText, isSeparator]
  have hchars : isUnbrokenRun (text.toList.flatMap Text.quotedChar) = true := by
    unfold isUnbroken at h
    generalize text.toList = chars at h
    induction chars with
    | nil => rfl
    | cons c rest ih =>
      simp only [List.any_cons, Bool.not_or, Bool.and_eq_true, Bool.not_eq_true'] at h
      rw [List.flatMap_cons, Text.isUnbrokenRun_append, hchar c h.1, ih (by simpa using h.2)]
      rfl
  simp [Text.quoted, hchars, isSeparator]

theorem NumberValue.isUnbrokenRun_chars {value : NumberValue}
    (h : value.fields.all isUnbroken = true) : isUnbrokenRun value.chars = true := by
  cases value with
  | literal value =>
    cases value with
    | none => rfl
    | some value =>
      have hmark : NumberStyle.plain.wholeMark ⊆ Json.wordChars := by decide
      have hchars := Json.styledText_subset hmark value
      have hwords : Json.wordChars.all (fun c ↦ !isSeparator c) = true := by decide
      unfold chars isUnbrokenRun
      rw [Bool.not_eq_true', List.any_eq_false]
      intro c hc
      simpa using List.all_eq_true.1 hwords c (hchars hc)
  | reference fieldId =>
    have hid : isUnbroken fieldId = true := by simpa [fields] using h
    rw [Text.isUnbroken_eq] at hid
    simpa [chars, isSeparator] using hid

theorem isUnbrokenRun_orUnknown {α : Type} {chars : α → List Char} {value : Option α}
    (h : ∀ inner, value = some inner → isUnbrokenRun (chars inner) = true) :
    isUnbrokenRun (orUnknown chars value) = true := by
  cases value with
  | none => rfl
  | some inner => exact h inner rfl

theorem isUnbrokenRun_optionalNumber {value : Option NumberValue}
    (h : (optionalFields value).all isUnbroken = true) :
    isUnbrokenRun (orUnknown NumberValue.chars value) = true := by
  apply isUnbrokenRun_orUnknown
  rintro inner rfl
  exact NumberValue.isUnbrokenRun_chars h

theorem isUnbrokenRun_optionalDate {value : Option DateValue}
    (h : (value.map DateValue.content).toList.all isUnbroken = true) :
    isUnbrokenRun (orUnknown DateValue.chars value) = true := by
  apply isUnbrokenRun_orUnknown
  rintro inner rfl
  cases inner <;> simpa [DateValue.content, DateValue.chars, Text.isUnbroken_eq] using h

theorem Operand.isUnbrokenRun_chars {operand : Operand}
    (h : operand.texts.all isUnbroken = true) : isUnbrokenRun operand.chars = true := by
  cases operand with
  | nothing => rfl
  | text value =>
    have hvalue : isUnbroken value = true := by simpa [texts] using h
    have hquoted := isUnbrokenRun_quoted hvalue
    simp [chars, hquoted, isSeparator]
  | number value =>
    have hvalue := isUnbrokenRun_optionalNumber h
    simp [chars, hvalue, isSeparator]
  | numberRange lower upper =>
    rw [texts, List.all_append, Bool.and_eq_true_iff] at h
    have hlower := isUnbrokenRun_optionalNumber h.1
    have hupper := isUnbrokenRun_optionalNumber h.2
    simp [chars, hlower, hupper, isSeparator]
  | date value =>
    have hvalue := isUnbrokenRun_optionalDate h
    simp [chars, hvalue, isSeparator]
  | dateRange lower upper =>
    rw [texts, List.all_append, Bool.and_eq_true_iff] at h
    have hlower := isUnbrokenRun_optionalDate h.1
    have hupper := isUnbrokenRun_optionalDate h.2
    simp [chars, hlower, hupper, isSeparator]
  | one sort id =>
    have hid : isUnbrokenRun id.toList = true := by simpa [texts, Text.isUnbroken_eq] using h
    simp [chars, hid, isSeparator]
  | many sort ids =>
    have hids : isUnbrokenRun (bracketed ids) = true := isUnbrokenRun_bracketed h
    simp [chars, hids, isSeparator]
  | cards ids =>
    have hids : isUnbrokenRun (orUnknown bracketed ids) = true := by
      apply isUnbrokenRun_orUnknown
      rintro ids rfl
      exact isUnbrokenRun_bracketed h
    simp [chars, hids, isSeparator]
  | cycles values =>
    have hnames : (values.map Cycle.name).all isUnbroken = true := by
      simp [Cycle.isUnbroken_name]
    have hvalues := isUnbrokenRun_bracketed hnames
    simp [chars, hvalues, isSeparator]

theorem Path.isUnbrokenRun_chars {path : Path} (h : path.hops.all isUnbroken = true) :
    isUnbrokenRun path.chars = true := by
  have hseparator : isUnbroken " > " = true := by decide
  have hnames := isUnbrokenRun_joinedNames hseparator h
  simp [chars, hnames, isSeparator]

theorem Identity.isUnbrokenRun_chars {identity : Identity}
    (h : identity.id?.toList.all isUnbroken = true) : isUnbrokenRun identity.chars = true := by
  cases identity with
  | implied => rfl
  | named name =>
    have hname : isUnbrokenRun name.toList = true := (Bool.and_true _).symm.trans h
    unfold chars
    simp [hname, isSeparator]
  | system field =>
    have hfield : isUnbrokenRun (orUnknown SystemDate.chars field) = true := by
      apply isUnbrokenRun_orUnknown
      intro date _
      unfold SystemDate.chars
      exact date.isUnbroken_name
    unfold chars
    rw [Text.isUnbrokenRun_append, Text.isUnbrokenRun_append, hfield]
    rfl

theorem Test.isUnbrokenRun_chars {kind : Kind} {test : Test kind}
    (h : test.operand.texts.all isUnbroken = true) : isUnbrokenRun test.chars = true := by
  have hname : isUnbrokenRun test.relation.name.toList = true := test.relation.isUnbroken_name
  have hoperand := Operand.isUnbrokenRun_chars h
  simp [chars, hname, hoperand, isSeparator]

theorem Leaf.isUnbrokenRun_chars {leaf : Leaf} (h : leaf.isUnbroken = true) :
    isUnbrokenRun leaf.chars = true := by
  unfold Leaf.isUnbroken texts at h
  rw [List.all_append, List.all_append, Bool.and_eq_true_iff, Bool.and_eq_true_iff] at h
  obtain ⟨⟨hid, hhops⟩, htexts⟩ := h
  have hpath : isUnbrokenRun ((leaf.path.map Path.chars).getD []) = true := by
    cases hpath : leaf.path with
    | none => rfl
    | some path =>
      rw [hpath] at hhops
      exact Path.isUnbrokenRun_chars hhops
  have htest : isUnbrokenRun ((leaf.test.map Test.chars).getD " <no operator>".toList) = true := by
    cases htest : leaf.test with
    | none => rfl
    | some test =>
      rw [htest] at htexts
      exact Test.isUnbrokenRun_chars htexts
  have hkind : isUnbrokenRun leaf.kind.name.toList = true := leaf.kind.isUnbroken_name
  have hidentity := Identity.isUnbrokenRun_chars hid
  unfold chars
  rw [Text.isUnbrokenRun_append, Text.isUnbrokenRun_append, Text.isUnbrokenRun_append, hpath, hkind,
    hidentity, htest]
  rfl

/-! ## The whole line -/

namespace Node

mutual

theorem isUnbrokenRun_chars : (node : Node) → node.leaves.all Leaf.isUnbroken = true →
    isUnbrokenRun node.chars = true
  | .leaf item, h => by
    have hitem : item.isUnbroken = true := by simpa [leaves] using h
    exact Leaf.isUnbrokenRun_chars hitem
  | .group connective children, h => by
    have hchildren := isUnbrokenRun_allChars connective children h
    simp [chars, hchildren, isSeparator]

theorem isUnbrokenRun_allChars (connective : Connective) : (nodes : List Node) →
    (allLeaves nodes).all Leaf.isUnbroken = true →
    isUnbrokenRun (allChars connective nodes) = true
  | [], _ => rfl
  | [node], h => by
    rw [allLeaves, List.all_append, Bool.and_eq_true_iff] at h
    exact isUnbrokenRun_chars node h.1
  | node :: next :: rest, h => by
    rw [allLeaves, List.all_append, Bool.and_eq_true_iff] at h
    have hname := connective.isUnbroken_name
    rw [Text.isUnbroken_eq] at hname
    simp [allChars, isUnbrokenRun_chars node h.1,
      isUnbrokenRun_allChars connective (next :: rest) h.2, hname, isSeparator]

end

end Node

/-- The line that people read is unbroken if the condition is. -/
theorem Condition.isUnbroken_text {condition : Condition} (h : condition.isUnbroken = true) :
    Text.isUnbroken condition.text = true := by
  rw [Text.isUnbroken_eq, text, String.toList_ofList]
  obtain ⟨_ | root⟩ := condition
  · rfl
  · exact root.isUnbrokenRun_chars h

end CardFilter
