import CardFilter.Command.Perform
import CardFilter.Proofs.Condition.Line
import CardFilter.Proofs.Condition.RoundTrip

/-!
# Conditions read back from text

What is written of a condition, on one line or over several, is read as the condition again exactly
if the condition is unbroken.  The writer leaves the two separators of Unicode in a string as they
are; to the reader they are ends of lines, and a string does not go on behind one.  Everything else
that can stand in a text survives: quotes, backslashes, controls and characters beyond the basic
plane.

The answers for programs hold a condition inside an envelope, which is read as a value.  Literal
numbers are left out here: whether they come back is a matter of how reals are printed and read.
-/

namespace CardFilter

namespace Condition

/-- A written condition is read as what it is without empty paths, or, if it is not unbroken, not at
all. -/
theorem parse_of_writing {condition : Condition} {text : String}
    (h : Json.Writing condition.toJson text) (hliterals : condition.hasLiteral = false) :
    parse text =
      if condition.isUnbroken then ⟨.ok condition.normalize, []⟩
      else ⟨.error (.syntaxError (Json.Relaxed.grammar.diagnose .value text)), []⟩ := by
  have hnumbers : condition.toJson.isNumberless = true := by
    rw [isNumberless_toJson, hliterals]
    rfl
  have hread := Json.Relaxed.read?_value_of_writing h hnumbers
  have hvalue := parseValue_toJson condition
  rw [isUnbroken_toJson] at hread
  rw [canonical_eq_normalize hliterals] at hvalue
  unfold parse Json.Relaxed.read Json.Grammar.read
  rw [show Json.Relaxed.grammar.read? .value text = _ from hread]
  cases condition.isUnbroken with
  | true => simp [hvalue, Except.mapError]
  | false => rfl

theorem parse_eq_self_iff {condition : Condition} (hpaths : condition.normalize = condition)
    (hliterals : condition.hasLiteral = false) {text : String}
    (h : Json.Writing condition.toJson text) :
    parse text = ⟨.ok condition, []⟩ ↔ condition.isUnbroken = true := by
  rw [parse_of_writing h hliterals, hpaths]
  cases condition.isUnbroken <;> simp

end Condition

/-! ## Answers -/

theorem textLines_singleton (line : String) : textLines [line] = line ++ "\n" := by
  simp [textLines, String.join]

namespace Envelope

theorem isUnbroken_result (value : Json) : (result value).isUnbroken = value.isUnbroken := by
  have hnames : Text.isUnbroken "jsonrpc" = true ∧ Text.isUnbroken "2.0" = true ∧
      Text.isUnbroken "result" = true ∧ Text.isUnbroken "id" = true := by decide
  simp [result, protocol, noRequest, hnames, Json.isUnbroken]

theorem isNumberless_result (value : Json) :
    (result value).isNumberless = value.isNumberless := by
  simp [result, protocol, noRequest, Json.isNumberless]

/-- The line that programs get is read as the envelope if the value in it is unbroken. -/
theorem read?_written_iff {value : Json} (hnumbers : value.isNumberless = true) (text : String) :
    Json.Relaxed.read? .value (Report.written .json (.value value text)) = some (result value) ↔
      value.isUnbroken = true := by
  have hwriting : Json.Writing (result value) (Report.written .json (.value value text)) :=
    .line .compact
  have hresult : (result value).isNumberless = true := by rw [isNumberless_result, hnumbers]
  rw [Json.Relaxed.read?_value_of_writing hwriting hresult, isUnbroken_result]
  cases value.isUnbroken <;> simp

end Envelope

namespace Condition

/-- A condition with its line, as programs get it. -/
def described (condition : Condition) : Json :=
  .object [("text", .string condition.text), ("condition", condition.toJson)]

/-- What is answered when a condition is to be shown. -/
def shown (pretty : Bool) (condition : Condition) : Output :=
  .value condition.described
    (textLines [if pretty then condition.toJson.pretty else condition.text])

theorem display_eq (input : String) (pretty : Bool) :
    Invocation.display input pretty = (do
      let condition ← load input
      return (.success, condition.shown pretty)) := rfl

/-- The line breaks no condition that is not broken anyway. -/
theorem isUnbroken_described (condition : Condition) :
    condition.described.isUnbroken = condition.isUnbroken := by
  have hnames : Text.isUnbroken "text" = true ∧ Text.isUnbroken "condition" = true := by decide
  cases h : condition.isUnbroken with
  | true => simp [described, hnames, isUnbroken_toJson, h, isUnbroken_text h]
  | false => simp [described, isUnbroken_toJson, h]

theorem isNumberless_described {condition : Condition} (h : condition.hasLiteral = false) :
    condition.described.isNumberless = true := by
  simp [described, isNumberless_toJson, h]

/-- What is written of a condition can be read back exactly if the condition is unbroken.  The
texts are the two layouts and what people get when a condition is shown or created; the envelopes
are what programs get then. -/
theorem written_reads_back_iff (condition : Condition)
    (hpaths : condition.normalize = condition) (hliterals : condition.hasLiteral = false) :
    (∀ text ∈ [condition.toJson.compact, condition.toJson.pretty,
        Report.written .text (condition.shown true),
        Report.written .text (.ofJson condition.toJson)],
      parse text = ⟨.ok condition, []⟩ ↔ condition.isUnbroken = true) ∧
    (∀ pretty,
      Json.Relaxed.read? .value (Report.written .json (condition.shown pretty)) =
        some (Envelope.result condition.described) ↔ condition.isUnbroken = true) ∧
    (Json.Relaxed.read? .value (Report.written .json (.ofJson condition.toJson)) =
      some (Envelope.result condition.toJson) ↔ condition.isUnbroken = true) := by
  have hline : Json.Writing condition.toJson (textLines [condition.toJson.pretty]) := by
    rw [textLines_singleton]
    exact .line .pretty
  refine ⟨?_, fun pretty ↦ ?_, ?_⟩
  · have hwriting : ∀ text ∈ [condition.toJson.compact, condition.toJson.pretty,
        Report.written .text (condition.shown true),
        Report.written .text (.ofJson condition.toJson)], Json.Writing condition.toJson text := by
      simp only [List.forall_mem_cons]
      exact ⟨.compact, .pretty, hline, hline, List.forall_mem_nil _⟩
    exact fun text htext ↦ parse_eq_self_iff hpaths hliterals (hwriting text htext)
  · rw [← isUnbroken_described]
    exact Envelope.read?_written_iff (isNumberless_described hliterals) _
  · rw [← isUnbroken_toJson]
    apply Envelope.read?_written_iff
    rw [isNumberless_toJson, hliterals]
    rfl

/-- A text with a quote, a backslash, a control, and a character beyond the basic plane. -/
theorem written_reads_back_escapes :
    let condition := ofNode (.leaf ⟨.title, ⟨.implied, some ⟨["a\"b", "\\u2028"]⟩, rfl⟩,
      some ⟨⟨"EQ", .eq, .text⟩, .text "\x00\t\n\x7f\u00e9😀", by decide, rfl⟩⟩)
    condition.normalize = condition ∧ condition.hasLiteral = false ∧
      parse condition.toJson.compact = ⟨.ok condition, []⟩ ∧
      parse condition.toJson.pretty = ⟨.ok condition, []⟩ := by
  intro condition
  have hpaths : condition.normalize = condition := rfl
  have hliterals : condition.hasLiteral = false := rfl
  have hunbroken : condition.isUnbroken = true := by decide
  obtain ⟨htexts, -, -⟩ := written_reads_back_iff condition hpaths hliterals
  refine ⟨hpaths, hliterals, (htexts _ ?_).2 hunbroken, (htexts _ ?_).2 hunbroken⟩
  · exact List.mem_cons_self
  · exact List.mem_cons_of_mem _ List.mem_cons_self

/-- With a separator of lines in its text, a condition does not come back from either layout. -/
theorem separator_not_read_back :
    let condition := ofNode (.leaf ⟨.title, ⟨.implied, none, rfl⟩,
      some ⟨⟨"EQ", .eq, .text⟩, .text "a\u2028b", by decide, rfl⟩⟩)
    condition.normalize = condition ∧ condition.hasLiteral = false ∧
      ¬ ∃ read, (parse condition.toJson.compact).value = .ok read ∨
        (parse condition.toJson.pretty).value = .ok read := by
  intro condition
  have hliterals : condition.hasLiteral = false := rfl
  have hbroken : condition.isUnbroken = false := by decide
  refine ⟨rfl, hliterals, ?_⟩
  rw [parse_of_writing .compact hliterals, parse_of_writing .pretty hliterals, hbroken]
  simp

end Condition

end CardFilter
