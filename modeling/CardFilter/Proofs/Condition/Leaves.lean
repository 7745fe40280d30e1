import CardFilter.Condition.References
import CardFilter.Condition.Rendering
import CardFilter.Proofs.Condition.Canonical
import CardFilter.Proofs.Condition.Places
import CardFilter.Proofs.Json.Assembly

/-!
# The texts of a condition

The texts that people put into a condition stand in its leaves: ways, identifiers and comparison
values.  All other strings of its JSON form are names from short lists, and none of those holds a
separator.  So a condition is written unbroken exactly if its texts are, and numbers are written
only for literals.

The same texts appear in the line that people read.  That line is unbroken if they are; the converse
fails, because quoted texts are escaped there.
-/

namespace CardFilter

/-! ## Texts of leaves -/

def DateValue.content : DateValue → String
  | .keyDate token => token
  | .specific text => text

/-- The texts in a comparison value. -/
def Operand.texts : Operand → List String
  | .nothing => []
  | .text value => [value]
  | .number value => optionalFields value
  | .numberRange lower upper => optionalFields lower ++ optionalFields upper
  | .date value => (value.map DateValue.content).toList
  | .dateRange lower upper =>
    (lower.map DateValue.content).toList ++ (upper.map DateValue.content).toList
  | .one _ id => [id]
  | .many _ ids => ids
  | .cards ids => ids.getD []
  | .cycles _ => []

def NumberValue.isLiteral : NumberValue → Bool
  | .literal value => value.isSome
  | .reference _ => false

/-- Whether a number stands in a comparison value. -/
def Operand.hasLiteral : Operand → Bool
  | .number value => value.any NumberValue.isLiteral
  | .numberRange lower upper =>
    lower.any NumberValue.isLiteral || upper.any NumberValue.isLiteral
  | _ => false

namespace Leaf

def texts (leaf : Leaf) : List String :=
  leaf.id?.toList ++ (leaf.path.map Path.hops).getD [] ++
    (leaf.test.map fun test ↦ test.operand.texts).getD []

def isUnbroken (leaf : Leaf) : Bool := leaf.texts.all Text.isUnbroken

def hasLiteral (leaf : Leaf) : Bool := leaf.test.any fun test ↦ test.operand.hasLiteral

end Leaf

namespace Condition

/-- Whether no text of a condition holds a separator of lines or paragraphs. -/
def isUnbroken (condition : Condition) : Bool := condition.leaves.all Leaf.isUnbroken

/-- Whether a number stands in a condition. -/
def hasLiteral (condition : Condition) : Bool := condition.leaves.any Leaf.hasLiteral

end Condition

/-! ## Names -/

theorem Relation.isUnbroken_name (relation : Relation) :
    Text.isUnbroken relation.name = true := by
  cases relation <;> rfl

theorem TestForm.isUnbroken_tag (kind : Kind) :
    ∀ form ∈ kind.forms, Text.isUnbroken form.tag = true := by
  cases kind <;> decide

theorem Kind.isUnbroken_name (kind : Kind) : Text.isUnbroken kind.name = true := by
  cases kind <;> rfl

theorem Connective.isUnbroken_name (connective : Connective) :
    Text.isUnbroken connective.name = true := by
  cases connective <;> rfl

theorem SystemDate.isUnbroken_name (date : SystemDate) : Text.isUnbroken date.name = true := by
  cases date <;> rfl

theorem Cycle.isUnbroken_name (cycle : Cycle) : Text.isUnbroken cycle.name = true := by
  cases cycle <;> rfl

/-! ## Written leaves -/

theorem Json.all_optional {α : Type} (name : String) (encode : α → Json) (value : Option α)
    (p : String × Json → Bool) :
    (Json.optional name encode value).all p = value.all fun value ↦ p (name, encode value) := by
  cases value <;> simp [Json.optional]

theorem NumberValue.isUnbroken_toJson (value : NumberValue) :
    value.toJson.isUnbroken = value.fields.all Text.isUnbroken := by
  cases value with
  | literal value => cases value <;> rfl
  | reference fieldId => simp [toJson, fields, Text.isUnbroken, Text.isSeparator]

theorem NumberValue.isNumberless_toJson (value : NumberValue) :
    value.toJson.isNumberless = !value.isLiteral := by
  cases value with
  | literal value => cases value <;> rfl
  | reference => rfl

theorem all_optionalFields (value : Option NumberValue) :
    (value.all fun value ↦ value.toJson.isUnbroken) =
      (optionalFields value).all Text.isUnbroken := by
  cases value with
  | none => rfl
  | some value => exact value.isUnbroken_toJson

theorem DateValue.isUnbroken_toJson (value : DateValue) :
    value.toJson.isUnbroken = Text.isUnbroken value.content := by
  cases value <;> simp [toJson, content, Text.isUnbroken, Text.isSeparator]

theorem DateValue.isNumberless_toJson (value : DateValue) : value.toJson.isNumberless = true := by
  cases value <;> rfl

theorem Operand.isUnbroken_members (operand : Operand) :
    (Json.object operand.members).isUnbroken = operand.texts.all Text.isUnbroken := by
  cases operand with
  | nothing => rfl
  | text => simp [members, texts, Text.isUnbroken, Text.isSeparator]
  | number | numberRange =>
    simp [members, texts, Json.all_optional, all_optionalFields, Text.isUnbroken,
      Text.isSeparator]
  | date value =>
    cases value <;>
      simp [members, texts, Json.optional, DateValue.isUnbroken_toJson, Text.isUnbroken,
        Text.isSeparator]
  | dateRange lower upper =>
    cases lower <;> cases upper <;>
      simp [members, texts, Json.optional, DateValue.isUnbroken_toJson, Text.isUnbroken,
        Text.isSeparator]
  | one sort =>
    cases sort <;> simp [members, texts, IdSort.oneMember, Text.isUnbroken, Text.isSeparator]
  | many sort =>
    cases sort <;> simp [members, texts, IdSort.manyMember, Text.isUnbroken, Text.isSeparator]
  | cards ids =>
    cases ids <;>
      simp [members, texts, Json.optional, cardsToJson, Text.isUnbroken, Text.isSeparator]
  | cycles =>
    have hcycle (cycle : Cycle) : cycle.toJson.isUnbroken = true := cycle.isUnbroken_name
    simp [members, texts, hcycle, Text.isUnbroken, Text.isSeparator]

theorem Operand.isNumberless_members (operand : Operand) :
    (Json.object operand.members).isNumberless = !operand.hasLiteral := by
  cases operand with
  | number value =>
    cases value <;> simp [members, hasLiteral, Json.optional, NumberValue.isNumberless_toJson]
  | numberRange lower upper =>
    cases lower <;> cases upper <;>
      simp [members, hasLiteral, Json.optional, NumberValue.isNumberless_toJson]
  | date | dateRange =>
    simp [members, hasLiteral, Json.all_optional, DateValue.isNumberless_toJson]
  | cards ids => cases ids <;> simp [members, hasLiteral, Json.optional, cardsToJson]
  | cycles =>
    have hcycle (cycle : Cycle) : cycle.toJson.isNumberless = true := rfl
    simp [members, hasLiteral, hcycle]
  | nothing | text | one | many => simp [members, hasLiteral]

theorem Test.isUnbroken_toJson {kind : Kind} (test : Test kind) :
    test.toJson.isUnbroken = test.operand.texts.all Text.isUnbroken := by
  have htag : Text.isUnbroken "type" = true := by decide
  have hmembers := test.operand.isUnbroken_members
  rw [Json.isUnbroken_object] at hmembers
  simp [toJson, htag, hmembers, TestForm.isUnbroken_tag kind _ test.listed]

theorem Test.isNumberless_toJson {kind : Kind} (test : Test kind) :
    test.toJson.isNumberless = !test.operand.hasLiteral := by
  have hmembers := test.operand.isNumberless_members
  rw [Json.isNumberless_object] at hmembers
  simp [toJson, hmembers]

theorem Path.isUnbroken_toJson (path : Path) :
    path.toJson.isUnbroken = path.hops.all Text.isUnbroken := by
  simp [toJson, Text.isUnbroken, Text.isSeparator]

/-- The members for the subject of any kind hold its identifier and fixed names. -/
theorem Identity.isUnbroken_members (kind : Kind) (identity : Identity) :
    (Json.object (identity.members kind.subjectForm)).isUnbroken =
      identity.id?.toList.all Text.isUnbroken := by
  have hdate (date : SystemDate) : date.toJson.isUnbroken = true := date.isUnbroken_name
  cases identity with
  | implied => rfl
  | named =>
    cases kind <;> simp [members, Kind.subjectForm, id?, Text.isUnbroken, Text.isSeparator]
  | system field =>
    cases field <;> simp [members, id?, Json.optional, hdate, Text.isUnbroken, Text.isSeparator]

theorem Identity.isNumberless_members (form : SubjectForm) (identity : Identity) :
    (Json.object (identity.members form)).isNumberless = true := by
  cases identity with
  | implied => rfl
  | named => cases form <;> simp [members]
  | system field => cases field <;> simp [members, Json.optional, SystemDate.toJson]

namespace Leaf

theorem isUnbroken_subject (leaf : Leaf) :
    leaf.subject.toJson.isUnbroken =
      (leaf.id?.toList ++ (leaf.path.map Path.hops).getD []).all Text.isUnbroken := by
  have hidentity := leaf.subject.identity.isUnbroken_members leaf.kind
  have hpath : ((Json.optional "path" Path.toJson leaf.subject.path).all fun member ↦
      Text.isUnbroken member.1 && member.2.isUnbroken) =
        ((leaf.path.map Path.hops).getD []).all Text.isUnbroken := by
    have hname : Text.isUnbroken "path" = true := by decide
    rw [path]
    cases leaf.subject.path with
    | none => rfl
    | some path => simp [Json.optional, hname, path.isUnbroken_toJson]
  rw [Json.isUnbroken_object] at hidentity
  rw [Subject.toJson, Json.isUnbroken_object, List.all_append, hidentity, hpath, List.all_append,
    id?]

theorem isNumberless_subject (leaf : Leaf) : leaf.subject.toJson.isNumberless = true := by
  have hidentity := leaf.subject.identity.isNumberless_members leaf.kind.subjectForm
  rw [Json.isNumberless_object] at hidentity
  rw [Subject.toJson, Json.isNumberless_object, List.all_append, hidentity, Bool.true_and]
  cases leaf.subject.path <;> simp [Json.optional, Path.toJson]

theorem isUnbroken_toJson (leaf : Leaf) : leaf.toJson.isUnbroken = leaf.isUnbroken := by
  have htest : ((Json.optional "operator" Test.toJson leaf.test).all fun member ↦
      Text.isUnbroken member.1 && member.2.isUnbroken) =
        ((leaf.test.map fun test ↦ test.operand.texts).getD []).all Text.isUnbroken := by
    have hname : Text.isUnbroken "operator" = true := by decide
    cases leaf.test with
    | none => rfl
    | some test => simp [Json.optional, hname, test.isUnbroken_toJson]
  have hnames : Text.isUnbroken "nodeType" = true ∧ Text.isUnbroken "subject" = true := by decide
  rw [toJson, Json.isUnbroken_object, List.all_cons, List.all_cons, htest]
  simp [hnames, leaf.isUnbroken_subject, leaf.kind.isUnbroken_name, isUnbroken, texts,
    Bool.and_assoc]

theorem isNumberless_toJson (leaf : Leaf) : leaf.toJson.isNumberless = !leaf.hasLiteral := by
  have htest : ((Json.optional "operator" Test.toJson leaf.test).all fun member ↦
      member.2.isNumberless) = !leaf.hasLiteral := by
    unfold hasLiteral
    cases leaf.test with
    | none => rfl
    | some test => simp [Json.optional, test.isNumberless_toJson]
  rw [toJson, Json.isNumberless_object, List.all_cons, List.all_cons, htest]
  simp [leaf.isNumberless_subject]

end Leaf

/-! ## Leaves without literals -/

theorem NumberValue.canonical_of_not_isLiteral {value : NumberValue}
    (h : value.isLiteral = false) : value.canonical = value := by
  cases value with
  | literal value =>
    cases value with
    | none => rfl
    | some => cases h
  | reference => rfl

theorem map_canonical_of_not_isLiteral {value : Option NumberValue}
    (h : value.any NumberValue.isLiteral = false) : value.map NumberValue.canonical = value := by
  cases value with
  | none => rfl
  | some value => rw [Option.map_some, NumberValue.canonical_of_not_isLiteral h]

theorem Operand.canonical_of_not_hasLiteral {operand : Operand} (h : operand.hasLiteral = false) :
    operand.canonical = operand := by
  cases operand with
  | number value => rw [canonical, map_canonical_of_not_isLiteral h]
  | numberRange lower upper =>
    obtain ⟨hlower, hupper⟩ := Bool.or_eq_false_iff.1 h
    rw [canonical, map_canonical_of_not_isLiteral hlower, map_canonical_of_not_isLiteral hupper]
  | _ => rfl

/-- Without a literal only the path of a leaf can change. -/
theorem Leaf.canonical_eq_normalize {leaf : Leaf} (h : leaf.hasLiteral = false) :
    leaf.canonical = leaf.normalize := by
  have htest : leaf.test.map Test.canonical = leaf.test := by
    unfold hasLiteral at h
    cases htest : leaf.test with
    | none => rfl
    | some test =>
      rw [htest] at h
      rw [Option.map_some, Option.some_inj]
      ext1
      · rfl
      · exact Operand.canonical_of_not_hasLiteral h
  rw [canonical, htest]
  rfl

/-! ## Written trees -/

namespace Node

mutual

theorem isUnbroken_toJson : (node : Node) →
    node.toJson.isUnbroken = node.leaves.all Leaf.isUnbroken
  | .leaf item => by
    rw [toJson, item.isUnbroken_toJson]
    simp [leaves]
  | .group connective children => by
    have hconnective : connective.toJson.isUnbroken = true := connective.isUnbroken_name
    have hchildren := isUnbroken_allToJson children
    rw [← Json.isUnbroken_array] at hchildren
    rw [toJson, Json.isUnbroken_object]
    simp [leaves, hconnective, hchildren, groupName, Text.isUnbroken, Text.isSeparator]

theorem isUnbroken_allToJson : (nodes : List Node) →
    (allToJson nodes).all Json.isUnbroken = (allLeaves nodes).all Leaf.isUnbroken
  | [] => rfl
  | node :: rest => by
    rw [allToJson, List.all_cons, isUnbroken_toJson node, isUnbroken_allToJson rest, allLeaves,
      List.all_append]

end

mutual

theorem isNumberless_toJson : (node : Node) →
    node.toJson.isNumberless = !node.leaves.any Leaf.hasLiteral
  | .leaf item => by
    rw [toJson, item.isNumberless_toJson]
    simp [leaves]
  | .group connective children => by
    have hconnective : connective.toJson.isNumberless = true := rfl
    have hchildren := isNumberless_allToJson children
    rw [toJson, Json.isNumberless_object]
    simpa [leaves, hconnective] using hchildren

theorem isNumberless_allToJson : (nodes : List Node) →
    (allToJson nodes).all Json.isNumberless = !(allLeaves nodes).any Leaf.hasLiteral
  | [] => rfl
  | node :: rest => by
    rw [allToJson, List.all_cons, isNumberless_toJson node, isNumberless_allToJson rest, allLeaves,
      List.any_append, Bool.not_or]

end

mutual

theorem canonical_eq_normalize : (node : Node) → node.leaves.any Leaf.hasLiteral = false →
    node.canonical = node.normalize
  | .leaf item, h => by
    have hitem : item.hasLiteral = false := by simpa [leaves] using h
    rw [canonical, normalize, Leaf.canonical_eq_normalize hitem]
  | .group connective children, h => by
    rw [canonical, normalize, canonicalAll_eq_normalizeAll children h]

theorem canonicalAll_eq_normalizeAll : (nodes : List Node) →
    (allLeaves nodes).any Leaf.hasLiteral = false → canonicalAll nodes = normalizeAll nodes
  | [], _ => rfl
  | node :: rest, h => by
    rw [allLeaves, List.any_append, Bool.or_eq_false_iff] at h
    rw [canonicalAll, normalizeAll, canonical_eq_normalize node h.1,
      canonicalAll_eq_normalizeAll rest h.2]

end

end Node

namespace Condition

/-- A condition is written unbroken exactly if its texts are. -/
theorem isUnbroken_toJson (condition : Condition) :
    condition.toJson.isUnbroken = condition.isUnbroken := by
  have hname : Text.isUnbroken "root" = true := by decide
  obtain ⟨_ | root⟩ := condition
  · rfl
  · rw [toJson, Json.isUnbroken_object, isUnbroken, leaves]
    simpa [Json.optional, hname] using root.isUnbroken_toJson

theorem isNumberless_toJson (condition : Condition) :
    condition.toJson.isNumberless = !condition.hasLiteral := by
  obtain ⟨_ | root⟩ := condition
  · rfl
  · rw [toJson, Json.isNumberless_object, hasLiteral, leaves]
    simpa [Json.optional] using root.isNumberless_toJson

theorem canonical_eq_normalize {condition : Condition} (h : condition.hasLiteral = false) :
    condition.canonical = condition.normalize := by
  obtain ⟨_ | root⟩ := condition
  · rfl
  · rw [canonical, normalize, Option.map_some, root.canonical_eq_normalize h, Option.map_some]

end Condition

end CardFilter
