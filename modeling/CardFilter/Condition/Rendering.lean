import CardFilter.Condition.Basic
import CardFilter.Number.Decimal
import CardFilter.Text.Quoted

/-!
# Conditions on one line

The text that people read.  Groups stand in parentheses with the connective between their children,
leaves name the way, the kind, the subject, the relation and what is compared with.  A missing test
is said to be missing, and a missing value is a question mark.  Texts are quoted; identifiers are
not.
-/

namespace CardFilter

/-- Texts with a separator between them. -/
def joined (separator : String) (texts : List (List Char)) : List Char :=
  separator.toList.intercalate texts

def joinedNames (separator : String) (names : List String) : List Char :=
  joined separator (names.map String.toList)

def bracketed (names : List String) : List Char := '[' :: joinedNames ", " names ++ [']']

def Path.chars (path : Path) : List Char :=
  "via(".toList ++ joinedNames " > " path.hops ++ [')', ' ']

def NumberValue.chars : NumberValue → List Char
  | .literal (some value) => NumberStyle.plain.text value
  | .literal none => ['?']
  | .reference fieldId => '$' :: fieldId.toList

def DateValue.chars : DateValue → List Char
  | .keyDate token => token.toList
  | .specific text => text.toList

/-- A question mark for a value that is missing. -/
def orUnknown {α : Type} (chars : α → List Char) (value : Option α) : List Char :=
  (value.map chars).getD ['?']

/-- The comparison value with a blank in front, or nothing. -/
def Operand.chars : Operand → List Char
  | .nothing => []
  | .text value => ' ' :: Text.quoted value
  | .number value => ' ' :: orUnknown NumberValue.chars value
  | .numberRange lower upper =>
    ' ' :: orUnknown NumberValue.chars lower ++ '.' :: '.' :: orUnknown NumberValue.chars upper
  | .date value => ' ' :: orUnknown DateValue.chars value
  | .dateRange lower upper =>
    ' ' :: orUnknown DateValue.chars lower ++ '.' :: '.' :: orUnknown DateValue.chars upper
  | .one _ id => ' ' :: id.toList
  | .many _ ids => ' ' :: bracketed ids
  | .cards ids => ' ' :: orUnknown bracketed ids
  | .cycles values => ' ' :: bracketed (values.map Cycle.name)

def Test.chars {kind : Kind} (test : Test kind) : List Char :=
  ' ' :: test.relation.name.toList ++ test.operand.chars

def SystemDate.chars (date : SystemDate) : List Char := date.name.toList

/-- The identity in brackets, if the kind does not say it. -/
def Identity.chars : Identity → List Char
  | .implied => []
  | .named id => '[' :: id.toList ++ [']']
  | .system field => "[SYSTEM:".toList ++ orUnknown SystemDate.chars field ++ [']']

def Leaf.chars (leaf : Leaf) : List Char :=
  (leaf.path.map Path.chars).getD [] ++ leaf.kind.name.toList ++ leaf.subject.identity.chars ++
    (leaf.test.map Test.chars).getD " <no operator>".toList

def Leaf.text (leaf : Leaf) : String := String.ofList leaf.chars

namespace Node

mutual

def chars : Node → List Char
  | .group connective children => '(' :: allChars connective children ++ [')']
  | .leaf item => item.chars

/-- Children with the connective between them. -/
def allChars (connective : Connective) : List Node → List Char
  | [] => []
  | [child] => chars child
  | child :: rest =>
    chars child ++ ' ' :: connective.name.toList ++ ' ' :: allChars connective rest

end

def text (node : Node) : String := String.ofList node.chars

end Node

namespace Condition

def chars (condition : Condition) : List Char :=
  (condition.root.map Node.chars).getD "<no filter>".toList

def text (condition : Condition) : String := String.ofList condition.chars

end Condition

end CardFilter
