import CardFilter.Calendar.Moment
import CardFilter.Condition.Basic

/-!
# Complete conditions

What is still missing from a condition.  A slot is filled when it holds something to compare with; a
leaf is complete when its test is chosen and every slot it needs is filled, and a group when it has
children and all of them are complete.  An empty group is a place that somebody means to fill, so it
counts as one missing thing, except that a condition of nothing else filters nothing and may be
saved.
-/

namespace CardFilter

open Text (isFilled)

def NumberValue.isFilled : NumberValue → Bool
  | .literal (some value) => value.isFinite
  | .literal none => false
  | .reference fieldId => Text.isFilled fieldId

def DateValue.isFilled : DateValue → Bool
  | .keyDate token => Text.isFilled token
  | .specific text => Calendar.namesDate text

/-- At least one identifier, and none of them blank. -/
def allFilled (ids : List String) : Bool := !ids.isEmpty && ids.all isFilled

def Operand.isFilled : Operand → Bool
  | .nothing => true
  | .text value => Text.isFilled value
  | .number value => value.any NumberValue.isFilled
  | .numberRange lower upper => lower.any NumberValue.isFilled && upper.any NumberValue.isFilled
  | .date value => value.any DateValue.isFilled
  | .dateRange lower upper => lower.any DateValue.isFilled && upper.any DateValue.isFilled
  | .one _ id => Text.isFilled id
  | .many _ ids => allFilled ids
  | .cards ids => ids.any allFilled
  | .cycles values => !values.isEmpty

def Test.isFilled {kind : Kind} (test : Test kind) : Bool := test.operand.isFilled

def Identity.isFilled : Identity → Bool
  | .implied => true
  | .named id => Text.isFilled id
  | .system field => field.isSome

def Path.isFilled (path : Path) : Bool := path.hops.all Text.isFilled

def Subject.isFilled {kind : Kind} (subject : Subject kind) : Bool :=
  subject.identity.isFilled && subject.path.all Path.isFilled

def Leaf.isComplete (leaf : Leaf) : Bool := leaf.subject.isFilled && leaf.test.any Test.isFilled

namespace Node

mutual

def isComplete : Node → Bool
  | .group _ children => !children.isEmpty && allComplete children
  | .leaf item => item.isComplete

def allComplete : List Node → Bool
  | [] => true
  | child :: rest => isComplete child && allComplete rest

end

mutual

/-- How many leaves are not complete and how many groups are empty. -/
def missing : Node → Nat
  | .group _ [] => 1
  | .group _ (child :: rest) => missing child + missingIn rest
  | .leaf item => if item.isComplete then 0 else 1

def missingIn : List Node → Nat
  | [] => 0
  | child :: rest => missing child + missingIn rest

end

mutual

/-- How many groups lie inside one another. -/
def depth : Node → Nat
  | .group _ children => depthIn children + 1
  | .leaf _ => 0

def depthIn : List Node → Nat
  | [] => 0
  | child :: rest => max (depth child) (depthIn rest)

end

def isEmptyGroup : Node → Bool
  | .group _ children => children.isEmpty
  | .leaf _ => false

end Node

namespace Condition

def isComplete (condition : Condition) : Bool := condition.root.all Node.isComplete

/-- Whether nothing is filtered: no root, or a root group without children. -/
def isEmpty (condition : Condition) : Bool := condition.root.all Node.isEmptyGroup

/-- Whether the condition may be saved. -/
def isSubmittable (condition : Condition) : Bool := condition.isEmpty || condition.isComplete

def missing (condition : Condition) : Nat := (condition.root.map Node.missing).getD 0

def depth (condition : Condition) : Nat := (condition.root.map Node.depth).getD 0

def exceeds (condition : Condition) (limit : Nat) : Bool := decide (limit < condition.depth)

end Condition

end CardFilter
