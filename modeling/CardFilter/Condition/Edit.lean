import CardFilter.Condition.Decode
import CardFilter.Condition.Position

/-!
# Editing conditions in place

An edit changes the node at a place and nothing else, or is refused and changes nothing at all.
-/

namespace CardFilter

/-- Why an edit is refused. -/
inductive Refusal
  | noNode
  | notGroup
  | notLeaf
  | unreadableTest
deriving DecidableEq, Repr

namespace Node

/-- Changes the node at a place. -/
def modifyAt (change : Node → Except Refusal Node) : List Nat → Node → Except Refusal Node
  | [], node => change node
  | index :: rest, .group connective children =>
    match children[index]? with
    | none => .error .noNode
    | some child =>
      (modifyAt change rest child).map fun changed ↦
        .group connective (children.set index changed)
  | _ :: _, .leaf _ => .error .noNode

/-- Adds a last child. -/
def push : Node → Node → Except Refusal Node
  | .group connective children, node => .ok (.group connective (children ++ [node]))
  | .leaf _, _ => .error .notGroup

def changeLeaf (change : Leaf → Except Refusal Leaf) : Node → Except Refusal Node
  | .group .. => .error .notLeaf
  | .leaf item => (change item).map .leaf

end Node

/-- The test that a value stands for, or none for null. -/
def Leaf.setTest (value : Json) (leaf : Leaf) : Except Refusal Leaf :=
  match Json.nullable? (Test.read? leaf.kind) value with
  | some test => .ok { leaf with test := test }
  | none => .error .unreadableTest

namespace Condition

def modifyAt (place : List Nat) (change : Node → Except Refusal Node) (condition : Condition) :
    Except Refusal Condition :=
  match condition.root with
  | none => .error .noNode
  | some root => (root.modifyAt change place).map ofNode

def pushAt (place : List Nat) (node : Node) (condition : Condition) : Except Refusal Condition :=
  condition.modifyAt place fun group ↦ group.push node

/-- Adds a child to the root group. -/
def push (node : Node) (condition : Condition) : Except Refusal Condition :=
  match condition.root with
  | none => .error .notGroup
  | some root => (root.push node).map ofNode

/-- Stores a path as it is given, with hops or without. -/
def setPathAt (place : List Nat) (path : Option Path) (condition : Condition) :
    Except Refusal Condition :=
  condition.modifyAt place (Node.changeLeaf fun leaf ↦ .ok (leaf.withPath path))

def setTestAt (place : List Nat) (value : Json) (condition : Condition) :
    Except Refusal Condition :=
  condition.modifyAt place (Node.changeLeaf (Leaf.setTest value))

def normalizeAt (place : List Nat) (condition : Condition) : Except Refusal Condition :=
  condition.modifyAt place fun node ↦ .ok node.normalize

end Condition

end CardFilter
