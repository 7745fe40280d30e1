import CardFilter.Condition.Basic

/-!
# Places in a condition

Nodes are named by places: the indices of children on the way from the root.  A node comes before
its children, and children come in their order.
-/

namespace CardFilter

namespace Node

/-- The node at a place below this one. -/
def at? : List Nat → Node → Option Node
  | [], node => some node
  | index :: rest, .group _ children => children[index]?.bind (at? rest)
  | _ :: _, .leaf _ => none

mutual

/-- All nodes with their places, given the place of the first. -/
def positions (place : List Nat) : Node → List (List Nat × Node)
  | .group connective children =>
    (place, .group connective children) :: positionsFrom place 0 children
  | .leaf item => [(place, .leaf item)]

/-- The positions below the children of the node at a place, from an index on. -/
def positionsFrom (place : List Nat) (index : Nat) : List Node → List (List Nat × Node)
  | [] => []
  | child :: rest => positions (place ++ [index]) child ++ positionsFrom place (index + 1) rest

end

end Node

namespace Condition

def at? (place : List Nat) (condition : Condition) : Option Node :=
  condition.root.bind (Node.at? place)

def positions (condition : Condition) : List (List Nat × Node) :=
  (condition.root.map (Node.positions [])).getD []

end Condition

end CardFilter
