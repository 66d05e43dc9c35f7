import ChartParser.Forest.Arena
import ChartParser.Forest.Choices

/-!
# The trees of a forest

All trees of a forest, in the order of the families. A node for the beginning of a production puts
its children in the place where it stands. A node that is met again on the way down to it
contributes nothing, so that a forest with cycles still has finitely many trees.
-/

namespace ChartParser

namespace Children

/-- The child lists that these nodes stand for together, given those of each. -/
def sequences (below : NodeId → Option (List (List Tree))) :
    Children → Option (List (List Tree))
  | empty => some [[]]
  | one child => below child
  | two left right => do
    let before ← below left
    let after ← below right
    return (combinations [before, after]).map List.flatten

end Children

namespace Forest

/-- The trees that a node stands for by itself, given the child lists of nodes: a node for the
beginning of a production stands for none. -/
def treesOf (g : Grammar) (children : NodeId → Option (List (List Tree))) (id : NodeId)
    (node : Node) : Option (List Tree) :=
  match node.label with
  | .token terminal _ => do
    let name ← g.symbolName? (.terminal terminal)
    return [.leaf ⟨name, node.span⟩]
  | .nonterminal nonterminal => do
    let name ← g.symbolName? (.nonterminal nonterminal)
    let sequences ← children id
    return sequences.map (.branch ⟨name, node.span⟩)
  | .progress _ _ _ => some []

/-- The child lists that a node contributes to the family it stands in, given the child lists of
nodes. -/
def contributions (g : Grammar) (arena : Arena) (children : NodeId → Option (List (List Tree)))
    (id : NodeId) : Option (List (List Tree)) := do
  let node ← arena.nodes[id]?
  if node.isProgress then children id
  else return (← treesOf g children id node).map ([·])

/-- The child lists of a node that is reached through the nodes of `path`, going down at most
`depth` nodes; nothing if some node or name does not exist. -/
def childrenWithin (g : Grammar) (arena : Arena) :
    Nat → List NodeId → NodeId → Option (List (List Tree))
  | 0, _, _ => none
  | depth + 1, path, id =>
    if meets path id then some []
    else do
      let node ← arena.nodes[id]?
      let below := contributions g arena (childrenWithin g arena depth (id :: path))
      return (← node.families.mapM (·.children.sequences below)).flatten

/-- The trees of the forest, if all nodes and names that are looked at exist. No way down meets more
nodes than there are before it is cut. -/
def trees? (forest : Forest) : Option (List Tree) := do
  let node ← forest.arena.nodes[forest.root]?
  treesOf forest.grammar
    (childrenWithin forest.grammar forest.arena (forest.arena.size + 1) []) forest.root node

end Forest

end ChartParser
