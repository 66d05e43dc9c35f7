import ChartParser.Grammar.Basic
import ChartParser.Tree

/-!
# Packed forests

The nodes of a forest lie in one arena and refer to each other by position. A node stands for a
label over a span, and each of its families is one way to derive it. Recent nodes are found again
by label and span; the arena forgets which were recent where a new column begins.
-/

namespace ChartParser

/-- The position of a node in its arena. -/
abbrev NodeId := Nat

/-- What a node stands for: a finished nonterminal, the first `dot` symbols of a production, or a
token read as a terminal. -/
inductive Label where
  | nonterminal (id : NonterminalId)
  | progress (nonterminal : NonterminalId) (production : ProductionId) (dot : Nat)
  | token (terminal : TerminalId) (index : Nat)
deriving DecidableEq, Repr

/-- The nodes below a family: none for an empty production, one for a first symbol, and two for what
came before a symbol together with the symbol. -/
inductive Children where
  | empty
  | one (child : NodeId)
  | two (left right : NodeId)
deriving DecidableEq, Repr

/-- One way to derive a node. -/
structure Family where
  production : ProductionId
  children : Children
deriving DecidableEq, Repr

/-- What a node is known by. -/
structure NodeKey where
  span : Span
  label : Label
deriving DecidableEq, Repr

/-- A node of a forest. -/
structure Node where
  key : NodeKey
  families : List Family
deriving DecidableEq, Repr

namespace Node

/-- The label of the node. -/
def label (node : Node) : Label := node.key.label

/-- The span that the node covers. -/
def span (node : Node) : Span := node.key.span

/-- Whether the node can be derived in more than one way. -/
def isAmbiguous (node : Node) : Bool := node.families.length > 1

/-- Whether the node stands for a token. -/
def isToken (node : Node) : Bool :=
  match node.label with
  | .token _ _ => true
  | _ => false

/-- Whether the node stands for the beginning of a production, and so for nothing in a tree. -/
def isProgress (node : Node) : Bool :=
  match node.label with
  | .progress _ _ _ => true
  | _ => false

/-- The nonterminal that the node belongs to, unless it is a token. -/
def nonterminal? (node : Node) : Option NonterminalId :=
  match node.label with
  | .nonterminal id => some id
  | .progress id _ _ => some id
  | .token _ _ => none

/-- The node with one more family at the end, unless it has the family already. -/
def addFamily (node : Node) (family : Family) : Node :=
  if family ∈ node.families then node else { node with families := node.families ++ [family] }

end Node

/-- The nodes of a forest, and the recent ones among them. -/
structure Arena where
  nodes : Array Node
  recent : List (NodeKey × NodeId)
deriving DecidableEq, Repr

namespace Arena

/-- The arena without nodes. -/
def empty : Arena := ⟨#[], []⟩

/-- The number of nodes. -/
def size (arena : Arena) : Nat := arena.nodes.size

/-- The node of that key: the recent one if there is one, else a new one without families. -/
def nodeFor (arena : Arena) (key : NodeKey) : NodeId × Arena :=
  match arena.recent.lookup key with
  | some id => (id, arena)
  | none =>
    (arena.nodes.size,
      ⟨arena.nodes.push ⟨key, []⟩, (key, arena.nodes.size) :: arena.recent⟩)

/-- The node of a key has that key, provided the recent nodes have theirs. -/
theorem key_nodeFor {arena : Arena} {key : NodeKey}
    (recent : ∀ entry ∈ arena.recent, (arena.nodes[entry.2]?).map (·.key) = some entry.1) :
    ((arena.nodeFor key).2.nodes[(arena.nodeFor key).1]?).map (·.key) = some key := by
  rw [nodeFor]
  split
  · rename_i id found
    obtain ⟨before, after, shape, -⟩ := List.lookup_eq_some_iff.1 found
    exact recent (key, id) (by simp [shape])
  · simp

/-- The arena in which the node has the family. -/
def addFamily (arena : Arena) (id : NodeId) (family : Family) : Arena :=
  { arena with nodes := arena.nodes.modify id (·.addFamily family) }

/-- The arena in which the node has the family, if the node exists. -/
def addFamily? (arena : Arena) (id : NodeId) (family : Family) : Option Arena :=
  if id < arena.nodes.size then some (arena.addFamily id family) else none

/-- The arena in which no node counts as recent. -/
def forgetRecent (arena : Arena) : Arena := { arena with recent := [] }

end Arena

/-- Whether a way down, given by its nodes, has met the node. -/
def meets (path : List NodeId) (id : NodeId) : Bool := path.any (· == id)

/-- A way down has met exactly the nodes on it. -/
theorem meets_iff {path : List NodeId} {id : NodeId} : meets path id = true ↔ id ∈ path := by
  simp [meets]

/-- A packed forest: the nodes, the one at its root, and the grammar that names things. -/
structure Forest where
  grammar : Grammar
  arena : Arena
  root : NodeId

end ChartParser
