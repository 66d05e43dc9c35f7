import ChartParser.Forest.Arena

/-!
# Chart items

An item records that the first symbols of a production have been recognized from some position on.
It carries the forest node for those symbols, once there are any.
-/

namespace ChartParser

/-- A production of which `dot` symbols have been recognized from token position `origin` on. -/
structure Item where
  origin : Nat
  production : ProductionId
  dot : Nat
  node : Option NodeId
deriving DecidableEq, Repr

namespace Item

/-- A production of which nothing has been recognized yet. -/
def predicted (production : ProductionId) (origin : Nat) : Item := ⟨origin, production, 0, none⟩

/-- The item after one more symbol, with the node for all symbols so far. -/
def advanced (item : Item) (node : NodeId) : Item :=
  { item with dot := item.dot + 1, node := some node }

/-- The production, the number of symbols recognized and the origin. -/
def text (item : Item) : String :=
  "#" ++ toString item.production ++ "・" ++ toString item.dot ++ " @" ++ toString item.origin

/-- The symbol that the item waits for, if its production is not finished. -/
def awaited? (g : Grammar) (item : Item) : Option Symbol := g.symbolAt? item.production item.dot

/-- The node for the item after one more symbol, whose node is `child` and ends at `stop`. The first
symbol of a longer production needs no node of its own: the child stands for it. -/
def nodeAfter (g : Grammar) (arena : Arena) (item : Item) (stop : Nat) (child : NodeId) :
    NodeId × Arena :=
  match g.productions[item.production]? with
  | none => (child, arena)
  | some production =>
    let dot := item.dot + 1
    if dot = 1 ∧ production.length ≥ 2 then (child, arena)
    else
      let label : Label :=
        if dot = production.length then .nonterminal production.lhs
        else .progress production.lhs item.production dot
      let children : Children :=
        match item.node with
        | none => .one child
        | some left => .two left child
      let (node, arena) := arena.nodeFor ⟨⟨item.origin, stop⟩, label⟩
      (node, arena.addFamily node ⟨item.production, children⟩)

end Item

end ChartParser
