import ChartParser.Proofs.Forest.Licence
import ChartParser.Proofs.Grammar.Viable

/-!
# Nodes that were wanted

Licensed nodes are true of the tokens wherever they stand. A chart makes a node only where something
asks for it: a node of a nonterminal or of the beginning of a production where that nonterminal is
expected, and a node of a token where its terminal is awaited. Which nodes there are can therefore
be said of the grammar and the tokens alone.
-/

namespace ChartParser

/-- The symbol comes next at the position, after symbols of a production that have been recognized
where the production itself may begin. -/
def Grammar.Awaits (g : Grammar) (fits : Nat → TerminalId → Bool) (root : NonterminalId)
    (symbol : Symbol) (position : Nat) : Prop :=
  ∃ (id : ProductionId) (production : Production) (dot start : Nat) (derivations : List Derivation),
    g.productions[id]? = some production ∧ g.Expects fits root production.lhs start ∧
    g.Spells fits (production.symbols.take dot) start position derivations ∧
    production.symbolAt? dot = some symbol

/-- What a node of this key stands for may begin where the node does. -/
def NodeKey.Wanted (g : Grammar) (fits : Nat → TerminalId → Bool) (root : NonterminalId)
    (key : NodeKey) : Prop :=
  match key.label with
  | .nonterminal id => g.Expects fits root id key.span.start
  | .progress id _ _ => g.Expects fits root id key.span.start
  | .token terminal index => g.Awaits fits root (.terminal terminal) index

/-- The node of a production is wanted where its left-hand side is expected. -/
theorem Production.wanted_ownLabel {g : Grammar} {fits : Nat → TerminalId → Bool}
    {root : NonterminalId} {production : Production} {id : ProductionId} {dot start stop : Nat} :
    NodeKey.Wanted g fits root ⟨⟨start, stop⟩, production.ownLabel id dot⟩ ↔
      g.Expects fits root production.lhs start := by
  rw [NodeKey.Wanted, ownLabel]
  split <;> rename_i label <;> split at label <;> simp_all

namespace Arena

variable {g : Grammar} {fits : Nat → TerminalId → Bool} {root : NonterminalId} {arena : Arena}
  {key : NodeKey}

/-- All nodes of the arena are wanted. -/
def Wanted (g : Grammar) (fits : Nat → TerminalId → Bool) (root : NonterminalId) (arena : Arena) :
    Prop :=
  ∀ ⦃id : NodeId⦄ ⦃key : NodeKey⦄, arena.key? id = some key → key.Wanted g fits root

/-- The empty arena has no node that is not wanted. -/
theorem wanted_empty : Arena.empty.Wanted g fits root := by
  intro id key known
  simp [Arena.empty, key?] at known

/-- A wanted node may be looked up or made. -/
theorem Wanted.nodeFor (wanted : arena.Wanted g fits root) (asked : key.Wanted g fits root) :
    (arena.nodeFor key).2.Wanted g fits root := by
  unfold Arena.nodeFor
  split
  · exact wanted
  · intro id other known
    have same : (if id = arena.nodes.size then some key else arena.key? id) = some other :=
      (map_getElem?_push arena.nodes ⟨key, []⟩ Node.key id).symm.trans known
    split at same
    · obtain rfl := Option.some.inj same
      exact asked
    · exact wanted same

/-- Families do not make nodes. -/
theorem Wanted.addFamily (wanted : arena.Wanted g fits root) (id : NodeId) (family : Family) :
    (arena.addFamily id family).Wanted g fits root := by
  intro other key known
  rw [key?_addFamily] at known
  exact wanted known

end Arena

end ChartParser
