import ChartParser.Proofs.Parser.Budget
import ChartParser.Proofs.Parser.Recognition

/-!
# One node for each label and span

The arena forgets its recent nodes where a new column begins, and yet a key never gets a second
node: every node is made while the column is filled at which it ends, and the recent nodes are all
the nodes that end there. A node that is asked for again is therefore either found, or asked for
under a key that no node has.
-/

namespace ChartParser

/-- In a licensed arena no two nodes have the same label and span, and no node has the same family
twice. -/
theorem Arena.Licensed.nodup_keys {g : Grammar} {fits : Nat → TerminalId → Bool} {stop : Nat}
    {arena : Arena} (licensed : arena.Licensed g fits stop) :
    (arena.nodes.toList.map Node.key).Nodup ∧ ∀ node ∈ arena.nodes, node.families.Nodup := by
  constructor
  · exact ChartParser.nodup_keys arena.nodes Node.key licensed.unique
  · intro node inside
    obtain ⟨id, found⟩ := Array.mem_iff_getElem?.1 inside
    exact licensed.nodup found

namespace Parser

variable {τ : Type} [Scannable τ] {g : Grammar} {parser : Parser} {root : NonterminalId}
  {tokens : List τ} {forest : Forest}

/-- In the forest of a parse, whatever its budget, no two nodes have the same label and span, and no
node has the same family twice. -/
theorem parseFrom_nodup_keys (built : g.Built) (made : ofGrammar g = .ok parser)
    (budget : Option Nat)
    (parsed : ({ parser with budget } : Parser).parseFrom root tokens = .ok forest) :
    (forest.arena.nodes.toList.map Node.key).Nodup ∧
      ∀ node ∈ forest.arena.nodes, node.families.Nodup := by
  have ending := ending_of_budget built.consistent made parsed
  cases ending with
  | covered _ _ filled _ _ => exact filled.sound.arena.nodup_keys

/-- The grammar of `S -> S S` and `S -> x`. -/
def pairing : Grammar := .ofEntries [.rule "S" ["S", "S"], .rule "S" ["x"]]

/-- In this grammar `S` over three tokens is derived in two ways, from the same nodes over fewer
tokens, within a budget of a hundred items. -/
theorem parseFrom_pairing_nodup_keys :
    ∃ forest,
      (⟨pairing, some 100⟩ : Parser).parseFrom 0 [tokenX, tokenX, tokenX] = .ok forest ∧
        (forest.arena.nodes.toList.map Node.key).Nodup ∧
        ∀ node ∈ forest.arena.nodes, node.families.Nodup := by
  have built : pairing.Built := ⟨_, rfl⟩
  have made : ofGrammar pairing = .ok ⟨pairing, none⟩ := ofGrammar_of_check (by decide +kernel)
  obtain ⟨forest, parsed⟩ : ∃ forest,
      (⟨pairing, some 100⟩ : Parser).parseFrom 0 [tokenX, tokenX, tokenX] = .ok forest :=
    exists_eq_ok (by decide +kernel)
  exact ⟨forest, parsed, parseFrom_nodup_keys built made (some 100) parsed⟩

end Parser

end ChartParser
