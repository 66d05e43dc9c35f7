import ChartParser.Proofs.Forest.Agreement
import ChartParser.Proofs.Forest.Printing
import ChartParser.Proofs.Parser.Ambiguity
import ChartParser.Proofs.Parser.Budget

/-!
# Cycles in a printed parse

Printing the forest of a parse shows a cycle exactly if the tokens have infinitely many derivations.
One direction needs that the chart misses no derivation, the other that every node of the forest
unfolds to some derivation, so that going around a cycle gives a new one each time.
-/

namespace ChartParser.Parser

variable {τ : Type} [Scannable τ] {g : Grammar} {parser : Parser} {root : NonterminalId}
  {tokens : List τ} {forest : Forest}

/-- The forest of a parse can be printed, provided no name has a line feed, and the text has a line
that is `(cycle)` after its indentation exactly if the tokens have infinitely many derivations. They
have exactly if some cycle can be reached from the root of the forest. -/
theorem parseFrom_shows_cycle_iff (built : g.Built) (made : ofGrammar g = .ok parser)
    (unbroken : g.NamesUnbroken) (budget : Option Nat)
    (parsed : ({ parser with budget } : Parser).parseFrom root tokens = .ok forest) :
    ∃ text, forest.render? = some text ∧
      ((∃ line ∈ Text.lines text, Forest.IsCycleLine line) ↔
        (derivationsOf g root tokens).Infinite) ∧
      ((derivationsOf g root tokens).Infinite ↔ forest.arena.LeadsToCycle forest.root) := by
  have consistent := built.consistent
  have ending := ending_of_budget consistent made parsed
  cases ending with
  | @covered chart node _ known whole filled key _ =>
  have licensed := filled.sound.arena
  obtain ⟨text, printed, shown⟩ := licensed.exists_render consistent unbroken key known
  have infinite : (derivationsOf g root tokens).Infinite ↔ chart.arena.LeadsToCycle node := by
    rw [← licensed.infinite_iff filled.sound.grounded key]
    rw [← whole] at key
    have same : {derivation | chart.arena.Unfolds [node] [derivation]} =
        derivationsOf g root tokens := by
      ext derivation
      show chart.arena.Unfolds [node] [derivation] ↔
        g.Spells (fitsAt g tokens) [.nonterminal root] 0 tokens.length [derivation]
      rw [filled.unfolds_iff consistent key, whole]
    rw [same]
  exact ⟨text, printed, shown.trans infinite.symm, infinite⟩

/-- The forest of one token in which `A` and `B` derive each other is printed with a cycle, because
there are infinitely many derivations of the token. -/
theorem parseFrom_loopingRules_shows_cycle :
    ∃ forest text, (⟨loopingRules, none⟩ : Parser).parseFrom 0 [tokenX] = .ok forest ∧
      forest.render? = some text ∧ (∃ line ∈ Text.lines text, Forest.IsCycleLine line) ∧
      (derivationsOf loopingRules 0 [tokenX]).Infinite ∧
      forest.arena.LeadsToCycle forest.root := by
  have built : loopingRules.Built := ⟨_, rfl⟩
  have made : ofGrammar loopingRules = .ok ⟨loopingRules, none⟩ :=
    ofGrammar_of_check (by decide +kernel)
  have unbroken : loopingRules.NamesUnbroken := by decide +kernel
  have cycles : (((⟨loopingRules, none⟩ : Parser).parseFrom 0 [tokenX]).toOption.bind
      (·.render?)).any (fun text => (Text.lines text).any (Forest.IsCycleLine ·)) = true := by
    decide +kernel
  cases parsed : (⟨loopingRules, none⟩ : Parser).parseFrom 0 [tokenX] with
  | error _ => simp [parsed, Except.toOption] at cycles
  | ok forest =>
    obtain ⟨text, printed, shown, infinite⟩ :=
      parseFrom_shows_cycle_iff built made unbroken none parsed
    have some_line : ∃ line ∈ Text.lines text, Forest.IsCycleLine line := by
      simpa [parsed, Except.toOption, printed] using cycles
    exact ⟨forest, text, rfl, printed, some_line, shown.1 some_line,
      infinite.1 (shown.1 some_line)⟩

end ChartParser.Parser
