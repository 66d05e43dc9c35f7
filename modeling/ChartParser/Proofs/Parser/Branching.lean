import ChartParser.Proofs.Forest.Branching
import ChartParser.Proofs.Parser.Ambiguity
import ChartParser.Proofs.Parser.Budget

/-!
# Ambiguity of a forest and of its nodes

A forest is ambiguous if it counts more than one tree, a node if it has more than one family. Where
the tokens have finitely many derivations the two agree: the forest is ambiguous exactly if some
node below its root is. That the count is cut at the largest count of 64 bits does not matter here,
because it is cut far above one.
-/

namespace ChartParser

/-- A count that stops at the largest one still tells one from more. -/
theorem one_lt_min_maxCount {count : Nat} : 1 < min count maxCount ↔ 1 < count := by
  have large : 1 < maxCount := by decide
  omega

namespace Parser

variable {τ : Type} [Scannable τ] {g : Grammar} {parser : Parser} {root : NonterminalId}
  {tokens : List τ} {forest : Forest}

/-- If the tokens have finitely many derivations, their forest is known to be ambiguous or not,
whatever the budget of the parse, and it is ambiguous exactly if a node with more than one family
can be reached from its root. -/
theorem parseFrom_isAmbiguous_iff (built : g.Built) (made : ofGrammar g = .ok parser)
    (budget : Option Nat) (finite : (derivationsOf g root tokens).Finite)
    (parsed : ({ parser with budget } : Parser).parseFrom root tokens = .ok forest) :
    ∃ ambiguous, forest.isAmbiguous? = some ambiguous ∧
      (ambiguous = true ↔ ∃ id node,
        Relation.ReflTransGen forest.arena.Child forest.root id ∧
          forest.arena.nodes[id]? = some node ∧ node.isAmbiguous = true) := by
  have consistent := built.consistent
  have ending := ending_of_budget consistent made parsed
  cases ending with
  | @covered chart node _ known whole filled key _ =>
  have licensed := filled.sound.arena
  have bounded : chart.arena.Bounded node := by
    refine licensed.bounded_of_finite key (finite.subset fun derivation unfolds => ?_)
    exact Arena.Unfolds.spells licensed unfolds (Arena.Row.single key)
  have counted := licensed.count?_eq consistent key known
  refine ⟨decide (min (chart.arena.derivations node).length maxCount > 1), ?_, ?_⟩
  · rw [Forest.isAmbiguous?, counted, Option.map_some]
  rw [decide_eq_true_iff, gt_iff_lt, one_lt_min_maxCount,
    licensed.one_lt_length_derivations_iff key bounded, licensed.varies_iff filled.sound.grounded]
  rfl

/-- The forest of the one token that has two derivations is ambiguous, and so a node below its root
has two families. -/
theorem parseFrom_twoWays_isAmbiguous :
    ∃ forest, (⟨twoWays, some 10⟩ : Parser).parseFrom 0 [tokenX] = .ok forest ∧
      forest.isAmbiguous? = some true ∧ ∃ id node,
        Relation.ReflTransGen forest.arena.Child forest.root id ∧
          forest.arena.nodes[id]? = some node ∧ node.isAmbiguous = true := by
  have finite : (derivationsOf twoWays 0 [tokenX]).Finite := by
    rw [derivationsOf_twoWays]
    exact Set.toFinite _
  have shown : (((⟨twoWays, some 10⟩ : Parser).parseFrom 0 [tokenX]).toOption.bind
      (·.isAmbiguous?)) = some true := by with_unfolding_all rfl
  cases parsed : (⟨twoWays, some 10⟩ : Parser).parseFrom 0 [tokenX] with
  | error _ => simp [parsed, Except.toOption] at shown
  | ok forest =>
    obtain ⟨ambiguous, told, branches⟩ :=
      parseFrom_isAmbiguous_iff built_twoWays ofGrammar_twoWays (some 10) finite parsed
    have answer : forest.isAmbiguous? = some true := by simpa [parsed, Except.toOption] using shown
    obtain rfl := Option.some.inj (told.symm.trans answer)
    exact ⟨forest, rfl, answer, branches.1 rfl⟩

end Parser

end ChartParser
