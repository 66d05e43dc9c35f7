import ChartParser.Proofs.Forest.Cuts
import ChartParser.Proofs.Parser.Ambiguity

/-!
# What cutting keeps of a sentence

Where the tokens have infinitely many derivations, the trees of their forest are those of the
derivations none of whose ways down meets a node of the forest twice
(`Parser.parseFrom_lists_nodup_ways`). That is more than a derivation without cycles promises: the
nodes for the beginnings of productions are shared by constituents that start at the same token, so
that a way may come back to such a node without coming back to a constituent. Derivations of this
kind are not listed (`Parser.parseFrom_cuts_shared_beginning`). There are none if no production has
more than two symbols, because such productions need no further nodes
(`Parser.parseFrom_lists_acyclic`).
-/

namespace ChartParser

/-- The derivations listed for the root in a chart whose columns are all closed are those of the
tokens none of whose ways down meets a node twice. -/
theorem Chart.Filled.mem_derivations_iff {g : Grammar} {fits : Nat → TerminalId → Bool}
    {root : NonterminalId} {chart : Chart} {node : NodeId} (consistent : g.Consistent)
    (filled : chart.Filled g fits root (chart.position + 1))
    (key : chart.arena.key? node = some ⟨⟨0, chart.position⟩, .nonterminal root⟩)
    {derivation : Derivation} : derivation ∈ chart.arena.derivations node ↔
      g.Spells fits [.nonterminal root] 0 chart.position [derivation] ∧
        ∀ way ∈ derivation.ways g, way.Nodup := by
  rw [filled.sound.arena.mem_derivations_iff_nodup key, filled.unfolds_iff consistent key]

namespace Parser

variable {τ : Type} [Scannable τ] {g : Grammar} {parser : Parser} {root : NonterminalId}
  {tokens : List τ} {forest : Forest}

/-- Where a parse has ended with a forest, the trees and the count of the forest are those of a list
of the derivations of the tokens none of whose ways down meets a node twice. -/
theorem Ending.exists_listing (consistent : g.Consistent)
    (ending : Ending g root tokens (.ok forest)) :
    ∃ derivations : List Derivation,
      forest.trees? = some (derivations.map (Derivation.tree g)) ∧
      forest.count? = some (min derivations.length maxCount) ∧ derivations.Nodup ∧
      ∀ derivation, derivation ∈ derivations ↔
        derivation ∈ derivationsOf g root tokens ∧ ∀ way ∈ derivation.ways g, way.Nodup := by
  cases ending with
  | @covered chart node _ known whole filled key _ =>
  have licensed := filled.sound.arena
  have trees := licensed.trees?_eq consistent key known
  have counted := licensed.count?_eq consistent key known
  have once := licensed.nodup_derivations node
  refine ⟨chart.arena.derivations node, trees, counted, once, fun derivation => ?_⟩
  rw [← whole] at key
  have listed : derivation ∈ chart.arena.derivations node ↔ _ :=
    filled.mem_derivations_iff consistent key
  rw [whole] at listed
  exact listed

/-- The trees of a forest are those of the derivations of the tokens none of whose ways down meets a
node twice, each listed once. -/
theorem parseFrom_lists_nodup_ways (built : g.Built) (made : ofGrammar g = .ok parser)
    (parsed : parser.parseFrom root tokens = .ok forest) :
    ∃ derivations : List Derivation,
      forest.trees? = some (derivations.map (Derivation.tree g)) ∧ derivations.Nodup ∧
      ∀ derivation, derivation ∈ derivations ↔
        derivation ∈ derivationsOf g root tokens ∧ ∀ way ∈ derivation.ways g, way.Nodup := by
  have consistent := built.consistent
  have ending := parseFrom_ending consistent made root tokens
  rw [parsed] at ending
  cases ending with
  | @covered chart node _ known whole filled key _ =>
  have licensed := filled.sound.arena
  have trees := licensed.trees?_eq consistent key known
  refine ⟨chart.arena.derivations node, trees, licensed.nodup_derivations node, ?_⟩
  intro derivation
  rw [← whole] at key
  have listed : derivation ∈ chart.arena.derivations node ↔ _ :=
    filled.mem_derivations_iff consistent key
  rw [whole] at listed
  exact listed

/-- The grammar of `S -> S Y Y | 0` and `Y -> y | 0`. -/
def emptiable : Grammar := .ofEntries
  [.rule "S" ["S", "Y", "Y"], .rule "S" [], .rule "Y" ["y"], .rule "Y" []]

/-- The token that the terminal of this grammar fits. -/
def tokenY : PlainToken := ⟨"y", "y"⟩

/-- The trees of two tokens are those of the derivations without a node twice on a way down. -/
theorem parseFrom_emptiable_lists :
    ∃ (forest : Forest) (derivations : List Derivation),
      (⟨emptiable, none⟩ : Parser).parseFrom 0 [tokenY, tokenY] = .ok forest ∧
      forest.trees? = some (derivations.map (Derivation.tree emptiable)) ∧ derivations.Nodup ∧
      ∀ derivation, derivation ∈ derivations ↔
        derivation ∈ derivationsOf emptiable 0 [tokenY, tokenY] ∧
          ∀ way ∈ derivation.ways emptiable, way.Nodup := by
  have built : emptiable.Built := ⟨_, rfl⟩
  have made : ofGrammar emptiable = .ok ⟨emptiable, none⟩ :=
    ofGrammar_of_check (by decide +kernel)
  obtain ⟨forest, parsed⟩ : ∃ forest,
      (⟨emptiable, none⟩ : Parser).parseFrom 0 [tokenY, tokenY] = .ok forest :=
    exists_eq_ok (by decide +kernel)
  obtain ⟨derivations, listed⟩ := parseFrom_lists_nodup_ways built made parsed
  exact ⟨forest, derivations, parsed, listed⟩

/-! ## Derivations without cycles -/

/-- If no production has more than two symbols, every derivation of the tokens in which no way down
meets a constituent twice is listed. -/
theorem parseFrom_lists_acyclic (built : g.Built) (made : ofGrammar g = .ok parser)
    (short : ∀ {rule : ProductionId} {production : Production},
      g.productions[rule]? = some production → production.length ≤ 2)
    (parsed : parser.parseFrom root tokens = .ok forest) {derivation : Derivation}
    (spelled : derivation ∈ derivationsOf g root tokens)
    (acyclic : ∀ way ∈ derivation.ways g, (way.filter NodeKey.isConstituent).Nodup) :
    ∃ trees, forest.trees? = some trees ∧ derivation.tree g ∈ trees := by
  have consistent := built.consistent
  have ending := parseFrom_ending consistent made root tokens
  rw [parsed] at ending
  cases ending with
  | @covered chart node _ known whole filled key _ =>
  have trees := filled.sound.arena.trees?_eq consistent key known
  refine ⟨_, trees, List.mem_map_of_mem ?_⟩
  rw [← whole] at key
  have spells : g.Spells (fitsAt g tokens) [.nonterminal root] 0 chart.position [derivation] := by
    rw [whole]
    exact spelled
  refine (filled.mem_derivations_iff consistent key).2 ⟨spells, fun way inside => ?_⟩
  have shown := spells.isConstituent_of_short short derivation List.mem_cons_self way inside
  have once := acyclic way inside
  rwa [List.filter_eq_self.2 shown] at once

/-- A derivation of two tokens in which `S` is first empty, then covers the first token by the first
`Y` behind it, and then the second token by the second `Y` behind that. -/
def emptyThenFull : Derivation :=
  .branch 0 ⟨0, 2⟩
    [.branch 0 ⟨0, 1⟩ [.branch 1 ⟨0, 0⟩ [], .branch 2 ⟨0, 1⟩ [.token 0 0], .branch 3 ⟨1, 1⟩ []],
      .branch 3 ⟨1, 1⟩ [], .branch 2 ⟨1, 2⟩ [.token 0 1]]

/-- The derivation is one of the two tokens. -/
theorem emptyThenFull_mem : emptyThenFull ∈ derivationsOf emptiable 0 [tokenY, tokenY] := by
  have fits : ∀ index < 2, fitsAt emptiable [tokenY, tokenY] index 0 = true := by
    with_unfolding_all decide
  have longer : emptiable.productions[0]? =
      some ⟨0, 0, [.nonterminal 0, .nonterminal 1, .nonterminal 1]⟩ := by with_unfolding_all rfl
  have nothing : emptiable.productions[1]? = some ⟨1, 0, []⟩ := by with_unfolding_all rfl
  have full : emptiable.productions[2]? = some ⟨2, 1, [.terminal 0]⟩ := by with_unfolding_all rfl
  have empty : emptiable.productions[3]? = some ⟨3, 1, []⟩ := by with_unfolding_all rfl
  have first := Grammar.Spells.token (g := emptiable) (fits 0 (by decide)) .nil
  have second := Grammar.Spells.token (g := emptiable) (fits 1 (by decide)) .nil
  have inner := Grammar.Spells.branch nothing .nil (.branch full first (.branch empty .nil .nil))
  exact .branch longer (.branch longer inner (.branch empty .nil (.branch full second .nil))) .nil

/-- No constituent occurs twice on a way down this derivation of the two tokens, and yet its tree is
not among those of the forest: the node for `S Y` over the first token lies both behind the outer
`S` and behind the inner one. -/
theorem parseFrom_cuts_shared_beginning :
    ofGrammar emptiable = .ok ⟨emptiable, none⟩ ∧
      emptyThenFull ∈ derivationsOf emptiable 0 [tokenY, tokenY] ∧
      (∀ way ∈ emptyThenFull.ways emptiable, (way.filter NodeKey.isConstituent).Nodup) ∧
      ∃ forest trees, (⟨emptiable, none⟩ : Parser).parseFrom 0 [tokenY, tokenY] = .ok forest ∧
        forest.trees? = some trees ∧ emptyThenFull.tree emptiable ∉ trees := by
  have made : ofGrammar emptiable = .ok ⟨emptiable, none⟩ :=
    ofGrammar_of_check (by decide +kernel)
  have acyclic : ∀ way ∈ emptyThenFull.ways emptiable,
      (way.filter NodeKey.isConstituent).Nodup := by decide +kernel
  refine ⟨made, emptyThenFull_mem, acyclic, ?_⟩
  have printed : (((⟨emptiable, none⟩ : Parser).parseFrom 0 [tokenY, tokenY]).toOption.bind
      fun forest => forest.trees?.map (List.map Tree.bracketed)) =
        some ["(S (S) (Y y) (Y y))", "(S (S (S) (Y) (Y y)) (Y) (Y y))",
          "(S (S (S) (Y) (Y y)) (Y y) (Y))", "(S (S (S) (Y y) (Y)) (Y y) (Y))"] := by
    decide +kernel
  cases parsed : (⟨emptiable, none⟩ : Parser).parseFrom 0 [tokenY, tokenY] with
  | error _ => simp [parsed, Except.toOption] at printed
  | ok forest =>
    rw [parsed] at printed
    obtain ⟨trees, listed, shown⟩ := Option.map_eq_some_iff.1 printed
    refine ⟨forest, trees, rfl, listed, fun inside => ?_⟩
    have among := List.mem_map_of_mem (f := Tree.bracketed) inside
    rw [shown] at among
    revert among
    decide +kernel

end Parser

end ChartParser
