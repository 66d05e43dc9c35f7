import ChartParser.Proofs.Forest.Counting
import ChartParser.Proofs.Forest.Finiteness
import ChartParser.Proofs.Parser.Soundness
import Mathlib.Data.Set.Finite.Lemmas

/-!
# Completeness under ambiguity

If the tokens have finitely many derivations, their forest holds every one of them and its trees
list each exactly once. Nothing is lost, because the node of the root unfolds to every derivation
and no way down meets a node again; nothing is listed twice, because no node has two families with
a derivation in common. The count is the number of derivations, up to the largest count.
-/

namespace ChartParser

namespace Parser

variable {τ : Type} [Scannable τ] {g : Grammar} {parser : Parser} {root : NonterminalId}
  {tokens : List τ}

/-- The derivations of the tokens from the root. -/
def derivationsOf (g : Grammar) (root : NonterminalId) (tokens : List τ) : Set Derivation :=
  {derivation |
    g.Spells (fitsAt g tokens) [.nonterminal root] 0 tokens.length [derivation]}

/-- Tokens with finitely many derivations, and at least one, have a forest. Its trees are those of
the derivations, each exactly once, its count is their number, and no two trees are equal if no two
productions are. -/
theorem parseFrom_lists_derivations (built : g.Built) (made : ofGrammar g = .ok parser)
    (finite : (derivationsOf g root tokens).Finite)
    (nonempty : (derivationsOf g root tokens).Nonempty) :
    ∃ (forest : Forest) (derivations : List Derivation), parser.parseFrom root tokens = .ok forest ∧
      derivations.Nodup ∧
      (∀ derivation, derivation ∈ derivations ↔ derivation ∈ derivationsOf g root tokens) ∧
      forest.trees? = some (derivations.map (Derivation.tree g)) ∧
      (g.HasDistinctProductions → (derivations.map (Derivation.tree g)).Nodup) ∧
      forest.count? = some (min derivations.length maxCount) := by
  obtain ⟨largest, spelled, most⟩ := Set.exists_max_image _ Derivation.size finite nonempty
  have ending := parseFrom_ending built.consistent made root tokens
  obtain ⟨chart, node, parsed, known, whole, filled, key⟩ :=
    ending.exists_chart built.consistent spelled
  have licensed := filled.sound.arena
  have spells : ∀ {derivations}, chart.arena.Unfolds [node] derivations →
      g.Spells (fitsAt g tokens) [.nonterminal root] 0 tokens.length derivations :=
    fun unfolds => unfolds.spells licensed (Arena.Row.single key)
  have bounded : chart.arena.Bounded node := by
    refine ⟨Derivation.sizeAll [largest], fun derivations unfolds => ?_⟩
    obtain ⟨derivation, rfl⟩ := List.length_eq_one_iff.1 (spells unfolds).length_eq
    have smaller := most derivation (spells unfolds)
    simpa [Derivation.sizeAll] using smaller
  have listed : ∀ derivation, derivation ∈ chart.arena.derivations node ↔
      derivation ∈ derivationsOf g root tokens := by
    intro derivation
    rw [licensed.mem_derivations_iff key bounded]
    refine ⟨spells, fun spelled => ?_⟩
    exact filled.unfolds built.consistent spelled (by omega) (by omega) key
  have trees := licensed.trees?_eq built.consistent key known
  have once := licensed.nodup_derivations node
  refine ⟨_, chart.arena.derivations node, parsed, once, listed, trees, fun distinct => ?_, ?_⟩
  · refine once.map_on fun left inLeft right inRight same => ?_
    have entered : ∀ symbol ∈ [Symbol.nonterminal root], g.knows symbol = true := by
      simpa [Grammar.knows] using known
    obtain ⟨-, equal⟩ := Grammar.Spells.eq_of_map_tree_eq built.consistent distinct
      ((listed left).1 inLeft) entered ((listed right).1 inRight) entered
      (by rw [List.map_singleton, List.map_singleton, same])
    exact List.singleton_inj.1 equal
  · obtain ⟨root, found, owned⟩ := Option.map_eq_some_iff.1 key
    have finished : root.isProgress = false := by simp [Node.isProgress, Node.label, owned]
    have counted := Forest.count?_eq_of_trees? licensed.closed found finished trees
    rwa [List.length_map] at counted

/-- The productions of the grammar, in order. -/
theorem productions_twoWays : twoWays.productions =
    #[⟨0, 0, [.terminal 0]⟩, ⟨1, 0, [.nonterminal 1]⟩, ⟨2, 1, [.terminal 0]⟩] := by
  with_unfolding_all rfl

/-- No two productions of the grammar have the same sides. -/
theorem hasDistinctProductions_twoWays : twoWays.HasDistinctProductions := by
  have once : (twoWays.productions.toList.map fun production =>
      (production.lhs, production.symbols)).Nodup := by
    rw [productions_twoWays]
    decide
  intro left right first second found foundToo lhs symbols
  have inside := (Array.getElem?_eq_some_iff.1 found).1
  refine (List.getElem?_inj (by simpa using inside) once).1 ?_
  rw [List.getElem?_map, List.getElem?_map, Array.getElem?_toList, Array.getElem?_toList, found,
    foundToo, Option.map_some, Option.map_some, lhs, symbols]

/-- The one token has two derivations: the direct one, and the one by way of `T`. -/
theorem derivationsOf_twoWays : derivationsOf twoWays 0 [tokenX] =
    {.branch 0 ⟨0, 1⟩ [.token 0 0], .branch 1 ⟨0, 1⟩ [.branch 2 ⟨0, 1⟩ [.token 0 0]]} := by
  have fit : fitsAt twoWays [tokenX] 0 0 = true := by with_unfolding_all rfl
  have token : ∀ {children}, twoWays.Spells (fitsAt twoWays [tokenX]) [.terminal 0] 0 1 children ↔
      children = [.token 0 0] := by
    intro children
    constructor
    · rintro (_ | ⟨_, rest⟩)
      obtain ⟨-, rfl⟩ := rest.eq_of_nil
      rfl
    · rintro rfl
      exact .token fit .nil
  have rules : ∀ {id production}, twoWays.productions[id]? = some production ↔
      (id = 0 ∧ production = ⟨0, 0, [.terminal 0]⟩) ∨
        (id = 1 ∧ production = ⟨1, 0, [.nonterminal 1]⟩) ∨
        (id = 2 ∧ production = ⟨2, 1, [.terminal 0]⟩) := by
    intro id production
    rw [productions_twoWays]
    rcases id with _ | _ | _ | id <;> simp [eq_comm]
  ext derivation
  constructor
  · intro spelled
    obtain ⟨id, production, children, found, lhs, same, body⟩ := spelled.exists_of_nonterminal
    obtain rfl := List.singleton_inj.1 same
    rcases rules.1 found with ⟨rfl, rfl⟩ | ⟨rfl, rfl⟩ | ⟨rfl, rfl⟩
    · exact .inl (by rw [token.1 body]; rfl)
    · obtain ⟨id, production, children, found, lhs, rfl, body⟩ := body.exists_of_nonterminal
      rcases rules.1 found with ⟨rfl, rfl⟩ | ⟨rfl, rfl⟩ | ⟨rfl, rfl⟩
      · simp at lhs
      · simp at lhs
      · exact .inr (by rw [token.1 body]; rfl)
    · simp at lhs
  · rintro (rfl | rfl)
    · exact .of_production (rules.2 (.inl ⟨rfl, rfl⟩)) (token.2 rfl)
    · have inner := Grammar.Spells.of_production (rules.2 (.inr (.inr ⟨rfl, rfl⟩))) (token.2 rfl)
      exact .of_production (rules.2 (.inr (.inl ⟨rfl, rfl⟩))) inner

/-- The forest of the one token has exactly these two derivations. -/
theorem parseFrom_twoWays_lists :
    ∃ (forest : Forest) (derivations : List Derivation),
      (⟨twoWays, none⟩ : Parser).parseFrom 0 [tokenX] = .ok forest ∧
      derivations.Nodup ∧
      (∀ derivation, derivation ∈ derivations ↔
        derivation = .branch 0 ⟨0, 1⟩ [.token 0 0] ∨
          derivation = .branch 1 ⟨0, 1⟩ [.branch 2 ⟨0, 1⟩ [.token 0 0]]) ∧
      forest.trees? = some (derivations.map (Derivation.tree twoWays)) ∧
      (derivations.map (Derivation.tree twoWays)).Nodup ∧
      forest.count? = some (min derivations.length maxCount) := by
  have finite : (derivationsOf twoWays 0 [tokenX]).Finite := by
    rw [derivationsOf_twoWays]
    exact Set.toFinite _
  have nonempty : (derivationsOf twoWays 0 [tokenX]).Nonempty := by
    rw [derivationsOf_twoWays]
    exact Set.insert_nonempty _ _
  obtain ⟨forest, derivations, parsed, once, listed, trees, distinct, counted⟩ :=
    parseFrom_lists_derivations built_twoWays ofGrammar_twoWays finite nonempty
  rw [derivationsOf_twoWays] at listed
  exact ⟨forest, derivations, parsed, once, listed, trees,
    distinct hasDistinctProductions_twoWays, counted⟩

end Parser

end ChartParser
