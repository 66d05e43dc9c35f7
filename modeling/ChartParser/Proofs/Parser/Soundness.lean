import ChartParser.Proofs.Forest.Enumeration
import ChartParser.Proofs.Parser.Recognition

/-!
# Soundness of forests

Everything in the forest of a parse is licensed by the grammar and the tokens, in every node of its
arena, whether the root reaches it or not, and also where the forest has cycles. All trees of the
forest are therefore derivation trees of the tokens, with one word for each token.
-/

namespace ChartParser

variable {τ : Type} [Scannable τ]

/-- The node is licensed by the grammar and the tokens. Its children exist. A token has no family,
covers its own position and fits its terminal there. A family of any other node is a production of
the node's nonterminal, the very production of a progress node, and however the progress nodes below
it are spliced, it covers the symbols that the node stands for, from where it starts to where it
stops. -/
def Node.LicensedBy (g : Grammar) (tokens : List τ) (arena : Arena) (node : Node) : Prop :=
  (∀ family ∈ node.families, ∀ child ∈ family.children.toList, child < arena.size) ∧
    match node.label with
    | .token terminal index =>
      node.families = [] ∧ node.span = ⟨index, index + 1⟩ ∧
        ∃ token, tokens[index]? = some token ∧ Parser.tokenFits g token terminal = true
    | .nonterminal nonterminal =>
      ∀ family ∈ node.families, ∃ production,
        g.productions[family.production]? = some production ∧ production.lhs = nonterminal ∧
          ∀ spliced, arena.Splices family.children.toList spliced →
            arena.Covers spliced production.symbols node.span.start node.span.stop
    | .progress nonterminal rule dot =>
      ∀ family ∈ node.families, family.production = rule ∧ ∃ production,
        g.productions[rule]? = some production ∧ production.lhs = nonterminal ∧
          ∀ spliced, arena.Splices family.children.toList spliced →
            arena.Covers spliced (production.symbols.take dot) node.span.start node.span.stop

variable {g : Grammar} {tokens : List τ} {arena : Arena} {stop : Nat}

/-- The nodes of a licensed arena are licensed by the grammar and the tokens. -/
theorem Arena.Licensed.licensedBy
    (licensed : arena.Licensed g (Parser.fitsAt g tokens) stop) {id : NodeId} {node : Node}
    (found : arena.nodes[id]? = some node) : node.LicensedBy g tokens arena := by
  constructor
  · intro family has child below
    exact licensed.closed found has below
  cases label : node.label with
  | token terminal index =>
    obtain ⟨span, fit, bare⟩ := licensed.token found label
    exact ⟨bare, span, by simpa [Parser.fitsAt, Option.any_eq_true] using fit⟩
  | nonterminal nonterminal =>
    intro family has
    obtain ⟨production, known, lhs, row⟩ := licensed.row_of_nonterminal found label has
    exact ⟨production, known, lhs, fun _ splices => splices.covers licensed row⟩
  | progress nonterminal rule dot =>
    intro family has
    obtain ⟨same, production, known, lhs, row⟩ := licensed.row_of_progress found label has
    exact ⟨same, production, known, lhs, fun _ splices => splices.covers licensed row⟩

/-- The words of adjacent tokens cover one token each. -/
theorem Grammar.map_span_wordsAt (start : Nat) (word : List TerminalId) :
    (g.wordsAt start word).map (·.span) =
      (List.range' start word.length).map fun index => ⟨index, index + 1⟩ := by
  induction word generalizing start with
  | nil => rfl
  | cons id word ih =>
    rw [wordsAt, List.zipIdx_cons, List.map_cons, ← wordsAt, List.map_cons, ih, List.length_cons,
      List.range'_succ, List.map_cons]

namespace Parser

variable {parser : Parser} {root : NonterminalId} {forest : Forest}

/-- The forest of a parse is licensed by the grammar and the tokens in all its nodes. Its root is
the node of the nonterminal over all tokens, and its trees exist and are derivation trees of the
tokens, whose leaves are one word for each token, in order. -/
theorem parseFrom_licensed (built : g.Built) (made : ofGrammar g = .ok parser)
    (parsed : parser.parseFrom root tokens = .ok forest) :
    (∀ node ∈ forest.arena.nodes, node.LicensedBy g tokens forest.arena) ∧
    forest.arena.key? forest.root = some ⟨⟨0, tokens.length⟩, .nonterminal root⟩ ∧
    ∃ trees, forest.trees? = some trees ∧ ∀ tree ∈ trees, ∃ derivation word,
      g.Spells (fitsAt g tokens) [.nonterminal root] 0 tokens.length [derivation] ∧
      tree = derivation.tree g ∧
      Matches g tokens word ∧ tree.leaves = g.wordsAt 0 word ∧
      tree.leaves.map (·.span) =
        (List.range tokens.length).map fun index => ⟨index, index + 1⟩ := by
  have ending := parseFrom_ending built.consistent made root tokens
  rw [parsed] at ending
  cases ending with
  | @covered chart node derivations known whole filled key _ =>
  have licensed := filled.sound.arena
  refine ⟨fun node inside => ?_, key, _, licensed.trees?_eq built.consistent key known, ?_⟩
  · obtain ⟨id, found⟩ := Array.mem_iff_getElem?.1 inside
    exact licensed.licensedBy found
  · intro tree inside
    obtain ⟨derivation, listed, rfl⟩ := List.mem_map.1 inside
    have unfolds := Arena.unfolds_of_mem_derivations key listed
    have spelled := unfolds.spells licensed (Arena.Row.single key)
    obtain ⟨word, -, length, fitting, leaves⟩ := spelled.leaves
    rw [Nat.zero_add] at length
    rw [List.map_singleton, Tree.leavesOfAll, Tree.leavesOfAll, List.append_nil] at leaves
    refine ⟨derivation, word, spelled, rfl, matches_iff.2 ⟨length, fitting⟩, leaves, ?_⟩
    rw [leaves, Grammar.map_span_wordsAt, length, List.range_eq_range']

/-- The forest of the one token has the node of the root over it at its root, and the word over it
as the only leaf of each of its trees. -/
theorem parseFrom_twoWays_licensed :
    ∃ forest, (⟨twoWays, none⟩ : Parser).parseFrom 0 [tokenX] = .ok forest ∧
      forest.arena.key? forest.root = some ⟨⟨0, 1⟩, .nonterminal 0⟩ ∧
      ∃ trees, forest.trees? = some trees ∧
        ∀ tree ∈ trees, tree.leaves.map (·.span) = [⟨0, 1⟩] := by
  have succeeds : ((⟨twoWays, none⟩ : Parser).parseFrom 0 [tokenX]).isOk = true := by
    decide +kernel
  cases parsed : (⟨twoWays, none⟩ : Parser).parseFrom 0 [tokenX] with
  | error _ => simp [parsed, Except.isOk, Except.toBool] at succeeds
  | ok forest =>
    obtain ⟨-, key, trees, listed, each⟩ :=
      parseFrom_licensed built_twoWays ofGrammar_twoWays parsed
    refine ⟨forest, rfl, key, trees, listed, fun tree inside => ?_⟩
    obtain ⟨_, _, -, -, -, -, spans⟩ := each tree inside
    exact spans

end Parser

end ChartParser
