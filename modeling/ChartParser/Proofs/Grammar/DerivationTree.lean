import ChartParser.Proofs.Grammar.Derivation
import ChartParser.Proofs.Grammar.Entries

/-!
# Derivations as syntax trees

The syntax tree of a derivation shows only names and spans. It loses nothing about the derivation
but which of several equal productions was chosen, because no two nonterminals and no two terminals
of a consistent grammar share a name.
-/

namespace ChartParser.Grammar

variable {g : Grammar} {fits : Nat → TerminalId → Bool} {symbols : List Symbol} {start stop : Nat}
  {derivations : List Derivation}

/-- A nonterminal that covers tokens has been entered. -/
theorem Spells.lt_size (consistent : g.Consistent) {id : NonterminalId}
    (spelled : g.Spells fits [.nonterminal id] start stop derivations) :
    id < g.nonterminals.size := by
  obtain ⟨_, _, _, found, rfl, -⟩ := spelled.exists_of_nonterminal
  exact consistent.lhs_lt found

/-- A symbol that has been entered has its name. -/
theorem symbolName?_eq_some {symbol : Symbol} (known : g.knows symbol = true) :
    g.symbolName? symbol = some (g.nameOf symbol) := by
  obtain ⟨name, named⟩ := knows_iff.1 known
  rw [nameOf, named, Option.getD_some]

/-- In a consistent grammar a name belongs to one symbol of its kind. -/
theorem Consistent.nameOf_terminal_inj (consistent : g.Consistent) {left right : TerminalId}
    (known : g.knows (.terminal left) = true) (knownToo : g.knows (.terminal right) = true)
    (same : g.nameOf (.terminal left) = g.nameOf (.terminal right)) : left = right :=
  consistent.terminal_unique (symbolName?_eq_some known) (same ▸ symbolName?_eq_some knownToo)

/-- In a consistent grammar a name belongs to one nonterminal only. -/
theorem Consistent.nameOf_nonterminal_inj (consistent : g.Consistent) {left right : NonterminalId}
    (known : g.knows (.nonterminal left) = true) (knownToo : g.knows (.nonterminal right) = true)
    (same : g.nameOf (.nonterminal left) = g.nameOf (.nonterminal right)) : left = right :=
  consistent.nonterminal_unique (symbolName?_eq_some known) (same ▸ symbolName?_eq_some knownToo)

/-- No nonterminal has two productions with the same right-hand side. -/
def HasDistinctProductions (g : Grammar) : Prop :=
  ∀ {left right : ProductionId} {first second : Production},
    g.productions[left]? = some first → g.productions[right]? = some second →
      first.lhs = second.lhs → first.symbols = second.symbols → left = right

/-- Trees of known symbols determine the symbols and the derivations, if no production is entered
twice. -/
theorem Spells.eq_of_map_tree_eq (consistent : g.Consistent) (distinct : g.HasDistinctProductions)
    (spelled : g.Spells fits symbols start stop derivations)
    (known : ∀ symbol ∈ symbols, g.knows symbol = true) {others : List Symbol} {first last : Nat}
    {rest : List Derivation} (spelledToo : g.Spells fits others first last rest)
    (knownToo : ∀ symbol ∈ others, g.knows symbol = true)
    (same : derivations.map (Derivation.tree g) = rest.map (Derivation.tree g)) :
    symbols = others ∧ derivations = rest := by
  induction spelled generalizing others first last rest with
  | nil =>
    obtain rfl := List.map_eq_nil_iff.1 same.symm
    cases spelledToo
    exact ⟨rfl, rfl⟩
  | @token id symbols start _ derivations _ _ ih =>
    cases spelledToo with
    | nil => simp at same
    | branch _ _ _ => simp [Derivation.tree] at same
    | @token other others first _ rest _ after =>
    rw [List.map_cons, List.map_cons, List.cons.injEq, Derivation.tree, Derivation.tree,
      Tree.leaf.injEq, Spanned.mk.injEq, Span.mk.injEq] at same
    obtain ⟨⟨name, index, -⟩, sameRest⟩ := same
    obtain ⟨knownFirst, knownRest⟩ := List.forall_mem_cons.1 known
    obtain ⟨knownOther, knownOthers⟩ := List.forall_mem_cons.1 knownToo
    obtain rfl := consistent.nameOf_terminal_inj knownFirst knownOther name
    obtain ⟨rfl, rfl⟩ := ih knownRest after knownOthers sameRest
    exact ⟨rfl, by rw [index]⟩
  | @branch id production symbols start middle _ children derivations found _ _ ihBody ihRest =>
    cases spelledToo with
    | nil => simp at same
    | token _ _ => simp [Derivation.tree] at same
    | @branch other longer others first between _ inner rest foundToo body after =>
    rw [List.map_cons, List.map_cons, List.cons.injEq, Derivation.tree_branch found,
      Derivation.tree_branch foundToo, Tree.branch.injEq, Spanned.mk.injEq] at same
    obtain ⟨⟨⟨name, span⟩, sameBody⟩, sameRest⟩ := same
    obtain ⟨knownFirst, knownRest⟩ := List.forall_mem_cons.1 known
    obtain ⟨knownOther, knownOthers⟩ := List.forall_mem_cons.1 knownToo
    have lhs := consistent.nameOf_nonterminal_inj knownFirst knownOther name
    obtain ⟨rhs, rfl⟩ := ihBody (consistent.known found) body (consistent.known foundToo) sameBody
    obtain ⟨rfl, rfl⟩ := ihRest knownRest after knownOthers sameRest
    exact ⟨by rw [lhs], by rw [span, distinct found foundToo lhs rhs]⟩

end ChartParser.Grammar
