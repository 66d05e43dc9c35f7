import ChartParser.Proofs.Notation.Labels
import ChartParser.Proofs.Parser.Budget
import ChartParser.Proofs.Parser.Cutting

/-!
# Trees told apart by their brackets

A tree in brackets shows names and brackets, but no spans, and a name may itself contain spaces and
brackets between its quotes. In a grammar that has been read from a text the names are labels, which
show where they end, so that the text of a tree can be read in one way only. The spans come back
from the words: each covers one token, and a constituent covers the tokens of the words in it, from
where the words before it end (`Grammar.Labelled.map_tree_eq`).
-/

namespace ChartParser

open Notation

namespace Tree

variable {word constituent : Spanned} {trees children : List Tree} {rest : List Char}

/-- Several trees are printed one after the other, each behind a space. -/
theorem toList_bracketedAll_cons (tree : Tree) :
    (bracketedAll (tree :: trees)).toList =
      ' ' :: (tree.bracketed.toList ++ (bracketedAll trees).toList) := by
  rw [bracketedAll, String.toList_append, String.toList_append]
  rfl

/-- A word in front of other trees is printed as its name. -/
theorem toList_bracketedAll_leaf :
    (bracketedAll (leaf word :: trees)).toList ++ ')' :: rest =
      ' ' :: (word.name.toList ++ ((bracketedAll trees).toList ++ ')' :: rest)) := by
  rw [toList_bracketedAll_cons, bracketed, List.cons_append, List.append_assoc]

/-- A constituent in front of other trees is printed in brackets. -/
theorem toList_bracketedAll_branch :
    (bracketedAll (branch constituent children :: trees)).toList ++ ')' :: rest =
      ' ' :: '(' :: (constituent.name.toList ++ ((bracketedAll children).toList ++
        ')' :: ((bracketedAll trees).toList ++ ')' :: rest))) := by
  rw [toList_bracketedAll_cons, bracketed]
  simp [String.toList_append]

/-- Printed trees in front of a closing bracket stop a label. -/
theorem stops_bracketedAll (trees : List Tree) (rest : List Char) :
    Stops ((bracketedAll trees).toList ++ ')' :: rest) := by
  cases trees with
  | nil => exact stops_bracket
  | cons tree trees =>
    rw [toList_bracketedAll_cons]
    exact stops_space

end Tree

namespace Grammar

variable {g : Grammar} {fits : Nat → TerminalId → Bool} {symbols others : List Symbol}
  {start stop last : Nat} {derivations rest : List Derivation} {after afterToo : List Char}

/-- The name of a symbol that has been entered is a label. -/
theorem Labelled.isLabel (labelled : g.Labelled) {symbol : Symbol} (known : g.knows symbol = true) :
    IsLabel (g.nameOf symbol).toList :=
  labelled symbol _ (symbolName?_eq_some known)

/-- Derivations from the same token on whose trees are printed alike have the same trees and cover
the same tokens. -/
theorem Labelled.map_tree_eq (labelled : g.Labelled) (consistent : g.Consistent)
    (spelled : g.Spells fits symbols start stop derivations)
    (known : ∀ symbol ∈ symbols, g.knows symbol = true)
    (spelledToo : g.Spells fits others start last rest)
    (knownToo : ∀ symbol ∈ others, g.knows symbol = true)
    (same : (Tree.bracketedAll (derivations.map (Derivation.tree g))).toList ++ ')' :: after =
      (Tree.bracketedAll (rest.map (Derivation.tree g))).toList ++ ')' :: afterToo) :
    derivations.map (Derivation.tree g) = rest.map (Derivation.tree g) ∧ stop = last ∧
      after = afterToo := by
  induction spelled generalizing others last rest after afterToo with
  | nil =>
    cases spelledToo with
    | nil => exact ⟨rfl, rfl, (List.cons.inj same).2⟩
    | token _ _ => simp [Tree.bracketedAll] at same
    | branch _ _ _ => simp [Tree.bracketedAll] at same
  | @token id symbols start _ derivations _ _ ih =>
    obtain ⟨knownFirst, knownRest⟩ := List.forall_mem_cons.1 known
    cases spelledToo with
    | nil => simp [Tree.bracketedAll] at same
    | @token other others _ _ rest _ later =>
      obtain ⟨knownOther, knownOthers⟩ := List.forall_mem_cons.1 knownToo
      rw [List.map_cons, List.map_cons, Derivation.tree, Derivation.tree,
        Tree.toList_bracketedAll_leaf, Tree.toList_bracketedAll_leaf, List.cons.injEq] at same
      obtain ⟨name, behind⟩ := (labelled.isLabel knownFirst).append_inj
        (labelled.isLabel knownOther) (Tree.stops_bracketedAll _ _) (Tree.stops_bracketedAll _ _)
        same.2
      obtain ⟨trees, stops, ends⟩ := ih knownRest later knownOthers behind
      rw [List.map_cons, List.map_cons, Derivation.tree, Derivation.tree,
        String.toList_injective name, trees]
      exact ⟨rfl, stops, ends⟩
    | @branch _ inner _ _ _ _ _ rest foundToo _ later =>
      rw [List.map_cons, List.map_cons, Derivation.tree, Derivation.tree_branch foundToo,
        Tree.toList_bracketedAll_leaf, Tree.toList_bracketedAll_branch, List.cons.injEq] at same
      exact absurd same.2 (labelled.isLabel knownFirst).ne_bracket_cons
  | @branch id production symbols start middle _ children derivations found _ _ ihBody ihRest =>
    obtain ⟨knownFirst, knownRest⟩ := List.forall_mem_cons.1 known
    cases spelledToo with
    | nil => simp [Tree.bracketedAll] at same
    | @token other others _ _ rest _ later =>
      obtain ⟨knownOther, -⟩ := List.forall_mem_cons.1 knownToo
      rw [List.map_cons, List.map_cons, Derivation.tree, Derivation.tree_branch found,
        Tree.toList_bracketedAll_leaf, Tree.toList_bracketedAll_branch, List.cons.injEq] at same
      exact absurd same.2.symm (labelled.isLabel knownOther).ne_bracket_cons
    | @branch other longer others _ between _ inner rest foundToo body later =>
      obtain ⟨knownOther, knownOthers⟩ := List.forall_mem_cons.1 knownToo
      rw [List.map_cons, List.map_cons, Derivation.tree_branch found,
        Derivation.tree_branch foundToo, Tree.toList_bracketedAll_branch,
        Tree.toList_bracketedAll_branch, List.cons.injEq, List.cons.injEq] at same
      obtain ⟨name, behind⟩ := (labelled.isLabel knownFirst).append_inj
        (labelled.isLabel knownOther) (Tree.stops_bracketedAll _ _) (Tree.stops_bracketedAll _ _)
        same.2.2
      -- The bracket that closes the constituent is where its children end in either text.
      obtain ⟨bodies, rfl, behind⟩ :=
        ihBody (consistent.known found) body (consistent.known foundToo) behind
      obtain ⟨trees, stops, ends⟩ := ihRest knownRest later knownOthers behind
      rw [List.map_cons, List.map_cons, Derivation.tree_branch found,
        Derivation.tree_branch foundToo, String.toList_injective name, bodies, trees]
      exact ⟨rfl, stops, ends⟩

end Grammar

namespace Parser

variable {τ : Type} [Scannable τ] {g : Grammar} {file : Option String} {source : String}
  {root : NonterminalId} {tokens : List τ} {forest : Forest}

/-- No two trees of a sentence are printed alike, if the grammar has been read from a text: trees
with the same brackets have the same names, the same shape and the same spans everywhere. -/
theorem eq_of_bracketed_eq (read : Grammar.ofSource file source = .ok g) (budget : Option Nat)
    (parsed : (⟨g, budget⟩ : Parser).parseFrom root tokens = .ok forest) :
    ∃ trees, forest.trees? = some trees ∧
      ∀ left ∈ trees, ∀ right ∈ trees, left.bracketed = right.bracketed → left = right := by
  obtain ⟨built, checked⟩ := Grammar.ofSource_eq_ok read
  have consistent := built.consistent
  have ending : Ending g root tokens (.ok forest) :=
    ending_of_budget consistent (ofGrammar_of_check checked) parsed
  obtain ⟨derivations, trees, -, -, listed⟩ := ending.exists_listing consistent
  refine ⟨_, trees, fun left inLeft right inRight same => ?_⟩
  obtain ⟨derivation, among, rfl⟩ := List.mem_map.1 inLeft
  obtain ⟨other, amongToo, rfl⟩ := List.mem_map.1 inRight
  have spelled : g.Spells (fitsAt g tokens) [.nonterminal root] 0 tokens.length [derivation] :=
    ((listed derivation).1 among).1
  have spelledToo : g.Spells (fitsAt g tokens) [.nonterminal root] 0 tokens.length [other] :=
    ((listed other).1 amongToo).1
  have known : ∀ symbol ∈ [Symbol.nonterminal root], g.knows symbol = true := by
    simpa [Grammar.knows] using spelled.lt_size consistent
  have printed : (Tree.bracketedAll [derivation.tree g]).toList ++ [')'] =
      (Tree.bracketedAll [other.tree g]).toList ++ [')'] := by
    rw [Tree.toList_bracketedAll_cons, Tree.toList_bracketedAll_cons, same]
  have equal := ((Grammar.labelled_of_ofSource read).map_tree_eq consistent spelled known
    spelledToo known printed).1
  exact List.singleton_inj.1 equal

/-- Two literals of the same text in different quotes, repeated in different ways. -/
def quotedSource : String := "S -> 'b (c)'* T | \"b (c)\" T?\nT -> 'b (c)'\n"

/-- The token that these literals stand for. -/
def tokenBC : PlainToken := ⟨"b (c)", "b (c)"⟩

/-- The two trees of two such tokens are told apart by their brackets, though these contain the
brackets of names. -/
theorem eq_of_bracketed_eq_quotedSource : ∃ g forest trees,
    Grammar.ofSource none quotedSource = .ok g ∧
      (⟨g, none⟩ : Parser).parseFrom 0 [tokenBC, tokenBC] = .ok forest ∧
      forest.trees? = some trees ∧
      trees.map Tree.bracketed =
        ["(S ('b (c)'* ('b (c)'*) 'b (c)') (T 'b (c)'))", "(S \"b (c)\" (T? (T 'b (c)')))"] ∧
      ∀ left ∈ trees, ∀ right ∈ trees, left.bracketed = right.bracketed → left = right := by
  have printed : ((Grammar.ofSource none quotedSource).toOption.bind fun g =>
      ((⟨g, none⟩ : Parser).parseFrom 0 [tokenBC, tokenBC]).toOption.bind fun forest =>
        forest.trees?.map (List.map Tree.bracketed)) =
      some ["(S ('b (c)'* ('b (c)'*) 'b (c)') (T 'b (c)'))",
        "(S \"b (c)\" (T? (T 'b (c)')))"] := by decide +kernel
  cases read : Grammar.ofSource none quotedSource with
  | error _ => simp [read, Except.toOption] at printed
  | ok g =>
    cases parsed : (⟨g, none⟩ : Parser).parseFrom 0 [tokenBC, tokenBC] with
    | error _ => simp [read, parsed, Except.toOption] at printed
    | ok forest =>
      obtain ⟨trees, listed, apart⟩ := eq_of_bracketed_eq read none parsed
      simp only [read, parsed, Except.toOption, Option.bind_some, listed, Option.map_some,
        Option.some.injEq] at printed
      exact ⟨g, forest, trees, rfl, parsed, listed, printed, apart⟩

end Parser

end ChartParser
