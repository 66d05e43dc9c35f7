import ChartParser.Grammar.Basic
import ChartParser.Tree

/-!
# Derivations

What a grammar derives is said twice here. `Derives` relates a string of symbols to the terminal
words it stands for. `Spells` relates it to its derivation trees over a sentence: a tree chooses a
production at every branch and has a fitting terminal at every token. The sentence enters only
through `fits`, which says which terminals the token at a position fits. `Spells.derives` and
`Derives.spells` lead from one to the other.
-/

namespace ChartParser

namespace Grammar

/-- The name of a symbol, empty for an unknown one. -/
def nameOf (g : Grammar) (symbol : Symbol) : String := (g.symbolName? symbol).getD ""

/-- The symbol that a production derives, if there is the production. -/
def lhs? (g : Grammar) (id : ProductionId) : Option Symbol :=
  g.productions[id]?.map fun production => .nonterminal production.lhs

/-- The words that stand for a word of terminals from a token on, each over its own token. -/
def wordsAt (g : Grammar) (start : Nat) (word : List TerminalId) : List Spanned :=
  (word.zipIdx start).map fun (id, index) => ⟨g.nameOf (.terminal id), ⟨index, index + 1⟩⟩

/-- The words of adjacent tokens stand side by side. -/
theorem wordsAt_append (g : Grammar) (start : Nat) (first second : List TerminalId) :
    g.wordsAt start (first ++ second) =
      g.wordsAt start first ++ g.wordsAt (start + first.length) second := by
  rw [wordsAt, List.zipIdx_append, List.map_append]
  rfl

end Grammar

/-- A derivation tree over a sentence: a token read as a terminal, or a production over a span with
a derivation for each of its symbols. -/
inductive Derivation where
  | token (terminal : TerminalId) (index : Nat)
  | branch (production : ProductionId) (span : Span) (children : List Derivation)

namespace Derivation

/-- The tokens that the derivation covers. -/
def span : Derivation → Span
  | token _ index => ⟨index, index + 1⟩
  | branch _ span _ => span

mutual

/-- The syntax tree of a derivation. -/
def tree (g : Grammar) : Derivation → Tree
  | token terminal index => .leaf ⟨g.nameOf (.terminal terminal), ⟨index, index + 1⟩⟩
  | branch production span children =>
    .branch ⟨((g.lhs? production).map g.nameOf).getD "", span⟩ (trees g children)

/-- The syntax trees of several derivations. -/
def trees (g : Grammar) : List Derivation → List Tree
  | [] => []
  | derivation :: derivations => tree g derivation :: trees g derivations

end

/-- The syntax trees of several derivations are those of each. -/
theorem trees_eq_map (g : Grammar) (derivations : List Derivation) :
    trees g derivations = derivations.map (tree g) := by
  induction derivations with
  | nil => rfl
  | cons derivation derivations ih => rw [trees, ih, List.map_cons]

/-- The tree of a branch has the name of the left-hand side. -/
theorem tree_branch {g : Grammar} {id : ProductionId} {production : Production}
    (found : g.productions[id]? = some production) (span : Span) (children : List Derivation) :
    (branch id span children).tree g =
      .branch ⟨g.nameOf (.nonterminal production.lhs), span⟩ (children.map (tree g)) := by
  rw [tree, trees_eq_map, Grammar.lhs?, found]
  rfl

end Derivation

namespace Grammar

variable {g : Grammar} {fits : Nat → TerminalId → Bool}

/-- The string of symbols derives the word of terminals by the productions of the grammar. -/
inductive Derives (g : Grammar) : List Symbol → List TerminalId → Prop
  | nil : Derives g [] []
  | terminal {id : TerminalId} {symbols : List Symbol} {word : List TerminalId}
      (rest : Derives g symbols word) : Derives g (.terminal id :: symbols) (id :: word)
  | nonterminal {id : ProductionId} {production : Production} {symbols : List Symbol}
      {first word : List TerminalId} (found : g.productions[id]? = some production)
      (body : Derives g production.symbols first) (rest : Derives g symbols word) :
      Derives g (.nonterminal production.lhs :: symbols) (first ++ word)

namespace Derives

/-- Strings side by side derive words side by side. -/
theorem append {left right : List Symbol} {first second : List TerminalId}
    (before : g.Derives left first) (after : g.Derives right second) :
    g.Derives (left ++ right) (first ++ second) := by
  induction before with
  | nil => exact after
  | terminal _ ih => exact ih.terminal
  | nonterminal found body _ _ ih =>
    rw [List.append_assoc]
    exact .nonterminal found body ih

/-- A string whose symbols each derive some word derives a word. -/
theorem exists_of_forall {symbols : List Symbol}
    (each : ∀ symbol ∈ symbols, ∃ word, g.Derives [symbol] word) :
    ∃ word, g.Derives symbols word := by
  induction symbols with
  | nil => exact ⟨[], .nil⟩
  | cons symbol symbols ih =>
    obtain ⟨first, head⟩ := each symbol List.mem_cons_self
    obtain ⟨rest, tail⟩ := ih fun other inside => each other (List.mem_cons_of_mem _ inside)
    exact ⟨first ++ rest, head.append tail⟩

/-- The left-hand side of a production derives what its symbols derive. -/
theorem of_production {id : ProductionId} {production : Production} {word : List TerminalId}
    (found : g.productions[id]? = some production) (body : g.Derives production.symbols word) :
    g.Derives [.nonterminal production.lhs] word := by
  simpa using Derives.nonterminal found body .nil

end Derives

/-- The tokens from `start` on fit the terminals of the word one by one. -/
def Fitting (fits : Nat → TerminalId → Bool) (start : Nat) (word : List TerminalId) : Prop :=
  ∀ (offset : Nat) (id : TerminalId), word[offset]? = some id → fits (start + offset) id = true

namespace Fitting

/-- Every token fits the terminals of the empty word. -/
theorem nil {start : Nat} : Fitting fits start [] := fun _ _ absent => by simp at absent

/-- A word is fitted if its first terminal is and the rest is from the next token on. -/
theorem cons_iff {start : Nat} {id : TerminalId} {word : List TerminalId} :
    Fitting fits start (id :: word) ↔ fits start id = true ∧ Fitting fits (start + 1) word := by
  constructor
  · intro fitting
    refine ⟨fitting 0 id rfl, fun offset other at_offset => ?_⟩
    rw [Nat.add_right_comm]
    exact fitting (offset + 1) other at_offset
  · rintro ⟨first, rest⟩ offset other at_offset
    cases offset with
    | zero =>
      obtain rfl := Option.some.inj at_offset
      exact first
    | succ offset =>
      have later := rest offset other at_offset
      rwa [Nat.add_right_comm] at later

/-- Two words side by side are fitted if each is where it stands. -/
theorem append_iff {start : Nat} {first second : List TerminalId} :
    Fitting fits start (first ++ second) ↔
      Fitting fits start first ∧ Fitting fits (start + first.length) second := by
  induction first generalizing start with
  | nil => simp [nil]
  | cons id first ih =>
    rw [List.cons_append, cons_iff, cons_iff, ih, List.length_cons, and_assoc,
      Nat.add_right_comm, Nat.add_assoc]

end Fitting

/-- The derivations, one for each symbol of the string, cover the tokens from `start` to `stop` side
by side. -/
inductive Spells (g : Grammar) (fits : Nat → TerminalId → Bool) :
    List Symbol → Nat → Nat → List Derivation → Prop
  | nil {start : Nat} : Spells g fits [] start start []
  | token {id : TerminalId} {symbols : List Symbol} {start stop : Nat}
      {derivations : List Derivation} (fit : fits start id = true)
      (rest : Spells g fits symbols (start + 1) stop derivations) :
      Spells g fits (.terminal id :: symbols) start stop (.token id start :: derivations)
  | branch {id : ProductionId} {production : Production} {symbols : List Symbol}
      {start middle stop : Nat} {children derivations : List Derivation}
      (found : g.productions[id]? = some production)
      (body : Spells g fits production.symbols start middle children)
      (rest : Spells g fits symbols middle stop derivations) :
      Spells g fits (.nonterminal production.lhs :: symbols) start stop
        (.branch id ⟨start, middle⟩ children :: derivations)

namespace Spells

variable {symbols left right : List Symbol} {start middle stop : Nat}
  {derivations first second : List Derivation}

/-- A string covers its tokens from left to right. -/
theorem start_le (spelled : g.Spells fits symbols start stop derivations) : start ≤ stop := by
  induction spelled with
  | nil => exact Nat.le_refl _
  | token _ _ ih => omega
  | branch _ _ _ body rest => exact Nat.le_trans body rest

/-- Each symbol has one derivation. -/
theorem length_eq (spelled : g.Spells fits symbols start stop derivations) :
    derivations.length = symbols.length := by
  induction spelled with
  | nil => rfl
  | token _ _ ih => simp [ih]
  | branch _ _ _ _ ih => simp [ih]

/-- Strings side by side cover adjacent spans. -/
theorem append (before : g.Spells fits left start middle first)
    (after : g.Spells fits right middle stop second) :
    g.Spells fits (left ++ right) start stop (first ++ second) := by
  induction before with
  | nil => exact after
  | token fit _ ih => exact .token fit (ih after)
  | branch found body _ _ ih => exact .branch found body (ih after)

/-- The empty string covers no token. -/
theorem eq_of_nil (spelled : g.Spells fits [] start stop derivations) :
    start = stop ∧ derivations = [] := by
  cases spelled
  exact ⟨rfl, rfl⟩

/-- The derivation of a single symbol covers the span of that symbol. -/
theorem span_eq {symbol : Symbol} {derivation : Derivation}
    (spelled : g.Spells fits [symbol] start stop [derivation]) :
    derivation.span = ⟨start, stop⟩ := by
  cases spelled with
  | token _ rest =>
    obtain ⟨rfl, -⟩ := rest.eq_of_nil
    rfl
  | branch _ _ rest =>
    obtain ⟨rfl, -⟩ := rest.eq_of_nil
    rfl

/-- A production covers what its symbols cover. -/
theorem of_production {id : ProductionId} {production : Production}
    (found : g.productions[id]? = some production)
    (body : g.Spells fits production.symbols start stop derivations) :
    g.Spells fits [.nonterminal production.lhs] start stop [.branch id ⟨start, stop⟩ derivations] :=
  .branch found body .nil

/-- A nonterminal covers tokens by one of its productions. -/
theorem exists_of_nonterminal {nonterminal : NonterminalId}
    (spelled : g.Spells fits [.nonterminal nonterminal] start stop derivations) :
    ∃ id production children, g.productions[id]? = some production ∧
      production.lhs = nonterminal ∧ derivations = [.branch id ⟨start, stop⟩ children] ∧
      g.Spells fits production.symbols start stop children := by
  cases spelled with
  | branch found body rest =>
  obtain ⟨rfl, rfl⟩ := rest.eq_of_nil
  exact ⟨_, _, _, found, rfl, rfl, body⟩

/-- The trees of what covers tokens have exactly the words of these tokens, read as the terminals of
a derived word. -/
theorem leaves (spelled : g.Spells fits symbols start stop derivations) :
    ∃ word, g.Derives symbols word ∧ start + word.length = stop ∧ Fitting fits start word ∧
      Tree.leavesOfAll (derivations.map (Derivation.tree g)) = g.wordsAt start word := by
  induction spelled with
  | nil => exact ⟨[], .nil, rfl, .nil, rfl⟩
  | @token id _ start _ _ fit _ ih =>
    obtain ⟨word, derived, length, fitting, leaves⟩ := ih
    refine ⟨id :: word, derived.terminal, ?_, Fitting.cons_iff.2 ⟨fit, fitting⟩, ?_⟩
    · rw [List.length_cons]
      omega
    · rw [List.map_cons, Tree.leavesOfAll, leaves]
      rfl
  | @branch _ _ _ start _ _ _ _ found _ _ body rest =>
    obtain ⟨first, derivedBody, lengthBody, fittingBody, leavesBody⟩ := body
    obtain ⟨word, derived, length, fitting, leaves⟩ := rest
    have fittingBoth : Fitting fits start (first ++ word) :=
      Fitting.append_iff.2 ⟨fittingBody, lengthBody ▸ fitting⟩
    refine ⟨first ++ word, .nonterminal found derivedBody derived, ?_, fittingBoth, ?_⟩
    · rw [List.length_append]
      omega
    · rw [List.map_cons, Tree.leavesOfAll, leaves, Derivation.tree_branch found, Tree.leaves,
        leavesBody, wordsAt_append, lengthBody]

/-- What covers tokens derives a word that these tokens fit. -/
theorem derives (spelled : g.Spells fits symbols start stop derivations) :
    ∃ word, g.Derives symbols word ∧ start + word.length = stop ∧ Fitting fits start word := by
  obtain ⟨word, derived, length, fitting, -⟩ := spelled.leaves
  exact ⟨word, derived, length, fitting⟩

end Spells

/-- A derived word covers tokens that fit it. -/
theorem Derives.spells {symbols : List Symbol} {word : List TerminalId} {start : Nat}
    (derived : g.Derives symbols word) (fitting : Fitting fits start word) :
    ∃ derivations, g.Spells fits symbols start (start + word.length) derivations := by
  induction derived generalizing start with
  | nil => exact ⟨[], .nil⟩
  | @terminal id _ word _ ih =>
    obtain ⟨fit, rest⟩ := Fitting.cons_iff.1 fitting
    obtain ⟨derivations, spelled⟩ := ih rest
    refine ⟨.token id start :: derivations, .token fit ?_⟩
    rwa [Nat.add_right_comm] at spelled
  | @nonterminal _ _ _ first word found _ _ body rest =>
    obtain ⟨fittingBody, fittingRest⟩ := Fitting.append_iff.1 fitting
    obtain ⟨children, spelledBody⟩ := body fittingBody
    obtain ⟨derivations, spelled⟩ := rest fittingRest
    rw [List.length_append, ← Nat.add_assoc]
    exact ⟨_, .branch found spelledBody spelled⟩

end Grammar

end ChartParser
