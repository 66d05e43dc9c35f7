import ChartParser.Proofs.Grammar.Productive

/-!
# Viable prefixes

A nonterminal is expected at a position if the tokens before it can be the beginning of a sentence
in which the nonterminal comes next. In a checked grammar every such beginning can be completed, so
the tokens before it are then a viable prefix: some derived word starts with terminals that they
fit.
-/

namespace ChartParser.Grammar

variable {g : Grammar} {fits : Nat → TerminalId → Bool} {root : NonterminalId}

/-- The nonterminal may begin at the position: it is the root at the first token, or it comes after
symbols of a production that have been recognized, where the production itself may begin. -/
inductive Expects (g : Grammar) (fits : Nat → TerminalId → Bool) (root : NonterminalId) :
    NonterminalId → Nat → Prop
  | root : Expects g fits root root 0
  | next {id : ProductionId} {production : Production} {dot start stop : Nat}
      {derivations : List Derivation} {nonterminal : NonterminalId}
      (found : g.productions[id]? = some production)
      (expected : Expects g fits root production.lhs start)
      (before : g.Spells fits (production.symbols.take dot) start stop derivations)
      (awaited : production.symbolAt? dot = some (.nonterminal nonterminal)) :
      Expects g fits root nonterminal stop

/-- The first `length` tokens fit, one by one, the beginning of a word that the root derives. -/
def Viable (g : Grammar) (fits : Nat → TerminalId → Bool) (root : NonterminalId) (length : Nat) :
    Prop :=
  ∃ front back, g.Derives [.nonterminal root] (front ++ back) ∧ front.length = length ∧
    Fitting fits 0 front

/-- What is viable is so up to any earlier token. -/
theorem Viable.of_le {length shorter : Nat} (viable : g.Viable fits root length)
    (before : shorter ≤ length) : g.Viable fits root shorter := by
  obtain ⟨front, back, derived, rfl, fitting⟩ := viable
  rw [← List.take_append_drop shorter front] at derived fitting
  rw [List.append_assoc] at derived
  obtain ⟨fittingShorter, -⟩ := Fitting.append_iff.1 fitting
  refine ⟨front.take shorter, front.drop shorter ++ back, derived, ?_, fittingShorter⟩
  rw [List.length_take, Nat.min_eq_left before]

/-- The tokens of a sentence are viable. -/
theorem Spells.viable {length : Nat} {derivations : List Derivation}
    (spelled : g.Spells fits [.nonterminal root] 0 length derivations) :
    g.Viable fits root length := by
  obtain ⟨word, derived, same, fitting⟩ := spelled.derives
  rw [Nat.zero_add] at same
  exact ⟨word, [], by rwa [List.append_nil], same, fitting⟩

/-- A production is its first symbols, the next one and those after it. -/
theorem symbols_eq {production : Production} {symbol : Symbol} {dot : Nat}
    (next : production.symbolAt? dot = some symbol) :
    production.symbols =
      production.symbols.take dot ++ symbol :: production.symbols.drop (dot + 1) := by
  obtain ⟨inside, same⟩ := List.getElem?_eq_some_iff.1 next
  rw [← same, ← List.drop_eq_getElem_cons inside, List.take_append_drop]

/-- An expected nonterminal stands in a sentence whose tokens before it fit, whatever word the
nonterminal is taken to derive. -/
theorem Expects.exists_derives (consistent : g.Consistent) (checked : g.check = .ok ())
    {nonterminal : NonterminalId} {position : Nat}
    (expected : g.Expects fits root nonterminal position) {word : List TerminalId}
    (derived : g.Derives [.nonterminal nonterminal] word) :
    ∃ front back, g.Derives [.nonterminal root] (front ++ word ++ back) ∧
      front.length = position ∧ Fitting fits 0 front := by
  induction expected generalizing word with
  | root => exact ⟨[], [], by simpa using derived, rfl, .nil⟩
  | @next id production dot start stop _ nonterminal found _ before awaited ih =>
    obtain ⟨first, derivedFirst, length, fitting⟩ := before.derives
    obtain ⟨last, derivedLast⟩ := consistent.exists_derives checked found
      (List.drop_subset (dot + 1) production.symbols)
    have body : g.Derives production.symbols (first ++ (word ++ last)) := by
      rw [symbols_eq awaited]
      exact derivedFirst.append (derived.append derivedLast)
    obtain ⟨front, back, whole, lengthFront, fittingFront⟩ := ih (.of_production found body)
    refine ⟨front ++ first, last ++ back, by simpa using whole, by simp [lengthFront, length], ?_⟩
    exact Fitting.append_iff.2 ⟨fittingFront, by rwa [Nat.zero_add, lengthFront]⟩

/-- Where part of a production has been recognized, the tokens so far are a viable prefix. -/
theorem Expects.viable (consistent : g.Consistent) (checked : g.check = .ok ())
    {id : ProductionId} {production : Production} {dot start stop : Nat}
    {derivations : List Derivation} (found : g.productions[id]? = some production)
    (expected : g.Expects fits root production.lhs start)
    (before : g.Spells fits (production.symbols.take dot) start stop derivations) :
    g.Viable fits root stop := by
  obtain ⟨first, derivedFirst, length, fitting⟩ := before.derives
  obtain ⟨last, derivedLast⟩ := consistent.exists_derives checked found
    (List.drop_subset dot production.symbols)
  have body : g.Derives production.symbols (first ++ last) := by
    have joined := derivedFirst.append derivedLast
    rwa [List.take_append_drop] at joined
  obtain ⟨front, back, whole, lengthFront, fittingFront⟩ :=
    expected.exists_derives consistent checked (.of_production found body)
  refine ⟨front ++ first, last ++ back, by simpa using whole, by simp [lengthFront, length], ?_⟩
  exact Fitting.append_iff.2 ⟨fittingFront, by rwa [Nat.zero_add, lengthFront]⟩

end ChartParser.Grammar
