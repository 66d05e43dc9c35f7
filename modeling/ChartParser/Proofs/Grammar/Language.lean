import ChartParser.Proofs.Grammar.Derivation
import Mathlib.Computability.Language
import Mathlib.Order.CompletePartialOrder

/-!
# Languages of symbols

The language of a string of symbols is the set of terminal words that it derives. Strings side by
side have the product of their languages, and a nonterminal has the union of what its right-hand
sides have. A nonterminal that is its own first symbol repeats what comes behind it
(`Grammar.language_of_leftRecursive`).
-/

namespace ChartParser.Grammar

open scoped Computability

variable {g : Grammar} {symbols left right : List Symbol} {word : List TerminalId}

/-- The terminal words that a string of symbols derives. -/
def language (g : Grammar) (symbols : List Symbol) : Language TerminalId :=
  {word | g.Derives symbols word}

/-- A word belongs to the language of the symbols that derive it. -/
theorem mem_language : word ∈ g.language symbols ↔ g.Derives symbols word := Iff.rfl

/-- What two strings side by side derive is made of what each of them derives. -/
theorem Derives.exists_of_append (derived : g.Derives (left ++ right) word) :
    ∃ first second, word = first ++ second ∧ g.Derives left first ∧ g.Derives right second := by
  generalize whole : left ++ right = symbols at derived
  induction derived generalizing left with
  | nil =>
    obtain ⟨rfl, rfl⟩ := List.append_eq_nil_iff.1 whole
    exact ⟨[], [], rfl, .nil, .nil⟩
  | @terminal id symbols word rest ih =>
    cases left with
    | nil =>
      obtain rfl : right = _ := whole
      exact ⟨[], _, rfl, .nil, .terminal rest⟩
    | cons symbol left =>
      obtain ⟨rfl, same⟩ := List.cons.inj whole
      obtain ⟨first, second, rfl, before, after⟩ := ih same
      exact ⟨id :: first, second, rfl, .terminal before, after⟩
  | @nonterminal rule production symbols body word found inner rest _ ih =>
    cases left with
    | nil =>
      obtain rfl : right = _ := whole
      exact ⟨[], _, rfl, .nil, .nonterminal found inner rest⟩
    | cons symbol left =>
      obtain ⟨rfl, same⟩ := List.cons.inj whole
      obtain ⟨first, second, rfl, before, after⟩ := ih same
      exact ⟨body ++ first, second, (List.append_assoc _ _ _).symm, .nonterminal found inner before,
        after⟩

/-- The empty string derives the empty word only. -/
theorem language_nil (g : Grammar) : g.language [] = 1 := by
  ext word
  rw [mem_language, Language.mem_one]
  constructor
  · intro derived
    cases derived
    rfl
  · rintro rfl
    exact .nil

/-- Strings side by side have the product of their languages. -/
theorem language_append (g : Grammar) (left right : List Symbol) :
    g.language (left ++ right) = g.language left * g.language right := by
  ext word
  rw [Language.mem_mul]
  constructor
  · intro derived
    obtain ⟨first, second, rfl, before, after⟩ := derived.exists_of_append
    exact ⟨first, before, second, after, rfl⟩
  · rintro ⟨first, before, second, after, rfl⟩
    exact Derives.append before after

/-- What a right-hand side derives, its nonterminal derives too. -/
theorem language_le {rule : ProductionId} {lhs : NonterminalId}
    (found : g.productions[rule]? = some ⟨rule, lhs, symbols⟩) :
    g.language symbols ≤ g.language [.nonterminal lhs] :=
  fun _ body => .of_production found body

/-- What a nonterminal derives, one of its right-hand sides derives. -/
theorem exists_of_mem_language {lhs : NonterminalId}
    (derived : word ∈ g.language [.nonterminal lhs]) :
    ∃ (rule : ProductionId) (production : Production), g.productions[rule]? = some production ∧
      production.lhs = lhs ∧ word ∈ g.language production.symbols := by
  rw [mem_language] at derived
  cases derived with
  | @nonterminal rule production _ first _ found body rest =>
    cases rest
    refine ⟨rule, production, found, rfl, ?_⟩
    rwa [List.append_nil]

/-- A nonterminal that starts with itself in front of a base, or else has one other right-hand side,
derives a word of the latter followed by any number of words of the base. Since the base may derive
the empty word, the equation that the language satisfies has other solutions as well, and only the
derivations show that it is the least one. -/
theorem language_of_leftRecursive {whole : NonterminalId} {base : Symbol} {side : List Symbol}
    {again once : ProductionId}
    (only : ∀ {rule : ProductionId} {production : Production},
      g.productions[rule]? = some production → production.lhs = whole →
        production.symbols = [.nonterminal whole, base] ∨ production.symbols = side)
    (repeats : g.productions[again]? = some ⟨again, whole, [.nonterminal whole, base]⟩)
    (starts : g.productions[once]? = some ⟨once, whole, side⟩) :
    g.language [.nonterminal whole] = g.language side * (g.language [base])∗ := by
  apply le_antisymm
  · -- by induction on the derivation of any string that starts with the nonterminal
    have begins : ∀ {symbols : List Symbol} {word : List TerminalId}, g.Derives symbols word →
        ∀ rest, symbols = .nonterminal whole :: rest → ∃ first second, word = first ++ second ∧
          first ∈ g.language side * (g.language [base])∗ ∧ g.Derives rest second := by
      intro symbols word derived
      induction derived with
      | nil => intro rest same; cases same
      | terminal _ _ => intro rest same; cases same
      | @nonterminal rule production symbols body word found inner later ih _ =>
        intro rest same
        obtain ⟨head, rfl⟩ := List.cons.inj same
        have isWhole : production.lhs = whole := Symbol.nonterminal.inj head
        refine ⟨body, word, rfl, ?_, later⟩
        rcases only found isWhole with recursive | other
        · obtain ⟨first, second, rfl, before, after⟩ := ih [base] recursive
          have longer : first ++ second ∈
              g.language side * (g.language [base])∗ * g.language [base] :=
            Language.append_mem_mul before after
          rw [mul_assoc] at longer
          have absorbed : g.language side * ((g.language [base])∗ * g.language [base]) ≤
              g.language side * (g.language [base])∗ := mul_le_mul_right kstar_mul_le_kstar _
          exact absorbed longer
        · rw [other] at inner
          have single := Language.append_mem_mul (show body ∈ g.language side from inner)
            (Language.nil_mem_kstar (g.language [base]))
          rwa [List.append_nil] at single
    intro word derived
    obtain ⟨first, second, rfl, covered, rest⟩ := begins derived [] rfl
    cases rest
    rwa [List.append_nil]
  · refine mul_kstar_le (language_le starts) ?_
    rw [← language_append]
    exact language_le repeats

end ChartParser.Grammar
