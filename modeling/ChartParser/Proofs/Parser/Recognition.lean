import ChartParser.Proofs.Grammar.Entries
import ChartParser.Proofs.Parser.Run

/-!
# What is recognized

A parse without a budget succeeds exactly on the sentences of its root, and otherwise fails exactly
where the tokens stop being the beginning of a sentence. That the place is right needs both sides of
the chart: an item in a column shows that the tokens so far can be completed, because every
nonterminal of a checked grammar derives some word, and an empty column shows that they cannot,
because no item is ever missed.
-/

namespace ChartParser

variable {τ : Type} [Scannable τ]

deriving instance DecidableEq for Forest

/-- The grammar of `S -> x`, `S -> T` and `T -> x`, in which one token has two derivations. -/
def twoWays : Grammar := .ofEntries [.rule "S" ["x"], .rule "S" ["T"], .rule "T" ["x"]]

/-- The token that the terminal of this grammar fits. -/
def tokenX : PlainToken := ⟨"x", "x"⟩

namespace Parser

variable {g : Grammar} {parser : Parser} {root : NonterminalId} {tokens : List τ}

/-- A checked grammar makes a parser. -/
theorem ofGrammar_of_check (checked : g.check = .ok ()) : ofGrammar g = .ok ⟨g, none⟩ := by
  rw [ofGrammar, checked]
  rfl

/-- Where the root derives the tokens, the parse has ended with the node for them in a chart whose
columns are all closed. -/
theorem Ending.exists_chart (consistent : g.Consistent) {result : Except ParseError Forest}
    (ending : Ending g root tokens result) {derivations : List Derivation}
    (spelled : g.Spells (fitsAt g tokens) [.nonterminal root] 0 tokens.length derivations) :
    ∃ (chart : Chart) (node : NodeId), result = .ok ⟨g, chart.arena, node⟩ ∧
      root < g.nonterminals.size ∧ chart.position = tokens.length ∧
      chart.Filled g (fitsAt g tokens) root (chart.position + 1) ∧
      chart.arena.key? node = some ⟨⟨0, tokens.length⟩, .nonterminal root⟩ := by
  cases ending with
  | unknown absent =>
    obtain ⟨_, _, _, found, rfl, -⟩ := spelled.exists_of_nonterminal
    exact absurd (consistent.lhs_lt found) absent
  | stuck _ found _ dead =>
    have inside := (List.getElem?_eq_some_iff.1 found).1
    exact absurd (spelled.viable.of_le inside) dead
  | uncovered _ _ none => exact absurd spelled (none derivations)
  | covered known whole filled key _ => exact ⟨_, _, rfl, known, whole, filled, key⟩

/-- A root has a forest for the tokens exactly if it derives a word that they match. -/
theorem parseFrom_eq_ok_iff (built : g.Built) (made : ofGrammar g = .ok parser)
    (root : NonterminalId) (tokens : List τ) :
    (∃ forest, parser.parseFrom root tokens = .ok forest) ↔
      ∃ word, g.Derives [.nonterminal root] word ∧ Matches g tokens word := by
  rw [exists_matches_iff]
  have ending := parseFrom_ending built.consistent made root tokens
  constructor
  · rintro ⟨forest, parsed⟩
    rw [parsed] at ending
    cases ending with
    | covered _ _ _ _ spelled => exact ⟨_, spelled⟩
  · rintro ⟨derivations, spelled⟩
    obtain ⟨chart, node, parsed, -⟩ := ending.exists_chart built.consistent spelled
    exact ⟨_, parsed⟩

/-- The grammar is built by its rules. -/
theorem built_twoWays : twoWays.Built := ⟨_, rfl⟩

/-- The grammar makes a parser. -/
theorem ofGrammar_twoWays : ofGrammar twoWays = .ok ⟨twoWays, none⟩ :=
  ofGrammar_of_check (by decide +kernel)

/-- The root of the grammar has a forest for the one token, which its first production derives. -/
theorem exists_parseFrom_twoWays :
    ∃ forest, (⟨twoWays, none⟩ : Parser).parseFrom 0 [tokenX] = .ok forest := by
  have found : twoWays.productions[0]? = some ⟨0, 0, [.terminal 0]⟩ := by decide +kernel
  have derived : twoWays.Derives [.nonterminal 0] [0] :=
    .of_production found (Grammar.Derives.nil.terminal)
  have matched : Matches twoWays [tokenX] [0] := .cons (by decide +kernel) .nil
  exact (parseFrom_eq_ok_iff built_twoWays ofGrammar_twoWays 0 [tokenX]).2 ⟨[0], derived, matched⟩

/-! ## Failures -/

/-- A parse dies at a token exactly if the tokens before it are the beginning of a sentence but no
longer are with it. -/
theorem Ending.eq_deadEnd_iff {result : Except ParseError Forest}
    (ending : Ending g root tokens result) (number : Nat) (text : String) :
    result = .error (.deadEnd number text) ↔
      root < g.nonterminals.size ∧ ViablePrefix g root (tokens.take (number - 1)) ∧
        ¬ ViablePrefix g root (tokens.take number) ∧
        ∃ token, 1 ≤ number ∧ tokens[number - 1]? = some token ∧
          text = Scannable.text token := by
  -- Where all tokens are viable, no number of them can be dead.
  have all : g.Viable (fitsAt g tokens) root tokens.length → ¬ (root < g.nonterminals.size ∧
      ViablePrefix g root (tokens.take (number - 1)) ∧
        ¬ ViablePrefix g root (tokens.take number) ∧
        ∃ token, 1 ≤ number ∧ tokens[number - 1]? = some token ∧
          text = Scannable.text token) := by
    rintro viable ⟨-, -, dead, token, positive, found, -⟩
    have inside := (List.getElem?_eq_some_iff.1 found).1
    rw [viablePrefix_take_iff (by omega)] at dead
    exact dead (viable.of_le (by omega))
  cases ending with
  | unknown absent => simp [absent]
  | uncovered _ viable _ => simpa using all viable
  | covered _ _ _ _ spelled => simpa using all spelled.viable
  | @stuck known index token found viable dead =>
    have inside := (List.getElem?_eq_some_iff.1 found).1
    constructor
    · intro same
      obtain ⟨rfl, rfl⟩ : index + 1 = number ∧ Scannable.text token = text := by simpa using same
      rw [viablePrefix_take_iff inside, Nat.add_sub_cancel,
        viablePrefix_take_iff (Nat.le_of_lt inside)]
      exact ⟨known, viable, dead, token, by omega, found, rfl⟩
    · rintro ⟨-, viableBefore, deadThere, other, positive, at_number, rfl⟩
      have insideToo := (List.getElem?_eq_some_iff.1 at_number).1
      rw [viablePrefix_take_iff (by omega)] at viableBefore deadThere
      have not_before : ¬ number < index + 1 := fun before =>
        deadThere (viable.of_le (by omega))
      have not_after : ¬ index + 1 < number := fun after =>
        dead (viableBefore.of_le (by omega))
      obtain rfl : number = index + 1 := by omega
      rw [Nat.add_sub_cancel, found] at at_number
      rw [Option.some.inj at_number]

/-- A parse finds nothing exactly if the root is unknown, or all tokens are the beginning of a
sentence but no sentence. -/
theorem Ending.eq_noParse_iff {result : Except ParseError Forest}
    (ending : Ending g root tokens result) :
    result = .error .noParse ↔
      ¬ root < g.nonterminals.size ∨
        (∀ number ≤ tokens.length, ViablePrefix g root (tokens.take number)) ∧
          ¬ ∃ word, g.Derives [.nonterminal root] word ∧ Matches g tokens word := by
  cases ending with
  | unknown absent => simp [absent]
  | @stuck known index _ found _ dead =>
    have inside := (List.getElem?_eq_some_iff.1 found).1
    suffices some_dead : ¬ ∀ number ≤ tokens.length,
        ViablePrefix g root (tokens.take number) by simp [known, some_dead]
    intro viable
    have here := viable (index + 1) inside
    rw [viablePrefix_take_iff inside] at here
    exact dead here
  | uncovered known viable none =>
    refine iff_of_true rfl (.inr ⟨fun number inside => ?_, ?_⟩)
    · rw [viablePrefix_take_iff inside]
      exact viable.of_le inside
    · rw [exists_matches_iff]
      rintro ⟨derivations, spelled⟩
      exact none derivations spelled
  | covered known _ _ _ spelled =>
    have sentence := exists_matches_iff.2 ⟨_, spelled⟩
    simp [known, sentence]

/-- Failures say where and why: a parse dies at the first token with which the tokens stop being the
beginning of a sentence, and finds nothing if there is no such token or the root is unknown. Without
tokens it cannot die. -/
theorem parseFrom_eq_error_iff (built : g.Built) (made : ofGrammar g = .ok parser)
    (root : NonterminalId) (tokens : List τ) :
    (∀ number text, parser.parseFrom root tokens = .error (.deadEnd number text) ↔
      root < g.nonterminals.size ∧ ViablePrefix g root (tokens.take (number - 1)) ∧
        ¬ ViablePrefix g root (tokens.take number) ∧
        ∃ token, 1 ≤ number ∧ tokens[number - 1]? = some token ∧
          text = Scannable.text token) ∧
    (parser.parseFrom root tokens = .error .noParse ↔
      ¬ root < g.nonterminals.size ∨
        (∀ number ≤ tokens.length, ViablePrefix g root (tokens.take number)) ∧
          ¬ ∃ word, g.Derives [.nonterminal root] word ∧ Matches g tokens word) ∧
    (tokens = [] → ∀ number text,
      parser.parseFrom root tokens ≠ .error (.deadEnd number text)) := by
  have ending := parseFrom_ending built.consistent made root tokens
  refine ⟨ending.eq_deadEnd_iff, ending.eq_noParse_iff, ?_⟩
  rintro rfl number text died
  obtain ⟨-, -, -, _, -, found, -⟩ := (ending.eq_deadEnd_iff number text).1 died
  simp at found

/-- The same token twice is no beginning of a sentence, because the parse dies at the second. -/
theorem not_viablePrefix_twoWays :
    (⟨twoWays, none⟩ : Parser).parseFrom 0 [tokenX, tokenX] = .error (.deadEnd 2 "x") ∧
      ViablePrefix twoWays 0 [tokenX] ∧ ¬ ViablePrefix twoWays 0 [tokenX, tokenX] := by
  have died : (⟨twoWays, none⟩ : Parser).parseFrom 0 [tokenX, tokenX] =
      .error (.deadEnd 2 "x") := by decide +kernel
  obtain ⟨-, viable, dead, -⟩ :=
    ((parseFrom_eq_error_iff built_twoWays ofGrammar_twoWays 0 [tokenX, tokenX]).1 2 "x").1 died
  exact ⟨died, viable, dead⟩

end Parser

end ChartParser
