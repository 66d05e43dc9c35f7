import ChartParser.Chart.Parse
import ChartParser.Proofs.Chart.Completeness
import Mathlib.Data.List.Forall2

/-!
# What a parse ends with

Reading the tokens one by one keeps the chart filled, so a run can only end in ways that say
something about the grammar and the tokens. `Parser.Ending` lists them: the root is unknown, the
tokens stop being the beginning of a sentence, they are the beginning of sentences but no sentence,
or they are a sentence and there is a chart for it. Every parse has one of these endings
(`Parser.parseFrom_ending`).
-/

namespace ChartParser

variable {τ : Type} [Scannable τ]

namespace Parser

/-- Whether the token at the position fits the terminal. -/
def fitsAt (g : Grammar) (tokens : List τ) (index : Nat) (id : TerminalId) : Bool :=
  tokens[index]?.any fun token => tokenFits g token id

/-- The tokens fit the terminals of the word one by one. -/
def Matches (g : Grammar) (tokens : List τ) (word : List TerminalId) : Prop :=
  List.Forall₂ (fun token id => tokenFits g token id = true) tokens word

variable {g : Grammar} {tokens : List τ} {word front : List TerminalId}

/-- At the position of a token fits what fits the token. -/
theorem fitsAt_eq_tokenFits {index : Nat} {token : τ} (found : tokens[index]? = some token) :
    fitsAt g tokens index = tokenFits g token := by
  funext id
  rw [fitsAt, found, Option.any_some]

/-- Behind the last token nothing fits. -/
theorem fitsAt_length : fitsAt g tokens tokens.length = fun _ => false := by
  funext id
  rw [fitsAt, List.getElem?_eq_none (Nat.le_refl _), Option.any_none]

/-- Tokens match a word if it is as long as they are and each token fits the terminal in its place.
-/
theorem matches_iff :
    Matches g tokens word ↔ word.length = tokens.length ∧
      Grammar.Fitting (fitsAt g tokens) 0 word := by
  induction tokens generalizing word with
  | nil =>
    rw [Matches, List.forall₂_nil_left_iff, List.length_nil, List.length_eq_zero_iff]
    exact ⟨fun nothing => ⟨nothing, nothing ▸ .nil⟩, And.left⟩
  | cons token tokens ih =>
    cases word with
    | nil => simp [Matches]
    | cons id word =>
      have shifted : Grammar.Fitting (fitsAt g (token :: tokens)) (0 + 1) word ↔
          Grammar.Fitting (fitsAt g tokens) 0 word := by
        simp only [Grammar.Fitting, fitsAt, Nat.zero_add, Nat.add_comm 1, List.getElem?_cons_succ]
      rw [Matches, List.forall₂_cons, ← Matches, ih, Grammar.Fitting.cons_iff, shifted]
      simp only [fitsAt, List.getElem?_cons_zero, Option.any_some, List.length_cons,
        Nat.add_right_cancel_iff]
      tauto

/-- The tokens of a span match a word if it is as long as they are and each of them fits the
terminal in its place. -/
theorem matches_span_iff {start stop : Nat} (earlier : start ≤ stop)
    (inside : stop ≤ tokens.length) :
    Matches g ((tokens.take stop).drop start) word ↔
      start + word.length = stop ∧ Grammar.Fitting (fitsAt g tokens) start word := by
  have many : ((tokens.take stop).drop start).length = stop - start := by
    rw [List.length_drop, List.length_take, Nat.min_eq_left inside]
  have length : word.length = stop - start ↔ start + word.length = stop := by omega
  rw [matches_iff, many, length]
  refine and_congr_right fun same => ?_
  have agrees : ∀ offset < word.length, ∀ id,
      fitsAt g ((tokens.take stop).drop start) (0 + offset) id =
        fitsAt g tokens (start + offset) id := by
    intro offset below id
    rw [fitsAt, fitsAt, List.getElem?_drop, Nat.zero_add, List.getElem?_take_of_lt (by omega)]
  constructor
  · intro fitting offset id found
    rw [← agrees offset (List.getElem?_eq_some_iff.1 found).1]
    exact fitting offset id found
  · intro fitting offset id found
    rw [agrees offset (List.getElem?_eq_some_iff.1 found).1]
    exact fitting offset id found

/-- The first tokens match a word if it is as long as they are and each of them fits the terminal in
its place. -/
theorem matches_take_iff {length : Nat} (inside : length ≤ tokens.length) :
    Matches g (tokens.take length) front ↔
      front.length = length ∧ Grammar.Fitting (fitsAt g tokens) 0 front := by
  have spanning : Matches g ((tokens.take length).drop 0) front ↔
      0 + front.length = length ∧ Grammar.Fitting (fitsAt g tokens) 0 front :=
    matches_span_iff (Nat.zero_le length) inside
  rwa [List.drop_zero, Nat.zero_add] at spanning

/-- The tokens match the beginning of a word that the root derives. -/
def ViablePrefix (g : Grammar) (root : NonterminalId) (tokens : List τ) : Prop :=
  ∃ front back, g.Derives [.nonterminal root] (front ++ back) ∧ Matches g tokens front

/-- The first tokens are a viable prefix exactly if the root derives a word that begins as they fit.
-/
theorem viablePrefix_take_iff {root : NonterminalId} {length : Nat}
    (inside : length ≤ tokens.length) :
    ViablePrefix g root (tokens.take length) ↔ g.Viable (fitsAt g tokens) root length := by
  simp only [ViablePrefix, Grammar.Viable, matches_take_iff inside]

/-- The root derives a word that the tokens match exactly if it covers all of them. -/
theorem exists_matches_iff {root : NonterminalId} :
    (∃ word, g.Derives [.nonterminal root] word ∧ Matches g tokens word) ↔
      ∃ derivations,
        g.Spells (fitsAt g tokens) [.nonterminal root] 0 tokens.length derivations := by
  constructor
  · rintro ⟨word, derived, matched⟩
    obtain ⟨length, fitting⟩ := matches_iff.1 matched
    have spelled := derived.spells fitting
    rwa [Nat.zero_add, length] at spelled
  · rintro ⟨_, spelled⟩
    obtain ⟨word, derived, length, fitting⟩ := spelled.derives
    rw [Nat.zero_add] at length
    exact ⟨word, derived, matches_iff.2 ⟨length, fitting⟩⟩

/-! ## Reading tokens -/

/-- What reading the tokens may end with: a chart that is filled at the last token, where all tokens
are a viable prefix, or the first token with which they stop being one. -/
inductive Reading (g : Grammar) (root : NonterminalId) (tokens : List τ) :
    Except ParseError Chart → Prop
  | passed {chart : Chart} (whole : chart.position = tokens.length)
      (filled : chart.Filled g (fitsAt g tokens) root (chart.position + 1))
      (viable : g.Viable (fitsAt g tokens) root tokens.length) : Reading g root tokens (.ok chart)
  | stuck {index : Nat} {token : τ} (found : tokens[index]? = some token)
      (viable : g.Viable (fitsAt g tokens) root index)
      (dead : ¬ g.Viable (fitsAt g tokens) root (index + 1)) :
      Reading g root tokens (.error (.deadEnd (index + 1) (Scannable.text token)))

/-- Without a budget, closing a column cannot fail. -/
theorem closeColumn_eq {parser : Parser} (unbounded : parser.budget = none)
    (fits : TerminalId → Bool) (total : Nat) (chart : Chart) :
    parser.closeColumn fits total chart =
      .ok (total + (chart.close parser.grammar fits).column.size,
        chart.close parser.grammar fits) := by
  simp [closeColumn, unbounded]

/-- Where a sound chart has an item, the tokens so far are a viable prefix. -/
theorem viable_of_mem {fits : Nat → TerminalId → Bool} {root : NonterminalId} {chart : Chart}
    {item : Item} (consistent : g.Consistent) (checked : g.check = .ok ())
    (sound : chart.Sound g fits root) (inside : item ∈ chart.column) :
    g.Viable fits root chart.position := by
  obtain ⟨production, valid, -⟩ := sound.item (by rw [Chart.columnAt_position]; exact inside)
  obtain ⟨_, spelled⟩ := valid.spelled
  exact valid.expected.viable consistent checked valid.found spelled

/-- Reading the tokens that are left, from a chart that is filled at the current position and has an
item there, ends in one of these ways. -/
theorem readTokens_spec {parser : Parser} (unbounded : parser.budget = none)
    (consistent : parser.grammar.Consistent) (checked : parser.grammar.check = .ok ())
    {root : NonterminalId} {passed rest : List τ} (split : tokens = passed ++ rest)
    {chart : Chart} (here : chart.position = passed.length)
    (filled : chart.Filled parser.grammar (fitsAt parser.grammar tokens) root chart.position)
    {item : Item} (inside : item ∈ chart.column) (total : Nat) :
    Reading parser.grammar root tokens (parser.readTokens rest total chart) := by
  induction rest generalizing passed chart item total with
  | nil =>
    have all : chart.position = tokens.length := by rw [here, split, List.append_nil]
    have last := @fitsAt_length τ _ parser.grammar tokens
    rw [← all] at last
    rw [readTokens, closeColumn_eq unbounded, ← last]
    obtain ⟨closed, grows, -⟩ := filled.close consistent
    have viable := viable_of_mem consistent checked filled.sound inside
    generalize chart.close parser.grammar (fitsAt parser.grammar tokens chart.position) = final
      at closed grows ⊢
    rw [← grows.position] at closed all
    exact .passed all closed (all ▸ grows.position ▸ viable)
  | cons token rest ih =>
    have found : tokens[chart.position]? = some token := by simp [split, here]
    have viable := viable_of_mem consistent checked filled.sound inside
    obtain ⟨next, moved⟩ := filled.advance consistent
    rw [readTokens, closeColumn_eq unbounded, ← fitsAt_eq_tokenFits found]
    simp only [bind, Except.bind]
    generalize chart.close parser.grammar (fitsAt parser.grammar tokens chart.position) = middle
      at next moved ⊢
    split
    · rename_i empty
      rw [moved]
      refine .stuck found viable fun more => ?_
      rw [← moved] at more
      obtain ⟨other, present⟩ := next.exists_item_of_viable consistent (by omega) more
      rw [Array.isEmpty_iff.1 empty] at present
      simp at present
    · rename_i nonempty
      obtain ⟨other, present⟩ : ∃ other, other ∈ (middle.scan parser.grammar).column := by
        rw [Array.isEmpty_iff] at nonempty
        exact Array.exists_mem_of_ne_empty _ nonempty
      have splitToo : tokens = (passed ++ [token]) ++ rest := by simp [split]
      exact ih splitToo (by rw [moved, here, List.length_append]; rfl) next present _

/-! ## Parsing -/

/-- What a parse may end with. -/
inductive Ending (g : Grammar) (root : NonterminalId) (tokens : List τ) :
    Except ParseError Forest → Prop
  /-- The grammar does not have the root. -/
  | unknown (absent : ¬ root < g.nonterminals.size) : Ending g root tokens (.error .noParse)
  /-- The tokens stop being the beginning of a sentence. -/
  | stuck (known : root < g.nonterminals.size) {index : Nat} {token : τ}
      (found : tokens[index]? = some token) (viable : g.Viable (fitsAt g tokens) root index)
      (dead : ¬ g.Viable (fitsAt g tokens) root (index + 1)) :
      Ending g root tokens (.error (.deadEnd (index + 1) (Scannable.text token)))
  /-- The tokens are the beginning of sentences but no sentence. -/
  | uncovered (known : root < g.nonterminals.size)
      (viable : g.Viable (fitsAt g tokens) root tokens.length)
      (none : ∀ derivations,
        ¬ g.Spells (fitsAt g tokens) [.nonterminal root] 0 tokens.length derivations) :
      Ending g root tokens (.error .noParse)
  /-- The tokens are a sentence, and the forest is that of the node for them in a chart whose
  columns are all closed. -/
  | covered {chart : Chart} {node : NodeId} {derivations : List Derivation}
      (known : root < g.nonterminals.size) (whole : chart.position = tokens.length)
      (filled : chart.Filled g (fitsAt g tokens) root (chart.position + 1))
      (key : chart.arena.key? node = some ⟨⟨0, tokens.length⟩, .nonterminal root⟩)
      (spelled : g.Spells (fitsAt g tokens) [.nonterminal root] 0 tokens.length derivations) :
      Ending g root tokens (.ok ⟨g, chart.arena, node⟩)

/-- A parser made from a grammar has that grammar, which has been checked, and no budget. -/
theorem ofGrammar_eq_ok {parser : Parser} (made : ofGrammar g = .ok parser) :
    parser.grammar = g ∧ parser.budget = none ∧ g.check = .ok () := by
  obtain ⟨_, checked, same⟩ := bind_eq_ok.1 made
  obtain rfl := Except.ok.inj same
  exact ⟨rfl, rfl, checked⟩

/-- A checked grammar has productions to begin with exactly for the roots that it knows. -/
theorem isEmpty_start_iff (consistent : g.Consistent) (checked : g.check = .ok ())
    {root : NonterminalId} :
    (Chart.empty.predictAll g root).column.isEmpty = true ↔ ¬ root < g.nonterminals.size := by
  constructor
  · intro empty known
    obtain ⟨filled, first⟩ := @Chart.filled_start g (fun _ _ => false) root consistent
    obtain ⟨id, listed⟩ := List.exists_mem_of_ne_nil _ (Grammar.check_eq_ok checked known).1
    have inside := filled.started id listed
    rw [← first, Chart.columnAt_position, Array.isEmpty_iff.1 empty] at inside
    simp at inside
  · intro unknown
    have nothing : g.productionsOf root = [] := by
      rw [← consistent.size_byLhs] at unknown
      rw [Grammar.productionsOf, Array.getElem?_eq_none (Nat.le_of_not_lt unknown)]
      rfl
    simp [Chart.predictAll, nothing, Chart.empty]

/-- Every parse with a parser made from a grammar ends in one of these ways. -/
theorem parseFrom_ending {parser : Parser} (consistent : g.Consistent)
    (made : ofGrammar g = .ok parser) (root : NonterminalId) (tokens : List τ) :
    Ending g root tokens (parser.parseFrom root tokens) := by
  obtain ⟨rfl, unbounded, checked⟩ := ofGrammar_eq_ok made
  obtain ⟨filled, first⟩ :=
    @Chart.filled_start parser.grammar (fitsAt parser.grammar tokens) root consistent
  rw [parseFrom]
  by_cases known : root < parser.grammar.nonterminals.size
  · have nonempty := (isEmpty_start_iff consistent checked).not.2 (not_not.2 known)
    obtain ⟨item, inside⟩ :=
      Array.exists_mem_of_ne_empty _ fun none => nonempty (Array.isEmpty_iff.2 none)
    rw [if_neg nonempty]
    rw [← first] at filled
    have reading := readTokens_spec unbounded consistent checked (List.nil_append tokens).symm
      first filled inside 0
    cases result : parser.readTokens tokens 0 (Chart.empty.predictAll parser.grammar root) with
    | error _ =>
      rw [result] at reading
      cases reading with
      | stuck found viable dead => exact .stuck known found viable dead
    | ok chart =>
      rw [result] at reading
      cases reading with
      | passed whole filled viable =>
      dsimp only
      cases accepted : chart.accepted? parser.grammar root with
      | none =>
        refine .uncovered known viable fun derivations spelled => ?_
        rw [← whole] at spelled
        obtain ⟨node, arena, some⟩ := filled.accepts consistent spelled
        simp [accepted] at some
      | some pair =>
        obtain ⟨node, arena⟩ := pair
        obtain ⟨rfl, key, derivations, spelled⟩ := filled.accepted?_eq_some accepted
        rw [whole] at key spelled
        exact .covered known whole filled key spelled
  · rw [if_pos ((isEmpty_start_iff consistent checked).2 known)]
    exact .unknown known

end Parser

end ChartParser
