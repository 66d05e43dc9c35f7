import ChartParser.Proofs.Chart.Walks
import ChartParser.Proofs.Parser.Budget

/-!
# The columns of a parse

The charts that a parse goes through are those that closing and scanning make one from the other
(`chartAt`): a parse without a budget stops at the first that has nothing in its column, and else
ends with the last of them closed (`parseFrom_eq_outcome`). Every one of them is filled up to its
column, so that all that is known of filled charts holds of each column of each parse: processing it
comes to an end, it then has one item for every valid place and no other, and the node of an item is
the one that its place determines (`columns_hold_validItems`).
-/

namespace ChartParser

/-! ## Nodes of items -/

/-- The item has no node if its dot is in front, the node of the first symbol if that is one of
several and the only one before the dot, and else the node that the production gets for the symbols
before the dot. In each case there is no other node like it. -/
structure Item.Noded (arena : Arena) (position : Nat) (production : Production) (item : Item) :
    Prop where
  none : item.node = .none ↔ item.dot = 0
  first : item.dot = 1 → 1 < production.length → ∃ symbol, production.symbolAt? 0 = some symbol ∧
    ∀ node, item.node = some node ↔
      arena.key? node = some ⟨⟨item.origin, position⟩, symbol.labelAt item.origin⟩
  later : item.dot ≠ 0 → ¬ (item.dot = 1 ∧ 1 < production.length) → ∀ node,
    item.node = some node ↔
      arena.key? node = some ⟨⟨item.origin, position⟩, production.ownLabel item.production item.dot⟩

/-- A node is the one that stands for something if it has the key for that, and no other has. -/
theorem Arena.Licensed.eq_some_iff {g : Grammar} {fits : Nat → TerminalId → Bool} {arena : Arena}
    {position : Nat} (licensed : arena.Licensed g fits position) {node? : Option NodeId}
    {key : NodeKey} (known : ∃ node, node? = some node ∧ arena.key? node = some key)
    (node : NodeId) : node? = some node ↔ arena.key? node = some key := by
  obtain ⟨own, rfl, keyed⟩ := known
  constructor
  · intro same
    rwa [← Option.some.inj same]
  · intro keyedToo
    rw [licensed.unique keyed keyedToo]

/-- A placed item has the node that its place determines. -/
theorem Item.Placed.noded {g : Grammar} {fits : Nat → TerminalId → Bool} {arena : Arena}
    {position stop : Nat} {production : Production} {item : Item}
    (placed : item.Placed arena position production) (licensed : arena.Licensed g fits stop) :
    item.Noded arena position production := by
  rw [Placed, Production.labelAt?] at placed
  by_cases start : item.dot = 0
  · rw [if_pos start] at placed
    exact ⟨iff_of_true placed start, fun one => by omega, fun other => absurd start other⟩
  rw [if_neg start] at placed
  by_cases single : item.dot = 1 ∧ production.length ≥ 2
  · obtain ⟨symbol, next⟩ := @Production.exists_symbolAt? production 0 (by omega)
    rw [if_pos single, next, Option.map_some] at placed
    refine ⟨?_, fun _ _ => ⟨symbol, next, licensed.eq_some_iff placed⟩,
      fun _ other => absurd single other⟩
    obtain ⟨node, same, -⟩ := placed
    exact iff_of_false (by simp [same]) start
  · rw [if_neg single] at placed
    refine ⟨?_, fun one several => absurd ⟨one, several⟩ single,
      fun _ _ => licensed.eq_some_iff placed⟩
    obtain ⟨node, same, -⟩ := placed
    exact iff_of_false (by simp [same]) start

namespace Parser

variable {τ : Type} [Scannable τ] {g : Grammar} {parser : Parser} {root : NonterminalId}
  {tokens : List τ}

/-! ## Charts of a parse -/

/-- The chart of a parse before the column after so many tokens is processed. -/
def chartAt (g : Grammar) (root : NonterminalId) (tokens : List τ) : Nat → Chart
  | 0 => Chart.empty.predictAll g root
  | position + 1 =>
    ((chartAt g root tokens position).close g (fitsAt g tokens position)).scan g

/-- The chart of a parse after that column has been processed. -/
def closedAt (g : Grammar) (root : NonterminalId) (tokens : List τ) (position : Nat) : Chart :=
  (chartAt g root tokens position).close g (fitsAt g tokens position)

/-- The failure of a parse that has found nothing in the column after so many tokens. -/
def stuckAt (tokens : List τ) : Nat → ParseError
  | 0 => .noParse
  | position + 1 =>
    .deadEnd (position + 1) ((tokens[position]?.map Scannable.text).getD "")

/-- What a parse comes to: its first empty column, or else its last column, decides it. -/
def outcome (g : Grammar) (root : NonterminalId) (tokens : List τ) : Except ParseError Forest :=
  match (List.range' 0 (tokens.length + 1)).find?
      fun position => (chartAt g root tokens position).column.isEmpty with
  | some position => .error (stuckAt tokens position)
  | none => finish g root (.ok (closedAt g root tokens tokens.length))

/-- The chart before a column is processed is at that column, and filled up to it. -/
theorem filled_chartAt (consistent : g.Consistent) (root : NonterminalId) (tokens : List τ)
    (position : Nat) :
    (chartAt g root tokens position).position = position ∧
      (chartAt g root tokens position).Filled g (fitsAt g tokens) root
        (chartAt g root tokens position).position := by
  induction position with
  | zero =>
    obtain ⟨filled, first⟩ := @Chart.filled_start g (fitsAt g tokens) root consistent
    rw [← first] at filled
    exact ⟨first, filled⟩
  | succ position ih =>
    obtain ⟨here, filled⟩ := ih
    obtain ⟨next, moved⟩ := filled.advance consistent
    rw [here] at next moved
    exact ⟨moved, next⟩

/-- The chart after a column has been processed is still at that column, and filled beyond it. -/
theorem filled_closedAt (consistent : g.Consistent) (root : NonterminalId) (tokens : List τ)
    (position : Nat) :
    (closedAt g root tokens position).position = position ∧
      (closedAt g root tokens position).Filled g (fitsAt g tokens) root
        ((closedAt g root tokens position).position + 1) := by
  obtain ⟨here, filled⟩ := filled_chartAt consistent root tokens position
  obtain ⟨closed, grows, -⟩ := filled.close consistent
  rw [here] at closed grows
  have stays : (closedAt g root tokens position).position = position := grows.position.trans here
  rw [stays]
  exact ⟨rfl, closed⟩

/-- Reading the tokens that are left goes through the charts of the columns that are left. -/
theorem finish_readTokens (consistent : parser.grammar.Consistent)
    (unbounded : parser.budget = none) {passed rest : List τ} (split : tokens = passed ++ rest)
    (total : Nat) :
    finish parser.grammar root
        (parser.readTokens rest total (chartAt parser.grammar root tokens passed.length)) =
      match (List.range' (passed.length + 1) rest.length).find?
          fun position => (chartAt parser.grammar root tokens position).column.isEmpty with
      | some position => .error (stuckAt tokens position)
      | none => finish parser.grammar root
          (.ok (closedAt parser.grammar root tokens tokens.length)) := by
  induction rest generalizing passed total with
  | nil =>
    have all : passed.length = tokens.length := by rw [split, List.append_nil]
    have last := @fitsAt_length τ _ parser.grammar tokens
    rw [readTokens, closeColumn_eq unbounded, all, ← last]
    rfl
  | cons token rest ih =>
    have found : tokens[passed.length]? = some token := by simp [split]
    have moved := (filled_chartAt consistent root tokens (passed.length + 1)).1
    rw [readTokens, closeColumn_eq unbounded, ← fitsAt_eq_tokenFits found, List.length_cons,
      List.range'_succ, List.find?_cons]
    simp only [bind, Except.bind]
    change finish parser.grammar root
      (if (chartAt parser.grammar root tokens (passed.length + 1)).column.isEmpty = true then
        .error (.deadEnd (chartAt parser.grammar root tokens (passed.length + 1)).position
          (Scannable.text token))
      else parser.readTokens rest _ (chartAt parser.grammar root tokens (passed.length + 1))) = _
    rw [moved]
    cases empty : (chartAt parser.grammar root tokens (passed.length + 1)).column.isEmpty with
    | true => simp [finish, stuckAt, found]
    | false =>
      have splitToo : tokens = (passed ++ [token]) ++ rest := by simp [split]
      have later := ih splitToo
      rw [List.length_append, List.length_singleton] at later
      rw [if_neg Bool.false_ne_true]
      exact later _

/-- A parse without a budget comes to what its columns come to. -/
theorem parseFrom_eq_outcome (consistent : g.Consistent) (made : ofGrammar g = .ok parser)
    (root : NonterminalId) (tokens : List τ) :
    parser.parseFrom root tokens = outcome g root tokens := by
  obtain ⟨rfl, unbounded, checked⟩ := ofGrammar_eq_ok made
  rw [outcome, List.range'_succ, List.find?_cons]
  by_cases known : root < parser.grammar.nonterminals.size
  · have nonempty : (chartAt parser.grammar root tokens 0).column.isEmpty = false :=
      Bool.eq_false_iff.2 ((isEmpty_start_iff consistent checked).not.2 (not_not.2 known))
    rw [parseFrom_eq_finish parser consistent checked known, nonempty]
    exact finish_readTokens consistent unbounded (List.nil_append tokens).symm 0
  · have empty : (chartAt parser.grammar root tokens 0).column.isEmpty = true :=
      (isEmpty_start_iff consistent checked).2 known
    rw [empty]
    exact if_pos empty

/-- The columns of a parse are exactly the valid items, and processing a column comes to an end. A
parse comes to what its columns come to. Processing any of them by loops that know no bound,
although its items grow in number on the way, ends with exactly one chart. In that, the column has
one item for every valid production, dot and origin, and no other, and the node of each of its items
is none if the dot is in front, the node of the first symbol if that is the only one of several
before the dot, and else the one node that has the label for the symbols before the dot. -/
theorem columns_hold_validItems (built : g.Built) (made : ofGrammar g = .ok parser)
    (root : NonterminalId) (tokens : List τ) :
    parser.parseFrom root tokens = outcome g root tokens ∧
    ∀ position ≤ tokens.length,
      (∀ last, Chart.Closes g (fitsAt g tokens position) (chartAt g root tokens position) last ↔
        last = closedAt g root tokens position) ∧
      ((closedAt g root tokens position).column.toList.map Chart.place).Nodup ∧
      (∀ spot, spot ∈ (closedAt g root tokens position).column.toList.map Chart.place ↔
        spot ∈ validItems g root tokens position) ∧
      ∀ item ∈ (closedAt g root tokens position).column, ∃ production,
        g.productions[item.production]? = some production ∧
          item.Noded (closedAt g root tokens position).arena position production := by
  have consistent := built.consistent
  refine ⟨parseFrom_eq_outcome consistent made root tokens, fun position inside => ?_⟩
  obtain ⟨first, before⟩ := filled_chartAt consistent root tokens position
  obtain ⟨here, filled⟩ := filled_closedAt consistent root tokens position
  refine ⟨fun last => ?_, filled.sound.nodup_places, fun spot => ?_, fun item listed => ?_⟩
  · have closes := @Chart.Sound.closes_iff g (fitsAt g tokens) root _ last consistent before.sound
    rw [first] at closes
    exact closes
  · rw [validItems_eq inside, filled.mem_place_iff consistent, here]
  · obtain ⟨production, valid, placed⟩ := filled.sound.mem_column listed
    rw [here] at placed
    exact ⟨production, valid.found, placed.noded filled.sound.arena⟩

/-- Behind the one token there are three valid items, one for each production, and the loops that
find them come to an end. -/
theorem columns_hold_validItems_twoWays :
    twoWays.Built ∧ ofGrammar twoWays = .ok ⟨twoWays, none⟩ ∧ 1 ≤ [tokenX].length ∧
      (∀ spot, spot ∈ validItems twoWays 0 [tokenX] 1 ↔
        spot ∈ [(0, 1, 0), (2, 1, 0), (1, 1, 0)]) ∧
      ∃ last, Chart.Closes twoWays (fitsAt twoWays [tokenX] 1) (chartAt twoWays 0 [tokenX] 1)
        last := by
  have inside : 1 ≤ [tokenX].length := by decide
  obtain ⟨-, each⟩ := columns_hold_validItems built_twoWays ofGrammar_twoWays 0 [tokenX]
  obtain ⟨closes, -, places, -⟩ := each 1 inside
  have column : (closedAt twoWays 0 [tokenX] 1).column.toList.map Chart.place =
      [(0, 1, 0), (2, 1, 0), (1, 1, 0)] := by decide +kernel
  refine ⟨built_twoWays, ofGrammar_twoWays, inside, fun spot => ?_, _, (closes _).2 rfl⟩
  rw [← places, column]

end Parser

end ChartParser
