import ChartParser.Proofs.Chart.Contents
import ChartParser.Proofs.Grammar.Sentential
import ChartParser.Proofs.Parser.Recognition
import Mathlib.Algebra.Order.BigOperators.Group.Finset

/-!
# Parses with a budget

A budget on the number of items can only end a parse early. A run that is not ended by its budget
is the run without one, so that all that holds of forests made without a budget holds of forests
made with one.

Where a run is ended can be said without the chart: a column has exactly the items that are valid
for the grammar and the tokens (`ncard_validItems`), so the run ends with the first column that
takes their number over the limit, if the run without a limit gets there (`parseFrom_limited`).
-/

namespace ChartParser.Parser

variable {τ : Type} [Scannable τ] {parser : Parser}

/-- A column that is closed within the budget is closed alike without one. -/
theorem closeColumn_of_budget {fits : TerminalId → Bool} {total : Nat} {chart : Chart}
    {result : Nat × Chart} (closed : parser.closeColumn fits total chart = .ok result) :
    ({ parser with budget := none } : Parser).closeColumn fits total chart = .ok result := by
  unfold closeColumn at closed ⊢
  dsimp only at closed ⊢
  split at closed
  · simp at closed
  · exact closed

/-- Tokens that are read within the budget are read alike without one. -/
theorem readTokens_of_budget {tokens : List τ} {total : Nat} {chart last : Chart}
    (read : parser.readTokens tokens total chart = .ok last) :
    ({ parser with budget := none } : Parser).readTokens tokens total chart = .ok last := by
  induction tokens generalizing total chart with
  | nil =>
    obtain ⟨result, closed, same⟩ := map_eq_ok.1 read
    exact map_eq_ok.2 ⟨result, closeColumn_of_budget closed, same⟩
  | cons token rest ih =>
    obtain ⟨⟨sum, middle⟩, closed, next⟩ := bind_eq_ok.1 read
    refine bind_eq_ok.2 ⟨(sum, middle), closeColumn_of_budget closed, ?_⟩
    dsimp only at next ⊢
    split at next
    · simp at next
    · rw [if_neg ‹_›]
      exact ih next

/-- A forest made within the budget is the one made without a budget. -/
theorem parseFrom_of_budget {root : NonterminalId} {tokens : List τ} {forest : Forest}
    (parsed : parser.parseFrom root tokens = .ok forest) :
    ({ parser with budget := none } : Parser).parseFrom root tokens = .ok forest := by
  unfold parseFrom at parsed ⊢
  dsimp only at parsed ⊢
  split at parsed
  · simp at parsed
  rw [if_neg ‹_›]
  cases read : parser.readTokens tokens 0 (Chart.empty.predictAll parser.grammar root) with
  | error _ => simp [read] at parsed
  | ok chart =>
    rw [read] at parsed
    rw [readTokens_of_budget read]
    exact parsed

/-- A parse that succeeds within a budget has ended as one without a budget does. -/
theorem ending_of_budget {g : Grammar} (consistent : g.Consistent)
    (made : ofGrammar g = .ok parser) {budget : Option Nat} {root : NonterminalId}
    {tokens : List τ} {forest : Forest}
    (parsed : ({ parser with budget } : Parser).parseFrom root tokens = .ok forest) :
    Ending g root tokens (.ok forest) := by
  have ending := parseFrom_ending consistent made root tokens
  have unlimited := parseFrom_of_budget parsed
  obtain ⟨-, unbounded, -⟩ := ofGrammar_eq_ok made
  rw [show ({ parser with budget := none } : Parser) = parser by rw [← unbounded]] at unlimited
  rwa [unlimited] at ending

/-! ## Valid items -/

/-- The productions with a dot and an origin that are valid after some of the tokens: the root can
be rewritten so that the left-hand side stands behind terminals that match the tokens before the
origin, and the symbols before the dot derive a word that matches those from there on. -/
def validItems (g : Grammar) (root : NonterminalId) (tokens : List τ) (position : Nat) :
    Set (ProductionId × Nat × Nat) :=
  {(rule, dot, origin) | ∃ production, g.productions[rule]? = some production ∧
    dot ≤ production.length ∧ origin ≤ position ∧
    (∃ front rest, g.RewritesTo [.nonterminal root]
        (front.map .terminal ++ .nonterminal production.lhs :: rest) ∧
      Matches g (tokens.take origin) front) ∧
    ∃ word, g.Derives (production.symbols.take dot) word ∧
      Matches g ((tokens.take position).drop origin) word}

/-- Only finitely many items are valid at a position. -/
theorem finite_validItems (g : Grammar) (root : NonterminalId) (tokens : List τ) (position : Nat) :
    (validItems g root tokens position).Finite := by
  let places (rule : ProductionId) : Set (ProductionId × Nat × Nat) :=
    {rule} ×ˢ {dot | dot ≤ (g.productions[rule]?.map Production.length).getD 0} ×ˢ
      {origin | origin ≤ position}
  have each : ∀ rule, (places rule).Finite := fun rule =>
    (Set.finite_singleton rule).prod ((Set.finite_le_nat _).prod (Set.finite_le_nat _))
  refine ((Set.finite_lt_nat g.productions.size).biUnion fun rule _ => each rule).subset ?_
  rintro ⟨rule, dot, origin⟩ ⟨production, found, bounded, earlier, -⟩
  have below := (Array.getElem?_eq_some_iff.1 found).1
  exact Set.mem_biUnion below ⟨rfl, by simpa [found] using bounded, earlier⟩

/-- The number of valid items up to the position. -/
noncomputable def itemTotal (g : Grammar) (root : NonterminalId) (tokens : List τ)
    (position : Nat) : Nat :=
  ∑ earlier ∈ Finset.range (position + 1), (validItems g root tokens earlier).ncard

section Items

variable {g : Grammar} {root nonterminal : NonterminalId} {tokens : List τ} {chart : Chart}
  {position : Nat}

/-- What is expected may follow the tokens before it. -/
theorem exists_rewritesTo_iff (inside : position ≤ tokens.length) :
    (∃ front rest, g.RewritesTo [.nonterminal root]
        (front.map .terminal ++ .nonterminal nonterminal :: rest) ∧
      Matches g (tokens.take position) front) ↔
      g.Expects (fitsAt g tokens) root nonterminal position := by
  simp only [Grammar.expects_iff, matches_take_iff inside]

/-- Symbols derive a word that matches the tokens of a span exactly if they cover the span. -/
theorem exists_derives_iff {symbols : List Symbol} {start stop : Nat} (earlier : start ≤ stop)
    (inside : stop ≤ tokens.length) :
    (∃ word, g.Derives symbols word ∧ Matches g ((tokens.take stop).drop start) word) ↔
      ∃ derivations, g.Spells (fitsAt g tokens) symbols start stop derivations := by
  simp only [matches_span_iff earlier inside]
  constructor
  · rintro ⟨word, derived, rfl, fitting⟩
    exact derived.spells fitting
  · rintro ⟨_, spelled⟩
    exact spelled.derives

/-- The valid items are those that a chart may have at the position. -/
theorem validItems_eq (inside : position ≤ tokens.length) :
    validItems g root tokens position = g.validPlaces (fitsAt g tokens) root position := by
  ext ⟨rule, dot, origin⟩
  refine exists_congr fun production => ?_
  constructor
  · rintro ⟨found, bounded, earlier, reached, derived⟩
    exact ⟨found, bounded, (exists_rewritesTo_iff (Nat.le_trans earlier inside)).1 reached,
      (exists_derives_iff earlier inside).1 derived⟩
  · intro valid
    have earlier : origin ≤ position := valid.origin_le
    exact ⟨valid.found, valid.dot_le, earlier,
      (exists_rewritesTo_iff (Nat.le_trans earlier inside)).2 valid.expected,
      (exists_derives_iff earlier inside).2 valid.spelled⟩

/-- A closed column has as many items as are valid. -/
theorem ncard_validItems (consistent : g.Consistent)
    (filled : chart.Filled g (fitsAt g tokens) root (chart.position + 1))
    (inside : chart.position ≤ tokens.length) :
    (validItems g root tokens chart.position).ncard = chart.column.size := by
  rw [validItems_eq inside, filled.size_eq consistent]

/-- The total up to a position is that up to the one before it and the items there. -/
theorem itemTotal_eq_add :
    itemTotal g root tokens position =
      ∑ earlier ∈ Finset.range position, (validItems g root tokens earlier).ncard +
        (validItems g root tokens position).ncard :=
  Finset.sum_range_succ _ _

/-- The total grows with the position. -/
theorem itemTotal_mono {earlier later : Nat} (before : earlier ≤ later) :
    itemTotal g root tokens earlier ≤ itemTotal g root tokens later :=
  Finset.sum_le_sum_of_subset (Finset.range_mono (Nat.succ_le_succ before))

end Items

/-! ## Limits -/

/-- A run with this result has processed the column at the position: all columns are processed,
unless the run ends with a dead end, which is found before the column of its number is. -/
def Reaches {α : Type} (tokens : List τ) (result : Except ParseError α) (position : Nat) : Prop :=
  position ≤ tokens.length ∧
    ∀ number text, result = .error (.deadEnd number text) → position < number

/-- What a limit does to a run with this result: the run is cut at the first position that it
reaches where the total is over the limit, and if there is no such position, it is the same run. -/
inductive Limited {α : Type} (total : Nat → Nat) (limit : Nat) (reaches : Nat → Prop)
    (result : Except ParseError α) : Except ParseError α → Prop
  | cut {position : Nat} (reached : reaches position) (exceeds : limit < total position)
      (first : ∀ earlier < position, total earlier ≤ limit) :
      Limited total limit reaches result (.error (.tooComplex position (total position)))
  | whole (within : ∀ position, reaches position → total position ≤ limit) :
      Limited total limit reaches result result

namespace Limited

variable {α : Type} {total : Nat → Nat} {limit more : Nat} {reaches : Nat → Prop}
  {result low high : Except ParseError α}

/-- Where the total goes over the limit, the run is cut at the first such position. -/
theorem exists_isLeast (limited : Limited total limit reaches result low)
    (exceeds : {position | reaches position ∧ limit < total position}.Nonempty) :
    ∃ position, IsLeast {position | reaches position ∧ limit < total position} position ∧
      low = .error (.tooComplex position (total position)) := by
  cases limited with
  | @cut position reached beyond first =>
    refine ⟨position, ⟨⟨reached, beyond⟩, fun other ⟨_, exceedsToo⟩ => ?_⟩, rfl⟩
    exact Nat.le_of_not_lt fun earlier => Nat.not_lt.2 (first other earlier) exceedsToo
  | whole within =>
    obtain ⟨position, reached, beyond⟩ := exceeds
    exact absurd beyond (Nat.not_lt.2 (within position reached))

/-- Where the total never goes over the limit, nothing is cut. -/
theorem eq_of_within (limited : Limited total limit reaches result low)
    (within : ∀ position, reaches position → total position ≤ limit) : low = result := by
  cases limited with
  | cut reached beyond _ => exact absurd beyond (Nat.not_lt.2 (within _ reached))
  | whole _ => rfl

/-- A run that a limit leaves whole is left whole by larger limits. -/
theorem eq_of_le (limited : Limited total limit reaches result low)
    (looser : Limited total more reaches result high) (larger : limit ≤ more)
    (uncut : ∀ position items, low ≠ .error (.tooComplex position items)) : high = low := by
  cases limited with
  | cut => exact absurd rfl (uncut _ _)
  | whole within =>
    exact looser.eq_of_within fun position reached => (within position reached).trans larger

/-- A run that a limit cuts is cut no later by smaller limits. -/
theorem exists_cut_of_le (limited : Limited total limit reaches result low)
    (looser : Limited total more reaches result high) (larger : limit ≤ more)
    (grows : Monotone total)
    (intact : ∀ position items, result ≠ .error (.tooComplex position items))
    {position items : Nat} (cut : high = .error (.tooComplex position items)) :
    ∃ earlier ≤ position, ∃ fewer ≤ items, low = .error (.tooComplex earlier fewer) := by
  cases looser with
  | whole _ => exact absurd cut (intact _ _)
  | cut reached exceeds _ =>
    obtain ⟨rfl, rfl⟩ : _ = position ∧ _ = items := by simpa using cut
    obtain ⟨earlier, least, same⟩ :=
      limited.exists_isLeast ⟨_, reached, lt_of_le_of_lt larger exceeds⟩
    have before := least.2 ⟨reached, lt_of_le_of_lt larger exceeds⟩
    exact ⟨earlier, before, _, grows before, same⟩

end Limited

section Runs

variable {g : Grammar} {root : NonterminalId} {tokens : List τ}

/-- Closing a column adds to the total of those before it what makes the total up to there. -/
theorem sum_add_size_close (consistent : g.Consistent) {chart : Chart}
    (filled : chart.Filled g (fitsAt g tokens) root chart.position)
    (inside : chart.position ≤ tokens.length) :
    ∑ earlier ∈ Finset.range chart.position, (validItems g root tokens earlier).ncard +
        (chart.close g (fitsAt g tokens chart.position)).column.size =
      itemTotal g root tokens chart.position := by
  obtain ⟨closed, grows, -⟩ := filled.close consistent
  have size := ncard_validItems consistent (by rwa [grows.position]) (by rwa [grows.position])
  rw [itemTotal_eq_add, ← size, grows.position]

/-- Closing a column within the limit gives the total up to there. -/
theorem closeColumn_of_limit {parser : Parser} (limit : Nat)
    (consistent : parser.grammar.Consistent) {chart : Chart}
    (filled : chart.Filled parser.grammar (fitsAt parser.grammar tokens) root chart.position)
    (inside : chart.position ≤ tokens.length) :
    ({ parser with budget := some limit } : Parser).closeColumn
        (fitsAt parser.grammar tokens chart.position)
        (∑ earlier ∈ Finset.range chart.position,
          (validItems parser.grammar root tokens earlier).ncard) chart =
      if limit < itemTotal parser.grammar root tokens chart.position then
        .error (.tooComplex chart.position
          (itemTotal parser.grammar root tokens chart.position))
      else .ok (itemTotal parser.grammar root tokens chart.position,
        chart.close parser.grammar (fitsAt parser.grammar tokens chart.position)) := by
  obtain ⟨-, grows, -⟩ := filled.close consistent
  simp only [closeColumn, Option.any_some, decide_eq_true_eq, grows.position,
    sum_add_size_close consistent filled inside]

/-- Where the tokens are a viable prefix, reading them gets. -/
theorem Reading.reaches {result : Except ParseError Chart} (reading : Reading g root tokens result)
    {position : Nat} (inside : position ≤ tokens.length)
    (viable : g.Viable (fitsAt g tokens) root position) : Reaches tokens result position := by
  refine ⟨inside, ?_⟩
  rintro number text rfl
  cases reading with
  | stuck found _ dead =>
  by_contra before
  exact dead (viable.of_le (Nat.not_lt.1 before))

/-- Reading the tokens that are left with a limit, where the columns so far were within it. -/
theorem readTokens_limited {parser : Parser} (limit : Nat) (unbounded : parser.budget = none)
    (consistent : parser.grammar.Consistent) (checked : parser.grammar.check = .ok ())
    {passed rest : List τ} (split : tokens = passed ++ rest) {chart : Chart}
    (here : chart.position = passed.length)
    (filled : chart.Filled parser.grammar (fitsAt parser.grammar tokens) root chart.position)
    {item : Item} (inside : item ∈ chart.column) {total : Nat}
    (counted : total = ∑ earlier ∈ Finset.range chart.position,
      (validItems parser.grammar root tokens earlier).ncard)
    (within : ∀ earlier < chart.position, itemTotal parser.grammar root tokens earlier ≤ limit) :
    Limited (itemTotal parser.grammar root tokens) limit
      (Reaches tokens (parser.readTokens rest total chart)) (parser.readTokens rest total chart)
      (({ parser with budget := some limit } : Parser).readTokens rest total chart) := by
  induction rest generalizing passed chart item total with
  | nil =>
    have all : chart.position = tokens.length := by rw [here, split, List.append_nil]
    have last := @fitsAt_length τ _ parser.grammar tokens
    rw [← all] at last
    rw [readTokens, readTokens, closeColumn_eq unbounded, ← last, counted,
      closeColumn_of_limit limit consistent filled (Nat.le_of_eq all)]
    split_ifs with exceeds
    · refine .cut ⟨by omega, by simp [Except.map]⟩ exceeds within
    · have through := Nat.forall_lt_succ_right.2 ⟨within, Nat.not_lt.1 exceeds⟩
      exact .whole fun position reached => through position (Nat.lt_succ_of_le (all ▸ reached.1))
  | cons token rest ih =>
    have found : tokens[chart.position]? = some token := by simp [split, here]
    have bound : chart.position ≤ tokens.length :=
      Nat.le_of_lt (List.getElem?_eq_some_iff.1 found).1
    have reached := (readTokens_spec unbounded consistent checked split here filled inside
      total).reaches bound (viable_of_mem consistent checked filled.sound inside)
    have limited := closeColumn_of_limit limit consistent filled bound
    rw [← counted] at limited
    rw [readTokens, ← fitsAt_eq_tokenFits found, closeColumn_eq unbounded] at reached ⊢
    rw [readTokens, ← fitsAt_eq_tokenFits found, limited]
    split_ifs with exceeds
    · exact .cut reached exceeds within
    have through := Nat.forall_lt_succ_right.2 ⟨within, Nat.not_lt.1 exceeds⟩
    obtain ⟨next, moved⟩ := filled.advance consistent
    rw [counted, sum_add_size_close consistent filled bound]
    simp only [bind, Except.bind]
    generalize chart.close parser.grammar (fitsAt parser.grammar tokens chart.position) = middle
      at next moved ⊢
    split_ifs with empty
    · refine .whole fun position reached => through position ?_
      rw [← moved]
      exact reached.2 _ _ rfl
    · obtain ⟨other, present⟩ : ∃ other, other ∈ (middle.scan parser.grammar).column := by
        rw [Array.isEmpty_iff] at empty
        exact Array.exists_mem_of_ne_empty _ empty
      have splitToo : tokens = (passed ++ [token]) ++ rest := by simp [split]
      exact ih splitToo (by rw [moved, here, List.length_append]; rfl) next present
        (by rw [moved]; rfl) (by rwa [moved])

end Runs

section Parses

variable {g : Grammar} {root : NonterminalId} {tokens : List τ}

/-- The parse without a limit gets to processing the column at the position. -/
def Processes (parser : Parser) (root : NonterminalId) (tokens : List τ) (position : Nat) : Prop :=
  root < parser.grammar.nonterminals.size ∧
    Reaches tokens (parser.parseFrom root tokens) position

/-- The result of a parse whose tokens have been read. -/
def finish (g : Grammar) (root : NonterminalId) :
    Except ParseError Chart → Except ParseError Forest
  | .error error => .error error
  | .ok chart =>
    match chart.accepted? g root with
    | some (node, arena) => .ok ⟨g, arena, node⟩
    | none => .error .noParse

/-- A parse from a known root is finished when the tokens have been read. -/
theorem parseFrom_eq_finish (parser : Parser) (consistent : parser.grammar.Consistent)
    (checked : parser.grammar.check = .ok ()) (known : root < parser.grammar.nonterminals.size) :
    parser.parseFrom root tokens = finish parser.grammar root
      (parser.readTokens tokens 0 (Chart.empty.predictAll parser.grammar root)) := by
  rw [parseFrom, if_neg ((isEmpty_start_iff consistent checked).not.2 (not_not.2 known))]
  rfl

omit [Scannable τ] in
/-- Finishing changes nothing about where a run is cut. -/
theorem Limited.finish {total : Nat → Nat} {limit : Nat}
    {read readLimited : Except ParseError Chart}
    (limited : Limited total limit (Reaches tokens read) read readLimited) :
    Limited total limit (Reaches tokens (finish g root read)) (finish g root read)
      (finish g root readLimited) := by
  have dies : ∀ number text, Parser.finish g root read = .error (.deadEnd number text) ↔
      read = .error (.deadEnd number text) := by
    intro number text
    cases read with
    | error error => simp [Parser.finish]
    | ok chart => cases accepted : chart.accepted? g root <;> simp [Parser.finish, accepted]
  have reaches : Reaches tokens (Parser.finish g root read) = Reaches tokens read := by
    funext position
    simp only [Reaches, dies]
  rw [reaches]
  cases limited with
  | cut reached exceeds first => exact .cut reached exceeds first
  | whole within => exact .whole within

/-- A parse with a limit, compared with the one without. -/
theorem parseFrom_limited (consistent : g.Consistent) (made : ofGrammar g = .ok parser)
    (root : NonterminalId) (tokens : List τ) (limit : Nat) :
    Limited (itemTotal g root tokens) limit (parser.Processes root tokens)
      (parser.parseFrom root tokens)
      (({ parser with budget := some limit } : Parser).parseFrom root tokens) := by
  obtain ⟨rfl, unbounded, checked⟩ := ofGrammar_eq_ok made
  by_cases known : root < parser.grammar.nonterminals.size
  · have processes : parser.Processes root tokens =
        Reaches tokens (parser.parseFrom root tokens) :=
      funext fun _ => propext (and_iff_right known)
    have nonempty := (isEmpty_start_iff consistent checked).not.2 (not_not.2 known)
    obtain ⟨item, inside⟩ :=
      Array.exists_mem_of_ne_empty _ fun none => nonempty (Array.isEmpty_iff.2 none)
    obtain ⟨filled, first⟩ :=
      @Chart.filled_start parser.grammar (fitsAt parser.grammar tokens) root consistent
    have limited := readTokens_limited limit unbounded consistent checked
      (List.nil_append tokens).symm first (first ▸ filled) inside
      (by rw [first, Finset.sum_range_zero]) (by simp [first])
    rw [processes, parseFrom_eq_finish parser consistent checked known,
      parseFrom_eq_finish { parser with budget := some limit } consistent checked known]
    exact limited.finish
  · have same : ∀ budget : Option Nat,
        ({ parser with budget } : Parser).parseFrom root tokens = .error .noParse :=
      fun budget => if_pos ((isEmpty_start_iff consistent checked).2 known)
    rw [same (some limit), ← same parser.budget]
    exact .whole fun position processed => absurd processed.1 known

/-- Without a limit no parse is cut. -/
theorem Ending.ne_tooComplex {result : Except ParseError Forest}
    (ending : Ending g root tokens result) (position items : Nat) :
    result ≠ .error (.tooComplex position items) := by
  cases ending <;> simp

/-- The parse with a limit on the number of items. -/
def parseWithin (parser : Parser) (limit : Nat) (root : NonterminalId) (tokens : List τ) :
    Except ParseError Forest :=
  ({ parser with budget := some limit } : Parser).parseFrom root tokens

/-- The columns that the parse without a limit processes and that take the number of valid items
over the limit. -/
def overruns (parser : Parser) (limit : Nat) (root : NonterminalId) (tokens : List τ) : Set Nat :=
  {position | parser.Processes root tokens position ∧
    limit < itemTotal parser.grammar root tokens position}

/-- A limit cuts a parse at an exact point: with the first column that takes the number of valid
items over it, if the parse without a limit processes such a column, and nowhere else. A larger
limit cuts no earlier and changes no parse that is not cut. -/
theorem parseWithin_eq (built : g.Built) (made : ofGrammar g = .ok parser)
    (root : NonterminalId) (tokens : List τ) :
    (∀ position, (validItems g root tokens position).Finite) ∧
    ∀ limit,
      ((parser.overruns limit root tokens).Nonempty →
        ∃ position, IsLeast (parser.overruns limit root tokens) position ∧
          parser.parseWithin limit root tokens =
            .error (.tooComplex position (itemTotal g root tokens position))) ∧
      (parser.overruns limit root tokens = ∅ →
        parser.parseWithin limit root tokens = parser.parseFrom root tokens) ∧
      ∀ more ≥ limit,
        (∀ position items,
          parser.parseWithin more root tokens = .error (.tooComplex position items) →
            ∃ earlier ≤ position, ∃ fewer ≤ items,
              parser.parseWithin limit root tokens = .error (.tooComplex earlier fewer)) ∧
        ((∀ position items,
          parser.parseWithin limit root tokens ≠ .error (.tooComplex position items)) →
            parser.parseWithin more root tokens = parser.parseWithin limit root tokens) := by
  refine ⟨finite_validItems g root tokens, fun limit => ?_⟩
  have limited (limit : Nat) := parseFrom_limited built.consistent made root tokens limit
  have ending := parseFrom_ending built.consistent made root tokens
  obtain rfl := (ofGrammar_eq_ok made).1
  refine ⟨(limited limit).exists_isLeast, fun none => ?_, fun more larger => ⟨?_, ?_⟩⟩
  · refine (limited limit).eq_of_within fun position reached => Nat.not_lt.1 fun exceeds => ?_
    exact (none ▸ ⟨reached, exceeds⟩ : position ∈ (∅ : Set Nat))
  · intro position items cut
    exact (limited limit).exists_cut_of_le (limited more) larger (fun _ _ => itemTotal_mono)
      ending.ne_tooComplex cut
  · exact (limited limit).eq_of_le (limited more) larger

/-- The one token makes six items, three in each of two columns, so that the parse is cut at the
second column if only five are allowed. -/
theorem parseWithin_twoWays :
    (⟨twoWays, none⟩ : Parser).parseWithin 5 0 [tokenX] = .error (.tooComplex 1 6) ∧
      itemTotal twoWays 0 [tokenX] 1 = 6 := by
  have cut : (⟨twoWays, none⟩ : Parser).parseWithin 5 0 [tokenX] = .error (.tooComplex 1 6) := by
    with_unfolding_all rfl
  have whole : (⟨twoWays, none⟩ : Parser).parseFrom 0 [tokenX] ≠ .error (.tooComplex 1 6) := by
    with_unfolding_all decide
  obtain ⟨-, each⟩ := parseWithin_eq built_twoWays ofGrammar_twoWays 0 [tokenX]
  obtain ⟨found, same, -⟩ := each 5
  rcases Set.eq_empty_or_nonempty ((⟨twoWays, none⟩ : Parser).overruns 5 0 [tokenX])
    with none | some
  · exact absurd ((same none).symm.trans cut) whole
  · obtain ⟨position, -, ends⟩ := found some
    obtain ⟨rfl, total⟩ : 1 = position ∧ 6 = itemTotal twoWays 0 [tokenX] position := by
      simpa using cut.symm.trans ends
    exact ⟨cut, total.symm⟩

end Parses

end ChartParser.Parser
