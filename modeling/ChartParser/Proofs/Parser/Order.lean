import ChartParser.Proofs.Chart.Renaming
import ChartParser.Proofs.Forest.Agreement
import ChartParser.Proofs.Grammar.Names
import ChartParser.Proofs.Parser.Cutting

/-!
# The order of a grammar

The order in which the productions of a grammar were entered decides the ids of its symbols and the
order in which a parse meets everything. None of this shows in the result: two grammars of the same
productions run alike, column by column, and end with the same failure, or with forests that are the
same but for ids (`Parser.parse_alike`). The names by which productions are compared tell terminals
from nonterminals. Plain names do not, and productions that are the same by plain names may describe
different languages (`Parser.parse_differs_under_plain_names`).
-/

namespace ChartParser

variable {τ : Type} [Scannable τ] {change : Renaming} {g h : Grammar} {tokens : List τ}
  {root : NonterminalId}

/-- The forests are the same but for ids: they have the same number of combinations, the same trees,
and the same nodes with the same families. -/
structure Forest.Renames (change : Renaming) (left right : Forest) : Prop where
  count : ∃ count, left.count? = some count ∧ right.count? = some count
  trees : ∃ trees treesToo, left.trees? = some trees ∧ right.trees? = some treesToo ∧
    trees.Perm treesToo
  arena : ∃ move, left.arena.Renames change move right.arena ∧ move left.root = right.root

namespace Parser

/-- A token fits the terminals in use under their new ids as it does under the old ones. -/
theorem preserves_fitsAt (carries : change.Carries g h) (tokens : List τ) :
    change.Preserves g h (fitsAt g tokens) (fitsAt h tokens) where
  carries := carries
  fits index id used := by
    unfold fitsAt tokenFits
    rw [carries.terminal id used]

/-! ## Reading tokens -/

/-- The charts are twins for the tokens, which fit the terminals of either grammar. -/
abbrev TwinsFor (tokens : List τ) (change : Renaming) (g h : Grammar) (root : NonterminalId)
    (bound : Nat) (left right : Chart) : Prop :=
  Chart.Twins change g h (fitsAt g tokens) (fitsAt h tokens) root bound left right

/-- Closing the current columns of twins ends alike: with too many items in both, or with twins that
are twins at the next token as well. -/
theorem closeColumn_alike (consistent : g.Consistent) (consistentToo : h.Consistent)
    (carries : change.Carries g h) {left right : Chart}
    (twins : TwinsFor tokens change g h root left.position left right) (budget : Option Nat)
    (total : Nat) :
    EndAlike (fun result resultToo => result.1 = resultToo.1 ∧
        result.2.position = left.position ∧
        TwinsFor tokens change g h root (result.2.position + 1) result.2 resultToo.2 ∧
        TwinsFor tokens change g h root (result.2.scan g).position (result.2.scan g)
          (resultToo.2.scan h) ∧
        (result.2.scan g).position = left.position + 1)
      ((⟨g, budget⟩ : Parser).closeColumn (fitsAt g tokens left.position) total left)
      ((⟨h, budget⟩ : Parser).closeColumn (fitsAt h tokens left.position) total right) := by
  obtain ⟨stays, full, next, moved⟩ := twins.close consistent consistentToo rfl rfl
  have size := full.size_eq consistent consistentToo (preserves_fitsAt carries tokens)
  have position := full.position_eq
  unfold closeColumn
  dsimp only
  rw [size, position]
  split
  · exact .failed _
  · exact .passed ⟨rfl, stays, full, next, moved⟩

/-- Reading the tokens that are left, from charts that are twins, ends alike: with the same failure,
or with charts for all tokens that are twins. -/
theorem readTokens_alike (consistent : g.Consistent) (consistentToo : h.Consistent)
    (carries : change.Carries g h) {passed rest : List τ} (split : tokens = passed ++ rest)
    {left right : Chart} (here : left.position = passed.length)
    (twins : TwinsFor tokens change g h root left.position left right) (budget : Option Nat)
    (total : Nat) :
    EndAlike (fun last lastToo => last.position = tokens.length ∧
        TwinsFor tokens change g h root (last.position + 1) last lastToo)
      ((⟨g, budget⟩ : Parser).readTokens rest total left)
      ((⟨h, budget⟩ : Parser).readTokens rest total right) := by
  induction rest generalizing passed left right total with
  | nil =>
    have all : left.position = tokens.length := by rw [here, split, List.append_nil]
    have nothing : ∀ grammar, fitsAt grammar tokens left.position = fun _ => false :=
      fun grammar => all ▸ fitsAt_length
    have closes := closeColumn_alike consistent consistentToo carries twins budget total
    rw [nothing, nothing] at closes
    refine closes.map ?_
    rintro ⟨_, last⟩ ⟨_, lastToo⟩ ⟨-, stays, full, -⟩
    refine ⟨?_, full⟩
    dsimp only at stays ⊢
    rw [stays, all]
  | cons token rest ih =>
    have found : tokens[left.position]? = some token := by simp [split, here]
    have current : ∀ grammar, tokenFits grammar token = fitsAt grammar tokens left.position :=
      fun grammar => (fitsAt_eq_tokenFits found).symm
    rw [readTokens, readTokens, current, current]
    refine (closeColumn_alike consistent consistentToo carries twins budget total).bind ?_
    rintro ⟨sum, final⟩ ⟨_, finalToo⟩ ⟨rfl, stays, -, next, moved⟩
    have empty := next.isEmpty_eq consistent consistentToo (preserves_fitsAt carries tokens)
    dsimp only at next moved empty ⊢
    rw [empty, next.position_eq]
    split
    · exact .failed _
    · have splitToo : tokens = (passed ++ [token]) ++ rest := by simp [split]
      have length : (final.scan g).position = (passed ++ [token]).length := by
        rw [moved, here, List.length_append]
        rfl
      exact ih splitToo length next sum

/-! ## Forests -/

/-- A derivation of the tokens is one of the other grammar under the new ids. -/
theorem derivation_mem_derivationsOf (carries : change.Carries g h) {derivation : Derivation}
    (inside : derivation ∈ derivationsOf g root tokens) :
    change.derivation derivation ∈ derivationsOf h (change.nonterminal root) tokens ∧
      (change.derivation derivation).tree h = derivation.tree g ∧
      (change.derivation derivation).ways h = (derivation.ways g).map (List.map change.key) := by
  have spelled : g.Spells (fitsAt g tokens) [.nonterminal root] 0 tokens.length [derivation] :=
    inside
  obtain ⟨moved, trees⟩ := (preserves_fitsAt carries tokens).spells spelled (by simp)
  have ways := carries.ways_eq spelled derivation List.mem_cons_self
  exact ⟨moved, (List.cons.inj trees).1, ways⟩

/-- A derivation of the tokens, none of whose ways down meets a node twice, is one of the other
grammar under the new ids. -/
theorem nodup_ways_derivation (carries : change.Carries g h) {derivation : Derivation}
    (inside : derivation ∈ derivationsOf g root tokens)
    (once : ∀ way ∈ derivation.ways g, way.Nodup) :
    ∀ way ∈ (change.derivation derivation).ways h, way.Nodup := by
  obtain ⟨-, -, ways⟩ := derivation_mem_derivationsOf carries inside
  rw [ways]
  intro way listed
  obtain ⟨old, present, rfl⟩ := List.mem_map.1 listed
  exact (once old present).map change.key_injective

/-- Forests of the same tokens have the same number of combinations and the same trees, if the
grammars differ in ids only. -/
theorem Ending.exists_trees_perm (consistent : g.Consistent) (consistentToo : h.Consistent)
    (carries : change.Carries g h) {left right : Forest}
    (ending : Ending g root tokens (.ok left))
    (endingToo : Ending h (change.nonterminal root) tokens (.ok right)) :
    (∃ count, left.count? = some count ∧ right.count? = some count) ∧
      ∃ trees treesToo, left.trees? = some trees ∧ right.trees? = some treesToo ∧
        trees.Perm treesToo := by
  obtain ⟨listed, trees, count, once, inside⟩ := ending.exists_listing consistent
  obtain ⟨listedToo, treesToo, countToo, onceToo, insideToo⟩ :=
    endingToo.exists_listing consistentToo
  have perm : (listed.map change.derivation).Perm listedToo := by
    have moved := once.map change.derivation_injective
    refine (List.perm_ext_iff_of_nodup moved onceToo).2 fun derivation => ?_
    rw [List.mem_map, insideToo]
    constructor
    · rintro ⟨old, present, rfl⟩
      obtain ⟨derived, nodup⟩ := (inside old).1 present
      exact ⟨(derivation_mem_derivationsOf carries derived).1,
        nodup_ways_derivation carries derived nodup⟩
    · rintro ⟨derived, nodup⟩
      have back := (derivation_mem_derivationsOf carries.symm derived).1
      rw [change.symm_nonterminal_apply] at back
      refine ⟨change.symm.derivation derivation, (inside _).2 ⟨back, ?_⟩,
        change.symm.symm_derivation derivation⟩
      exact nodup_ways_derivation carries.symm derived nodup
  constructor
  · refine ⟨_, count, ?_⟩
    rw [countToo, ← perm.length_eq, List.length_map]
  · refine ⟨_, _, trees, treesToo, ?_⟩
    have same : (listed.map change.derivation).map (Derivation.tree h) =
        listed.map (Derivation.tree g) := by
      rw [List.map_map]
      refine List.map_congr_left fun derivation present => ?_
      exact (derivation_mem_derivationsOf carries ((inside derivation).1 present).1).2.1
    rw [← same]
    exact perm.map _

/-- The forests of the nodes that stand for all tokens in twins are the same but for ids. -/
theorem renames_of_twins (consistent : g.Consistent) (consistentToo : h.Consistent)
    (carries : change.Carries g h) {last lastToo : Chart} (whole : last.position = tokens.length)
    (twins : TwinsFor tokens change g h root (last.position + 1) last lastToo)
    {node nodeToo : NodeId}
    (key : last.arena.key? node = some ⟨⟨0, tokens.length⟩, .nonterminal root⟩)
    (keyToo : lastToo.arena.key? nodeToo =
      some ⟨⟨0, tokens.length⟩, .nonterminal (change.nonterminal root)⟩) :
    Forest.Renames change ⟨g, last.arena, node⟩ ⟨h, lastToo.arena, nodeToo⟩ := by
  have wholeToo : lastToo.position = tokens.length := twins.position_eq.trans whole
  have filledToo := twins.filledToo
  rw [← twins.position_eq] at filledToo
  obtain ⟨_, spelled⟩ := twins.filled.sound.exists_spells key
  obtain ⟨_, spelledToo⟩ := filledToo.sound.exists_spells keyToo
  have ending : Ending g root tokens (.ok ⟨g, last.arena, node⟩) :=
    .covered (spelled.lt_size consistent) whole twins.filled key spelled
  have endingToo : Ending h (change.nonterminal root) tokens (.ok ⟨h, lastToo.arena, nodeToo⟩) :=
    .covered (spelledToo.lt_size consistentToo) wholeToo filledToo keyToo spelledToo
  obtain ⟨count, trees⟩ := ending.exists_trees_perm consistent consistentToo carries endingToo
  obtain ⟨move, renames⟩ :=
    twins.exists_renames consistent consistentToo (preserves_fitsAt carries tokens)
  exact ⟨count, trees, move, renames, renames.move_eq filledToo.sound.arena key keyToo⟩

/-- Twins for all tokens accept alike: both have no node for the whole sentence, or the forests of
their nodes are the same but for ids. -/
theorem accepted_alike (consistent : g.Consistent) (consistentToo : h.Consistent)
    (carries : change.Carries g h) {last lastToo : Chart} (whole : last.position = tokens.length)
    (twins : TwinsFor tokens change g h root (last.position + 1) last lastToo) :
    EndAlike (Forest.Renames change)
      (match last.accepted? g root with
        | some (node, arena) => .ok ⟨g, arena, node⟩
        | none => .error ParseError.noParse)
      (match lastToo.accepted? h (change.nonterminal root) with
        | some (node, arena) => .ok ⟨h, arena, node⟩
        | none => .error ParseError.noParse) := by
  have same := twins.position_eq
  have filled := twins.filled
  have filledToo := twins.filledToo
  rw [← same] at filledToo
  have preserves := preserves_fitsAt carries tokens
  cases accepted : last.accepted? g root with
  | none =>
    cases acceptedToo : lastToo.accepted? h (change.nonterminal root) with
    | none => exact .failed _
    | some pair =>
      obtain ⟨-, -, _, spelledToo⟩ := filledToo.accepted?_eq_some acceptedToo
      have spelled := (preserves.symm.spells spelledToo (by simp)).1
      rw [List.map_singleton, Renaming.symbol, change.symm_nonterminal_apply, same] at spelled
      obtain ⟨_, _, found⟩ := filled.accepts consistent spelled
      simp [accepted] at found
  | some pair =>
    obtain ⟨node, arena⟩ := pair
    obtain ⟨rfl, key, _, spelled⟩ := filled.accepted?_eq_some accepted
    have spelledToo := (preserves.spells spelled (by simp)).1
    rw [List.map_singleton, Renaming.symbol, ← same] at spelledToo
    obtain ⟨nodeToo, _, acceptedToo⟩ := filledToo.accepts consistentToo spelledToo
    obtain ⟨rfl, keyToo, -⟩ := filledToo.accepted?_eq_some acceptedToo
    rw [acceptedToo]
    rw [whole] at key
    rw [same, whole] at keyToo
    exact .passed (renames_of_twins consistent consistentToo carries whole twins key keyToo)

/-! ## Parsing -/

/-- Parses with the same budget end alike, if the grammars differ in ids only. -/
theorem parseFrom_alike (consistent : g.Consistent) (consistentToo : h.Consistent)
    (carries : change.Carries g h) (budget : Option Nat) (root : NonterminalId)
    (tokens : List τ) :
    EndAlike (Forest.Renames change) ((⟨g, budget⟩ : Parser).parseFrom root tokens)
      ((⟨h, budget⟩ : Parser).parseFrom (change.nonterminal root) tokens) := by
  have preserves := preserves_fitsAt carries tokens
  obtain ⟨twins, first⟩ := @Chart.Twins.start change g h (fitsAt g tokens) (fitsAt h tokens) root
    consistent consistentToo
  rw [← first] at twins
  have empty := twins.isEmpty_eq consistent consistentToo preserves
  unfold parseFrom
  dsimp only
  rw [empty]
  split
  · exact .failed _
  have alike := readTokens_alike consistent consistentToo carries (List.nil_append tokens).symm
    first twins budget 0
  generalize (⟨g, budget⟩ : Parser).readTokens tokens 0 _ = read at alike ⊢
  generalize (⟨h, budget⟩ : Parser).readTokens tokens 0 _ = readToo at alike ⊢
  cases alike with
  | failed error => exact .failed error
  | passed alike =>
    obtain ⟨whole, full⟩ := alike
    exact accepted_alike consistent consistentToo carries whole full

/-- The order in which a grammar was entered does not matter. If two checked grammars with the same
name of the root have the same productions by the names and kinds of symbols, in whatever order,
there is a renaming of ids that carries one to the other, and then any tokens are parsed alike
within any budget: with the same failure, or with forests that are the same but for ids. -/
theorem parse_alike {left right : Parser} (built : g.Built) (builtToo : h.Built)
    (made : ofGrammar g = .ok left) (madeToo : ofGrammar h = .ok right) {name : String}
    (rootName : g.rootName? = some name) (rootNameToo : h.rootName? = some name)
    (same : g.namedProductions.Perm h.namedProductions) :
    ∃ change : Renaming, change.Carries g h ∧ ∀ (budget : Option Nat) (tokens : List τ),
      EndAlike (Forest.Renames change) (({ left with budget } : Parser).parse tokens)
          (({ right with budget } : Parser).parse tokens) ∧
        ∀ root, EndAlike (Forest.Renames change)
          (({ left with budget } : Parser).parseFrom root tokens)
          (({ right with budget } : Parser).parseFrom (change.nonterminal root) tokens) := by
  obtain ⟨rfl, -, checked⟩ := ofGrammar_eq_ok made
  obtain ⟨rfl, -, checkedToo⟩ := ofGrammar_eq_ok madeToo
  have consistent := built.consistent
  have consistentToo := builtToo.consistent
  obtain ⟨change, carries⟩ := Grammar.exists_carries built builtToo checked checkedToo same
  refine ⟨change, carries, fun budget tokens => ?_⟩
  have alike := fun root =>
    parseFrom_alike consistent consistentToo carries budget root tokens
  refine ⟨?_, alike⟩
  obtain ⟨root, isRoot, named⟩ := Option.bind_eq_some_iff.1 rootName
  obtain ⟨rootToo, isRootToo, namedToo⟩ := Option.bind_eq_some_iff.1 rootNameToo
  have moved : change.nonterminal root = rootToo :=
    consistentToo.nonterminal_unique ((carries.nonterminal root).trans named) namedToo
  have ends := alike root
  rw [moved] at ends
  unfold parse
  dsimp only
  rw [isRoot, isRootToo]
  exact ends

/-- The rules of `loopingRules` from the last to the first, with `B` before `A`. -/
def loopingBackwards : Grammar := .ofEntries
  [.definition "R" Location.unknown, .rule "B" ["A"], .rule "A" ["x"], .rule "A" ["B"],
    .rule "R" ["B"], .rule "R" ["A"]]

/-- The forests of one token by the rules in either order are the same but for ids, although `A` and
`B` derive each other there. -/
theorem parse_loopingBackwards_alike :
    ∃ (change : Renaming) (forest forestToo : Forest),
      change.Carries loopingRules loopingBackwards ∧
      (⟨loopingRules, some 100⟩ : Parser).parse [tokenX] = .ok forest ∧
      (⟨loopingBackwards, some 100⟩ : Parser).parse [tokenX] = .ok forestToo ∧
      forest.Renames change forestToo := by
  have built : loopingRules.Built := ⟨_, rfl⟩
  have builtToo : loopingBackwards.Built := ⟨_, rfl⟩
  have made : ofGrammar loopingRules = .ok ⟨loopingRules, none⟩ :=
    ofGrammar_of_check (by decide +kernel)
  have madeToo : ofGrammar loopingBackwards = .ok ⟨loopingBackwards, none⟩ :=
    ofGrammar_of_check (by decide +kernel)
  have rootName : loopingRules.rootName? = some "R" := by decide +kernel
  have rootNameToo : loopingBackwards.rootName? = some "R" := by decide +kernel
  have kinds : loopingRules.KindsFollow startsUppercase := by
    unfold Grammar.KindsFollow
    decide +kernel
  have kindsToo : loopingBackwards.KindsFollow startsUppercase := by
    unfold Grammar.KindsFollow
    decide +kernel
  have plain : loopingRules.plainProductions.Perm loopingBackwards.plainProductions := by
    decide +kernel
  have same := Grammar.namedProductions_perm kinds kindsToo plain
  obtain ⟨change, carries, alike⟩ :=
    @parse_alike PlainToken _ _ _ _ _ built builtToo made madeToo _ rootName rootNameToo same
  obtain ⟨forest, parsed⟩ : ∃ forest,
      (⟨loopingRules, some 100⟩ : Parser).parse [tokenX] = .ok forest :=
    exists_eq_ok (by decide +kernel)
  have ends : EndAlike (Forest.Renames change)
      ((⟨loopingRules, some 100⟩ : Parser).parse [tokenX])
      ((⟨loopingBackwards, some 100⟩ : Parser).parse [tokenX]) := (alike (some 100) [tokenX]).1
  rw [parsed] at ends
  cases parsedToo : (⟨loopingBackwards, some 100⟩ : Parser).parse [tokenX] with
  | error _ =>
    rw [parsedToo] at ends
    cases ends
  | ok forestToo =>
    rw [parsedToo] at ends
    cases ends with
    | passed renames => exact ⟨change, forest, forestToo, carries, parsed, rfl, renames⟩

/-- The rules `S → A A` and `A → x`, where `A` is a nonterminal throughout. -/
def nonterminalTwice : Grammar := .ofEntries [.rule "S" ["A", "A"], .rule "A" ["x"]]

/-- The rules of `nonterminalTwice` by plain names, where the second `A` of `S → A A` is a terminal
that is called like the nonterminal. -/
def nonterminalThenTerminal : Grammar := .ofEntries
  [.definition "S" Location.unknown, .rule "A" ["x"], .terminal "A",
    .production 0 [.nonterminal 1, .terminal 1]]

/-- Plain names are not enough: both grammars are well-formed, have a root of the same name and the
same productions by plain names, and yet two tokens `x` are a sentence of one of them only. -/
theorem parse_differs_under_plain_names :
    nonterminalTwice.Built ∧ nonterminalThenTerminal.Built ∧
      ofGrammar nonterminalTwice = .ok ⟨nonterminalTwice, none⟩ ∧
      ofGrammar nonterminalThenTerminal = .ok ⟨nonterminalThenTerminal, none⟩ ∧
      nonterminalTwice.rootName? = some "S" ∧ nonterminalThenTerminal.rootName? = some "S" ∧
      nonterminalTwice.plainProductions.Perm nonterminalThenTerminal.plainProductions ∧
      (∃ forest, (⟨nonterminalTwice, none⟩ : Parser).parse [tokenX, tokenX] = .ok forest) ∧
      (⟨nonterminalThenTerminal, none⟩ : Parser).parse [tokenX, tokenX] =
        .error (.deadEnd 2 "x") := by
  have made : ofGrammar nonterminalTwice = .ok ⟨nonterminalTwice, none⟩ :=
    ofGrammar_of_check (by decide +kernel)
  have madeToo : ofGrammar nonterminalThenTerminal = .ok ⟨nonterminalThenTerminal, none⟩ :=
    ofGrammar_of_check (by decide +kernel)
  have parsed : ∃ forest, (⟨nonterminalTwice, none⟩ : Parser).parse [tokenX, tokenX] = .ok forest :=
    exists_eq_ok (by decide +kernel)
  have died : (⟨nonterminalThenTerminal, none⟩ : Parser).parse [tokenX, tokenX] =
      .error (.deadEnd 2 "x") := by
    with_unfolding_all rfl
  exact ⟨⟨_, rfl⟩, ⟨_, rfl⟩, made, madeToo, by decide +kernel, by decide +kernel,
    by decide +kernel, parsed, died⟩

end Parser

end ChartParser
