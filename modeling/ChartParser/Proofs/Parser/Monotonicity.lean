import ChartParser.Morphology.LexicalToken
import ChartParser.Proofs.Parser.Cutting

/-!
# Tokens that fit more

If each token fits every terminal that the token in its place did before, nothing is lost: what was
a derivation is still one, and what was the beginning of a sentence is still one. The forests differ
in their columns, nodes and cycles, but which derivations are listed depends on the derivations
alone (`Ending.exists_listing`), so that every tree stays, and every dead end moves at most further
back. Words to which meanings are added are such tokens, because a word fits by one of its meanings.
-/

namespace ChartParser

/-! ## Words with further meanings -/

/-- What a word fits by its meanings it fits by these and others. -/
theorem Terminal.fitsWord_mono {terminal : Terminal} {lexicon : Lexicon} {lowered : String}
    {meanings more : List Meaning} (among : meanings ⊆ more)
    (fit : terminal.fitsWord lexicon lowered meanings = true) :
    terminal.fitsWord lexicon lowered more = true := by
  have any : ∀ {test : Meaning → Bool}, meanings.any test = true → more.any test = true := by
    intro test some
    obtain ⟨meaning, inside, holds⟩ := List.any_eq_true.1 some
    exact List.any_eq_true.2 ⟨meaning, among inside, holds⟩
  rw [fitsWord] at fit ⊢
  cases demand : terminal.demand with
  | category _ _ =>
    rw [demand] at fit
    exact any fit
  | literal literal =>
    rw [demand] at fit
    by_cases form : (!literal.byHeadword && literal.wordClass.isNone) = true
    · simpa only [form, if_true] using fit
    · simp only [form] at fit ⊢
      exact any fit

/-- The other token has the same text and lexicon, and the same was found in its text, except that a
word may have further meanings. -/
structure LexicalToken.Gains (token other : LexicalToken) : Prop where
  lexicon : other.lexicon = token.lexicon
  text : other.token.text = token.token.text
  finding : other.token.finding = token.token.finding ∨
    ∃ meanings more, token.token.finding = .word meanings ∧
      other.token.finding = .word more ∧ meanings ⊆ more

/-- A token that gains meanings keeps fitting what it fits. -/
theorem LexicalToken.Gains.fits {token other : LexicalToken} (gains : token.Gains other)
    {terminal : Terminal} (fit : token.fits terminal = true) : other.fits terminal = true := by
  have lowered : other.lowered = token.lowered := by
    rw [LexicalToken.lowered, gains.text, LexicalToken.lowered]
  rw [LexicalToken.fits] at fit ⊢
  rw [lowered, gains.lexicon]
  rcases gains.finding with same | ⟨meanings, more, found, foundToo, among⟩
  · rw [same]
    exact fit
  · rw [found] at fit
    rw [foundToo]
    exact Terminal.fitsWord_mono among fit

/-! ## More derivations -/

namespace Grammar

variable {g : Grammar} {fits fitsToo : Nat → TerminalId → Bool}

/-- What covers tokens still does if more terminals fit them. -/
theorem Spells.mono (more : ∀ index id, fits index id = true → fitsToo index id = true)
    {symbols : List Symbol} {start stop : Nat} {derivations : List Derivation}
    (spelled : g.Spells fits symbols start stop derivations) :
    g.Spells fitsToo symbols start stop derivations := by
  induction spelled with
  | nil => exact .nil
  | token fit _ ih => exact .token (more _ _ fit) ih
  | branch found _ _ body rest => exact .branch found body rest

/-- What is viable still is if more terminals fit the tokens. -/
theorem Viable.mono (more : ∀ index id, fits index id = true → fitsToo index id = true)
    {root : NonterminalId} {length : Nat} (viable : g.Viable fits root length) :
    g.Viable fitsToo root length := by
  obtain ⟨front, back, derived, same, fitting⟩ := viable
  exact ⟨front, back, derived, same, fun offset id found => more _ _ (fitting offset id found)⟩

end Grammar

namespace Parser

variable {σ τ : Type} [Scannable σ] [Scannable τ] {g : Grammar} {parser : Parser}
  {root : NonterminalId} {fewer : List σ} {more : List τ}

/-- Every terminal of the grammar that the first token fits is one that the second fits. -/
def FitsMore (g : Grammar) (token : σ) (other : τ) : Prop :=
  ∀ terminal ∈ g.terminals, Scannable.fits token terminal = true →
    Scannable.fits other terminal = true

/-- A terminal that a token fits is one that the token in its place fits. -/
theorem fitsAt_of_fitsMore (fitting : List.Forall₂ (FitsMore g) fewer more) (index : Nat)
    (id : TerminalId) (fit : fitsAt g fewer index id = true) : fitsAt g more index id = true := by
  induction fitting generalizing index with
  | nil => simp [fitsAt] at fit
  | @cons token other _ _ first _ ih =>
    cases index with
    | succ index => exact ih index (by simpa [fitsAt] using fit)
    | zero =>
      have fitFirst : tokenFits g token id = true := by simpa [fitsAt] using fit
      obtain ⟨terminal, found, fits⟩ := Option.any_eq_true _ _ |>.1 fitFirst
      have known : terminal ∈ g.terminals := Array.mem_of_getElem? found
      have fitOther : tokenFits g other id = true :=
        Option.any_eq_true _ _ |>.2 ⟨terminal, found, first terminal known fits⟩
      simpa [fitsAt] using fitOther

/-- Where tokens that fit more die, the tokens in their places have died there or before. -/
theorem Ending.deadEnd_le {fewerResult moreResult : Except ParseError Forest}
    (length : fewer.length = more.length)
    (fitting : ∀ index id, fitsAt g fewer index id = true → fitsAt g more index id = true)
    (ending : Ending g root fewer fewerResult) (endingToo : Ending g root more moreResult)
    {number : Nat} {text : String} (died : moreResult = .error (.deadEnd number text)) :
    ∃ earlier word, earlier ≤ number ∧ fewerResult = .error (.deadEnd earlier word) := by
  cases endingToo with
  | unknown _ => simp at died
  | uncovered _ _ _ => simp at died
  | covered _ _ _ _ _ => simp at died
  | @stuck known index token found viable dead =>
    obtain ⟨rfl, -⟩ : index + 1 = number ∧ Scannable.text token = text := by simpa using died
    have inside := (List.getElem?_eq_some_iff.1 found).1
    have deadToo : ¬ g.Viable (fitsAt g fewer) root (index + 1) :=
      fun still => dead (still.mono fitting)
    cases ending with
    | unknown absent => exact absurd known absent
    | uncovered _ viable _ => exact absurd (viable.of_le (by omega)) deadToo
    | covered _ _ _ _ spelled => exact absurd (spelled.viable.of_le (by omega)) deadToo
    | @stuck _ earlier word _ viableToo _ =>
      have before : earlier < index + 1 := by
        by_contra after
        exact deadToo (viableToo.of_le (by omega))
      exact ⟨earlier + 1, Scannable.text word, before, rfl⟩

/-- Parsing is monotone in what the tokens fit. If the tokens have a forest, so do tokens that fit
more; all trees are among its trees, each at least as often, and the count does not decrease. If the
tokens that fit more die at one of them, the others die there or before. Words with further meanings
are tokens that fit more. -/
theorem parseFrom_mono (built : g.Built) (made : ofGrammar g = .ok parser) (root : NonterminalId)
    (fitting : List.Forall₂ (FitsMore g) fewer more) :
    (∀ forest, parser.parseFrom root fewer = .ok forest →
      ∃ forestToo trees treesToo count countToo, parser.parseFrom root more = .ok forestToo ∧
        forest.trees? = some trees ∧ forestToo.trees? = some treesToo ∧ trees.Subperm treesToo ∧
        forest.count? = some count ∧ forestToo.count? = some countToo ∧ count ≤ countToo) ∧
    (∀ number text, parser.parseFrom root more = .error (.deadEnd number text) →
      ∃ earlier word, earlier ≤ number ∧
        parser.parseFrom root fewer = .error (.deadEnd earlier word)) ∧
    ∀ token other : LexicalToken, token.Gains other → FitsMore g token other := by
  have consistent := built.consistent
  have length := fitting.length_eq
  have ending := parseFrom_ending consistent made root fewer
  have endingToo := parseFrom_ending consistent made root more
  have mono := fitsAt_of_fitsMore fitting
  refine ⟨fun forest parsed => ?_, fun _ _ => ending.deadEnd_le length mono endingToo,
    fun _ _ gains _ _ fit => gains.fits fit⟩
  rw [parsed] at ending
  obtain ⟨derivations, trees, count, once, listed⟩ := ending.exists_listing consistent
  have stays : ∀ {derivation}, derivation ∈ derivationsOf g root fewer →
      derivation ∈ derivationsOf g root more := by
    intro derivation spelled
    show g.Spells (fitsAt g more) [.nonterminal root] 0 more.length [derivation]
    rw [← length]
    exact spelled.mono mono
  obtain ⟨forestToo, parsedToo⟩ : ∃ forestToo, parser.parseFrom root more = .ok forestToo := by
    cases ending with
    | covered _ _ _ _ spelled =>
      have spelledToo := spelled.mono mono
      rw [length] at spelledToo
      obtain ⟨_, _, parsedToo, -⟩ := endingToo.exists_chart consistent spelledToo
      exact ⟨_, parsedToo⟩
  rw [parsedToo] at endingToo
  obtain ⟨others, treesToo, countToo, -, listedToo⟩ := endingToo.exists_listing consistent
  have among : derivations ⊆ others := by
    intro derivation inside
    have spelled := (listed derivation).1 inside
    exact (listedToo derivation).2 ⟨stays spelled.1, spelled.2⟩
  have within : derivations.Subperm others := List.subperm_of_subset once among
  have shown : (derivations.map (Derivation.tree g)).Subperm (others.map (Derivation.tree g)) := by
    obtain ⟨some, same, part⟩ := within
    exact ⟨_, same.map _, part.map _⟩
  have longer := within.length_le
  refine ⟨forestToo, _, _, _, _, parsedToo, trees, treesToo, shown, count, countToo, ?_⟩
  omega

/-- The grammar of `S -> lo` and `S -> ao`. -/
def adjectiveOrAdverb : Grammar := .ofEntries [.rule "S" ["lo"], .rule "S" ["ao"]]

/-- A word that belongs to these classes and has no inflection. -/
def wordOfClasses (classes : List String) : LexicalToken :=
  ⟨⟨"vel", .word (classes.map fun wordClass => .of "vel" wordClass "vel" "-")⟩, .empty⟩

/-- A word that may be an adverb has a tree, which stays when it may be an adjective as well. -/
theorem parseFrom_adjectiveOrAdverb_mono :
    ∃ forest forestToo trees treesToo,
      (⟨adjectiveOrAdverb, none⟩ : Parser).parseFrom 0 [wordOfClasses ["ao"]] = .ok forest ∧
      (⟨adjectiveOrAdverb, none⟩ : Parser).parseFrom 0 [wordOfClasses ["lo", "ao"]] =
        .ok forestToo ∧
      forest.trees? = some trees ∧ forestToo.trees? = some treesToo ∧ trees.Subperm treesToo := by
  have built : adjectiveOrAdverb.Built := ⟨_, rfl⟩
  have made : ofGrammar adjectiveOrAdverb = .ok ⟨adjectiveOrAdverb, none⟩ :=
    ofGrammar_of_check (by decide +kernel)
  have gains : (wordOfClasses ["ao"]).Gains (wordOfClasses ["lo", "ao"]) :=
    ⟨rfl, rfl, .inr ⟨_, _, rfl, rfl, List.subset_cons_self _ _⟩⟩
  have fitting : List.Forall₂ (FitsMore adjectiveOrAdverb) [wordOfClasses ["ao"]]
      [wordOfClasses ["lo", "ao"]] := .cons (fun _ _ fit => gains.fits fit) .nil
  obtain ⟨forest, parsed⟩ : ∃ forest,
      (⟨adjectiveOrAdverb, none⟩ : Parser).parseFrom 0 [wordOfClasses ["ao"]] = .ok forest :=
    exists_eq_ok (by decide +kernel)
  obtain ⟨stays, -, -⟩ := parseFrom_mono built made 0 fitting
  obtain ⟨forestToo, trees, treesToo, _, _, parsedToo, listed, listedToo, within, -⟩ :=
    stays forest parsed
  exact ⟨forest, forestToo, trees, treesToo, parsed, parsedToo, listed, listedToo, within⟩

end Parser

end ChartParser
