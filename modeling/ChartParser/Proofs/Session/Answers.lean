import ChartParser.Proofs.Parser.Bracketed
import ChartParser.Proofs.Session.Input
import ChartParser.Proofs.Session.Messages

/-!
# Answers of a session

A session with a grammar and a lexicon that can be read answers every line of its input, and each
answer is that to the sentence in the line: nothing is left in the buffer for the next line, and no
sentence ends the session (`Session.run_answers`). An answer is one line with the reason why
there is no forest, or it tells the number of trees. All trees are then in one line each, because a
grammar that has been read has no name with a line feed, and the lines differ if no production is
entered twice, because brackets tell trees apart.
-/

namespace ChartParser

open Text

/-! ## Names in one line -/

namespace Grammar

variable {g : Grammar} {fits : Nat → TerminalId → Bool} {symbols : List Symbol} {start stop : Nat}
  {derivations : List Derivation}

namespace Legible

/-- No name has a line feed. -/
theorem namesUnbroken (legible : g.Legible) : g.NamesUnbroken := by
  constructor
  · intro nonterminal inside
    obtain ⟨id, found⟩ := Array.mem_iff_getElem?.1 inside
    exact (legible (.nonterminal id) _ (Option.map_eq_some_iff.2 ⟨_, found, rfl⟩)).2
  · intro terminal inside
    obtain ⟨id, found⟩ := Array.mem_iff_getElem?.1 inside
    exact (legible (.terminal id) _ (Option.map_eq_some_iff.2 ⟨_, found, rfl⟩)).2

/-- The name of a symbol has no line feed. -/
theorem lineFeed_notMem_nameOf (legible : g.Legible) (symbol : Symbol) :
    '\n' ∉ (g.nameOf symbol).toList := by
  rw [nameOf]
  cases named : g.symbolName? symbol with
  | none => exact List.not_mem_nil
  | some name => exact (legible symbol name named).2

/-- Derivations are printed in one line. -/
theorem lineFeed_notMem_bracketedAll (legible : g.Legible)
    (spelled : g.Spells fits symbols start stop derivations) :
    '\n' ∉ (Tree.bracketedAll (derivations.map (Derivation.tree g))).toList := by
  induction spelled with
  | nil => exact List.not_mem_nil
  | @token id _ _ _ _ _ _ ih =>
    rw [List.map_cons, Derivation.tree, Tree.toList_bracketedAll_cons, Tree.bracketed]
    simpa using And.intro (legible.lineFeed_notMem_nameOf (.terminal id)) ih
  | @branch _ production _ _ _ _ _ _ found _ _ ihBody ihRest =>
    rw [List.map_cons, Derivation.tree_branch found, Tree.toList_bracketedAll_cons, Tree.bracketed]
    have name := legible.lineFeed_notMem_nameOf (.nonterminal production.lhs)
    simpa using And.intro name (And.intro ihBody ihRest)

end Legible

/-- Derivations of the same tokens that are printed alike are the same, if the names are labels and
no production is entered twice. -/
theorem Labelled.derivation_eq (labelled : g.Labelled) (consistent : g.Consistent)
    (distinct : g.HasDistinctProductions) {root : NonterminalId} {left right : Derivation}
    (spelled : g.Spells fits [.nonterminal root] start stop [left])
    (spelledToo : g.Spells fits [.nonterminal root] start stop [right])
    (same : (left.tree g).bracketed = (right.tree g).bracketed) : left = right := by
  have known : ∀ symbol ∈ [Symbol.nonterminal root], g.knows symbol = true := by
    simpa [Grammar.knows] using spelled.lt_size consistent
  have printed : (Tree.bracketedAll [left.tree g]).toList ++ [')'] =
      (Tree.bracketedAll [right.tree g]).toList ++ [')'] := by
    rw [Tree.toList_bracketedAll_cons, Tree.toList_bracketedAll_cons, same]
  obtain ⟨trees, -, -⟩ :=
    labelled.map_tree_eq consistent spelled known spelledToo known printed
  obtain ⟨-, equal⟩ :=
    spelled.eq_of_map_tree_eq consistent distinct known spelledToo known trees
  exact List.singleton_inj.1 equal

end Grammar

/-! ## Reports on forests -/

namespace Session

/-- The report on a forest: the number of its trees, the forest if it is asked for, and the trees if
they are asked for. They are as many as counted unless that is the largest count, each is in one
line, and the lines differ if no production is entered twice. -/
inductive Reports (options : Options) (forest : Forest) : String → Prop
  | intro {count : Nat} {forestText : String} {trees : List Tree}
      (counted : forest.count? = some count) (printed : forest.render? = some forestText)
      (listed : forest.trees? = some trees) (number : count = min trees.length maxCount)
      (oneLine : ∀ tree ∈ trees, '\n' ∉ tree.bracketed.toList)
      (apart : forest.grammar.HasDistinctProductions → (trees.map Tree.bracketed).Nodup) :
      Reports options forest (countLine count ++
        (if options.showForest then forestText ++ "\n" else "") ++
        (if options.showTrees then treeLines trees else ""))

/-- The report on a forest shows what there is. -/
theorem report_ok {options : Options} {forest : Forest} {count : Nat} {forestText : String}
    {trees : List Tree} (counted : forest.count? = some count)
    (printed : forest.render? = some forestText) (listed : forest.trees? = some trees) :
    report options (.ok forest) = countLine count ++
      (if options.showForest then forestText ++ "\n" else "") ++
      (if options.showTrees then treeLines trees else "") := by
  rw [report, forestReport?, counted, printed, listed]
  cases options.showForest <;> cases options.showTrees <;> rfl

end Session

namespace Parser

variable {τ : Type} [Scannable τ] {g : Grammar} {file : Option String} {source : String}
  {root : NonterminalId} {tokens : List τ} {forest : Forest}

/-- A forest of a grammar that has been read is reported on as a whole. -/
theorem Ending.reports (ending : Ending g root tokens (.ok forest))
    (read : Grammar.ofSource file source = .ok g) (options : Options) :
    Session.Reports options forest (Session.report options (.ok forest)) := by
  have consistent := (Grammar.ofSource_eq_ok read).1.consistent
  have legible := Grammar.legible_of_ofSource read
  obtain ⟨derivations, listed, counted, once, each⟩ := ending.exists_listing consistent
  have spelled : ∀ derivation ∈ derivations,
      g.Spells (fitsAt g tokens) [.nonterminal root] 0 tokens.length [derivation] :=
    fun derivation among => ((each derivation).1 among).1
  cases ending with
  | @covered chart node _ known _ filled key _ =>
  obtain ⟨text, printed, -⟩ :=
    filled.sound.arena.exists_render consistent legible.namesUnbroken key known
  rw [Session.report_ok counted printed listed]
  refine .intro counted printed listed (by rw [List.length_map]) ?_ fun distinct => ?_
  · intro tree inside
    obtain ⟨derivation, among, rfl⟩ := List.mem_map.1 inside
    have whole := legible.lineFeed_notMem_bracketedAll (spelled derivation among)
    rw [List.map_singleton, Tree.toList_bracketedAll_cons] at whole
    exact fun feed => whole (List.mem_cons_of_mem _ (List.mem_append_left _ feed))
  · rw [List.map_map]
    refine once.map_on fun left inLeft right inRight same => ?_
    exact legible.labelled.derivation_eq consistent distinct (spelled left inLeft)
      (spelled right inRight) same

/-- A forest of the tokens as the root of the grammar is one as some nonterminal. -/
theorem exists_ending_of_parse (read : Grammar.ofSource file source = .ok g)
    (parsed : (⟨g, none⟩ : Parser).parse tokens = .ok forest) :
    ∃ root, Ending g root tokens (.ok forest) := by
  obtain ⟨built, checked⟩ := Grammar.ofSource_eq_ok read
  rw [parse] at parsed
  split at parsed
  · rename_i root _
    have ending := parseFrom_ending built.consistent (ofGrammar_of_check checked) root tokens
    exact ⟨root, parsed ▸ ending⟩
  · cases parsed

end Parser

/-! ## Sessions -/

namespace Session

variable {session : Session} {sentence : String} {g : Grammar} {lexicon : Option Lexicon}
  {options : Options}

/-- What parsing the tokens of the sentence gives, where all its words are tokens. -/
inductive Parses (session : Session) (sentence : String) : Except ParseError Forest → Prop
  /-- Without a lexicon every word is a plain token. -/
  | plain (bare : session.lexicon = none) :
      Parses session sentence (session.parser.parse (PlainToken.ofSentence sentence))
  /-- With a lexicon the words are typed. -/
  | typed {lexicon : Lexicon} {tokens : List Token} (looked : session.lexicon = some lexicon)
      (read : (Text.words sentence).mapM Token.ofTyped = .ok tokens) :
      Parses session sentence
        (session.parser.parse (tokens.map fun token => LexicalToken.mk token lexicon))

/-- The text is an answer to the sentence: one line that tells why some word is no token or why
there is no forest, or the report on the forest. -/
inductive IsAnswer (session : Session) (sentence : String) : String → Prop
  | unread {lexicon : Lexicon} {word : String} {fault : WordFault}
      (looked : session.lexicon = some lexicon) (listed : word ∈ Text.words sentence)
      (unread : Token.ofTyped word = .error fault) (oneLine : '\n' ∉ fault.message.toList) :
      IsAnswer session sentence (fault.message ++ "\n")
  | unparsed {error : ParseError} (parsed : session.Parses sentence (.error error))
      (oneLine : '\n' ∉ error.message.toList) : IsAnswer session sentence (error.message ++ "\n")
  | parsed {forest : Forest} {text : String} (parsed : session.Parses sentence (.ok forest))
      (reported : Reports session.options forest text) : IsAnswer session sentence text

/-- What parsing the tokens of the sentence gives is reported in an answer. -/
theorem isAnswer_report {file : Option String} {source : String}
    (loaded : Grammar.ofSource file source = .ok g) {τ : Type} [Scannable τ] {tokens : List τ}
    (parsed : (⟨⟨g, none⟩, lexicon, options⟩ : Session).Parses sentence
      ((⟨g, none⟩ : Parser).parse tokens)) :
    (⟨⟨g, none⟩, lexicon, options⟩ : Session).IsAnswer sentence
      (report options ((⟨g, none⟩ : Parser).parse tokens)) := by
  cases outcome : (⟨g, none⟩ : Parser).parse tokens with
  | error error => exact .unparsed (outcome ▸ parsed) error.lineFeed_notMem_message
  | ok forest =>
    obtain ⟨root, ending⟩ := Parser.exists_ending_of_parse loaded outcome
    exact .parsed (outcome ▸ parsed) (ending.reports loaded options)

/-- A session with a grammar that has been read answers every sentence. -/
theorem isAnswer_answer {file : Option String} {source : String}
    (loaded : Grammar.ofSource file source = .ok g) (sentence : String) :
    (⟨⟨g, none⟩, lexicon, options⟩ : Session).IsAnswer sentence
      ((⟨⟨g, none⟩, lexicon, options⟩ : Session).answer sentence) := by
  rw [answer]
  cases lexicon with
  | none => exact isAnswer_report loaded (.plain rfl)
  | some lexicon =>
    dsimp only
    cases typed : (Text.words sentence).mapM Token.ofTyped with
    | ok tokens => exact isAnswer_report loaded (.typed rfl typed)
    | error fault =>
      obtain ⟨word, listed, unread⟩ := exists_of_mapM_eq_error typed
      exact .unread rfl listed unread
        (Token.lineFeed_notMem_message (lineFeed_notMem_of_mem_words listed) unread)

/-- A grammar in a file has been read from some text. -/
theorem exists_ofSource_of_readGrammar {read : String → Except ReadFailure String} {file : String}
    (loaded : readGrammar read file = .ok g) :
    ∃ source, Grammar.ofSource (some file) source = .ok g := by
  unfold readGrammar at loaded
  split at loaded
  · exact ⟨_, loaded⟩
  · cases loaded

/-- A session starts if its grammar and its lexicon can be read. -/
theorem start_eq_ok {read : String → Except ReadFailure String}
    (loaded : readGrammar read options.grammarFile = .ok g)
    (known : options.lexiconFile.mapM (readLexicon read) = .ok lexicon) :
    start read options = .ok ⟨⟨g, none⟩, lexicon, options⟩ := by
  obtain ⟨source, built⟩ := exists_ofSource_of_readGrammar loaded
  have parser := Parser.ofGrammar_of_check (Grammar.ofSource_eq_ok built).2
  rw [start, loaded]
  cases named : options.lexiconFile with
  | none =>
    rw [named] at known
    obtain rfl := Except.ok.inj known
    simp only [bind, Except.bind, pure, Except.pure, parser]
  | some file =>
    rw [named] at known
    cases found : readLexicon read file with
    | error error =>
      rw [Option.mapM_some, found] at known
      cases known
    | ok entries =>
      rw [Option.mapM_some, found] at known
      obtain rfl := Except.ok.inj known
      simp only [found, bind, Except.bind, pure, Except.pure, Except.map, parser]

/-- Where the arguments ask for a session, its files can be read and its input is text, the session
ends well, and before and after its answers there is nothing but prompts. The answers are those to
the sentences in the lines of the input, one for each line, and depend on nothing else. No error is
reported, whatever the log says, which an outcome leaves out. -/
theorem run_answers {program : String} {arguments : List String}
    {read : String → Except ReadFailure String} {input : List UInt8} {text : String}
    (accepted : Request.ofArguments arguments = .ok (.session options))
    (loaded : readGrammar read options.grammarFile = .ok g)
    (known : options.lexiconFile.mapM (readLexicon read) = .ok lexicon)
    (decoded : decodeText ⟨input.toArray⟩ = .ok text) :
    run program arguments read input =
        ⟨0, String.join ((Text.lines text).map fun line =>
          "> " ++ (⟨⟨g, none⟩, lexicon, options⟩ : Session).answer (trimmed line)) ++ "> ", ""⟩ ∧
      ∀ sentence, (⟨⟨g, none⟩, lexicon, options⟩ : Session).IsAnswer sentence
        ((⟨⟨g, none⟩, lexicon, options⟩ : Session).answer sentence) := by
  obtain ⟨source, built⟩ := exists_ofSource_of_readGrammar loaded
  refine ⟨?_, isAnswer_answer built⟩
  rw [run, accepted]
  dsimp only
  rw [start_eq_ok loaded known]
  exact outcomeFrom_start _ decoded

/-- A file with a grammar that has two trees for one word, and a file with a lexicon. -/
def rulesAndWords : String → Except ReadFailure String
  | "rules" => .ok "S -> \"x\" | T\nT -> \"x\"\n"
  | "words" => .ok "[ verbs ]\ngefa þgf þf\n"
  | _ => .error .missing

/-- The options of a session that reads both files and prints trees. -/
def treeOptions : Options := ⟨"rules", some "words", false, true⟩

/-- A sentence with two trees, a word that is no token, and a sentence without a tree. -/
def threeLines : String := " x\r\nx/y\ny"

/-- The three lines are answered one after the other. -/
theorem run_answers_threeLines : ∃ g lexicon,
    Request.ofArguments ["-t", "rules", "-l", "words"] = .ok (.session treeOptions) ∧
      readGrammar rulesAndWords treeOptions.grammarFile = .ok g ∧
      treeOptions.lexiconFile.mapM (readLexicon rulesAndWords) = .ok lexicon ∧
      decodeText ⟨(encode threeLines.toList).toArray⟩ = .ok threeLines ∧
      run "parse" ["-t", "rules", "-l", "words"] rulesAndWords (encode threeLines.toList) =
        ⟨0, "> Parsed 2 trees\n(S \"x\")\n(S (T \"x\"))\n\n> can't read token \"x/y\"\n" ++
          "> no parse available at token 1 (\"y\")\n> ", ""⟩ ∧
      ∀ sentence, (⟨⟨g, none⟩, lexicon, treeOptions⟩ : Session).IsAnswer sentence
        ((⟨⟨g, none⟩, lexicon, treeOptions⟩ : Session).answer sentence) := by
  have answers : ((readGrammar rulesAndWords treeOptions.grammarFile).toOption.bind fun g =>
      (treeOptions.lexiconFile.mapM (readLexicon rulesAndWords)).toOption.map fun lexicon =>
        String.join ((Text.lines threeLines).map fun line =>
          "> " ++ (⟨⟨g, none⟩, lexicon, treeOptions⟩ : Session).answer (trimmed line)) ++ "> ") =
      some ("> Parsed 2 trees\n(S \"x\")\n(S (T \"x\"))\n\n> can't read token \"x/y\"\n" ++
        "> no parse available at token 1 (\"y\")\n> ") := by
    decide +kernel
  have accepted : Request.ofArguments ["-t", "rules", "-l", "words"] =
      .ok (.session treeOptions) := by decide
  have decoded : decodeText ⟨(encode threeLines.toList).toArray⟩ = .ok threeLines := by
    rw [decodeText_encode, String.ofList_toList]
  cases loaded : readGrammar rulesAndWords treeOptions.grammarFile with
  | error _ =>
    rw [loaded] at answers
    cases answers
  | ok g =>
    cases known : treeOptions.lexiconFile.mapM (readLexicon rulesAndWords) with
    | error _ =>
      rw [loaded, known] at answers
      cases answers
    | ok lexicon =>
      rw [loaded, known] at answers
      obtain ⟨ends, answered⟩ := @run_answers _ _ _ "parse" _ _ _ _ accepted loaded known decoded
      have shown := congrArg (Outcome.mk 0 · "") (Option.some.inj answers)
      exact ⟨g, lexicon, accepted, rfl, rfl, decoded, ends.trans shown, answered⟩

end Session

end ChartParser
