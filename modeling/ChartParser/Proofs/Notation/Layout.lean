import ChartParser.Proofs.Notation.Lexing
import ChartParser.Proofs.Notation.Loading
import ChartParser.Proofs.Text.Lines
import Mathlib.Data.List.Forall2

/-!
# Layouts of rules

Rules can be laid out as text in many ways: the alternatives of a rule stand behind its head or on
lines of their own that begin with a bar, with white space around everything, and there are blank
lines and comments. A text lays out rules if its lines, one after the other, state their heads and
alternatives (`LaysOut`). Reading such a text is taking up these statements, whatever the layout
(`LaysOut.ofSourceUnchecked_eq`).
-/

namespace ChartParser.Notation

open Text (IsSpace)

variable {name : String} {names : List String} {listed : List (List String)} {cs : List Char}
  {statements : List Statement} {place : Location} {loading : Loading}

/-! ## Texts of rules -/

/-- The name of a symbol that is written without a repetition. A `0` is none. -/
structure IsSymbol (name : String) : Prop where
  written : IsWritten name.toList
  ne_zero : name ≠ "0"

/-- The text of an alternative: the names of its symbols with white space between them, or a `0` if
it is empty. -/
inductive AlternativeText : List String → List Char → Prop
  | empty : AlternativeText [] ['0']
  | single {name : String} (symbol : IsSymbol name) : AlternativeText [name] name.toList
  | cons {name : String} {names : List String} {gap text : List Char} (symbol : IsSymbol name)
      (space : IsSpace gap) (apart : gap ≠ []) (more : names ≠ [])
      (rest : AlternativeText names text) :
      AlternativeText (name :: names) (name.toList ++ (gap ++ text))

/-- The text of alternatives in one line, with bars between them. -/
inductive AlternativesText : List (List String) → List Char → Prop
  | single {names : List String} {text : List Char} (alternative : AlternativeText names text) :
      AlternativesText [names] text
  | cons {names : List String} {listed : List (List String)} {text before after rest : List Char}
      (alternative : AlternativeText names text) (space : IsSpace before)
      (spaceToo : IsSpace after) (others : AlternativesText listed rest) :
      AlternativesText (names :: listed) (text ++ ((before ++ '|' :: after) ++ rest))

/-- An alternative with the names that it is written with. -/
def written (names : List String) : List WrittenSymbol :=
  if names = [] then [⟨"0", none⟩] else names.map fun name => ⟨name, none⟩

/-- What is stated by an alternative. -/
def Statement.ofNames (names : List String) : Statement := .alternative (written names)

/-- The content of a line, without its comment and its outer white space, and what it states. -/
inductive ContentText : List Statement → List Char → Prop
  | blank : ContentText [] []
  | alone {name : String} {gap : List Char} (head : IsHead name.toList) (space : IsSpace gap) :
      ContentText [.head name] (name.toList ++ (gap ++ ['-', '>']))
  | rule {name : String} {listed : List (List String)} {gap after text : List Char}
      (head : IsHead name.toList) (space : IsSpace gap) (spaceToo : IsSpace after)
      (alternatives : AlternativesText listed text) :
      ContentText (.head name :: listed.map .ofNames)
        (name.toList ++ ((gap ++ '-' :: '>' :: after) ++ text))
  | bar {listed : List (List String)} {after text : List Char} (space : IsSpace after)
      (alternatives : AlternativesText listed text) :
      ContentText (listed.map .ofNames) (['|'] ++ (after ++ text))

/-- A line and what it states: a content with white space around it, and perhaps a comment. -/
def LineText (statements : List Statement) (line : List Char) : Prop :=
  ∃ before content after comment, line = before ++ (content ++ (after ++ comment)) ∧
    IsSpace before ∧ ContentText statements content ∧ IsSpace after ∧
    ∀ c ∈ comment.head?, c = '#'

/-- What a rule states: its head, and then its alternatives. -/
def statementsOf (rule : String × List (List String)) : List Statement :=
  .head rule.1 :: rule.2.map .ofNames

/-- The text lays out the rules: what its lines state is what the rules state, one after the other.
-/
def LaysOut (rules : List (String × List (List String))) (source : String) : Prop :=
  ∃ stated, List.Forall₂ LineText stated (Text.splitBy (· == '\n') source.toList) ∧
    stated.flatten = rules.flatMap statementsOf

/-! ## Reading alternatives -/

/-- The mark of the empty alternative may be written. -/
theorem isWritten_zero : IsWritten ['0'] :=
  .bare (List.cons_ne_nil _ _) (List.all_eq_true.1 (by decide +kernel))

namespace AlternativeText

/-- The text of an alternative is solid. -/
theorem solid (text : AlternativeText names cs) : Solid cs := by
  induction text with
  | empty => exact .of_isWritten isWritten_zero
  | single symbol => exact .of_isWritten symbol.written
  | cons symbol space _ _ _ ih =>
    exact (Solid.of_isWritten symbol.written).join (.of_isSpace space) ih

/-- The lexemes of an alternative are its symbols. -/
theorem lexemes_eq (text : AlternativeText names cs) {rest : List Char} (ends : Ends rest) :
    lexemes (cs ++ rest) = (written names).map .symbol ++ lexemes rest := by
  induction text with
  | empty => exact lexemes_written isWritten_zero ends
  | @single name symbol =>
    rw [lexemes_written symbol.written ends, String.ofList_toList]
    rfl
  | @cons name names gap text symbol space apart more _ ih =>
    have endsToo : Ends (gap ++ (text ++ rest)) := by
      obtain ⟨c, others, rfl⟩ := List.exists_cons_of_ne_nil apart
      rintro d isFirst
      obtain rfl : c = d := Option.some.inj isFirst
      exact Or.inl (space c List.mem_cons_self)
    rw [List.append_assoc, List.append_assoc, lexemes_written symbol.written endsToo,
      lexemes_append space, ih, String.ofList_toList]
    simp [written, more]

end AlternativeText

/-- Symbols that are read go to the alternative that has been begun. -/
theorem alternativesFrom_symbols (current symbols : List WrittenSymbol) (rest : List Lexeme) :
    alternativesFrom current (symbols.map .symbol ++ rest) =
      alternativesFrom (current ++ symbols) rest := by
  induction symbols generalizing current with
  | nil => rw [List.map_nil, List.nil_append, List.append_nil]
  | cons first symbols ih =>
    rw [List.map_cons, List.cons_append, alternativesFrom, ih, List.append_assoc,
      List.singleton_append]

/-- An alternative is written with at least one symbol. -/
theorem written_ne_nil (names : List String) : written names ≠ [] := by
  unfold written
  split
  · exact List.cons_ne_nil _ _
  · rename_i more
    simpa using more

namespace AlternativesText

/-- The text of alternatives is solid. -/
theorem solid (text : AlternativesText listed cs) : Solid cs := by
  induction text with
  | single alternative => exact alternative.solid
  | cons alternative space spaceToo _ ih =>
    have bar : Closed ['|'] := .of_forall (List.forall_mem_singleton.2 (by decide))
    exact alternative.solid.join
      ((Closed.of_isSpace space).append (bar.append (.of_isSpace spaceToo))) ih

/-- The alternatives are read from their text. -/
theorem alternativesFrom_eq (text : AlternativesText listed cs) :
    alternativesFrom [] (lexemes cs) = .ok (listed.map written) := by
  induction text with
  | @single names text alternative =>
    have ends : Ends [] := by simp [Ends]
    have read := alternative.lexemes_eq ends
    rw [List.append_nil, lexemes_nil] at read
    rw [read, alternativesFrom_symbols, List.nil_append, alternativesFrom]
    simp [written_ne_nil]
  | @cons names listed text before after rest alternative space spaceToo _ ih =>
    have ends : Ends ((before ++ '|' :: after) ++ rest) := by
      cases before with
      | nil =>
        rintro c isFirst
        exact Or.inr (Option.some.inj isFirst).symm
      | cons d before =>
        rintro c isFirst
        obtain rfl : d = c := Option.some.inj isFirst
        exact Or.inl (space d List.mem_cons_self)
    rw [alternative.lexemes_eq ends, alternativesFrom_symbols, List.nil_append, List.append_assoc,
      lexemes_append space, List.cons_append, lexemes_bar, lexemes_append spaceToo,
      alternativesFrom, ih]
    simp [written_ne_nil, Except.map]

/-- The alternatives of a right-hand side are read. -/
theorem alternatives_eq (text : AlternativesText listed cs) {after : List Char}
    (space : IsSpace after) : alternatives (after ++ cs) = .ok (listed.map written) := by
  rw [alternatives, lexemes_append space]
  exact text.alternativesFrom_eq

/-- The alternatives are what the right-hand side states. -/
theorem statedSide_eq (text : AlternativesText listed cs) {after : List Char}
    (space : IsSpace after) : statedSide (after ++ cs) = listed.map .ofNames := by
  have none : IsSpace [] := by decide
  have trimmed := text.solid.trim_eq space none
  rw [List.append_nil] at trimmed
  have nonempty : cs.isEmpty = false := by simpa using text.solid.ne_nil
  rw [statedSide, trimmed, nonempty, text.alternatives_eq space]
  simp [Statement.ofNames, Function.comp_def]

end AlternativesText

/-! ## Reading lines -/

/-- The front of a rule is read whether or not there is white space between its head and the arrow.
Where there is none, the hyphen of the arrow is first taken for the end of the name. -/
theorem ruleFront?_append (head : IsHead name.toList) {gap : List Char} (space : IsSpace gap)
    (rhs : List Char) :
    ruleFront? (name.toList ++ (gap ++ '-' :: '>' :: rhs)) = some (name.toList, rhs) := by
  obtain ⟨c, rest, shape⟩ := List.exists_cons_of_ne_nil head.isWritten.ne_nil
  have first : (name.toList ++ (gap ++ '-' :: '>' :: rhs)).head?.any isHeadChar = true := by
    have starts := head.first
    rw [shape] at starts ⊢
    exact starts
  rw [ruleFront?, if_pos first]
  dsimp only
  cases gap with
  | nil =>
    -- the name is read with the hyphen behind it, and no arrow follows, so the hyphen is given back
    have each : ∀ c ∈ name.toList ++ ['-'], isNameChar c = true := by
      refine List.forall_mem_append.2 ⟨head.each, List.forall_mem_singleton.2 ?_⟩
      decide +kernel
    have stops : ('>' :: rhs).takeWhile isNameChar = [] :=
      List.takeWhile_cons_of_neg (by decide +kernel)
    obtain ⟨taken, left⟩ := takeWhile_isNameChar each stops
    rw [List.append_assoc] at taken left
    rw [List.nil_append, show '-' :: '>' :: rhs = ['-'] ++ '>' :: rhs from rfl, taken, left]
    have none : afterArrow? ('>' :: rhs) = none := by
      have visible : Text.trimStart ('>' :: rhs) = '>' :: rhs :=
        Text.trimStart_of_head? rfl (by decide)
      rw [afterArrow?, visible]
      rfl
    rw [none, List.getLast?_append, List.getLast?_singleton, List.dropLast_concat]
    rfl
  | cons c gap =>
    have stops : (c :: gap ++ '-' :: '>' :: rhs).takeWhile isNameChar = [] := by
      refine List.takeWhile_cons_of_neg ?_
      simp [isNameChar_of_isWhiteSpace (space c List.mem_cons_self)]
    obtain ⟨taken, left⟩ := takeWhile_isNameChar head.each stops
    have visible : Text.trimStart ('-' :: '>' :: rhs) = '-' :: '>' :: rhs :=
      Text.trimStart_of_head? rfl (by decide)
    rw [taken, left, afterArrow?, Text.trimStart_append space, visible]
    rfl

/-- A line that starts with the front of a rule is read as one. -/
theorem readContent_of_ruleFront? {content head rhs : List Char}
    (front : ruleFront? content = some (head, rhs)) :
    readContent place loading content =
      match definedAs? loading.grammar (String.ofList head) with
      | some nonterminal =>
        .error ⟨.alreadyDefined (String.ofList head) nonterminal.place.line, place⟩
      | none =>
        readAlternatives place ⟨(loading.grammar.defineAt (String.ofList head) place).2,
          some (loading.grammar.defineAt (String.ofList head) place).1⟩
          (loading.grammar.defineAt (String.ofList head) place).1 rhs := by
  unfold readContent
  split
  · cases front
  · rename_i rest
    have bar : ruleFront? ('|' :: rest) = none := by
      rw [ruleFront?, if_neg]
      rw [List.head?_cons, Option.any_some]
      decide +kernel
    rw [bar] at front
    cases front
  · rewrite [front]
    rfl

/-- The content of a line is read by taking up what it states. -/
theorem ContentText.readContent_eq (text : ContentText statements cs) :
    readContent place loading cs = Loading.takeAt place loading statements := by
  cases text with
  | blank => rfl
  | @alone name gap head space =>
    have front := ruleFront?_append head space []
    rw [readContent_of_ruleFront? front, takeAt_head, String.ofList_toList]
    have side : statedSide [] = [] := rfl
    rewrite [readAlternatives_eq (Or.inl rfl), side]
    rfl
  | @rule name listed gap after text head space spaceToo alternatives =>
    have front := ruleFront?_append head space (after ++ text)
    have readable : ∃ read, Notation.alternatives (after ++ text) = .ok read :=
      ⟨_, alternatives.alternatives_eq spaceToo⟩
    rewrite [List.append_assoc, List.cons_append, List.cons_append,
      readContent_of_ruleFront? front, takeAt_head, String.ofList_toList,
      readAlternatives_eq (Or.inr readable), alternatives.statedSide_eq spaceToo]
    rfl
  | @bar listed after text space alternatives =>
    obtain ⟨grammar, current⟩ := loading
    cases current with
    | some lhs =>
      rw [← alternatives.statedSide_eq space]
      exact readAlternatives_eq (Or.inr ⟨_, alternatives.alternatives_eq space⟩)
    | none =>
      -- without a rule above, the first alternative fails as the line does
      cases alternatives <;> rfl

/-- The content of a line is solid, if there is one. -/
theorem ContentText.solid (text : ContentText statements cs) :
    (cs = [] ∧ statements = []) ∨ Solid cs := by
  have arrow : Closed ['-', '>'] :=
    .of_forall (List.forall_mem_cons.2 ⟨by decide, List.forall_mem_singleton.2 (by decide)⟩)
  cases text with
  | blank => exact Or.inl ⟨rfl, rfl⟩
  | alone head space =>
    have last : Solid ['-', '>'] := ⟨⟨'-', rfl, by decide⟩, ⟨'>', rfl, by decide⟩, arrow⟩
    exact Or.inr ((Solid.of_isWritten head.isWritten).join (.of_isSpace space) last)
  | rule head space spaceToo alternatives =>
    have between := (Closed.of_isSpace space).append (arrow.append (.of_isSpace spaceToo))
    exact Or.inr ((Solid.of_isWritten head.isWritten).join between alternatives.solid)
  | bar space alternatives =>
    have bar : Closed ['|'] := .of_forall (List.forall_mem_singleton.2 (by decide))
    have first : Solid ['|'] := ⟨⟨'|', rfl, by decide⟩, ⟨'|', rfl, by decide⟩, bar⟩
    exact Or.inr (first.join (.of_isSpace space) alternatives.solid)

namespace LineText

variable {line : List Char}

/-- A line is read by taking up what it states. -/
theorem readContent_eq (text : LineText statements line) :
    readContent place loading (Text.trim (beforeComment none line)) =
      Loading.takeAt place loading statements := by
  obtain ⟨before, content, after, comment, rfl, space, spells, spaceToo, starts⟩ := text
  have cut := beforeComment_of_head? starts
  have trimmed : Text.trim (beforeComment none (before ++ (content ++ (after ++ comment)))) =
      content := by
    rcases spells.solid with ⟨rfl, -⟩ | solid
    · rw [List.nil_append, Closed.of_isSpace space, Closed.of_isSpace spaceToo, cut,
        List.append_nil]
      exact Text.trim_of_isSpace (List.forall_mem_append.2 ⟨space, spaceToo⟩)
    · rw [Closed.of_isSpace space, solid.closed, Closed.of_isSpace spaceToo, cut, List.append_nil]
      exact solid.trim_eq space spaceToo
  rw [trimmed]
  exact spells.readContent_eq

/-- An empty line states nothing. -/
theorem eq_nil (text : LineText statements []) : statements = [] := by
  obtain ⟨before, content, after, comment, empty, -, spells, -, -⟩ := text
  rcases spells.solid with ⟨-, none⟩ | solid
  · exact none
  · have absent := (List.append_eq_nil_iff.1 (List.append_eq_nil_iff.1 empty.symm).2).1
    exact absurd absent solid.ne_nil

/-- A line is read by taking up what it states, also without its carriage return. -/
theorem readLine_eq (text : LineText statements line) (file : Option String) (number : Nat) :
    readLine file loading (String.ofList line, number) =
        Loading.takeAt ⟨file, some number⟩ loading statements ∧
      readLine file loading (String.ofList (Text.dropReturn line), number) =
        Loading.takeAt ⟨file, some number⟩ loading statements := by
  unfold readLine
  dsimp only
  rw [String.toList_ofList, String.toList_ofList, trim_beforeComment_dropReturn,
    text.readContent_eq]
  exact ⟨rfl, rfl⟩

end LineText

/-- Lines are read by taking up what they state, each statement at its place. -/
theorem readLines_eq {stated : List (List Statement)} {pieces : List (List Char)}
    (texts : List.Forall₂ LineText stated pieces) (file : Option String) (first : Nat) :
    ∃ made : List (Location × Statement), made.map Prod.snd = stated.flatten ∧ ∀ loading,
      (((Text.linesOfPieces pieces).map String.ofList).zipIdx first).foldlM (readLine file)
        loading = made.foldlM Loading.take loading := by
  induction texts generalizing first with
  | nil => exact ⟨[], rfl, fun _ => rfl⟩
  | @cons statements line stated pieces text rest ih =>
    let here := statements.map ((⟨file, some first⟩ : Location), ·)
    have same : here.map Prod.snd = statements := by simp [here, Function.comp_def]
    by_cases last : pieces = []
    · -- the last piece is a line only if there is something in it
      subst last
      cases rest
      rw [List.flatten_cons, List.flatten_nil, List.append_nil]
      by_cases empty : line = []
      · subst empty
        exact ⟨[], text.eq_nil.symm, fun _ => rfl⟩
      · refine ⟨here, same, fun loading => ?_⟩
        have single : Text.linesOfPieces [line] = [line] := by
          rw [Text.linesOfPieces, if_neg (by simpa using empty)]
        rw [single, List.map_singleton, List.zipIdx_singleton, List.foldlM_cons,
          (text.readLine_eq file first).1]
        exact bind_pure _
    · obtain ⟨made, flat, read⟩ := ih (first + 1)
      refine ⟨here ++ made, by rw [List.map_append, same, flat, List.flatten_cons],
        fun loading => ?_⟩
      rw [Text.linesOfPieces_cons last, List.map_cons, List.zipIdx_cons, List.foldlM_cons,
        List.foldlM_append, (text.readLine_eq file first).2]
      exact bind_congr read

/-- A text that lays out rules is read by taking up what the rules state, each statement at its
place. -/
theorem LaysOut.ofSourceUnchecked_eq {rules : List (String × List (List String))} {source : String}
    (laid : LaysOut rules source) (file : Option String) :
    ∃ made : List (Location × Statement), made.map Prod.snd = rules.flatMap statementsOf ∧
      Grammar.ofSourceUnchecked file source =
        (made.foldlM Loading.take Loading.start).map (·.grammar) := by
  obtain ⟨stated, texts, same⟩ := laid
  obtain ⟨made, flat, read⟩ := readLines_eq texts file 1
  refine ⟨made, flat.trans same, ?_⟩
  rw [Grammar.ofSourceUnchecked, ← read Loading.start]
  rfl

end ChartParser.Notation
