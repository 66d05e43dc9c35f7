import ChartParser.Notation.Loader
import ChartParser.Proofs.Grammar.Entries

/-!
# Grammars read from text

The lines of a grammar text state one thing after another: that the rule of a nonterminal starts,
and what its alternatives are. Reading a text is taking up its statements in this order
(`Grammar.ofSourceUnchecked_eq_ok`). Taking them up only ever enters symbols, definitions and
productions, so what holds of every grammar built by entries holds of every grammar that has been
read (`Grammar.ofSource_eq_ok`).
-/

namespace ChartParser

open Notation

/-! ## What is kept while a grammar is read -/

namespace Grammar

variable {g h : Grammar} {place : Location}

/-- One more entry builds one more grammar. -/
theorem Built.enter (built : g.Built) (entry : Entry) : (g.enter entry).Built := by
  obtain ⟨entries, rfl⟩ := built
  refine ⟨entries ++ [entry], ?_⟩
  rw [ofEntries, List.foldl_append]
  rfl

/-- Every operation is an entry. -/
theorem Built.kept : Kept Built where
  nonterminalId name built := built.enter (.nonterminal name)
  defineAt name place built := built.enter (.definition name place)
  terminalId {g h spec id} entered built := by
    have next := built.enter (.terminal spec)
    rwa [Grammar.enter, entered] at next
  addProduction {g h lhs symbols id} added built := by
    have next := built.enter (.production lhs symbols)
    rwa [Grammar.enter, added] at next

end Grammar

namespace Notation

variable {g h : Grammar} {place : Location}

/-- A name is resolved by entering its symbol. -/
theorem resolve_eq_ok {name : String} {symbol : Symbol} :
    resolve place g name = .ok (symbol, h) ↔ g.symbol name = (.ok symbol, h) := by
  rw [resolve]
  split <;> rename_i entered <;> simp [entered]

/-- A repeated symbol has been met before, or its nonterminal is defined and gets its two
productions. -/
theorem repeated_eq_ok {name : String} {repetition : Repetition} {whole : NonterminalId}
    (entered : repeated place g name repetition = .ok (whole, h)) :
    (g.findNonterminal? (repeatedName name repetition) = some whole ∧ h = g) ∨
      (g.findNonterminal? (repeatedName name repetition) = none ∧
        ∃ base middle first once second, g.symbol name = (.ok base, middle) ∧
          whole = (middle.defineAt (repeatedName name repetition) place).1 ∧
          (middle.defineAt (repeatedName name repetition) place).2.addProduction whole
            (repeatedSides repetition (.nonterminal whole) base).1 = (.ok first, once) ∧
          once.addProduction whole (repeatedSides repetition (.nonterminal whole) base).2 =
            (.ok second, h)) := by
  rw [repeated] at entered
  split at entered
  · rename_i found
    obtain ⟨rfl, rfl⟩ := Prod.mk.inj (Except.ok.inj entered)
    exact Or.inl ⟨found, rfl⟩
  · rename_i missed
    obtain ⟨⟨base, middle⟩, resolved, entered⟩ := bind_eq_ok.1 entered
    obtain ⟨⟨first, once⟩, addedFirst, entered⟩ := bind_eq_ok.1 entered
    obtain ⟨⟨second, last⟩, addedSecond, entered⟩ := bind_eq_ok.1 entered
    obtain ⟨rfl, rfl⟩ := Prod.mk.inj (Except.ok.inj entered)
    exact Or.inr ⟨missed, base, middle, first, once, second, resolve_eq_ok.1 resolved, rfl,
      Grammar.accepted_eq_ok.1 addedFirst, Grammar.accepted_eq_ok.1 addedSecond⟩

/-- A written symbol that is not repeated stands for the symbol of its name, and one that is
repeated for the nonterminal that repeats it. -/
theorem resolveWritten_eq_ok {written : WrittenSymbol} {symbol : Symbol}
    (resolved : resolveWritten place g written = .ok (symbol, h)) :
    (written.repetition = none ∧ g.symbol written.name = (.ok symbol, h)) ∨
      ∃ repetition whole, written.repetition = some repetition ∧
        repeated place g written.name repetition = .ok (whole, h) ∧
        symbol = .nonterminal whole := by
  rw [resolveWritten] at resolved
  split at resolved
  · simp at resolved
  split at resolved
  · rename_i plain
    exact Or.inl ⟨plain, resolve_eq_ok.1 resolved⟩
  · rename_i repetition isRepeated
    obtain ⟨⟨whole, next⟩, entered, same⟩ := map_eq_ok.1 resolved
    obtain ⟨rfl, rfl⟩ := Prod.mk.inj same
    exact Or.inr ⟨repetition, whole, isRepeated, entered, rfl⟩

/-- Written symbols are resolved one after the other. -/
theorem resolveAll_cons_eq_ok {first : WrittenSymbol} {rest : List WrittenSymbol}
    {symbols : List Symbol} (resolved : resolveAll place g (first :: rest) = .ok (symbols, h)) :
    ∃ symbol middle others, resolveWritten place g first = .ok (symbol, middle) ∧
      resolveAll place middle rest = .ok (others, h) ∧ symbols = symbol :: others := by
  rw [resolveAll] at resolved
  obtain ⟨⟨symbol, middle⟩, entered, resolved⟩ := bind_eq_ok.1 resolved
  obtain ⟨⟨others, last⟩, later, resolved⟩ := bind_eq_ok.1 resolved
  obtain ⟨rfl, rfl⟩ := Prod.mk.inj (Except.ok.inj resolved)
  exact ⟨symbol, middle, others, entered, later, rfl⟩

end Notation

namespace Grammar.Kept

variable {g h : Grammar} {place : Location} {holds : Grammar → Prop}

/-- A repeated symbol enters a nonterminal and its two productions, or nothing if it has been met
before. -/
theorem repeated (kept : Kept holds) (before : holds g) {name : String} {repetition : Repetition}
    {id : NonterminalId} (entered : Notation.repeated place g name repetition = .ok (id, h)) :
    holds h := by
  rcases repeated_eq_ok entered with ⟨-, rfl⟩ | ⟨-, _, _, _, _, _, based, -, first, second⟩
  · exact before
  · have defined := kept.defineAt (repeatedName name repetition) place (kept.symbol before based)
    exact kept.addProduction second (kept.addProduction first defined)

/-- Resolving a written symbol enters the symbol that it stands for. -/
theorem resolveWritten (kept : Kept holds) (before : holds g) {written : WrittenSymbol}
    {symbol : Symbol} (resolved : Notation.resolveWritten place g written = .ok (symbol, h)) :
    holds h := by
  rcases resolveWritten_eq_ok resolved with ⟨-, entered⟩ | ⟨_, _, -, entered, -⟩
  · exact kept.symbol before entered
  · exact kept.repeated before entered

/-- Resolving written symbols enters the symbols that they stand for. -/
theorem resolveAll (kept : Kept holds) (before : holds g) {written : List WrittenSymbol}
    {symbols : List Symbol} (resolved : Notation.resolveAll place g written = .ok (symbols, h)) :
    holds h := by
  induction written generalizing g symbols with
  | nil =>
    obtain ⟨-, rfl⟩ := Prod.mk.inj (Except.ok.inj resolved)
    exact before
  | cons first rest ih =>
    obtain ⟨_, _, _, entered, later, -⟩ := resolveAll_cons_eq_ok resolved
    exact ih (kept.resolveWritten before entered) later

end Grammar.Kept

namespace Notation

variable {g h : Grammar} {place : Location} {lhs : NonterminalId}

/-- The symbols of an alternative. A `0` alone stands for none. -/
def resolveAlternative (place : Location) (g : Grammar) (alternative : List WrittenSymbol) :
    Except GrammarError (List Symbol × Grammar) :=
  if alternative = [⟨"0", none⟩] then .ok ([], g) else resolveAll place g alternative

/-- An alternative is added by resolving its symbols and adding their production. -/
theorem addAlternative_eq (alternative : List WrittenSymbol) :
    addAlternative place lhs g alternative =
      resolveAlternative place g alternative >>= fun (symbols, middle) =>
        match middle.addProduction lhs symbols with
        | (.ok _, g) => .ok g
        | (.error error, _) => .error (error.movedTo place) := by
  unfold addAlternative resolveAlternative
  split <;> rfl

/-- An alternative is added if its symbols can be resolved and their production is accepted. -/
theorem addAlternative_eq_ok {alternative : List WrittenSymbol} :
    addAlternative place lhs g alternative = .ok h ↔ ∃ symbols middle rule,
      resolveAlternative place g alternative = .ok (symbols, middle) ∧
        middle.addProduction lhs symbols = (.ok rule, h) := by
  rw [addAlternative_eq, bind_eq_ok]
  constructor
  · rintro ⟨⟨symbols, middle⟩, resolved, added⟩
    dsimp only at added
    split at added
    · rename_i rule next accepted
      obtain rfl := Except.ok.inj added
      exact ⟨symbols, middle, rule, resolved, accepted⟩
    · simp at added
  · rintro ⟨symbols, middle, rule, resolved, accepted⟩
    exact ⟨(symbols, middle), resolved, by simp [accepted]⟩

end Notation

namespace Grammar.Kept

variable {g h : Grammar} {place : Location} {lhs : NonterminalId} {holds : Grammar → Prop}

/-- The symbols of an alternative are entered. -/
theorem resolveAlternative (kept : Kept holds) (before : holds g)
    {alternative : List WrittenSymbol} {symbols : List Symbol}
    (resolved : Notation.resolveAlternative place g alternative = .ok (symbols, h)) : holds h := by
  rw [Notation.resolveAlternative] at resolved
  split at resolved
  · simp only [Except.ok.injEq, Prod.mk.injEq] at resolved
    exact resolved.2 ▸ before
  · exact kept.resolveAll before resolved

/-- An alternative enters its symbols and its production. -/
theorem addAlternative (kept : Kept holds) (before : holds g) {alternative : List WrittenSymbol}
    (added : Notation.addAlternative place lhs g alternative = .ok h) : holds h := by
  obtain ⟨symbols, middle, rule, resolved, accepted⟩ := addAlternative_eq_ok.1 added
  exact kept.addProduction accepted (kept.resolveAlternative before resolved)

end Grammar.Kept

/-! ## Statements -/

namespace Notation

variable {g : Grammar} {place : Location} {lhs : NonterminalId} {loading next : Loading}

/-- What a line of a grammar text states. -/
inductive Statement where
  /-- Here the rule of a nonterminal starts. -/
  | head (name : String)
  /-- The rule has one more alternative. -/
  | alternative (symbols : List WrittenSymbol)
deriving DecidableEq, Repr

/-- What a right-hand side states: each of its alternatives, if it can be read. -/
def statedSide (rhs : List Char) : List Statement :=
  if (Text.trim rhs).isEmpty then []
  else
    match alternatives rhs with
    | .ok alternatives => alternatives.map .alternative
    | .error _ => []

/-- What a line states whose comment and outer white space are gone. -/
def statedContent (content : List Char) : List Statement :=
  match content with
  | [] => []
  | '|' :: rhs => statedSide rhs
  | content =>
    match ruleFront? content with
    | none => []
    | some (name, rhs) => .head (String.ofList name) :: statedSide rhs

/-- What a line states. -/
def statedLine (line : List Char) : List Statement :=
  statedContent (Text.trim (beforeComment none line))

/-- What a text states, line after line. -/
def stated (source : String) : List Statement :=
  (Text.lines source).flatMap fun line => statedLine line.toList

/-- The state after a statement made at a place has been taken up. -/
def Loading.take (loading : Loading) (made : Location × Statement) : Except GrammarError Loading :=
  match made.2 with
  | .head name =>
    match definedAs? loading.grammar name with
    | some nonterminal => .error ⟨.alreadyDefined name nonterminal.place.line, made.1⟩
    | none =>
      let (lhs, grammar) := loading.grammar.defineAt name made.1
      .ok ⟨grammar, some lhs⟩
  | .alternative symbols =>
    match loading.current with
    | none => .error ⟨.continuationOutsideRule, made.1⟩
    | some lhs =>
      (addAlternative made.1 lhs loading.grammar symbols).map fun grammar =>
        { loading with grammar }

/-- The state after statements made at one place have been taken up. -/
def Loading.takeAt (place : Location) (loading : Loading) (statements : List Statement) :
    Except GrammarError Loading :=
  (statements.map (place, ·)).foldlM Loading.take loading

/-- Statements are taken up one after the other. -/
theorem takeAt_cons (first : Statement) (rest : List Statement) :
    Loading.takeAt place loading (first :: rest) =
      loading.take (place, first) >>= fun next => Loading.takeAt place next rest := by
  rw [Loading.takeAt, List.map_cons, List.foldlM_cons]
  rfl

/-- A head defines its nonterminal, which must not have been defined before. -/
theorem take_head_eq_ok {name : String} (taken : loading.take (place, .head name) = .ok next) :
    definedAs? loading.grammar name = none ∧
      next = ⟨(loading.grammar.defineAt name place).2,
        some (loading.grammar.defineAt name place).1⟩ := by
  rw [Loading.take] at taken
  dsimp only at taken
  split at taken
  · simp at taken
  · rename_i fresh
    exact ⟨fresh, (Except.ok.inj taken).symm⟩

/-- An alternative goes to the rule that is being read. -/
theorem take_alternative_eq_ok {symbols : List WrittenSymbol}
    (taken : loading.take (place, .alternative symbols) = .ok next) :
    ∃ lhs, loading.current = some lhs ∧ next.current = some lhs ∧
      addAlternative place lhs loading.grammar symbols = .ok next.grammar := by
  rw [Loading.take] at taken
  dsimp only at taken
  split at taken
  · simp at taken
  · rename_i lhs current
    obtain ⟨grammar, added, rfl⟩ := map_eq_ok.1 taken
    exact ⟨lhs, current, current, added⟩

/-- Taking up alternatives is adding them one after the other. -/
theorem takeAt_alternatives (alternatives : List (List WrittenSymbol)) :
    Loading.takeAt place ⟨g, some lhs⟩ (alternatives.map .alternative) =
      (alternatives.foldlM (addAlternative place lhs) g).map fun grammar =>
        ⟨grammar, some lhs⟩ := by
  induction alternatives generalizing g with
  | nil => rfl
  | cons first rest ih =>
    rw [List.map_cons, takeAt_cons, List.foldlM_cons, Loading.take]
    cases added : addAlternative place lhs g first with
    | error _ => simp [added, Except.map, bind, Except.bind]
    | ok grammar =>
      have later := @ih grammar
      simpa [added, Except.map, bind, Except.bind] using later

/-- A right-hand side whose alternatives can be read is read by taking them up. -/
theorem readAlternatives_eq {rhs : List Char}
    (readable : Text.trim rhs = [] ∨ ∃ listed, alternatives rhs = .ok listed) :
    readAlternatives place ⟨g, some lhs⟩ lhs rhs =
      Loading.takeAt place ⟨g, some lhs⟩ (statedSide rhs) := by
  unfold readAlternatives statedSide
  by_cases empty : (Text.trim rhs).isEmpty = true
  · rw [if_pos empty, if_pos empty]
    rfl
  · rw [if_neg empty, if_neg empty]
    rcases readable with none | ⟨listed, read⟩
    · exact absurd (List.isEmpty_iff.2 none) empty
    · rw [read]
      exact (takeAt_alternatives listed).symm

/-- What has been read from a right-hand side was taken up. -/
theorem readAlternatives_eq_ok {rhs : List Char}
    (read : readAlternatives place ⟨g, some lhs⟩ lhs rhs = .ok next) :
    Loading.takeAt place ⟨g, some lhs⟩ (statedSide rhs) = .ok next := by
  rw [← readAlternatives_eq, read]
  by_cases empty : Text.trim rhs = []
  · exact Or.inl empty
  · right
    rw [readAlternatives, if_neg (by simpa using empty)] at read
    split at read
    · simp at read
    · rename_i listed found
      exact ⟨listed, found⟩

/-- The rule that a line starts is read by taking up its head, if that is new. -/
theorem takeAt_head (name : String) (rest : List Statement) :
    Loading.takeAt place loading (.head name :: rest) =
      match definedAs? loading.grammar name with
      | some nonterminal => .error ⟨.alreadyDefined name nonterminal.place.line, place⟩
      | none => Loading.takeAt place ⟨(loading.grammar.defineAt name place).2,
          some (loading.grammar.defineAt name place).1⟩ rest := by
  rw [takeAt_cons, Loading.take]
  cases fresh : definedAs? loading.grammar name <;> simp [fresh, bind, Except.bind]

/-- What has been read from a line was taken up. -/
theorem readContent_eq_ok {content : List Char}
    (read : readContent place loading content = .ok next) :
    Loading.takeAt place loading (statedContent content) = .ok next := by
  by_cases empty : content = []
  · subst empty
    exact read
  by_cases bar : ∃ rhs, content = '|' :: rhs
  · obtain ⟨rhs, rfl⟩ := bar
    obtain ⟨grammar, current⟩ := loading
    cases current with
    | none => cases read
    | some lhs => exact readAlternatives_eq_ok read
  · -- the line starts a rule, or it cannot be read
    have noBar : ∀ rhs, content = '|' :: rhs → False := fun rhs same => bar ⟨rhs, same⟩
    rewrite [readContent.eq_3 _ _ _ empty noBar] at read
    rewrite [statedContent.eq_3 _ empty noBar]
    cases front : ruleFront? content with
    | none =>
      rw [front] at read
      cases read
    | some found =>
      rw [front] at read
      dsimp only at read ⊢
      rewrite [takeAt_head]
      cases fresh : definedAs? loading.grammar (String.ofList found.1) with
      | some _ =>
        rw [fresh] at read
        cases read
      | none =>
        rw [fresh] at read
        exact readAlternatives_eq_ok read

/-- What has been read from numbered lines was taken up statement by statement, each at its place.
-/
theorem readLines_eq_ok {file : Option String} {lines : List String} {first : Nat}
    (read : (lines.zipIdx first).foldlM (readLine file) loading = .ok next) :
    ∃ made : List (Location × Statement),
      made.map Prod.snd = lines.flatMap (fun line => statedLine line.toList) ∧
        made.foldlM Loading.take loading = .ok next := by
  induction lines generalizing first loading with
  | nil => exact ⟨[], rfl, read⟩
  | cons line lines ih =>
    rw [List.zipIdx_cons, List.foldlM_cons, bind_eq_ok] at read
    obtain ⟨middle, here, rest⟩ := read
    obtain ⟨made, same, taken⟩ := ih rest
    have before : Loading.takeAt ⟨file, some first⟩ loading (statedLine line.toList) =
        .ok middle := readContent_eq_ok here
    refine ⟨(statedLine line.toList).map (⟨file, some first⟩, ·) ++ made, ?_, ?_⟩
    · rw [List.map_append, List.map_map, same, List.flatMap_cons]
      congr 1
      exact List.map_id _
    · rw [List.foldlM_append, bind_eq_ok]
      exact ⟨middle, before, taken⟩

/-- Statements keep what the operations on a grammar keep. -/
theorem Loading.kept_take {holds : Grammar → Prop} (kept : Grammar.Kept holds)
    {made : Location × Statement} (before : holds loading.grammar)
    (taken : loading.take made = .ok next) : holds next.grammar := by
  obtain ⟨place, head | alternative⟩ := made
  · obtain ⟨-, rfl⟩ := take_head_eq_ok taken
    exact kept.defineAt _ _ before
  · obtain ⟨lhs, -, -, added⟩ := take_alternative_eq_ok taken
    exact kept.addAlternative before added

end Notation

namespace Grammar

variable {g : Grammar}

/-- A text that can be read is read by taking up what it states, each statement at its place. -/
theorem ofSourceUnchecked_eq_ok {file : Option String} {source : String}
    (read : ofSourceUnchecked file source = .ok g) :
    ∃ (made : List (Location × Statement)) (current : Option NonterminalId),
      made.map Prod.snd = stated source ∧
        made.foldlM Loading.take Loading.start = .ok ⟨g, current⟩ := by
  obtain ⟨⟨grammar, current⟩, run, rfl⟩ := map_eq_ok.1 read
  obtain ⟨made, same, taken⟩ := readLines_eq_ok run
  exact ⟨made, current, same, taken⟩

/-- A grammar that has been read was read without the check, and then checked. -/
theorem ofSource_eq_ok_iff {file : Option String} {source : String} :
    ofSource file source = .ok g ↔ ofSourceUnchecked file source = .ok g ∧ g.check = .ok () := by
  unfold ofSource
  rw [bind_eq_ok]
  constructor
  · rintro ⟨unchecked, found, read⟩
    obtain ⟨_, checked, same⟩ := bind_eq_ok.1 read
    obtain rfl := Except.ok.inj same
    exact ⟨found, checked⟩
  · rintro ⟨found, checked⟩
    exact ⟨g, found, by rw [checked]; rfl⟩

/-- A grammar that has been read was built by entries. -/
theorem built_of_ofSourceUnchecked {file : Option String} {source : String}
    (read : ofSourceUnchecked file source = .ok g) : g.Built := by
  obtain ⟨made, current, -, taken⟩ := ofSourceUnchecked_eq_ok read
  have first : Loading.start.grammar.Built := ⟨[], rfl⟩
  exact foldlM_induction (fun loading => loading.grammar.Built)
    (fun before step => Loading.kept_take Built.kept before step) first taken

/-- A grammar that has been read was built by entries and checked. -/
theorem ofSource_eq_ok {file : Option String} {source : String}
    (read : ofSource file source = .ok g) : g.Built ∧ g.check = .ok () := by
  obtain ⟨unchecked, checked⟩ := ofSource_eq_ok_iff.1 read
  exact ⟨built_of_ofSourceUnchecked unchecked, checked⟩

end Grammar

end ChartParser
