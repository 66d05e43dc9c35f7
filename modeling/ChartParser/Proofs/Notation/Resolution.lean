import ChartParser.Proofs.Notation.Repetition

/-!
# What a text with repeated symbols is read as

Reading a text keeps repeated symbols in order from statement to statement (`Loading.Stable.run`),
and whatever it has entered stays. So every alternative of the text has its production in the
grammar that has been read, and every symbol of an alternative what it stands for: a repeated symbol
stands for the nonterminal that repeats it (`Grammar.ofSource_repeats`).
-/

namespace ChartParser

open Notation

namespace Grammar

variable {g h : Grammar}

/-! ## What alternatives are resolved to -/

variable {place : Location} {symbol : Symbol} {symbols : List Symbol} {written : WrittenSymbol}
  {alternative : List WrittenSymbol}

/-- The symbol is what the written symbol is resolved to: the symbol of that name, or the
nonterminal that repeats it. -/
def StandsFor (g : Grammar) (written : WrittenSymbol) (symbol : Symbol) : Prop :=
  match written.repetition with
  | none => g.Denotes written.name symbol
  | some repetition => ∃ whole, symbol = .nonterminal whole ∧
      g.symbolName? symbol = some (repeatedName written.name repetition)

/-- The symbols are those of the alternative, one by one. A `0` alone has none. -/
def Spelled (g : Grammar) (alternative : List WrittenSymbol) (symbols : List Symbol) : Prop :=
  if alternative = [⟨"0", none⟩] then symbols = []
  else List.Forall₂ g.StandsFor alternative symbols

/-- The grammar has a production for the alternative of a rule. -/
def Holds (g : Grammar) (head : String) (alternative : List WrittenSymbol) : Prop :=
  ∃ (rule : ProductionId) (production : Production), g.productions[rule]? = some production ∧
    g.symbolName? (.nonterminal production.lhs) = some head ∧
    g.Spelled alternative production.symbols

/-- Every written symbol of an alternative that is not empty stands for something. -/
theorem Spelled.exists_standsFor (spelled : g.Spelled alternative symbols)
    (nonempty : alternative ≠ [⟨"0", none⟩]) (inside : written ∈ alternative) :
    ∃ symbol, g.StandsFor written symbol := by
  rw [Spelled, if_neg nonempty] at spelled
  obtain ⟨symbol, -, stands⟩ := exists_of_forall₂ spelled.flip inside
  exact ⟨symbol, stands⟩

/-- What a written symbol is resolved to, it stands for later on. -/
theorem StandsFor.of_persists (stands : g.StandsFor written symbol) (persists : g.Persists h) :
    h.StandsFor written symbol := by
  unfold StandsFor at stands ⊢
  split at stands
  · exact stands.of_persists persists
  · obtain ⟨whole, isWhole, named⟩ := stands
    exact ⟨whole, isWhole, persists.symbolName? named⟩

/-- What an alternative is resolved to, it is resolved to later on. -/
theorem Spelled.of_persists (spelled : g.Spelled alternative symbols) (persists : g.Persists h) :
    h.Spelled alternative symbols := by
  unfold Spelled at spelled ⊢
  split at spelled
  · rename_i alone
    rw [if_pos alone]
    exact spelled
  · rename_i nonempty
    rw [if_neg nonempty]
    exact spelled.imp fun _ _ stands => stands.of_persists persists

/-- The production of an alternative is there later on. -/
theorem Holds.of_persists {head : String} (holds : g.Holds head alternative)
    (persists : g.Persists h) : h.Holds head alternative := by
  obtain ⟨rule, production, found, named, spelled⟩ := holds
  exact ⟨rule, production, persists.production found, persists.symbolName? named,
    spelled.of_persists persists⟩

/-- A written symbol is resolved to what it stands for. -/
theorem Repeating.resolveWritten (repeating : g.Repeating) (consistent : g.Consistent)
    (proper : IsWritten written.name.toList)
    (resolved : Notation.resolveWritten place g written = .ok (symbol, h)) :
    h.Repeating ∧ h.StandsFor written symbol := by
  unfold StandsFor
  rcases resolveWritten_eq_ok resolved with ⟨plain, entered⟩ | ⟨repetition, whole, isRepeated,
    entered, rfl⟩
  · rw [plain]
    obtain ⟨named, kind⟩ := consistent.symbolName?_symbol entered
    exact ⟨repeating.symbol proper entered, named, kind⟩
  · rw [isRepeated]
    obtain ⟨later, named⟩ := repeating.repeated consistent proper entered
    exact ⟨later, whole, rfl, named⟩

/-- Written symbols are resolved to what they stand for. -/
theorem Repeating.resolveAll (repeating : g.Repeating) (consistent : g.Consistent)
    (proper : ∀ written ∈ alternative, IsWritten written.name.toList)
    (resolved : Notation.resolveAll place g alternative = .ok (symbols, h)) :
    h.Repeating ∧ List.Forall₂ h.StandsFor alternative symbols := by
  induction alternative generalizing g symbols with
  | nil =>
    obtain ⟨rfl, rfl⟩ := Prod.mk.inj (Except.ok.inj resolved)
    exact ⟨repeating, .nil⟩
  | cons first rest ih =>
    obtain ⟨symbol, middle, others, entered, later, rfl⟩ := resolveAll_cons_eq_ok resolved
    obtain ⟨properFirst, properRest⟩ := List.forall_mem_cons.1 proper
    obtain ⟨between, stands⟩ := repeating.resolveWritten consistent properFirst entered
    have consistentToo := Consistent.invariant.resolveWritten consistent entered
    obtain ⟨after, others⟩ := ih between consistentToo properRest later
    have persists := (Persists.kept middle).resolveAll (.refl middle) later
    exact ⟨after, .cons (stands.of_persists persists) others⟩

/-- An alternative is resolved to its symbols. -/
theorem Repeating.resolveAlternative (repeating : g.Repeating) (consistent : g.Consistent)
    (proper : ∀ written ∈ alternative, IsWritten written.name.toList)
    (resolved : Notation.resolveAlternative place g alternative = .ok (symbols, h)) :
    h.Repeating ∧ h.Spelled alternative symbols := by
  unfold Notation.resolveAlternative at resolved
  unfold Spelled
  split at resolved
  · rename_i alone
    rw [if_pos alone]
    obtain ⟨rfl, rfl⟩ := Prod.mk.inj (Except.ok.inj resolved)
    exact ⟨repeating, rfl⟩
  · rename_i nonempty
    rw [if_neg nonempty]
    exact repeating.resolveAll consistent proper resolved

end Grammar

/-! ## Taking up the statements of a text -/

namespace Notation

/-- The name of the rule that is being read. -/
def Loading.currentName? (loading : Loading) : Option String :=
  loading.current.bind fun lhs => loading.grammar.symbolName? (.nonterminal lhs)

/-- The head that a statement is. -/
def Statement.head? : Statement → Option String
  | .head name => some name
  | .alternative _ => none

/-- The alternatives that are stated, each with the head of its rule. -/
def rulesUnder (head : Option String) : List Statement → List (String × List WrittenSymbol)
  | [] => []
  | .head name :: rest => rulesUnder (some name) rest
  | .alternative symbols :: rest => (head.map (·, symbols)).toList ++ rulesUnder head rest

/-- The heads of a text, from the first on. -/
def statedHeads (source : String) : List String := (stated source).filterMap Statement.head?

/-- The alternatives of a text, each with the head of its rule. -/
def statedRules (source : String) : List (String × List WrittenSymbol) :=
  rulesUnder none (stated source)

/-- What holds before and after every statement: repeated symbols are in order, and the rule that is
being read has a name of the notation. -/
structure Loading.Stable (loading : Loading) : Prop where
  built : loading.grammar.Built
  repeating : loading.grammar.Repeating
  current : ∀ {lhs}, loading.current = some lhs → ∃ name,
    loading.grammar.symbolName? (.nonterminal lhs) = some name ∧ IsWritten name.toList
  rooted : loading.current.isSome → loading.grammar.rootName?.isSome

namespace Loading.Stable

variable {loading next last : Loading} {place : Location}

/-- The state before the first line. -/
theorem start : Loading.start.Stable where
  built := ⟨[], rfl⟩
  repeating _ _ _ named := by simp [Loading.start, Grammar.symbolName?, Grammar.empty] at named
  current none := by simp [Loading.start] at none
  rooted none := by simp [Loading.start] at none

/-- A head leaves what is there, and is the root if it is the first. -/
theorem head (stable : loading.Stable) {name : String} (proper : IsHead name.toList)
    (taken : loading.take (place, .head name) = .ok next) :
    next.Stable ∧ loading.grammar.Persists next.grammar ∧ next.currentName? = some name ∧
      next.grammar.rootName? = loading.grammar.rootName?.or (some name) := by
  obtain ⟨-, rfl⟩ := take_head_eq_ok taken
  have known : loading.grammar.RootKnown := Grammar.RootKnown.maintained.of_built stable.built
  have consistent := stable.built.consistent
  have named := consistent.symbolName?_defineAt name place
  have root := known.rootName?_defineAt consistent name place
  refine ⟨⟨Grammar.Built.kept.defineAt name place stable.built,
    stable.repeating.defineAt proper.isWritten place, fun isCurrent => ?_, fun _ => ?_⟩,
    .defineAt loading.grammar name place, named, root⟩
  · obtain rfl := Option.some.inj isCurrent
    exact ⟨name, named, proper.isWritten⟩
  · show ((loading.grammar.defineAt name place).2.rootName?).isSome = true
    rw [root]
    cases loading.grammar.rootName? <;> rfl

/-- An alternative leaves what is there, and is there itself afterwards. -/
theorem alternative (stable : loading.Stable) {symbols : List WrittenSymbol}
    (proper : ∀ written ∈ symbols, IsWritten written.name.toList)
    (taken : loading.take (place, .alternative symbols) = .ok next) :
    next.Stable ∧ loading.grammar.Persists next.grammar ∧
      next.grammar.rootName? = loading.grammar.rootName? ∧
      ∃ head, loading.currentName? = some head ∧ next.currentName? = some head ∧
        next.grammar.Holds head symbols := by
  obtain ⟨lhs, current, currentToo, added⟩ := take_alternative_eq_ok taken
  obtain ⟨name, named, written⟩ := stable.current current
  have persists := (Grammar.Persists.kept loading.grammar).addAlternative (.refl _) added
  have built := Grammar.Built.kept.addAlternative stable.built added
  have root : next.grammar.rootName? = loading.grammar.rootName? := by
    obtain ⟨rootName, isRoot⟩ := Option.isSome_iff_exists.1
      (stable.rooted (by rw [current]; rfl))
    rw [isRoot]
    exact persists.rootName? isRoot
  obtain ⟨resolvedSymbols, middle, rule, resolved, produced⟩ := addAlternative_eq_ok.1 added
  have consistent := stable.built.consistent
  obtain ⟨repeating, spelled⟩ := stable.repeating.resolveAlternative consistent proper resolved
  have middleConsistent := Grammar.Consistent.invariant.resolveAlternative consistent resolved
  have namedMiddle : middle.symbolName? (.nonterminal lhs) = some name :=
    ((Grammar.Persists.kept loading.grammar).resolveAlternative (.refl _) resolved).symbolName?
      named
  have namedToo := persists.symbolName? named
  have after := repeating.addProduction middleConsistent produced namedMiddle written
  refine ⟨⟨built, after, fun isCurrent => ?_, fun _ => ?_⟩, persists, root, name, ?_, ?_, ?_⟩
  · rw [currentToo, Option.some.injEq] at isCurrent
    exact ⟨name, isCurrent ▸ namedToo, written⟩
  · rw [root]
    exact stable.rooted (by rw [current]; rfl)
  · rw [Loading.currentName?, current, Option.bind_some, named]
  · rw [Loading.currentName?, currentToo, Option.bind_some, namedToo]
  · exact ⟨rule, ⟨rule, lhs, resolvedSymbols⟩, middleConsistent.productions_addProduction produced,
      namedToo, spelled.of_persists (.addProduction produced)⟩

/-- After all statements, repeated symbols are in order, the root is the first head, and every
alternative is there. -/
theorem run {made : List (Location × Statement)} (stable : loading.Stable)
    (proper : ∀ statement ∈ made.map Prod.snd, statement.Proper)
    (taken : made.foldlM Loading.take loading = .ok last) :
    last.Stable ∧ loading.grammar.Persists last.grammar ∧
      last.grammar.rootName? =
        loading.grammar.rootName?.or ((made.map Prod.snd).findSome? Statement.head?) ∧
      ∀ rule ∈ rulesUnder loading.currentName? (made.map Prod.snd),
        last.grammar.Holds rule.1 rule.2 := by
  induction made generalizing loading with
  | nil =>
    obtain rfl := Except.ok.inj taken
    exact ⟨stable, .refl _, Option.or_none.symm, by simp [rulesUnder]⟩
  | cons first rest ih =>
    rw [List.foldlM_cons, bind_eq_ok] at taken
    obtain ⟨next, here, later⟩ := taken
    rw [List.map_cons, List.forall_mem_cons] at proper
    obtain ⟨properFirst, properRest⟩ := proper
    obtain ⟨place, name | symbols⟩ := first
    -- what the first statement has entered persists while the others are taken up
    · obtain ⟨stableNext, persists, current, root⟩ := stable.head properFirst here
      obtain ⟨stableLast, persistsToo, rootToo, holds⟩ := ih stableNext properRest later
      refine ⟨stableLast, persists.trans persistsToo, ?_, ?_⟩
      · rw [rootToo, root, Option.or_assoc]
        rfl
      · rw [current] at holds
        exact holds
    · obtain ⟨stableNext, persists, root, name, current, currentToo, held⟩ :=
        stable.alternative (fun written inside => (properFirst.2 written inside).1) here
      obtain ⟨stableLast, persistsToo, rootToo, holds⟩ := ih stableNext properRest later
      refine ⟨stableLast, persists.trans persistsToo, ?_, ?_⟩
      · rw [rootToo, root]
        rfl
      · rw [currentToo] at holds
        rw [current, List.map_cons]
        exact List.forall_mem_cons.2 ⟨held.of_persists persistsToo, holds⟩

end Loading.Stable

end Notation

namespace Grammar

variable {g : Grammar} {file : Option String} {source : String}

/-- In a grammar that has been read from a text, every alternative of the text has its production. A
repeated symbol stands there for the nonterminal whose name is that of the symbol with the sign of
repetition behind it, the same one wherever it is repeated in this way. This nonterminal has two
productions, and it derives the words of the symbol, repeated as the sign says. The root is the head
of the first rule. -/
theorem ofSource_repeats (read : ofSource file source = .ok g) :
    (∀ rule ∈ statedRules source, g.Holds rule.1 rule.2) ∧
      (∀ rule ∈ statedRules source, ∀ name repetition, ⟨name, some repetition⟩ ∈ rule.2 →
        ∃ whole base, g.findNonterminal? (repeatedName name repetition) = some whole ∧
          g.Repeats name repetition whole base ∧
          g.language [.nonterminal whole] = repetition.language (g.language [base])) ∧
      g.rootName? = (statedHeads source).head? := by
  obtain ⟨unchecked, -⟩ := ofSource_eq_ok_iff.1 read
  obtain ⟨made, current, same, taken⟩ := ofSourceUnchecked_eq_ok unchecked
  have proper : ∀ statement ∈ made.map Prod.snd, statement.Proper := by
    rw [same]
    exact fun statement inside => proper_of_mem_stated inside
  obtain ⟨stable, -, root, holds⟩ := Loading.Stable.start.run proper taken
  rw [same] at root holds
  have consistent := stable.built.consistent
  refine ⟨holds, fun rule listed name repetition inside => ?_, ?_⟩
  · obtain ⟨id, production, -, -, spelled⟩ := holds rule listed
    have nonempty : rule.2 ≠ [⟨"0", none⟩] := by
      intro alone
      rw [alone, List.mem_singleton] at inside
      cases inside
    obtain ⟨symbol, whole, rfl, named⟩ := spelled.exists_standsFor nonempty inside
    obtain ⟨base, repeats⟩ := stable.repeating name repetition whole named
    exact ⟨whole, base, consistent.findNonterminal?_eq_some.2 named, repeats,
      repeats.language_eq consistent⟩
  · rw [root, statedHeads, List.head?_filterMap]
    rfl

/-- A literal that may be missing or repeated, in rules that come before and after what they
mention. -/
def repeatingSource : String := "S -> A+ 'b'* |\tA? # both\nA -> 'a' 'b'*\n"

/-- A repeated literal derives any number of words of the literal, wherever it is repeated. -/
theorem ofSource_repeatingSource_repeats : ∃ g, ofSource none repeatingSource = .ok g ∧
    g.rootName? = some "S" ∧
    g.Holds "S" [⟨"A", some .atLeastOnce⟩, ⟨"'b'", some .anyNumber⟩] ∧
    g.Holds "A" [⟨"'a'", none⟩, ⟨"'b'", some .anyNumber⟩] ∧
    ∃ whole base, g.findNonterminal? "'b'*" = some whole ∧
      g.Repeats "'b'" .anyNumber whole base ∧
      g.language [.nonterminal whole] = Repetition.anyNumber.language (g.language [base]) := by
  obtain ⟨g, read⟩ := exists_eq_ok
    (show (ofSource none repeatingSource).isOk = true by decide +kernel)
  obtain ⟨holds, repeats, root⟩ := ofSource_repeats read
  have heads : statedHeads repeatingSource = ["S", "A"] := by decide +kernel
  have rules : statedRules repeatingSource =
      [("S", [⟨"A", some .atLeastOnce⟩, ⟨"'b'", some .anyNumber⟩]),
        ("S", [⟨"A", some .atMostOnce⟩]),
        ("A", [⟨"'a'", none⟩, ⟨"'b'", some .anyNumber⟩])] := by decide +kernel
  rw [heads] at root
  rw [rules] at holds repeats
  obtain ⟨whole, base, found, rest⟩ := repeats
    ("A", [⟨"'a'", none⟩, ⟨"'b'", some .anyNumber⟩]) (by simp) "'b'" .anyNumber (by simp)
  exact ⟨g, read, root, holds ("S", _) (by simp), holds ("A", _) (by simp), whole, base, found,
    rest⟩

end Grammar

end ChartParser
