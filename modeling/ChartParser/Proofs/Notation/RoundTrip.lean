import ChartParser.Proofs.Notation.Rendering
import ChartParser.Proofs.Notation.Statements

/-!
# Printing a grammar that has been read

Reading a text without repeated symbols enters only names of the notation, each in one line, and
gives productions to heads only. So the grammar can be printed as a text of the notation again. This
text has the rules in the order in which their nonterminals were entered, not in that of the first
text, and yet it is read as a grammar with the same root and the same right-hand sides
(`Grammar.ofSource_render`).
-/

namespace ChartParser

open Notation

namespace Notation

/-- No symbol of the statement is repeated. -/
def Statement.Unrepeated : Statement → Prop
  | .head _ => True
  | .alternative symbols => ∀ symbol ∈ symbols, symbol.repetition = none

instance : DecidablePred Statement.Unrepeated
  | .head _ => inferInstanceAs (Decidable True)
  | .alternative symbols => inferInstanceAs (Decidable (∀ symbol ∈ symbols, _ = none))

/-- No symbol of the text is repeated. -/
def Unrepeated (source : String) : Prop := ∀ statement ∈ stated source, statement.Unrepeated

instance (source : String) : Decidable (Unrepeated source) :=
  inferInstanceAs (Decidable (∀ statement ∈ stated source, statement.Unrepeated))

variable {g h : Grammar} {place : Location} {name : String} {lhs : NonterminalId}

/-! ## Alternatives without repetitions -/

/-- Written symbols that are not repeated are resolved by entering their names. -/
theorem symbols_of_resolveAll {written : List WrittenSymbol} {symbols : List Symbol}
    (plain : ∀ symbol ∈ written, symbol.repetition = none)
    (resolved : resolveAll place g written = .ok (symbols, h)) :
    g.symbols (written.map (·.name)) = (.ok symbols, h) ∧
      ∀ symbol ∈ written, symbol.name ≠ "0" := by
  induction written generalizing g symbols with
  | nil =>
    obtain ⟨rfl, rfl⟩ := Prod.mk.inj (Except.ok.inj resolved)
    exact ⟨rfl, by simp⟩
  | cons first rest ih =>
    obtain ⟨plainFirst, plainRest⟩ := List.forall_mem_cons.1 plain
    obtain ⟨symbol, middle, others, entered, later, rfl⟩ := resolveAll_cons_eq_ok resolved
    obtain ⟨rests, proper⟩ := ih plainRest later
    have nonzero : first.name ≠ "0" := by
      intro zero
      rw [resolveWritten, if_pos zero] at entered
      cases entered
    refine ⟨?_, List.forall_mem_cons.2 ⟨nonzero, proper⟩⟩
    rcases resolveWritten_eq_ok entered with ⟨-, read⟩ | ⟨_, _, repeats, -, -⟩
    · rw [List.map_cons, Grammar.symbols, read]
      dsimp only
      rw [rests]
    · rw [plainFirst] at repeats
      cases repeats

/-- An alternative without repetitions is resolved by entering names that are not `0`. -/
theorem symbols_of_resolveAlternative {alternative : List WrittenSymbol} {symbols : List Symbol}
    (plain : ∀ symbol ∈ alternative, symbol.repetition = none)
    (resolved : resolveAlternative place g alternative = .ok (symbols, h)) :
    ∃ names, g.symbols names = (.ok symbols, h) ∧
      ∀ name ∈ names, name ≠ "0" ∧ ∃ symbol ∈ alternative, symbol.name = name := by
  unfold resolveAlternative at resolved
  split at resolved
  · obtain ⟨rfl, rfl⟩ := Prod.mk.inj (Except.ok.inj resolved)
    exact ⟨[], rfl, by simp⟩
  · obtain ⟨entered, proper⟩ := symbols_of_resolveAll plain resolved
    refine ⟨_, entered, fun name inside => ?_⟩
    obtain ⟨symbol, among, rfl⟩ := List.mem_map.1 inside
    exact ⟨proper symbol among, symbol, among, rfl⟩

/-! ## What is kept from statement to statement -/

/-- The nonterminal has the name of a head. -/
def HeadNamed (g : Grammar) (id : NonterminalId) : Prop :=
  ∃ name, g.symbolName? (.nonterminal id) = some name ∧ IsHead name.toList

/-- A head is a name in one line. -/
theorem IsHead.inLine (head : IsHead name.toList) : InLine name where
  symbol := by
    refine ⟨head.isWritten, ?_⟩
    rintro rfl
    have first := head.first
    revert first
    decide +kernel
  whole := head.whole

/-- What holds before and after every statement without repetitions: all names are of the notation,
only heads have productions, and the first nonterminal is the root. -/
structure Loading.Plain (loading : Loading) : Prop where
  each : loading.grammar.EachNamed fun symbol name =>
    InLine name ∧ symbol.nonterminal?.isSome = startsUppercase name
  heads : ∀ {rule : ProductionId} {production : Production},
    loading.grammar.productions[rule]? = some production →
      HeadNamed loading.grammar production.lhs
  current : ∀ {lhs : NonterminalId}, loading.current = some lhs → HeadNamed loading.grammar lhs
  first : loading.grammar.root? = some 0 ∨ loading = Loading.start

/-- A nonterminal that has the name of a head keeps it. -/
theorem HeadNamed.of_persists (named : HeadNamed g lhs) (persists : g.Persists h) :
    HeadNamed h lhs :=
  named.imp fun _ named => ⟨persists.symbolName? named.1, named.2⟩

namespace Loading.Plain

variable {loading next last : Loading}

/-- The state before the first line. -/
theorem start : Loading.start.Plain where
  each symbol name named := by
    cases symbol <;> simp [Loading.start, Grammar.symbolName?, Grammar.empty] at named
  heads found := by simp [Loading.start, Grammar.empty] at found
  current none := by simp [Loading.start] at none
  first := Or.inr rfl

/-- A head that is defined has the name of a head. -/
theorem head (plain : loading.Plain) (consistent : loading.grammar.Consistent)
    (proper : IsHead name.toList)
    (taken : loading.take (place, .head name) = .ok next) : next.Plain := by
  obtain ⟨-, rfl⟩ := take_head_eq_ok taken
  have persists := Grammar.Persists.defineAt loading.grammar name place
  have productions : (loading.grammar.defineAt name place).2.productions =
      loading.grammar.productions := Grammar.productions_nonterminalId loading.grammar name
  exact {
    each := plain.each.defineAt (fun _ => ⟨proper.inLine, proper.isUppercase.symm⟩) place
    heads := fun {rule production} found => by
      rw [productions] at found
      exact (plain.heads found).of_persists persists
    current := fun isCurrent => by
      obtain rfl := Option.some.inj isCurrent
      exact ⟨name, consistent.symbolName?_defineAt name place, proper⟩
    first := by
      left
      rw [Grammar.root?_defineAt]
      rcases plain.first with root | rfl
      · rw [root]
        rfl
      -- the first head is entered into the empty grammar
      · have missed : Grammar.empty.findNonterminal? name = none := by
          simp [Grammar.findNonterminal?, Grammar.empty]
        show some (Grammar.empty.nonterminalId name).1 = some 0
        rw [Grammar.nonterminalId, missed]
        rfl }

/-- An alternative enters names that are written in one line, and gives its production to a head. -/
theorem alternative (plain : loading.Plain) {symbols : List WrittenSymbol}
    (proper : (Statement.alternative symbols).Proper)
    (unrepeated : ∀ symbol ∈ symbols, symbol.repetition = none)
    (taken : loading.take (place, .alternative symbols) = .ok next) : next.Plain := by
  obtain ⟨lhs, current, currentToo, added⟩ := take_alternative_eq_ok taken
  have persists := (Grammar.Persists.kept loading.grammar).addAlternative (.refl _) added
  have headNamed := plain.current current
  obtain ⟨resolvedSymbols, middle, rule, resolved, produced⟩ := addAlternative_eq_ok.1 added
  obtain ⟨names, entered, written⟩ := symbols_of_resolveAlternative unrepeated resolved
  have inLine : ∀ name ∈ names, InLine name := by
    intro name inside
    obtain ⟨nonzero, symbol, among, rfl⟩ := written name inside
    obtain ⟨isWritten, whole⟩ := proper.2 symbol among
    exact ⟨⟨isWritten, nonzero⟩, whole⟩
  have old : ∀ {rule : ProductionId} {production : Production},
      middle.productions[rule]? = some production → HeadNamed next.grammar production.lhs := by
    intro rule production found
    rw [Grammar.productions_symbols entered] at found
    exact (plain.heads found).of_persists persists
  refine ⟨?_, fun {other production} found => ?_, fun isCurrent => ?_, Or.inl ?_⟩
  · have eachMiddle := plain.each.symbols entered fun name inside symbol kind =>
      ⟨inLine name inside, kind⟩
    exact eachMiddle.addProduction produced
  · obtain ⟨-, -, ⟨-, -, same⟩ | ⟨-, -, same⟩⟩ := Grammar.addProduction_eq_ok produced
    · rw [same] at found
      exact old found
    · rw [same] at found
      rcases Grammar.found_withProduction found with before | ⟨-, rfl⟩
      · exact old before
      · exact headNamed.of_persists persists
  · rw [currentToo, Option.some.injEq] at isCurrent
    exact isCurrent ▸ headNamed.of_persists persists
  · rcases plain.first with root | rfl
    · exact persists.root root
    · simp [Loading.start] at current

/-- Statements without repetitions are taken up one after the other. -/
theorem run {made : List (Location × Statement)} (plain : loading.Plain)
    (consistent : loading.grammar.Consistent)
    (proper : ∀ statement ∈ made.map Prod.snd, statement.Proper ∧ statement.Unrepeated)
    (taken : made.foldlM Loading.take loading = .ok last) : last.Plain := by
  induction made generalizing loading with
  | nil =>
    obtain rfl := Except.ok.inj taken
    exact plain
  | cons first rest ih =>
    rw [List.foldlM_cons, bind_eq_ok] at taken
    obtain ⟨next, here, later⟩ := taken
    rw [List.map_cons, List.forall_mem_cons] at proper
    obtain ⟨⟨properFirst, unrepeated⟩, properRest⟩ := proper
    refine ih ?_ (Loading.kept_take Grammar.Consistent.invariant.toKept consistent here)
      properRest later
    obtain ⟨place, name | symbols⟩ := first
    · exact plain.head consistent properFirst here
    · exact plain.alternative properFirst unrepeated here

end Loading.Plain

end Notation

/-! ## Grammars that have been read -/

namespace Grammar

variable {g : Grammar} {file : Option String} {source : String}

/-- What is known of a grammar that has been read from a text without repetitions. -/
theorem plain_of_ofSource (read : ofSource file source = .ok g) (unrepeated : Unrepeated source) :
    ∃ current, (⟨g, current⟩ : Loading).Plain := by
  obtain ⟨unchecked, -⟩ := ofSource_eq_ok_iff.1 read
  obtain ⟨made, current, same, taken⟩ := ofSourceUnchecked_eq_ok unchecked
  refine ⟨current, Loading.Plain.start.run .empty ?_ taken⟩
  rw [same]
  exact fun statement inside => ⟨proper_of_mem_stated inside, unrepeated statement inside⟩

variable {current : Option NonterminalId}

/-- Every symbol on a right-hand side has a name in one line, which tells its kind. -/
theorem inLine_of_plain (plain : (⟨g, current⟩ : Loading).Plain) (consistent : g.Consistent)
    {production : Production} (inside : production ∈ g.productions.toList) {symbol : Symbol}
    (mentioned : symbol ∈ production.symbols) :
    InLine (g.nameOf symbol) ∧ symbol.nonterminal?.isSome = startsUppercase (g.nameOf symbol) := by
  obtain ⟨rule, found⟩ := exists_getElem?_of_mem inside
  exact plain.each _ _ (symbolName?_eq_some (consistent.known found symbol mentioned))

/-- A checked grammar that has been read from a text without repetitions can be printed. -/
theorem printable_of_plain (plain : (⟨g, current⟩ : Loading).Plain) (consistent : g.Consistent)
    (checked : g.check = .ok ()) : g.Printable where
  heads name listed := by
    obtain ⟨names, among⟩ := consistent.exists_plain checked listed
    obtain ⟨production, inside, same⟩ := List.mem_map.1 among
    obtain ⟨rfl, -⟩ := Prod.mk.inj same
    obtain ⟨rule, found⟩ := exists_getElem?_of_mem inside
    obtain ⟨name, named, head⟩ := plain.heads found
    change g.symbolName? _ = _ at named
    rwa [nameOf, named]
  sides rule among name inside := by
    obtain ⟨production, present, rfl⟩ := List.mem_map.1 among
    obtain ⟨symbol, mentioned, rfl⟩ := List.mem_map.1 inside
    exact (inLine_of_plain plain consistent present mentioned).1

/-- The names on right-hand sides can be entered into any grammar. -/
theorem isEnterable_of_plain (plain : (⟨g, current⟩ : Loading).Plain) (built : g.Built) :
    ∀ rule ∈ g.plainProductions, ∀ name ∈ rule.2, IsEnterable name := by
  intro rule among name inside
  obtain ⟨production, present, rfl⟩ := List.mem_map.1 among
  obtain ⟨symbol, mentioned, rfl⟩ := List.mem_map.1 inside
  obtain ⟨inLine, kind⟩ := inLine_of_plain plain built.consistent present mentioned
  refine ⟨inLine.symbol.written.ne_nil, ?_⟩
  cases symbol with
  | nonterminal _ => exact Or.inl kind.symm
  | terminal id =>
    right
    obtain ⟨id', found⟩ := exists_getElem?_of_mem present
    have named := symbolName?_eq_some (built.consistent.known found _ mentioned)
    obtain ⟨terminal, entry, same⟩ := Option.map_eq_some_iff.1 named
    exact ⟨terminal, same ▸ Described.invariant.of_built built id terminal entry⟩

/-- Printing a grammar and reading it again changes nothing: if a text without repeated symbols can
be read, then the text that its grammar is printed as can be read, too, and the grammar read from it
has the same root, the same nonterminals, and the same right-hand sides in the same order, all by
name. -/
theorem ofSource_render (read : ofSource file source = .ok g) (unrepeated : Unrepeated source)
    (again : Option String) : ∃ h, ofSource again g.render = .ok h ∧ h.rootName? = g.rootName? ∧
      ∀ name, h.sidesOf? name = g.sidesOf? name := by
  obtain ⟨built, checked⟩ := ofSource_eq_ok read
  have consistent := built.consistent
  obtain ⟨current, plain⟩ := plain_of_ofSource read unrepeated
  have printable := printable_of_plain plain consistent checked
  have first : g.root? = some 0 := by
    refine plain.first.resolve_right fun start => ?_
    obtain ⟨rfl, -⟩ := Loading.mk.inj start
    obtain ⟨root, known⟩ := exists_root_of_check checked
    cases known
  have kinds : g.KindsFollow startsUppercase := fun production inside symbol mentioned =>
    (inLine_of_plain plain consistent inside mentioned).2
  obtain ⟨made, isMade, passes, root, sides⟩ :=
    built.exists_relisted checked first kinds (isEnterable_of_plain plain built)
  have distinct : (g.listedRules.map Prod.fst).Nodup := by
    rw [g.map_fst_listedRules]
    exact consistent.nodup_nonterminalNames
  obtain ⟨h, readAgain, rfl⟩ := ofSource_of_ofRules (printable.laysOut_render built checked)
    (printable.isRule built checked) distinct isMade passes again
  refine ⟨h, readAgain, ?_, fun name => ?_⟩
  · rw [← root, rootName?_withoutPlaces]
  · rw [← sides name, sidesOf?_withoutPlaces]

/-- Rules of which the last is for the nonterminal that is mentioned first, with marks of the
notation in literals. -/
def reorderedSource : String :=
  "S -> B '# |' | 0 # two\n | A\nA -> \"->\" B\nB->'x' 'y'\n"

/-- The rules are printed in another order and read again. -/
theorem ofSource_render_reorderedSource : ∃ g h, ofSource none reorderedSource = .ok g ∧
    g.nonterminalNames = ["S", "B", "A"] ∧ ofSource none g.render = .ok h ∧
    h.rootName? = some "S" ∧ h.sidesOf? "S" = some [["B", "'# |'"], [], ["A"]] ∧
    h.sidesOf? "A" = some [["\"->\"", "B"]] := by
  obtain ⟨g, read⟩ := exists_eq_ok
    (show (ofSource none reorderedSource).isOk = true by decide +kernel)
  have facts : (ofSource none reorderedSource).toOption.any (fun g =>
      g.nonterminalNames = ["S", "B", "A"] ∧ g.rootName? = some "S" ∧
        g.sidesOf? "S" = some [["B", "'# |'"], [], ["A"]] ∧
        g.sidesOf? "A" = some [["\"->\"", "B"]]) = true := by decide +kernel
  rw [read] at facts
  obtain ⟨names, root, sidesS, sidesA⟩ := of_decide_eq_true facts
  obtain ⟨h, again, sameRoot, sides⟩ := ofSource_render read (by decide +kernel) none
  exact ⟨g, h, read, names, again, sameRoot.trans root, (sides "S").trans sidesS,
    (sides "A").trans sidesA⟩

end Grammar

end ChartParser
