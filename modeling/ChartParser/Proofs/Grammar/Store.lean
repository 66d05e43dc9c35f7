import ChartParser.Proofs.Grammar.Growth
import ChartParser.Proofs.Grammar.Names
import ChartParser.Proofs.Grammar.References

/-!
# The tables of a grammar stay in step

A grammar is a store of several tables: nonterminals and terminals, an index for each, the
productions, and for each nonterminal the list of its own. Operations on them succeed and fail in
any order. Whatever their order, the tables agree with each other at every moment
(`Grammar.InStep`), an operation answers with the id under which its subject is found
(`Grammar.AnswersWell`), nothing that has been entered changes later, and the root is the
nonterminal that was defined first (`Grammar.ofEntries_inStep`).
-/

namespace ChartParser

/-- The nonterminal that an entry defines, if it defines one. -/
def Entry.defined? : Entry → Option String
  | .definition name _ => some name
  | .rule lhs _ => some lhs
  | _ => none

namespace Grammar

variable {g h : Grammar} {id : Nat}

/-! ## Lists of productions -/

/-- Whether the production has that left-hand side. -/
def isRuleOf (g : Grammar) (lhs : NonterminalId) (rule : ProductionId) : Bool :=
  g.productions[rule]?.any (·.lhs == lhs)

/-- The ids of the productions with that left-hand side, in increasing order. -/
def rulesWith (g : Grammar) (lhs : NonterminalId) : List ProductionId :=
  (List.range g.productions.size).filter (g.isRuleOf lhs)

/-- Every nonterminal lists exactly its own productions, in increasing order. -/
def Listed (g : Grammar) : Prop := ∀ id, g.productionsOf id = g.rulesWith id

/-- Lists that are the same for the same productions are in order as well. -/
theorem Listed.congr (listed : g.Listed) (productions : h.productions = g.productions)
    (lists : ∀ id, h.productionsOf id = g.productionsOf id) : h.Listed := by
  intro id
  rw [lists, listed id]
  unfold rulesWith isRuleOf
  rw [productions]

/-- The productions with a left-hand side once another one has been added. -/
theorem rulesWith_withProduction (g : Grammar) (lhs other : NonterminalId)
    (symbols : List Symbol) :
    (g.withProduction lhs symbols).rulesWith other =
      g.rulesWith other ++ if lhs = other then [g.productions.size] else [] := by
  let next := g.withProduction lhs symbols
  have before : ∀ rule ∈ List.range g.productions.size,
      next.isRuleOf other rule = g.isRuleOf other rule := by
    intro rule inside
    show (g.productions.push ⟨g.productions.size, lhs, symbols⟩)[rule]?.any _ = _
    rw [Array.getElem?_push, if_neg (Nat.ne_of_lt (List.mem_range.1 inside))]
    rfl
  have last : next.isRuleOf other g.productions.size = (lhs == other) := by
    show (g.productions.push ⟨g.productions.size, lhs, symbols⟩)[g.productions.size]?.any _ = _
    rw [Array.getElem?_push, if_pos rfl]
    rfl
  have size : next.productions.size = g.productions.size + 1 := Array.size_push _
  show (List.range next.productions.size).filter (next.isRuleOf other) = _
  rw [size, List.range_succ, List.filter_append, List.filter_congr before, List.filter_singleton,
    last]
  by_cases same : lhs = other
  · simp [same, rulesWith]
  · simp [same, rulesWith, beq_eq_false_iff_ne.2 same]

/-- That lists of productions are in order is maintained. -/
theorem Listed.maintained : Maintained Listed where
  start := by
    intro id
    simp [productionsOf, rulesWith, empty]
  nonterminalId {g} name _ listed :=
    listed.congr (productions_nonterminalId g name) (productionsOf_nonterminalId g name)
  defineAt {g} name place _ listed :=
    listed.congr (productions_nonterminalId g name) (productionsOf_defineAt g name place)
  terminalId entered _ listed := by
    rcases terminalId_eq_ok entered with ⟨-, rfl⟩ | ⟨_, -, -, -, rfl⟩
    · exact listed
    · exact listed.congr rfl fun _ => rfl
  addProduction {g h lhs symbols rule} added consistent listed := by
    obtain ⟨inside, -, ⟨-, -, rfl⟩ | ⟨-, -, rfl⟩⟩ := addProduction_eq_ok added
    · exact listed
    · intro id
      rw [consistent.productionsOf_withProduction inside, rulesWith_withProduction, listed id]

/-! ## Empty productions -/

/-- No nonterminal has two empty productions. -/
def OnceEmpty (g : Grammar) : Prop :=
  ∀ {left right : ProductionId} {first second : Production}, g.productions[left]? = some first →
    g.productions[right]? = some second → first.lhs = second.lhs → first.symbols = [] →
      second.symbols = [] → left = right

/-- Where no production of a nonterminal is found to be empty, none with it as left-hand side is. -/
theorem Consistent.symbols_ne_nil (consistent : g.Consistent) {lhs : NonterminalId}
    (none : g.emptyAmong? (g.productionsOf lhs) = none) {rule : ProductionId}
    {production : Production} (present : g.productions[rule]? = some production)
    (same : production.lhs = lhs) : production.symbols ≠ [] := by
  intro empty
  have listed : rule ∈ g.productionsOf lhs := consistent.mem_productionsOf.2 ⟨_, present, same⟩
  rw [emptyAmong?, List.find?_eq_none] at none
  have nonempty := none rule listed
  simp [present, Production.isEmpty, empty] at nonempty

/-- A new production leaves at most one empty one to each nonterminal, if there was none before or
it is not empty itself. -/
theorem OnceEmpty.withProduction (once : g.OnceEmpty) {lhs : NonterminalId}
    {symbols : List Symbol} (only : symbols = [] → ∀ {rule : ProductionId}
      {production : Production}, g.productions[rule]? = some production → production.lhs = lhs →
        production.symbols ≠ []) :
    (g.withProduction lhs symbols).OnceEmpty := by
  intro left right first second foundLeft foundRight same emptyFirst emptySecond
  rcases found_withProduction foundLeft with oldLeft | ⟨lastLeft, rfl⟩ <;>
    rcases found_withProduction foundRight with oldRight | ⟨lastRight, rfl⟩
  · exact once oldLeft oldRight same emptyFirst emptySecond
  · exact absurd emptyFirst (only emptySecond oldLeft same)
  · exact absurd emptySecond (only emptyFirst oldRight same.symm)
  · rw [lastLeft, lastRight]

/-- That no nonterminal has two empty productions is maintained. -/
theorem OnceEmpty.maintained : Maintained OnceEmpty where
  start := fun found => by simp [empty] at found
  nonterminalId {g} name _ once := by
    unfold OnceEmpty
    rwa [productions_nonterminalId]
  defineAt {g} name place _ once := by
    have productions : (g.defineAt name place).2.productions = g.productions :=
      productions_nonterminalId g name
    unfold OnceEmpty
    rwa [productions]
  terminalId entered _ once := by
    rcases terminalId_eq_ok entered with ⟨-, rfl⟩ | ⟨_, -, -, -, rfl⟩
    · exact once
    · exact once
  addProduction added consistent once := by
    obtain ⟨-, -, ⟨-, -, rfl⟩ | ⟨none, -, rfl⟩⟩ := addProduction_eq_ok added
    · exact once
    · exact OnceEmpty.withProduction once fun empty => consistent.symbols_ne_nil (none empty)

/-! ## The root -/

/-- The root is a nonterminal that has been entered. -/
def RootKnown (g : Grammar) : Prop := ∀ {root : NonterminalId}, g.root? = some root →
  g.knows (.nonterminal root) = true

/-- A known root that stays is known later on. -/
theorem RootKnown.of_persists (known : g.RootKnown) (persists : g.Persists h)
    (same : h.root? = g.root?) : h.RootKnown :=
  fun isRoot => persists.knows (known (same ▸ isRoot))

/-- Entering a nonterminal by name sets no root. -/
theorem root?_nonterminalId (g : Grammar) (name : String) :
    (g.nonterminalId name).2.root? = g.root? := by
  unfold nonterminalId
  split <;> rfl

/-- Entering a terminal by its spec sets no root. -/
theorem root?_terminalId {spec : String} {id : TerminalId}
    (entered : g.terminalId spec = (.ok id, h)) : h.root? = g.root? := by
  rcases terminalId_eq_ok entered with ⟨-, rfl⟩ | ⟨_, -, -, -, rfl⟩ <;> rfl

/-- Entering a symbol by name sets no root. -/
theorem root?_symbol {name : String} {symbol : Symbol} (entered : g.symbol name = (.ok symbol, h)) :
    h.root? = g.root? := by
  rcases symbol_eq_ok entered with ⟨-, -, rfl⟩ | ⟨-, _, found, -⟩
  · exact root?_nonterminalId g name
  · exact root?_terminalId found

/-- Adding a production sets no root. -/
theorem root?_addProduction {lhs : NonterminalId} {symbols : List Symbol} {rule : ProductionId}
    (added : g.addProduction lhs symbols = (.ok rule, h)) : h.root? = g.root? := by
  obtain ⟨-, -, ⟨-, -, rfl⟩ | ⟨-, -, rfl⟩⟩ := addProduction_eq_ok added <;> rfl

/-- Defining a nonterminal makes it the root if there is none. -/
theorem root?_defineAt (g : Grammar) (name : String) (place : Location) :
    (g.defineAt name place).2.root? = some (g.root?.getD (g.defineAt name place).1) := by
  show some ((g.nonterminalId name).2.root?.getD _) = _
  rw [root?_nonterminalId]
  rfl

/-- That the root is known is maintained. -/
theorem RootKnown.maintained : Maintained RootKnown where
  start := fun isRoot => by simp [empty] at isRoot
  nonterminalId {g} name _ known := known.of_persists (.nonterminalId g name)
    (root?_nonterminalId g name)
  defineAt {g} name place consistent known := by
    intro root isRoot
    rw [root?_defineAt, Option.some.injEq] at isRoot
    subst isRoot
    cases before : g.root? with
    | some old => exact (Persists.defineAt g name place).knows (known before)
    | none => exact knows_iff.2 ⟨name, consistent.symbolName?_defineAt name place⟩
  terminalId entered _ known := known.of_persists (.terminalId entered) (root?_terminalId entered)
  addProduction added _ known := known.of_persists (.addProduction added)
    (root?_addProduction added)

/-- The name of the root stays the same. -/
theorem Persists.rootName? (persists : g.Persists h) {name : String}
    (named : g.rootName? = some name) : h.rootName? = some name := by
  obtain ⟨root, isRoot, found⟩ := Option.bind_eq_some_iff.1 named
  exact Option.bind_eq_some_iff.2 ⟨root, persists.root isRoot, persists.symbolName? found⟩

/-- Where the root is known, there is none exactly if it has no name. -/
theorem RootKnown.rootName?_eq_none (known : g.RootKnown) :
    g.rootName? = none ↔ g.root? = none := by
  constructor
  · intro unnamed
    cases isRoot : g.root? with
    | none => rfl
    | some root =>
      obtain ⟨name, named⟩ := knows_iff.1 (known isRoot)
      rw [Grammar.rootName?, isRoot, Option.bind_some, named] at unnamed
      cases unnamed
  · intro none
    rw [Grammar.rootName?, none]
    rfl

/-- Defining a nonterminal makes its name that of the root if there is none. -/
theorem RootKnown.rootName?_defineAt (known : g.RootKnown) (consistent : g.Consistent)
    (name : String) (place : Location) :
    (g.defineAt name place).2.rootName? = g.rootName?.or (some name) := by
  cases named : g.rootName? with
  | some old => exact (Persists.defineAt g name place).rootName? named
  | none =>
    have none := known.rootName?_eq_none.1 named
    rw [Grammar.rootName?, root?_defineAt, none]
    exact consistent.symbolName?_defineAt name place

/-- An operation that sets no root leaves the name of the root, and that there is none. -/
theorem RootKnown.rootName?_eq (known : g.RootKnown) (persists : g.Persists h)
    (same : h.root? = g.root?) : h.rootName? = g.rootName? := by
  cases named : g.rootName? with
  | some name => exact persists.rootName? named
  | none =>
    rw [known.rootName?_eq_none] at named
    rw [Grammar.rootName?, same, named]
    rfl

/-- A rule leaves all that is there once its left-hand side is defined, also where it is refused. -/
theorem persists_addRule (g : Grammar) (lhs : String) (names : List String) :
    (g.define lhs).2.Persists (g.addRule lhs names).2 :=
  (Persists.kept (g.define lhs).2).addRule_of_define (.refl _) names

/-- An entry that defines a nonterminal names the root if there is none, and others name none. -/
theorem RootKnown.rootName?_enter (known : g.RootKnown) (consistent : g.Consistent)
    (entry : Entry) : (g.enter entry).rootName? = g.rootName?.or entry.defined? := by
  cases entry with
  | nonterminal name =>
    exact (known.rootName?_eq (.nonterminalId g name) (root?_nonterminalId g name)).trans
      Option.or_none.symm
  | definition name place => exact known.rootName?_defineAt consistent name place
  | terminal spec =>
    show (g.terminalId spec).2.rootName? = g.rootName?.or none
    rw [Option.or_none]
    rcases entered : g.terminalId spec with ⟨fault | id, h⟩
    · rw [(terminalId_eq_error entered).2]
    · exact known.rootName?_eq (.terminalId entered) (root?_terminalId entered)
  | symbol name =>
    show (g.symbol name).2.rootName? = g.rootName?.or none
    rw [Option.or_none]
    rcases entered : g.symbol name with ⟨fault | symbol, h⟩
    · rw [symbol_eq_error entered]
    · exact known.rootName?_eq ((Persists.kept g).symbol (.refl g) entered) (root?_symbol entered)
  | production lhs symbols =>
    show (g.addProduction lhs symbols).2.rootName? = g.rootName?.or none
    rw [Option.or_none]
    rcases added : g.addProduction lhs symbols with ⟨error | rule, h⟩
    · rw [addProduction_eq_error added]
    · exact known.rootName?_eq (.addProduction added) (root?_addProduction added)
  | rule lhs names =>
    have defined := known.rootName?_defineAt consistent lhs Location.unknown
    -- with its left-hand side defined, there is a root, and a rule leaves it, refused or not
    obtain ⟨root, isRoot⟩ : ∃ root, g.rootName?.or (some lhs) = some root := by
      cases g.rootName? <;> exact ⟨_, rfl⟩
    show (g.addRule lhs names).2.rootName? = g.rootName?.or (some lhs)
    rw [isRoot] at defined ⊢
    exact (persists_addRule g lhs names).rootName? defined

/-- The root is the nonterminal that the entries define first. -/
theorem rootName?_ofEntries (entries : List Entry) :
    (ofEntries entries).rootName? = entries.findSome? Entry.defined? := by
  suffices run : ∀ g : Grammar, g.Consistent ∧ g.RootKnown →
      (entries.foldl enter g).rootName? = g.rootName?.or (entries.findSome? Entry.defined?) from
    run empty RootKnown.maintained.invariant.start
  induction entries with
  | nil => exact fun g _ => Option.or_none.symm
  | cons entry entries ih =>
    intro g before
    rw [List.foldl_cons, ih _ (RootKnown.maintained.invariant.enter before entry),
      RootKnown.rootName?_enter before.2 before.1, List.findSome?_cons, Option.or_assoc]
    congr 1
    cases entry.defined? <;> rfl

/-! ## The tables as a whole -/

/-- The tables of a grammar agree with each other. -/
structure InStep (g : Grammar) : Prop where
  /-- A name is found at an id exactly if the nonterminal there has that name. -/
  nonterminal_found : ∀ {name : String} {id : NonterminalId},
    g.findNonterminal? name = some id ↔ g.symbolName? (.nonterminal id) = some name
  /-- Every nonterminal is found by a name. -/
  nonterminal_named : ∀ id < g.nonterminals.size, ∃ name, g.findNonterminal? name = some id
  /-- A spec is found at an id exactly if the terminal there is written as that spec. -/
  terminal_found : ∀ {spec : String} {id : TerminalId},
    g.findTerminal? spec = some id ↔ g.symbolName? (.terminal id) = some spec
  /-- Every terminal is found by a spec, and it is the terminal that the spec describes. -/
  terminal_named : ∀ {id : TerminalId} {terminal : Terminal}, g.terminals[id]? = some terminal →
    g.findTerminal? terminal.name = some id ∧ Terminal.ofSpec terminal.name = .ok terminal
  /-- A production carries the id that it is found at. -/
  production_id : ∀ {rule : ProductionId} {production : Production},
    g.productions[rule]? = some production → production.id = rule
  /-- There is a list of productions for every nonterminal, and for nothing else. -/
  size_byLhs : g.byLhs.size = g.nonterminals.size
  /-- A nonterminal lists the ids of the productions with it as left-hand side, in increasing
  order. -/
  listed : ∀ id, g.productionsOf id = g.rulesWith id
  /-- The symbols of productions have been entered, left-hand sides included. -/
  known : ∀ {rule : ProductionId} {production : Production},
    g.productions[rule]? = some production → g.knows (.nonterminal production.lhs) = true ∧
      ∀ symbol ∈ production.symbols, g.knows symbol = true
  /-- A nonterminal has at most one empty production. -/
  onceEmpty : ∀ {left right : ProductionId} {first second : Production},
    g.productions[left]? = some first → g.productions[right]? = some second →
      first.lhs = second.lhs → first.symbols = [] → second.symbols = [] → left = right
  /-- A nonterminal is flagged exactly if some right-hand side mentions it. -/
  referenced : ∀ {id : NonterminalId} {nonterminal : Nonterminal},
    g.nonterminals[id]? = some nonterminal → (nonterminal.referenced = true ↔ g.Mentions id)
  /-- The root has been entered. -/
  root_known : ∀ {root : NonterminalId}, g.root? = some root → g.knows (.nonterminal root) = true

/-- The tables of every grammar built by entries agree with each other. -/
theorem Built.inStep (built : g.Built) : g.InStep := by
  have consistent := built.consistent
  have named : ∀ {symbol : Symbol}, g.knows symbol = true →
      ∃ name, g.symbolName? symbol = some name := knows_iff.1
  exact {
    nonterminal_found := consistent.findNonterminal?_eq_some
    nonterminal_named := fun id inside => by
      obtain ⟨name, isNamed⟩ := @named (.nonterminal id) (by simpa [knows] using inside)
      exact ⟨name, consistent.findNonterminal?_eq_some.2 isNamed⟩
    terminal_found := consistent.findTerminal?_eq_some
    terminal_named := fun {id terminal} found => by
      have isNamed : g.symbolName? (.terminal id) = some terminal.name := by
        rw [symbolName?, found, Option.map_some]
      exact ⟨consistent.findTerminal?_eq_some.2 isNamed,
        Described.invariant.of_built built id terminal found⟩
    production_id := consistent.production_id
    size_byLhs := consistent.size_byLhs
    listed := Listed.maintained.of_built built
    known := fun found => ⟨consistent.knows_lhs found, consistent.known found⟩
    onceEmpty := OnceEmpty.maintained.of_built built
    referenced := built.referenced_iff
    root_known := RootKnown.maintained.of_built built }

/-- What an operation answers is what it was asked for. -/
structure AnswersWell (g : Grammar) : Prop where
  nonterminalId : ∀ name,
    (g.nonterminalId name).2.findNonterminal? name = some (g.nonterminalId name).1
  defineAt : ∀ name place,
    (g.defineAt name place).2.findNonterminal? name = some (g.defineAt name place).1
  terminalId : ∀ {spec : String} {id : TerminalId} {h : Grammar},
    g.terminalId spec = (.ok id, h) → h.findTerminal? spec = some id
  symbol : ∀ {name : String} {symbol : Symbol} {h : Grammar},
    g.symbol name = (.ok symbol, h) → h.symbolName? symbol = some name
  addProduction : ∀ {lhs : NonterminalId} {symbols : List Symbol} {rule : ProductionId}
    {h : Grammar}, g.addProduction lhs symbols = (.ok rule, h) →
      h.productions[rule]? = some ⟨rule, lhs, symbols⟩
  addRule : ∀ {lhs : String} {names : List String} {rule : ProductionId},
    (g.addRule lhs names).1 = .ok rule → ∃ production,
      (g.addRule lhs names).2.productions[rule]? = some production ∧
        (g.addRule lhs names).2.symbolName? (.nonterminal production.lhs) = some lhs ∧
        production.symbols.map (g.addRule lhs names).2.symbolName? = names.map some

/-- Symbols are entered one after the other. -/
theorem symbols_cons_eq_ok {name : String} {names : List String} {symbols : List Symbol}
    (entered : g.symbols (name :: names) = (.ok symbols, h)) :
    ∃ first middle rest, g.symbol name = (.ok first, middle) ∧
      middle.symbols names = (.ok rest, h) ∧ symbols = first :: rest := by
  rw [Grammar.symbols] at entered
  split at entered
  · simp at entered
  rename_i first middle read
  split at entered
  · rename_i rest next others
    obtain ⟨same, rfl⟩ := Prod.mk.inj entered
    exact ⟨first, middle, rest, read, others, (Except.ok.inj same).symm⟩
  · simp at entered

/-- Symbols that are entered by name have these names, one by one. -/
theorem Consistent.symbolName?_symbols (consistent : g.Consistent) {names : List String}
    {symbols : List Symbol} (entered : g.symbols names = (.ok symbols, h)) :
    symbols.map h.symbolName? = names.map some := by
  induction names generalizing g symbols with
  | nil =>
    obtain ⟨same, -⟩ := Prod.mk.inj entered
    rw [← Except.ok.inj same]
    rfl
  | cons name names ih =>
    obtain ⟨first, middle, rest, read, others, rfl⟩ := symbols_cons_eq_ok entered
    have named := (Persists.symbols others).symbolName? (consistent.symbolName?_symbol read).1
    have next : middle.Consistent := Consistent.invariant.symbol consistent read
    rw [List.map_cons, List.map_cons, named, ih next others]

/-- A rule that is accepted defines its left-hand side, enters its symbols and adds the production.
-/
theorem addRule_eq_ok {lhs : String} {names : List String} {rule : ProductionId}
    (added : (g.addRule lhs names).1 = .ok rule) :
    ∃ symbols middle, (g.define lhs).2.symbols names = (.ok symbols, middle) ∧
      middle.addProduction (g.define lhs).1 symbols = (.ok rule, (g.addRule lhs names).2) := by
  rw [Grammar.addRule] at added ⊢
  dsimp only at added ⊢
  split at added
  · simp at added
  rename_i symbols middle read
  rw [read]
  exact ⟨symbols, middle, rfl, Prod.ext added rfl⟩

/-- The operations on a grammar built by entries answer what they were asked for. -/
theorem Built.answersWell (built : g.Built) : g.AnswersWell := by
  have consistent := built.consistent
  exact {
    nonterminalId := fun name => by
      have next := consistent.nonterminalId name
      exact next.findNonterminal?_eq_some.2 (consistent.symbolName?_nonterminalId name)
    defineAt := fun name place => by
      have next := consistent.defineAt name place
      exact next.findNonterminal?_eq_some.2 (consistent.symbolName?_defineAt name place)
    terminalId := fun entered => by
      have next := consistent.terminalId entered
      exact next.findTerminal?_eq_some.2 (consistent.symbolName?_terminalId entered)
    symbol := fun entered => (consistent.symbolName?_symbol entered).1
    addProduction := consistent.productions_addProduction
    addRule := fun {lhs names rule} accepted => by
      obtain ⟨symbols, middle, entered, added⟩ := addRule_eq_ok accepted
      have defined := consistent.defineAt lhs Location.unknown
      have kept := Consistent.invariant.of_symbols defined entered
      have persists := Persists.symbols entered
      have later := Persists.addProduction added
      refine ⟨_, kept.productions_addProduction added, ?_, ?_⟩
      · have named := consistent.symbolName?_defineAt lhs Location.unknown
        exact later.symbolName? (persists.symbolName? named)
      · have names_eq := defined.symbolName?_symbols entered
        rw [← names_eq]
        refine List.map_congr_left fun symbol inside => ?_
        have listed := List.mem_map_of_mem (f := middle.symbolName?) inside
        rw [names_eq] at listed
        obtain ⟨name, -, named⟩ := List.mem_map.1 listed
        rw [← named, later.symbolName? named.symm] }

/-- The entry is a symbol or a production that is refused. -/
def Refuses (g : Grammar) : Entry → Prop
  | .terminal spec => ∃ fault, (g.terminalId spec).1 = .error fault
  | .symbol name => ∃ fault, (g.symbol name).1 = .error fault
  | .production lhs symbols => ∃ error, (g.addProduction lhs symbols).1 = .error error
  | _ => False

/-- An entry that is refused leaves the grammar as it was. -/
theorem enter_of_refuses {entry : Entry} (refused : g.Refuses entry) : g.enter entry = g := by
  cases entry with
  | nonterminal _ => exact refused.elim
  | definition _ _ => exact refused.elim
  | rule _ _ => exact refused.elim
  | terminal spec =>
    obtain ⟨fault, failed⟩ := refused
    exact (terminalId_eq_error (Prod.ext failed rfl)).2
  | symbol name =>
    obtain ⟨fault, failed⟩ := refused
    exact symbol_eq_error (Prod.ext failed rfl)
  | production lhs symbols =>
    obtain ⟨error, failed⟩ := refused
    exact addProduction_eq_error (Prod.ext failed rfl)

/-- After any entries, accepted or refused, the tables of a grammar agree with each other. Its root
is the nonterminal that was defined first. Whatever is entered later, all that has been entered
stays, under the ids that it has. Operations answer what they are asked for, and a symbol or
production that is refused changes nothing. -/
theorem ofEntries_inStep (entries later : List Entry) :
    (ofEntries entries).InStep ∧
      (ofEntries entries).rootName? = entries.findSome? Entry.defined? ∧
      (ofEntries entries).Persists (ofEntries (entries ++ later)) ∧
      (ofEntries entries).AnswersWell ∧
      ∀ entry, (ofEntries entries).Refuses entry →
        (ofEntries entries).enter entry = ofEntries entries := by
  have built : (ofEntries entries).Built := ⟨entries, rfl⟩
  have persists : (ofEntries entries).Persists (ofEntries (entries ++ later)) := by
    rw [ofEntries, ofEntries, List.foldl_append]
    exact (Persists.kept _).enterAll (.refl _) later
  exact ⟨built.inStep, rootName?_ofEntries entries, persists, built.answersWell,
    fun _ refused => enter_of_refuses refused⟩

end Grammar

end ChartParser
