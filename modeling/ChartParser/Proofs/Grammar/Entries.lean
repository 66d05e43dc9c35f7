import ChartParser.Grammar.Entry
import ChartParser.Proofs.Morphology.Specs
import ChartParser.Proofs.Tables

/-!
# Grammars built by entries

A grammar comes about by entries made one after another, some of which may be refused. Whatever
they are, the grammar stays consistent: its indexes find every symbol by its name, every production
has its own id and is listed by its left-hand side, and right-hand sides mention only what has been
entered. Everything that reads a grammar relies on this.
-/

namespace ChartParser

/-- One operation on a grammar under construction. -/
inductive Entry where
  | nonterminal (name : String)
  | definition (name : String) (place : Location)
  | terminal (spec : String)
  | symbol (name : String)
  | production (lhs : NonterminalId) (symbols : List Symbol)
  | rule (lhs : String) (names : List String)

namespace Grammar

variable {g h : Grammar}

/-- The grammar after an entry, whether that was accepted or refused. -/
def enter (g : Grammar) : Entry → Grammar
  | .nonterminal name => (g.nonterminalId name).2
  | .definition name place => (g.defineAt name place).2
  | .terminal spec => (g.terminalId spec).2
  | .symbol name => (g.symbol name).2
  | .production lhs symbols => (g.addProduction lhs symbols).2
  | .rule lhs names => (g.addRule lhs names).2

/-- The grammar after these entries, from the empty grammar on. -/
def ofEntries (entries : List Entry) : Grammar := entries.foldl enter empty

/-- The grammar has been built by entries. -/
def Built (g : Grammar) : Prop := ∃ entries, ofEntries entries = g

/-! ## What an operation does -/

/-- An operation has been accepted if it gives an answer. -/
theorem accepted_eq_ok {ε α : Type} {result : Except ε α × Grammar} {answer : α} :
    accepted result = .ok (answer, h) ↔ result = (.ok answer, h) := by
  rcases result with ⟨error | found, next⟩
  · simp [accepted, Except.map]
  · simp [accepted, Except.map]

/-- A terminal is known by the spec that describes it. -/
theorem name_of_ofSpec {spec : String} {terminal : Terminal}
    (described : Terminal.ofSpec spec = .ok terminal) : terminal.name = spec :=
  (Terminal.ofSpec_eq_ok_iff.1 described).1

/-- The grammar with a new terminal. -/
def withTerminal (g : Grammar) (terminal : Terminal) : Grammar :=
  { g with
    terminals := g.terminals.push terminal
    terminalIndex := (terminal.name, g.terminals.size) :: g.terminalIndex }

/-- A terminal that can be entered is known already, or is described by its spec and comes last. -/
theorem terminalId_eq_ok {spec : String} {id : TerminalId}
    (entered : g.terminalId spec = (.ok id, h)) :
    (g.findTerminal? spec = some id ∧ h = g) ∨
      ∃ terminal, g.findTerminal? spec = none ∧ Terminal.ofSpec spec = .ok terminal ∧
        id = g.terminals.size ∧ h = g.withTerminal terminal := by
  rw [Grammar.terminalId] at entered
  split at entered
  · rename_i found
    simp only [Except.ok.injEq, Prod.mk.injEq] at entered
    exact Or.inl ⟨entered.1 ▸ found, entered.2.symm⟩
  · rename_i missed
    split at entered
    · simp at entered
    · rename_i terminal described
      simp only [Except.ok.injEq, Prod.mk.injEq] at entered
      refine Or.inr ⟨terminal, missed, described, entered.1.symm, ?_⟩
      rw [withTerminal, name_of_ofSpec described]
      exact entered.2.symm

/-- A terminal that is refused is not described by its spec, and the grammar stays as it was. -/
theorem terminalId_eq_error {spec : String} {fault : Fault}
    (refused : g.terminalId spec = (.error fault, h)) :
    Terminal.ofSpec spec = .error fault ∧ h = g := by
  rw [Grammar.terminalId] at refused
  split at refused
  · simp at refused
  · split at refused
    · rename_i undescribed
      simp only [Except.error.injEq, Prod.mk.injEq] at refused
      exact ⟨refused.1 ▸ undescribed, refused.2.symm⟩
    · simp at refused

/-- A symbol is entered as a nonterminal if its name starts in upper case, and else as a terminal.
-/
theorem symbol_eq_ok {name : String} {symbol : Symbol}
    (entered : g.symbol name = (.ok symbol, h)) :
    (name.toList.head?.any Text.isUppercase = true ∧
        symbol = .nonterminal (g.nonterminalId name).1 ∧ h = (g.nonterminalId name).2) ∨
      (name.toList.head?.any Text.isUppercase = false ∧
        ∃ id, g.terminalId name = (.ok id, h) ∧ symbol = .terminal id) := by
  rw [Grammar.symbol] at entered
  split at entered
  · simp at entered
  rename_i c rest shape
  rw [shape, List.head?_cons, Option.any_some]
  split at entered
  · rename_i upper
    simp only [Except.ok.injEq, Prod.mk.injEq] at entered
    exact Or.inl ⟨upper, entered.1.symm, entered.2.symm⟩
  · rename_i lower
    obtain ⟨answer, rfl⟩ := Prod.mk.inj entered
    obtain ⟨id, found, rfl⟩ := map_eq_ok.1 answer
    exact Or.inr ⟨Bool.eq_false_iff.2 lower, id, Prod.ext found rfl, rfl⟩

/-- A symbol that is refused leaves the grammar as it was. -/
theorem symbol_eq_error {name : String} {fault : Fault}
    (refused : g.symbol name = (.error fault, h)) : h = g := by
  rw [Grammar.symbol] at refused
  split at refused
  · exact (Prod.mk.inj refused).2.symm
  split at refused
  · simp at refused
  · obtain ⟨answer, rfl⟩ := Prod.mk.inj refused
    have failed : (g.terminalId name).1 = .error fault := map_eq_error.1 answer
    exact (terminalId_eq_error (Prod.ext failed rfl)).2

/-- The grammar with a new production, its symbols marked as referenced. -/
def withProduction (g : Grammar) (lhs : NonterminalId) (symbols : List Symbol) : Grammar :=
  { g.reference symbols with
    productions := g.productions.push ⟨g.productions.size, lhs, symbols⟩
    byLhs := g.byLhs.modify lhs (· ++ [g.productions.size]) }

/-- A production whose left-hand side and symbols are known is accepted. -/
theorem addProduction_eq {lhs : NonterminalId} {symbols : List Symbol}
    (inside : g.knows (.nonterminal lhs) = true)
    (known : ∀ symbol ∈ symbols, g.knows symbol = true) :
    g.addProduction lhs symbols =
      match if symbols.isEmpty then g.emptyAmong? (g.productionsOf lhs) else none with
      | some id => (.ok id, g)
      | none => (.ok g.productions.size, g.withProduction lhs symbols) := by
  have all : symbols.all g.knows = true := List.all_eq_true.2 known
  have found := Array.getElem?_eq_getElem (of_decide_eq_true inside)
  rw [Grammar.addProduction, found]
  dsimp only
  rw [all, if_neg (by simp)]
  rfl

/-- A production is accepted if its left-hand side and its symbols are known. It is a second empty
one, for which the first stands, or it is new and comes last. -/
theorem addProduction_eq_ok {lhs : NonterminalId} {symbols : List Symbol} {id : ProductionId}
    (added : g.addProduction lhs symbols = (.ok id, h)) :
    g.knows (.nonterminal lhs) = true ∧ (∀ symbol ∈ symbols, g.knows symbol = true) ∧
      ((symbols = [] ∧ g.emptyAmong? (g.productionsOf lhs) = some id ∧ h = g) ∨
        ((symbols = [] → g.emptyAmong? (g.productionsOf lhs) = none) ∧
          id = g.productions.size ∧ h = g.withProduction lhs symbols)) := by
  rw [Grammar.addProduction] at added
  split at added
  · simp at added
  rename_i nonterminal found
  split at added
  · simp at added
  rename_i known
  simp only [Bool.not_eq_true', Bool.not_eq_false, List.all_eq_true] at known
  refine ⟨decide_eq_true (Array.getElem?_eq_some_iff.1 found).1, known, ?_⟩
  split at added <;> rename_i present <;> simp only [Except.ok.injEq, Prod.mk.injEq] at added
  · left
    obtain ⟨rfl, rfl⟩ := added
    by_cases none : symbols = []
    · simp only [none, List.isEmpty_nil, if_true] at present
      exact ⟨none, present, rfl⟩
    · simp [none] at present
  · right
    refine ⟨fun none => ?_, added.1.symm, added.2.symm⟩
    simpa [none] using present

/-- A production that is refused leaves the grammar as it was. -/
theorem addProduction_eq_error {lhs : NonterminalId} {symbols : List Symbol}
    {error : GrammarError} (refused : g.addProduction lhs symbols = (.error error, h)) :
    h = g := by
  rw [Grammar.addProduction] at refused
  split at refused
  · exact (Prod.mk.inj refused).2.symm
  split at refused
  · exact (Prod.mk.inj refused).2.symm
  split at refused <;> simp at refused

/-! ## Properties that every entry keeps -/

/-- A property of grammars that the operations on symbols and productions keep. -/
structure Kept (holds : Grammar → Prop) : Prop where
  nonterminalId : ∀ {g : Grammar} (name : String), holds g → holds (g.nonterminalId name).2
  defineAt : ∀ {g : Grammar} (name : String) (place : Location),
    holds g → holds (g.defineAt name place).2
  terminalId : ∀ {g h : Grammar} {spec : String} {id : TerminalId},
    g.terminalId spec = (.ok id, h) → holds g → holds h
  addProduction : ∀ {g h : Grammar} {lhs : NonterminalId} {symbols : List Symbol}
    {id : ProductionId}, g.addProduction lhs symbols = (.ok id, h) → holds g → holds h

/-- A property that is kept and holds of the empty grammar. -/
structure Invariant (holds : Grammar → Prop) : Prop extends Kept holds where
  start : holds empty

namespace Kept

variable {holds : Grammar → Prop}

/-- Entering a symbol by name keeps what the operations keep. -/
theorem symbol (kept : Kept holds) (before : holds g) {name : String} {symbol : Symbol}
    (entered : g.symbol name = (.ok symbol, h)) : holds h := by
  rcases symbol_eq_ok entered with ⟨-, -, rfl⟩ | ⟨-, id, found, -⟩
  · exact kept.nonterminalId name before
  · exact kept.terminalId found before

/-- What is there after a terminal has been entered or refused keeps what the operations keep. -/
theorem after_terminalId (kept : Kept holds) (before : holds g) (spec : String) :
    holds (g.terminalId spec).2 := by
  rcases entered : g.terminalId spec with ⟨fault | id, h⟩
  · obtain ⟨-, rfl⟩ := terminalId_eq_error entered
    exact before
  · exact kept.terminalId entered before

/-- What is there after a symbol has been entered or refused keeps what the operations keep. -/
theorem after_symbol (kept : Kept holds) (before : holds g) (name : String) :
    holds (g.symbol name).2 := by
  rcases entered : g.symbol name with ⟨fault | symbol, h⟩
  · obtain rfl := symbol_eq_error entered
    exact before
  · exact kept.symbol before entered

/-- What is there after a production has been added or refused keeps what the operations keep. -/
theorem after_addProduction (kept : Kept holds) (before : holds g) (lhs : NonterminalId)
    (symbols : List Symbol) : holds (g.addProduction lhs symbols).2 := by
  rcases added : g.addProduction lhs symbols with ⟨error | id, h⟩
  · obtain rfl := addProduction_eq_error added
    exact before
  · exact kept.addProduction added before

/-- Entering symbols by name keeps what the operations keep, up to a name that cannot be read. -/
theorem symbols (kept : Kept holds) (before : holds g) (names : List String) :
    holds (g.symbols names).2 := by
  induction names generalizing g with
  | nil => exact before
  | cons name names ih =>
    have first := kept.after_symbol before name
    rw [Grammar.symbols]
    split <;> rename_i read <;> rw [read] at first
    · exact first
    · have rest := ih first
      split <;> rename_i others <;> rw [others] at rest <;> exact rest

/-- What is there after symbols have been entered keeps what the operations keep. -/
theorem of_symbols (kept : Kept holds) (before : holds g) {names : List String}
    {result : Except Fault (List Symbol)} (entered : g.symbols names = (result, h)) : holds h := by
  have after := kept.symbols before names
  rwa [entered] at after

/-- Adding a rule keeps what holds once its left-hand side is defined, also where the rule is
refused. -/
theorem addRule_of_define (kept : Kept holds) {lhs : String} (defined : holds (g.define lhs).2)
    (names : List String) : holds (g.addRule lhs names).2 := by
  rw [Grammar.addRule]
  dsimp only
  split <;> rename_i read
  · exact kept.of_symbols defined read
  · exact kept.after_addProduction (kept.of_symbols defined read) _ _

/-- Adding a rule keeps what the operations keep, also where the rule is refused. -/
theorem addRule (kept : Kept holds) (before : holds g) (lhs : String) (names : List String) :
    holds (g.addRule lhs names).2 :=
  kept.addRule_of_define (kept.defineAt lhs Location.unknown before) names

/-- An entry keeps what the operations keep, whether it is accepted or refused. -/
theorem enter (kept : Kept holds) (before : holds g) (entry : Entry) : holds (g.enter entry) := by
  cases entry with
  | nonterminal name => exact kept.nonterminalId name before
  | definition name place => exact kept.defineAt name place before
  | terminal spec => exact kept.after_terminalId before spec
  | symbol name => exact kept.after_symbol before name
  | production lhs symbols => exact kept.after_addProduction before lhs symbols
  | rule lhs names => exact kept.addRule before lhs names

/-- Entries keep what the operations keep. -/
theorem enterAll (kept : Kept holds) (before : holds g) (entries : List Entry) :
    holds (entries.foldl Grammar.enter g) := by
  induction entries generalizing g with
  | nil => exact before
  | cons entry entries ih => exact ih (kept.enter before entry)

end Kept

/-- An invariant holds of every grammar built by entries. -/
theorem Invariant.of_built {holds : Grammar → Prop} (invariant : Invariant holds)
    (built : g.Built) : holds g := by
  obtain ⟨entries, rfl⟩ := built
  exact invariant.enterAll invariant.start entries

/-! ## Consistent tables -/

/-- The tables of the grammar agree with each other. -/
structure Consistent (g : Grammar) : Prop where
  /-- The index finds every nonterminal by its name. -/
  nonterminals_indexed : Indexes g.nonterminalIndex g.nonterminals Nonterminal.name
  /-- The index finds every terminal by its spec. -/
  terminals_indexed : Indexes g.terminalIndex g.terminals Terminal.name
  /-- A production carries the id that it is found at. -/
  production_id : ∀ {id : ProductionId} {production : Production},
    g.productions[id]? = some production → production.id = id
  /-- Every nonterminal has a list of productions. -/
  size_byLhs : g.byLhs.size = g.nonterminals.size
  /-- A nonterminal lists exactly the productions it is the left-hand side of. -/
  mem_productionsOf : ∀ {id : ProductionId} {lhs : NonterminalId},
    id ∈ g.productionsOf lhs ↔
      ∃ production, g.productions[id]? = some production ∧ production.lhs = lhs
  /-- Right-hand sides mention only symbols that have been entered. -/
  known : ∀ {id : ProductionId} {production : Production},
    g.productions[id]? = some production → ∀ symbol ∈ production.symbols, g.knows symbol = true

/-- The symbols entered are those that have a name. -/
theorem knows_iff {symbol : Symbol} :
    g.knows symbol = true ↔ ∃ name, g.symbolName? symbol = some name := by
  cases symbol <;>
    simp only [knows, symbolName?, decide_eq_true_eq, Option.map_eq_some_iff,
      Array.getElem?_eq_some_iff]
  · exact ⟨fun inside => ⟨_, _, ⟨inside, rfl⟩, rfl⟩, fun ⟨_, _, ⟨inside, _⟩, _⟩ => inside⟩
  · exact ⟨fun inside => ⟨_, _, ⟨inside, rfl⟩, rfl⟩, fun ⟨_, _, ⟨inside, _⟩, _⟩ => inside⟩

namespace Consistent

variable {id left right : Nat} {name : String}

/-- The empty grammar is consistent. -/
theorem empty : Grammar.empty.Consistent where
  nonterminals_indexed := .empty
  terminals_indexed := .empty
  production_id := by simp [Grammar.empty]
  size_byLhs := rfl
  mem_productionsOf := by simp [productionsOf, Grammar.empty]
  known := by simp [Grammar.empty]

/-- A nonterminal is found by its name, and by no other. -/
theorem findNonterminal?_eq_some (consistent : g.Consistent) :
    g.findNonterminal? name = some id ↔ g.symbolName? (.nonterminal id) = some name :=
  consistent.nonterminals_indexed name id

/-- A terminal is found by its spec, and by no other. -/
theorem findTerminal?_eq_some (consistent : g.Consistent) :
    g.findTerminal? name = some id ↔ g.symbolName? (.terminal id) = some name :=
  consistent.terminals_indexed name id

/-- A name belongs to one nonterminal only. -/
theorem nonterminal_unique (consistent : g.Consistent)
    (first : g.symbolName? (.nonterminal left) = some name)
    (second : g.symbolName? (.nonterminal right) = some name) : left = right :=
  consistent.nonterminals_indexed.unique first second

/-- A name belongs to one terminal only. -/
theorem terminal_unique (consistent : g.Consistent)
    (first : g.symbolName? (.terminal left) = some name)
    (second : g.symbolName? (.terminal right) = some name) : left = right :=
  consistent.terminals_indexed.unique first second

/-- The left-hand side of a production has been entered. -/
theorem lhs_lt (consistent : g.Consistent) {production : Production}
    (found : g.productions[id]? = some production) : production.lhs < g.nonterminals.size := by
  have listed := consistent.mem_productionsOf.2 ⟨production, found, rfl⟩
  rw [← consistent.size_byLhs]
  refine Nat.lt_of_not_le fun outside => ?_
  rw [productionsOf, Array.getElem?_eq_none outside] at listed
  cases listed

/-- Nonterminals may change in everything but their names. -/
theorem changed (consistent : g.Consistent) {nonterminals : Array Nonterminal}
    (names : ∀ id : Nat, (nonterminals[id]?).map Nonterminal.name =
      (g.nonterminals[id]?).map Nonterminal.name)
    (size : nonterminals.size = g.nonterminals.size) (root? : Option NonterminalId) :
    Consistent { g with nonterminals, root? } where
  nonterminals_indexed := consistent.nonterminals_indexed.congr names
  terminals_indexed := consistent.terminals_indexed
  production_id := consistent.production_id
  size_byLhs := consistent.size_byLhs.trans size.symm
  mem_productionsOf := consistent.mem_productionsOf
  known {id production} found symbol mentioned := by
    have before := consistent.known found symbol mentioned
    cases symbol with
    | terminal _ => exact before
    | nonterminal _ => simpa only [knows, size] using before

end Consistent

/-! ## What the operations change -/

/-- A change of a nonterminal that keeps its name changes no name. -/
theorem symbolName?_modify (g : Grammar) (id : NonterminalId) {change : Nonterminal → Nonterminal}
    (name : ∀ nonterminal, (change nonterminal).name = nonterminal.name) (symbol : Symbol) :
    symbolName? { g with nonterminals := g.nonterminals.modify id change } symbol =
      g.symbolName? symbol := by
  cases symbol with
  | terminal _ => rfl
  | nonterminal other => exact map_getElem?_modify g.nonterminals id name other

/-- A nonterminal that is marked as defined keeps its name. -/
theorem name_markDefined (place : Location) (nonterminal : Nonterminal) :
    (markDefined place nonterminal).name = nonterminal.name := by
  unfold markDefined
  split <;> rfl

/-- Marking nonterminals as referenced changes nothing else about them. -/
theorem map_getElem?_reference {α : Type} {part : Nonterminal → α} (g : Grammar)
    (symbols : List Symbol) (kept : ∀ nonterminal : Nonterminal,
      part { nonterminal with referenced := true } = part nonterminal) (id : NonterminalId) :
    ((g.reference symbols).nonterminals[id]?).map part = (g.nonterminals[id]?).map part := by
  unfold reference
  dsimp only
  generalize symbols.filterMap Symbol.nonterminal? = ids
  generalize g.nonterminals = nonterminals
  induction ids generalizing nonterminals with
  | nil => rfl
  | cons first ids ih => rw [List.foldl_cons, ih, map_getElem?_modify nonterminals first kept]

/-- Marking nonterminals as referenced enters none and takes none away. -/
theorem size_nonterminals_reference (g : Grammar) (symbols : List Symbol) :
    (g.reference symbols).nonterminals.size = g.nonterminals.size := by
  unfold reference
  dsimp only
  generalize symbols.filterMap Symbol.nonterminal? = ids
  generalize g.nonterminals = nonterminals
  induction ids generalizing nonterminals with
  | nil => rfl
  | cons id ids ih => rw [List.foldl_cons, ih, Array.size_modify]

/-- A symbol has been entered if and only if it was before its references were marked. -/
theorem knows_reference (symbols : List Symbol) (symbol : Symbol) :
    (g.reference symbols).knows symbol = g.knows symbol := by
  cases symbol with
  | terminal _ => rfl
  | nonterminal id => simp only [knows, size_nonterminals_reference]

/-- A nonterminal of which only the name is known has no productions. -/
theorem productionsOf_nonterminalId (g : Grammar) (name : String) (id : NonterminalId) :
    (g.nonterminalId name).2.productionsOf id = g.productionsOf id := by
  rw [Grammar.nonterminalId]
  split
  · rfl
  simp only [productionsOf, Array.getElem?_push]
  split
  · rename_i last
    rw [last, Array.getElem?_eq_none (Nat.le_refl _)]
    rfl
  · rfl

/-- Entering a nonterminal by name keeps the grammar consistent. -/
theorem Consistent.nonterminalId (consistent : g.Consistent) (name : String) :
    (g.nonterminalId name).2.Consistent := by
  have lists := productionsOf_nonterminalId g name
  rw [Grammar.nonterminalId] at lists ⊢
  split at lists
  · exact consistent
  rename_i missed
  exact {
    nonterminals_indexed := consistent.nonterminals_indexed.push (.mentioned name) missed
    terminals_indexed := consistent.terminals_indexed
    production_id := consistent.production_id
    size_byLhs := by
      rw [Array.size_push, Array.size_push, consistent.size_byLhs]
    mem_productionsOf := by
      intro id lhs
      rw [lists]
      exact consistent.mem_productionsOf
    known := by
      intro id production found symbol inside
      have before := consistent.known found symbol inside
      cases symbol with
      | terminal _ => exact before
      | nonterminal other =>
        simp only [knows, decide_eq_true_eq, Array.size_push] at before ⊢
        exact Nat.lt_succ_of_lt before }

/-- Defining a nonterminal keeps the grammar consistent. -/
theorem Consistent.defineAt (consistent : g.Consistent) (name : String) (place : Location) :
    (g.defineAt name place).2.Consistent :=
  (consistent.nonterminalId name).changed
    (map_getElem?_modify _ _ (name_markDefined place)) Array.size_modify _

/-- A new terminal of another name than all others keeps the grammar consistent. -/
theorem Consistent.withTerminal (consistent : g.Consistent) {terminal : Terminal}
    (missed : g.findTerminal? terminal.name = none) : (g.withTerminal terminal).Consistent where
  nonterminals_indexed := consistent.nonterminals_indexed
  terminals_indexed := consistent.terminals_indexed.push terminal missed
  production_id := consistent.production_id
  size_byLhs := consistent.size_byLhs
  mem_productionsOf := consistent.mem_productionsOf
  known {id production} found symbol inside := by
    have before := consistent.known found symbol inside
    cases symbol with
    | nonterminal _ => exact before
    | terminal other =>
      simp only [knows, Grammar.withTerminal, decide_eq_true_eq, Array.size_push] at before ⊢
      exact Nat.lt_succ_of_lt before

/-- Entering a terminal by its spec keeps the grammar consistent. -/
theorem Consistent.terminalId (consistent : g.Consistent) {spec : String} {id : TerminalId}
    (entered : g.terminalId spec = (.ok id, h)) : h.Consistent := by
  rcases terminalId_eq_ok entered with ⟨-, rfl⟩ | ⟨terminal, missed, described, -, rfl⟩
  · exact consistent
  · rw [← name_of_ofSpec described] at missed
    exact consistent.withTerminal missed

/-- Marking nonterminals as referenced keeps the grammar consistent. -/
theorem Consistent.reference (consistent : g.Consistent) (symbols : List Symbol) :
    (g.reference symbols).Consistent :=
  consistent.changed (map_getElem?_reference g symbols fun _ => rfl)
    (size_nonterminals_reference g symbols) g.root?

/-- A production that is found after one has been added was there before, or it is the new one. -/
theorem found_withProduction {lhs : NonterminalId} {symbols : List Symbol} {rule : ProductionId}
    {production : Production}
    (found : (g.withProduction lhs symbols).productions[rule]? = some production) :
    g.productions[rule]? = some production ∨
      (rule = g.productions.size ∧ production = ⟨rule, lhs, symbols⟩) := by
  change (g.productions.push ⟨g.productions.size, lhs, symbols⟩)[rule]? = some production at found
  rw [Array.getElem?_push] at found
  split at found
  · rename_i last
    subst last
    exact Or.inr ⟨rfl, (Option.some.inj found).symm⟩
  · exact Or.inl found

/-- The production that has been added is found last. -/
theorem getElem?_withProduction (g : Grammar) (lhs : NonterminalId) (symbols : List Symbol) :
    (g.withProduction lhs symbols).productions[g.productions.size]? =
      some ⟨g.productions.size, lhs, symbols⟩ :=
  Array.getElem?_push_size

/-- A production is found where it was when another one has been added. -/
theorem getElem?_withProduction_of_some {rule : ProductionId} {production : Production}
    (found : g.productions[rule]? = some production) (lhs : NonterminalId)
    (symbols : List Symbol) :
    (g.withProduction lhs symbols).productions[rule]? = some production :=
  getElem?_push_of_some found _

/-- A new production is listed last for its left-hand side, and for no other nonterminal. -/
theorem Consistent.productionsOf_withProduction (consistent : g.Consistent) {lhs : NonterminalId}
    (inside : g.knows (.nonterminal lhs) = true) (symbols : List Symbol) (other : NonterminalId) :
    (g.withProduction lhs symbols).productionsOf other =
      g.productionsOf other ++ if lhs = other then [g.productions.size] else [] := by
  have within : lhs < g.byLhs.size := consistent.size_byLhs ▸ of_decide_eq_true inside
  simp only [productionsOf, withProduction, Array.getElem?_modify]
  by_cases same : lhs = other
  · subst same
    rw [if_pos rfl, if_pos rfl, Array.getElem?_eq_getElem within]
    rfl
  · rw [if_neg same, if_neg same, List.append_nil]

/-- A new production of known symbols keeps the grammar consistent. -/
theorem Consistent.withProduction (consistent : g.Consistent) {lhs : NonterminalId}
    {symbols : List Symbol} (inside : g.knows (.nonterminal lhs) = true)
    (known : ∀ symbol ∈ symbols, g.knows symbol = true) :
    (g.withProduction lhs symbols).Consistent where
  nonterminals_indexed := (consistent.reference symbols).nonterminals_indexed
  terminals_indexed := consistent.terminals_indexed
  production_id found := by
    rcases found_withProduction found with before | ⟨-, rfl⟩
    · exact consistent.production_id before
    · rfl
  size_byLhs := Array.size_modify.trans (consistent.reference symbols).size_byLhs
  mem_productionsOf {id other} := by
    rw [consistent.productionsOf_withProduction inside, List.mem_append,
      consistent.mem_productionsOf]
    constructor
    · rintro (⟨production, found, same⟩ | last)
      · exact ⟨production, getElem?_withProduction_of_some found lhs symbols, same⟩
      · split at last
        · rename_i same
          obtain rfl := List.mem_singleton.1 last
          exact ⟨_, getElem?_withProduction g lhs symbols, same⟩
        · cases last
    · rintro ⟨production, found, same⟩
      rcases found_withProduction found with before | ⟨rfl, rfl⟩
      · exact Or.inl ⟨production, before, same⟩
      · exact Or.inr (by rw [if_pos same]; exact List.mem_singleton_self _)
  known {id production} found symbol mentioned := by
    have before : g.knows symbol = true := by
      rcases found_withProduction found with old | ⟨-, rfl⟩
      · exact consistent.known old symbol mentioned
      · exact known symbol mentioned
    rw [← knows_reference symbols] at before
    cases symbol <;> exact before

/-- Adding a production keeps the grammar consistent. -/
theorem Consistent.addProduction (consistent : g.Consistent) {lhs : NonterminalId}
    {symbols : List Symbol} {id : ProductionId}
    (added : g.addProduction lhs symbols = (.ok id, h)) : h.Consistent := by
  obtain ⟨inside, known, ⟨-, -, rfl⟩ | ⟨-, -, rfl⟩⟩ := addProduction_eq_ok added
  · exact consistent
  · exact consistent.withProduction inside known

/-- Consistency is an invariant. -/
theorem Consistent.invariant : Invariant Consistent where
  start := .empty
  nonterminalId name consistent := consistent.nonterminalId name
  defineAt name place consistent := consistent.defineAt name place
  terminalId entered consistent := consistent.terminalId entered
  addProduction added consistent := consistent.addProduction added

/-- Every grammar built by entries is consistent. -/
theorem Built.consistent (built : g.Built) : g.Consistent :=
  Consistent.invariant.of_built built

/-- A property of the empty grammar that the operations on consistent grammars keep. -/
structure Maintained (holds : Grammar → Prop) : Prop where
  start : holds empty
  nonterminalId : ∀ {g : Grammar} (name : String), g.Consistent → holds g →
    holds (g.nonterminalId name).2
  defineAt : ∀ {g : Grammar} (name : String) (place : Location), g.Consistent → holds g →
    holds (g.defineAt name place).2
  terminalId : ∀ {g h : Grammar} {spec : String} {id : TerminalId},
    g.terminalId spec = (.ok id, h) → g.Consistent → holds g → holds h
  addProduction : ∀ {g h : Grammar} {lhs : NonterminalId} {symbols : List Symbol}
    {id : ProductionId}, g.addProduction lhs symbols = (.ok id, h) → g.Consistent →
      holds g → holds h

namespace Maintained

variable {holds : Grammar → Prop}

/-- Since the operations keep grammars consistent, they keep such a property. -/
theorem invariant (maintained : Maintained holds) :
    Invariant fun g => g.Consistent ∧ holds g where
  start := ⟨.empty, maintained.start⟩
  nonterminalId name before :=
    ⟨before.1.nonterminalId name, maintained.nonterminalId name before.1 before.2⟩
  defineAt name place before :=
    ⟨before.1.defineAt name place, maintained.defineAt name place before.1 before.2⟩
  terminalId entered before :=
    ⟨before.1.terminalId entered, maintained.terminalId entered before.1 before.2⟩
  addProduction added before :=
    ⟨before.1.addProduction added, maintained.addProduction added before.1 before.2⟩

/-- Such a property holds of every grammar built by entries. -/
theorem of_built (maintained : Maintained holds) (built : g.Built) : holds g :=
  (maintained.invariant.of_built built).2

end Maintained

end Grammar

end ChartParser
