import ChartParser.Grammar.Basic

/-!
# Entering symbols and rules

Every name is entered at most once and keeps its id for good. An operation answers with what it was
asked for or with the reason why it refuses, and in either case with the grammar as it is then. A
rule whose right-hand side cannot be read keeps the symbols entered before the fault.
-/

namespace ChartParser.Grammar

/-- The id of the nonterminal of that name, which is entered if it is new. -/
def nonterminalId (g : Grammar) (name : String) : NonterminalId × Grammar :=
  match g.findNonterminal? name with
  | some id => (id, g)
  | none =>
    let id := g.nonterminals.size
    (id, { g with
      nonterminals := g.nonterminals.push (.mentioned name)
      byLhs := g.byLhs.push []
      nonterminalIndex := (name, id) :: g.nonterminalIndex })

/-- The nonterminal marked as defined. Only the first definition sets the place. -/
def markDefined (place : Location) (nonterminal : Nonterminal) : Nonterminal :=
  if nonterminal.defined then nonterminal else { nonterminal with defined := true, place }

/-- The id of the nonterminal of that name, now defined. The first nonterminal ever defined becomes
the root. -/
def defineAt (g : Grammar) (name : String) (place : Location) : NonterminalId × Grammar :=
  let (id, g) := g.nonterminalId name
  (id, { g with
    nonterminals := g.nonterminals.modify id (markDefined place)
    root? := some (g.root?.getD id) })

/-- The id of the nonterminal of that name, now defined at no known place. -/
def define (g : Grammar) (name : String) : NonterminalId × Grammar :=
  g.defineAt name Location.unknown

/-- The id of the terminal of that spec, which is entered if it is new. -/
def terminalId (g : Grammar) (spec : String) : Except Fault TerminalId × Grammar :=
  match g.findTerminal? spec with
  | some id => (.ok id, g)
  | none =>
    match Terminal.ofSpec spec with
    | .error fault => (.error fault, g)
    | .ok terminal =>
      let id := g.terminals.size
      (.ok id, { g with
        terminals := g.terminals.push terminal
        terminalIndex := (spec, id) :: g.terminalIndex })

/-- The symbol of that name, which is entered if it is new. A name that starts in upper case is a
nonterminal, any other a terminal. -/
def symbol (g : Grammar) (name : String) : Except Fault Symbol × Grammar :=
  match name.toList with
  | [] => (.error .emptySymbolName, g)
  | c :: _ =>
    if Text.isUppercase c then
      let (id, g) := g.nonterminalId name
      (.ok (.nonterminal id), g)
    else
      let (result, g) := g.terminalId name
      (result.map .terminal, g)

/-- The grammar in which every nonterminal among the symbols counts as referenced. -/
def reference (g : Grammar) (symbols : List Symbol) : Grammar :=
  { g with
    nonterminals := (symbols.filterMap Symbol.nonterminal?).foldl
      (fun nonterminals id => nonterminals.modify id fun n => { n with referenced := true })
      g.nonterminals }

/-- The first of the productions that is empty. -/
def emptyAmong? (g : Grammar) (ids : List ProductionId) : Option ProductionId :=
  ids.find? fun id => g.productions[id]?.any (·.isEmpty)

/-- The id of a new production of the nonterminal. A second empty production is not entered; the id
of the first stands for it. -/
def addProduction (g : Grammar) (lhs : NonterminalId) (symbols : List Symbol) :
    Except GrammarError ProductionId × Grammar :=
  match g.nonterminals[lhs]? with
  | none => (.error (.ofFault (.unknownNonterminal lhs)), g)
  | some nonterminal =>
    if !symbols.all g.knows then
      (.error ⟨.unregisteredSymbol nonterminal.name, nonterminal.place⟩, g)
    else
      match if symbols.isEmpty then g.emptyAmong? (g.productionsOf lhs) else none with
      | some id => (.ok id, g)
      | none =>
        let id := g.productions.size
        let g := g.reference symbols
        (.ok id, { g with
          productions := g.productions.push ⟨id, lhs, symbols⟩
          byLhs := g.byLhs.modify lhs (· ++ [id]) })

/-- The symbols of these names, entered from left to right up to the first that cannot be read. -/
def symbols (g : Grammar) : List String → Except Fault (List Symbol) × Grammar
  | [] => (.ok [], g)
  | name :: names =>
    match g.symbol name with
    | (.error fault, g) => (.error fault, g)
    | (.ok first, g) =>
      match symbols g names with
      | (.ok rest, g) => (.ok (first :: rest), g)
      | (.error fault, g) => (.error fault, g)

/-- The id of a new production, given by names. The left-hand side is defined, and the symbols of
the right-hand side are entered, even where the rule itself is refused. -/
def addRule (g : Grammar) (lhs : String) (names : List String) :
    Except GrammarError ProductionId × Grammar :=
  let (id, g) := g.define lhs
  match g.symbols names with
  | (.error fault, g) => (.error (.ofFault fault), g)
  | (.ok symbols, g) => g.addProduction id symbols

/-- What an operation answers, with the grammar after it, for a caller that goes no further once an
operation has been refused. -/
def accepted {ε α : Type} (result : Except ε α × Grammar) : Except ε (α × Grammar) :=
  result.1.map fun answer => (answer, result.2)

/-- The grammar of these rules, up to the first that is refused. -/
def ofRules (rules : List (String × List String)) : Except GrammarError Grammar :=
  rules.foldlM (fun g rule => (accepted (g.addRule rule.1 rule.2)).map (·.2)) empty

end ChartParser.Grammar
