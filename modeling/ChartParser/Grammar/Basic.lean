import ChartParser.Morphology.Terminal

/-!
# Grammars

A grammar holds its nonterminals, terminals and productions in the order they were entered, and an
id is a position in that order. Beside these tables it keeps others that must stay in step with
them: an index from names to nonterminals, one from specs to terminals, and for each nonterminal the
list of its own productions. A nonterminal knows where it was first defined, and whether some
right-hand side mentions it. The first nonterminal defined is the root.
-/

namespace ChartParser

/-- The position of a nonterminal in its grammar. -/
abbrev NonterminalId := Nat

/-- The position of a terminal in its grammar. -/
abbrev TerminalId := Nat

/-- The position of a production in its grammar. -/
abbrev ProductionId := Nat

/-- A symbol on the right-hand side of a production. -/
inductive Symbol where
  | terminal (id : TerminalId)
  | nonterminal (id : NonterminalId)
deriving DecidableEq, Repr

namespace Symbol

/-- The nonterminal that the symbol is, if it is one. -/
def nonterminal? : Symbol → Option NonterminalId
  | terminal _ => none
  | nonterminal id => some id

/-- The terminal that the symbol is, if it is one. -/
def terminal? : Symbol → Option TerminalId
  | terminal id => some id
  | nonterminal _ => none

end Symbol

/-- A nonterminal with one of its right-hand sides. The id tells productions apart that are written
alike. -/
@[ext]
structure Production where
  id : ProductionId
  lhs : NonterminalId
  symbols : List Symbol
deriving DecidableEq, Repr

namespace Production

/-- The number of symbols on the right-hand side. -/
def length (production : Production) : Nat := production.symbols.length

/-- The symbol after the first `dot` symbols, if there is one. -/
def symbolAt? (production : Production) (dot : Nat) : Option Symbol := production.symbols[dot]?

/-- Whether the right-hand side is empty. -/
def isEmpty (production : Production) : Bool := production.symbols.isEmpty

/-- Whether the right-hand side is the nonterminal itself. -/
def isLoop (production : Production) : Bool :=
  production.symbols == [.nonterminal production.lhs]

end Production

/-- What a grammar knows about a nonterminal. -/
structure Nonterminal where
  name : String
  /-- Where the nonterminal was first defined. -/
  place : Location
  /-- Whether some right-hand side mentions it. -/
  referenced : Bool
  /-- Whether it was defined, and not only mentioned. -/
  defined : Bool
deriving DecidableEq, Repr

/-- A nonterminal of which only the name is known. -/
def Nonterminal.mentioned (name : String) : Nonterminal :=
  ⟨name, Location.unknown, false, false⟩

/-- A context-free grammar. -/
structure Grammar where
  root? : Option NonterminalId
  nonterminals : Array Nonterminal
  /-- The ids of the nonterminals by name, the latest first. -/
  nonterminalIndex : List (String × NonterminalId)
  terminals : Array Terminal
  /-- The ids of the terminals by spec, the latest first. -/
  terminalIndex : List (String × TerminalId)
  productions : Array Production
  /-- The productions of each nonterminal, in the order entered. -/
  byLhs : Array (List ProductionId)
deriving DecidableEq, Repr

namespace Grammar

/-- The grammar without any symbols. -/
def empty : Grammar := ⟨none, #[], [], #[], [], #[], #[]⟩

/-- The nonterminal of that name. -/
def findNonterminal? (g : Grammar) (name : String) : Option NonterminalId :=
  g.nonterminalIndex.lookup name

/-- The terminal written as that spec. -/
def findTerminal? (g : Grammar) (spec : String) : Option TerminalId :=
  g.terminalIndex.lookup spec

/-- The productions of a nonterminal, in the order entered. -/
def productionsOf (g : Grammar) (id : NonterminalId) : List ProductionId := g.byLhs[id]?.getD []

/-- The symbol after the first `dot` symbols of a production, if there is one. -/
def symbolAt? (g : Grammar) (id : ProductionId) (dot : Nat) : Option Symbol :=
  g.productions[id]?.bind (·.symbolAt? dot)

/-- Whether the symbol has been entered. -/
def knows (g : Grammar) : Symbol → Bool
  | .terminal id => id < g.terminals.size
  | .nonterminal id => id < g.nonterminals.size

/-- The name of a symbol that has been entered. -/
def symbolName? (g : Grammar) : Symbol → Option String
  | .terminal id => g.terminals[id]?.map (·.name)
  | .nonterminal id => g.nonterminals[id]?.map (·.name)

end Grammar

end ChartParser
