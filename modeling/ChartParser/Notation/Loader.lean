import ChartParser.Grammar.Check
import ChartParser.Grammar.Entry
import ChartParser.Notation.Lexeme

/-!
# Reading a grammar

A grammar text is read line by line. A line with an arrow starts the rule of a nonterminal, a line
that begins with a bar adds alternatives to the rule above. A repeated symbol stands for a
nonterminal of its own, which is defined where it is first used. After the last line the grammar
is checked.
-/

namespace ChartParser

namespace Notation

/-- How far a grammar has been read: what was entered, and the rule that a bar continues. -/
structure Loading where
  grammar : Grammar
  current : Option NonterminalId
deriving DecidableEq, Repr

namespace Loading

/-- The state before the first line. -/
def start : Loading := ⟨Grammar.empty, none⟩

end Loading

/-- The symbol of that name, entered at a place. -/
def resolve (place : Location) (g : Grammar) (name : String) :
    Except GrammarError (Symbol × Grammar) :=
  match g.symbol name with
  | (.ok symbol, g) => .ok (symbol, g)
  | (.error fault, _) => .error ⟨fault, place⟩

/-- The name of the nonterminal that a repeated symbol stands for. -/
def repeatedName (name : String) (repetition : Repetition) : String :=
  name.push repetition.sign

/-- The two right-hand sides of the nonterminal `whole` that repeats `base`. -/
def repeatedSides (repetition : Repetition) (whole base : Symbol) : List Symbol × List Symbol :=
  match repetition with
  | .atMostOnce => ([base], [])
  | .anyNumber => ([whole, base], [])
  | .atLeastOnce => ([whole, base], [base])

/-- The nonterminal that a repeated symbol stands for, defined at its first use. -/
def repeated (place : Location) (g : Grammar) (name : String) (repetition : Repetition) :
    Except GrammarError (NonterminalId × Grammar) :=
  match g.findNonterminal? (repeatedName name repetition) with
  | some id => .ok (id, g)
  | none => do
    let (base, g) ← resolve place g name
    let (id, g) := g.defineAt (repeatedName name repetition) place
    let (first, second) := repeatedSides repetition (.nonterminal id) base
    let (_, g) ← Grammar.accepted (g.addProduction id first)
    let (_, g) ← Grammar.accepted (g.addProduction id second)
    return (id, g)

/-- The symbol that a written symbol stands for. A `0` stands for none. -/
def resolveWritten (place : Location) (g : Grammar) (written : WrittenSymbol) :
    Except GrammarError (Symbol × Grammar) :=
  if written.name = "0" then .error ⟨.emptyMarkNotAlone, place⟩
  else
    match written.repetition with
    | none => resolve place g written.name
    | some repetition =>
      (repeated place g written.name repetition).map fun (id, g) => (.nonterminal id, g)

/-- The symbols that written symbols stand for, entered from left to right. -/
def resolveAll (place : Location) (g : Grammar) :
    List WrittenSymbol → Except GrammarError (List Symbol × Grammar)
  | [] => .ok ([], g)
  | written :: rest => do
    let (first, g) ← resolveWritten place g written
    let (others, g) ← resolveAll place g rest
    return (first :: others, g)

/-- The grammar with one more alternative of a nonterminal. A `0` alone is the empty one. -/
def addAlternative (place : Location) (lhs : NonterminalId) (g : Grammar)
    (alternative : List WrittenSymbol) : Except GrammarError Grammar := do
  let (symbols, g) ←
    if alternative = [⟨"0", none⟩] then pure ([], g) else resolveAll place g alternative
  match g.addProduction lhs symbols with
  | (.ok _, g) => .ok g
  | (.error error, _) => .error (error.movedTo place)

/-- The state after the right-hand side of a rule. A right-hand side of white space leaves all
alternatives to the lines below. -/
def readAlternatives (place : Location) (loading : Loading) (lhs : NonterminalId)
    (rhs : List Char) : Except GrammarError Loading :=
  if (Text.trim rhs).isEmpty then .ok loading
  else
    match alternatives rhs with
    | .error fault => .error ⟨fault, place⟩
    | .ok alternatives =>
      (alternatives.foldlM (addAlternative place lhs) loading.grammar).map fun grammar =>
        { loading with grammar }

/-- The nonterminal of that name if it has been defined. -/
def definedAs? (g : Grammar) (name : String) : Option Nonterminal :=
  ((g.findNonterminal? name).bind (g.nonterminals[·]?)).filter (·.defined)

/-- The state after a line whose comment and outer white space are gone. -/
def readContent (place : Location) (loading : Loading) (content : List Char) :
    Except GrammarError Loading :=
  match content with
  | [] => .ok loading
  | '|' :: rhs =>
    match loading.current with
    | some lhs => readAlternatives place loading lhs rhs
    | none => .error ⟨.continuationOutsideRule, place⟩
  | content =>
    match ruleFront? content with
    | none => .error ⟨.expectedRule (String.ofList content), place⟩
    | some (name, rhs) =>
      let name := String.ofList name
      match definedAs? loading.grammar name with
      | some nonterminal => .error ⟨.alreadyDefined name nonterminal.place.line, place⟩
      | none =>
        let (lhs, grammar) := loading.grammar.defineAt name place
        readAlternatives place ⟨grammar, some lhs⟩ lhs rhs

/-- The state after one more line of a file. -/
def readLine (file : Option String) (loading : Loading) (line : String × Nat) :
    Except GrammarError Loading :=
  readContent ⟨file, some line.2⟩ loading (Text.trim (beforeComment none line.1.toList))

end Notation

namespace Grammar

open Notation

/-- The grammar that a source text describes, before it is checked. -/
def ofSourceUnchecked (file : Option String) (source : String) : Except GrammarError Grammar :=
  ((Text.numberedLines source).foldlM (readLine file) Loading.start).map (·.grammar)

/-- The well-formed grammar that a source text describes. -/
def ofSource (file : Option String) (source : String) : Except GrammarError Grammar := do
  let g ← ofSourceUnchecked file source
  g.check
  return g

end Grammar

end ChartParser
