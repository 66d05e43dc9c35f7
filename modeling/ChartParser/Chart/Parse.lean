import ChartParser.Chart.Basic
import ChartParser.Grammar.Check
import ChartParser.Morphology.Token

/-!
# Parsing

A sentence is parsed column by column. The parse fails where a column stays empty, at the end if
nothing covers the whole sentence, or as soon as there are more items than its budget allows.
-/

namespace ChartParser

/-- Why a sentence has no forest. -/
inductive ParseError where
  /-- No item survived the token of this number, counting from one. -/
  | deadEnd (number : Nat) (text : String)
  /-- Every token could be passed, but nothing covers them all. -/
  | noParse
  /-- After so many tokens there were too many items. -/
  | tooComplex (passed : Nat) (items : Nat)
deriving DecidableEq, Repr

namespace ParseError

/-- The wording of the failure. -/
def message : ParseError → String
  | deadEnd number text =>
    "no parse available at token " ++ toString number ++ " (" ++ Text.quoted text ++ ")"
  | noParse => "no parse available"
  | tooComplex passed items =>
    "parse abandoned at token " ++ toString passed ++ ": " ++ toString items ++
      " items exceeds budget"

/-- The token that the failure points at, if it points at one. -/
def tokenNumber? : ParseError → Option Nat
  | deadEnd number _ => some number
  | noParse => none
  | tooComplex passed _ => some passed

end ParseError

/-- A well-formed grammar, and the number of items that a parse may make. -/
structure Parser where
  grammar : Grammar
  budget : Option Nat

namespace Parser

variable {τ : Type} [Scannable τ]

/-- The parser of a well-formed grammar, without a budget. -/
def ofGrammar (g : Grammar) : Except GrammarError Parser := do
  g.check
  return ⟨g, none⟩

/-- Whether the token fits the terminal of that id. The answer depends on these two alone, so that
none has to be kept for the other items of a column that expect the same terminal. -/
def tokenFits (g : Grammar) (token : τ) (id : TerminalId) : Bool :=
  g.terminals[id]?.any (Scannable.fits token)

/-- The chart with its current column closed, and the number of items so far. -/
def closeColumn (parser : Parser) (fits : TerminalId → Bool) (total : Nat) (chart : Chart) :
    Except ParseError (Nat × Chart) :=
  let chart := chart.close parser.grammar fits
  let total := total + chart.column.size
  if parser.budget.any (total > ·) then .error (.tooComplex chart.position total)
  else .ok (total, chart)

/-- The chart after all these tokens, where `total` items have been made before its current
column. -/
def readTokens (parser : Parser) : List τ → Nat → Chart → Except ParseError Chart
  | [], total, chart => (parser.closeColumn (fun _ => false) total chart).map (·.2)
  | token :: rest, total, chart => do
    let (total, chart) ← parser.closeColumn (tokenFits parser.grammar token) total chart
    let next := chart.scan parser.grammar
    if next.column.isEmpty then .error (.deadEnd next.position (Scannable.text token))
    else readTokens parser rest total next

/-- The forest of the tokens as the nonterminal of that id. -/
def parseFrom (parser : Parser) (root : NonterminalId) (tokens : List τ) :
    Except ParseError Forest :=
  let start := Chart.empty.predictAll parser.grammar root
  if start.column.isEmpty then .error .noParse
  else
    match parser.readTokens tokens 0 start with
    | .error error => .error error
    | .ok chart =>
      match chart.accepted? parser.grammar root with
      | some (node, arena) => .ok ⟨parser.grammar, arena, node⟩
      | none => .error .noParse

/-- The forest of the tokens as the root of the grammar. -/
def parse (parser : Parser) (tokens : List τ) : Except ParseError Forest :=
  match parser.grammar.root? with
  | some root => parser.parseFrom root tokens
  | none => .error .noParse

end Parser

end ChartParser
