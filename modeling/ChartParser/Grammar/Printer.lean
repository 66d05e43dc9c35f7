import ChartParser.Grammar.Basic

/-!
# Grammars as text

A grammar is printed in the notation it can be read from: a comment naming the root, then for each
nonterminal that has productions its alternatives, one to a line. A lone `0` is the empty
alternative.
-/

namespace ChartParser.Grammar

/-- The text of a right-hand side with these symbol names. -/
def alternativeText (names : List String) : String :=
  if names.isEmpty then "0" else " ".intercalate names

/-- The text of the right-hand side of a production, if all of it is known. -/
def productionText? (g : Grammar) (id : ProductionId) : Option String := do
  let production ← g.productions[id]?
  let names ← production.symbols.mapM g.symbolName?
  return alternativeText names

/-- The lines of a nonterminal with these alternatives. -/
def ruleText (name : String) (alternatives : List String) : String :=
  name ++ " ->" ++ "\n  |".intercalate (alternatives.map (" " ++ ·)) ++ "\n"

/-- The text of the rules of a nonterminal, nothing if it has none. -/
def rulesOf (g : Grammar) (id : NonterminalId) (nonterminal : Nonterminal) : String :=
  if (g.productionsOf id).isEmpty then ""
  else ruleText nonterminal.name ((g.productionsOf id).filterMap g.productionText?)

/-- The comment that names the root. -/
def rootLine (g : Grammar) : String :=
  match g.root?.bind (g.nonterminals[·]?) with
  | some root => "# root: " ++ root.name ++ "\n"
  | none => ""

/-- The text of the grammar. -/
def render (g : Grammar) : String :=
  g.rootLine ++
    String.join (g.nonterminals.toList.zipIdx.map fun entry => g.rulesOf entry.2 entry.1)

end ChartParser.Grammar
