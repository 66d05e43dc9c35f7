import ChartParser.Grammar.Basic

/-!
# Well-formed grammars

A grammar can be parsed with once every nonterminal is referenced, has productions, is not its own
right-hand side, derives some terminal string and is reachable from the root. The conditions are
checked in this order, each for the nonterminals in the order of their ids, so that a grammar has
one first fault.
-/

namespace ChartParser.Grammar

/-- The set that a growing step reaches: the step is repeated until it adds nothing, at most
`rounds` times. -/
def saturate (step : List Nat → List Nat) : Nat → List Nat → List Nat
  | 0, set => set
  | rounds + 1, set =>
    let next := step set
    if next.length = set.length then set else saturate step rounds next

/-- A set with one more member. -/
def insertNew (set : List Nat) (id : Nat) : List Nat := if id ∈ set then set else id :: set

/-- Whether every nonterminal on the right-hand side is in the set. -/
def withinSet (set : List NonterminalId) (production : Production) : Bool :=
  production.symbols.all fun
    | .terminal _ => true
    | .nonterminal id => id ∈ set

/-- One round over all productions: a left-hand side joins as soon as its right-hand side is
within. -/
def productiveRound (g : Grammar) (set : List NonterminalId) : List NonterminalId :=
  g.productions.toList.foldl
    (fun set production => if withinSet set production then insertNew set production.lhs else set)
    set

/-- The nonterminals that derive some terminal string. -/
def productive (g : Grammar) : List NonterminalId :=
  saturate g.productiveRound (g.nonterminals.size + 1) []

/-- How far a search has come: the nonterminals met so far, and those of them that are still to be
followed, in the order in which they were met. -/
structure Search where
  met : List NonterminalId
  queue : List NonterminalId

/-- The search once it meets a nonterminal, which joins the queue if it is new. -/
def Search.meet (search : Search) (id : NonterminalId) : Search :=
  if id ∈ search.met then search else ⟨id :: search.met, search.queue ++ [id]⟩

/-- The nonterminals on the right-hand sides of a nonterminal, one production after the other. -/
def mentionedBy (g : Grammar) (id : NonterminalId) : List NonterminalId :=
  (g.productionsOf id).flatMap fun rule =>
    (g.productions[rule]?.map (·.symbols.filterMap Symbol.nonterminal?)).getD []

/-- The nonterminals met once the queue is empty, where at most `steps` nonterminals are followed.
-/
def searchFrom (g : Grammar) : Nat → Search → List NonterminalId
  | 0, search => search.met
  | steps + 1, search =>
    match search.queue with
    | [] => search.met
    | id :: queue =>
      searchFrom g steps ((g.mentionedBy id).foldl Search.meet { search with queue })

/-- The nonterminals that can be reached from the root through right-hand sides, found breadth
first. No nonterminal is followed twice. -/
def reachable (g : Grammar) (root : NonterminalId) : List NonterminalId :=
  g.searchFrom g.nonterminals.size ⟨[root], [root]⟩

/-- The error that the first nonterminal without the property gives rise to. -/
def require (g : Grammar) (property : NonterminalId → Nonterminal → Bool)
    (fault : String → Fault) : Except GrammarError Unit :=
  match g.nonterminals.toList.zipIdx.find? fun (nonterminal, id) => !property id nonterminal with
  | some (nonterminal, _) => .error ⟨fault nonterminal.name, nonterminal.place⟩
  | none => .ok ()

/-- Whether some production of the nonterminal is the nonterminal itself. -/
def hasLoop (g : Grammar) (id : NonterminalId) : Bool :=
  (g.productionsOf id).any fun rule => g.productions[rule]?.any (·.isLoop)

/-- The name of a nonterminal, empty for an unknown one. -/
def nonterminalName (g : Grammar) (id : NonterminalId) : String :=
  (g.symbolName? (.nonterminal id)).getD ""

/-- The first fault of the grammar, if it has one. -/
def check (g : Grammar) : Except GrammarError Unit :=
  match g.root? with
  | none => .error (.ofFault .noNonterminals)
  | some root => do
    g.require (fun id nonterminal => nonterminal.referenced || id == root) .neverReferenced
    g.require (fun id _ => !(g.productionsOf id).isEmpty) .noProductions
    g.require (fun id _ => !g.hasLoop id) .derivesItself
    let productive := g.productive
    g.require (fun id _ => id ∈ productive) .unproductive
    let reachable := g.reachable root
    g.require (fun id _ => id ∈ reachable) (.unreachable · (g.nonterminalName root))

end ChartParser.Grammar
