import ChartParser.Chart.Item

/-!
# Charts

A chart has a column of items for every position in the sentence. Only the last column grows; it
is visited from the front while it does, so that items added by a visit are visited too. A
nonterminal that is finished without a token where it began is remembered, because items that ask
for it may come later than the item that finished it.
-/

namespace ChartParser

/-- The items at one position, in the order they were added. -/
abbrev Column := Array Item

/-- The columns of a parse up to the current position, and the forest built so far. -/
structure Chart where
  /-- The columns before the current position. -/
  finished : Array Column
  /-- The column at the current position. -/
  column : Column
  arena : Arena
  /-- The nonterminals finished at the current position without a token, with their nodes. -/
  nullable : List (NonterminalId × NodeId)
  /-- The items that wait for a terminal which the next token fits. -/
  scannable : Array (Item × TerminalId)
deriving DecidableEq, Repr

namespace Chart

/-- The chart before the first item. -/
def empty : Chart := ⟨#[], #[], Arena.empty, [], #[]⟩

/-- The number of tokens passed. -/
def position (chart : Chart) : Nat := chart.finished.size

/-- The chart with an item in the current column, unless the column has it already. -/
def add (chart : Chart) (item : Item) : Chart :=
  if chart.column.any (· == item) then chart else { chart with column := chart.column.push item }

/-- An item added is in the current column, and all items there before stay. -/
theorem mem_add {chart : Chart} {item other : Item} :
    other ∈ (chart.add item).column ↔ other ∈ chart.column ∨ other = item := by
  rw [add]
  split
  · rename_i present
    simp only [Array.any_eq_true, beq_iff_eq] at present
    obtain ⟨index, inside, same⟩ := present
    constructor
    · exact Or.inl
    · rintro (old | rfl)
      · exact old
      · exact same ▸ Array.getElem_mem inside
  · simp

/-- The chart with an item for each production of the nonterminal. -/
def predictAll (g : Grammar) (nonterminal : NonterminalId) (chart : Chart) : Chart :=
  (g.productionsOf nonterminal).foldl
    (fun chart production => chart.add (.predicted production chart.position)) chart

/-- The chart in which an item has been taken past a symbol with this node. -/
def advance (g : Grammar) (item : Item) (child : NodeId) (chart : Chart) : Chart :=
  let (node, arena) := item.nodeAfter g chart.arena chart.position child
  { chart with arena }.add (item.advanced node)

/-- The chart in which an item has been taken past a nonterminal, if that is what it waits for. -/
def resume (g : Grammar) (nonterminal : NonterminalId) (child : NodeId) (item : Item)
    (chart : Chart) : Chart :=
  if item.awaited? g = some (.nonterminal nonterminal) then chart.advance g item child else chart

/-- The chart after a step for each item of the current column from `index` on, items added by the
steps included, but for at most `limit` items. -/
def visitFrom (step : Item → Chart → Chart) : Nat → Nat → Chart → Chart
  | 0, _, chart => chart
  | limit + 1, index, chart =>
    match chart.column[index]? with
    | none => chart
    | some item => visitFrom step limit (index + 1) (step item chart)

/-- The number of places in the productions of the grammar where a dot can stand. -/
def dotPlaces (g : Grammar) : Nat :=
  g.productions.foldl (fun total production => total + (production.length + 1)) 0

/-- The number of items that the current column can have: one for each place of a dot and each
origin. -/
def capacity (g : Grammar) (chart : Chart) : Nat := dotPlaces g * (chart.position + 1)

/-- The chart after a step for each item of the current column, items added by the steps included.
-/
def visit (g : Grammar) (step : Item → Chart → Chart) (chart : Chart) : Chart :=
  visitFrom step (chart.capacity g) 0 chart

/-- The chart in which every item at `origin` that waits for the nonterminal has been taken past
it. -/
def resumeAll (g : Grammar) (nonterminal : NonterminalId) (child : NodeId) (origin : Nat)
    (chart : Chart) : Chart :=
  match chart.finished[origin]? with
  | some column => column.foldl (fun chart item => chart.resume g nonterminal child item) chart
  | none => chart.visit g (resume g nonterminal child)

/-- The chart in which a finished nonterminal without a token is remembered. The first node for it
is kept. -/
def rememberNullable (nonterminal : NonterminalId) (node : NodeId) (chart : Chart) : Chart :=
  match chart.nullable.lookup nonterminal with
  | some _ => chart
  | none => { chart with nullable := (nonterminal, node) :: chart.nullable }

/-- The node of a finished item. Only an empty production is finished without one. -/
def finishedNode (item : Item) (nonterminal : NonterminalId) (chart : Chart) : NodeId × Chart :=
  match item.node with
  | some node => (node, chart)
  | none =>
    let (node, arena) :=
      chart.arena.nodeFor ⟨⟨chart.position, chart.position⟩, .nonterminal nonterminal⟩
    (node, { chart with arena := arena.addFamily node ⟨item.production, .empty⟩ })

/-- The chart after an item whose production is finished. -/
def complete (g : Grammar) (item : Item) (chart : Chart) : Chart :=
  match g.productions[item.production]? with
  | none => chart
  | some production =>
    let (node, chart) := chart.finishedNode item production.lhs
    let chart :=
      if item.origin = chart.position then chart.rememberNullable production.lhs node else chart
    chart.resumeAll g production.lhs node item.origin

/-- The chart after an item that waits for a nonterminal. If that has been finished here without a
token, the item is taken past it at once. -/
def predict (g : Grammar) (item : Item) (nonterminal : NonterminalId) (chart : Chart) : Chart :=
  let chart := chart.predictAll g nonterminal
  match chart.nullable.lookup nonterminal with
  | some node => chart.advance g item node
  | none => chart

/-- The chart after an item that waits for a terminal: the item is kept for the next token, if that
fits. -/
def await (fits : TerminalId → Bool) (item : Item) (terminal : TerminalId) (chart : Chart) :
    Chart :=
  if fits terminal then { chart with scannable := chart.scannable.push (item, terminal) } else chart

/-- The chart after an item, whatever it waits for. -/
def process (g : Grammar) (fits : TerminalId → Bool) (item : Item) (chart : Chart) : Chart :=
  match item.awaited? g with
  | none => chart.complete g item
  | some (.nonterminal nonterminal) => chart.predict g item nonterminal
  | some (.terminal terminal) => chart.await fits item terminal

/-- The chart whose current column is closed under prediction and completion. -/
def close (g : Grammar) (fits : TerminalId → Bool) (chart : Chart) : Chart :=
  chart.visit g (process g fits)

/-- The chart at the next position: the items that waited for the token have been taken past it. -/
def scan (g : Grammar) (chart : Chart) : Chart :=
  let index := chart.position
  chart.scannable.foldl
    (fun next (item, terminal) =>
      let (leaf, arena) := next.arena.nodeFor ⟨⟨index, index + 1⟩, .token terminal index⟩
      { next with arena }.advance g item leaf)
    { finished := chart.finished.push chart.column
      column := #[]
      arena := chart.arena.forgetRecent
      nullable := []
      scannable := #[] }

/-- Whether the item is a finished production of the nonterminal from the first token on. -/
def isAccepting (g : Grammar) (root : NonterminalId) (item : Item) : Bool :=
  match g.productions[item.production]? with
  | some production =>
    production.lhs == root && item.dot == production.length && item.origin == 0
  | none => false

/-- The node for the whole sentence, if the nonterminal has been recognized from the first token to
the current position. An item without a node stands for an empty sentence, whose node was made when
the item was finished. -/
def accepted? (g : Grammar) (root : NonterminalId) (chart : Chart) : Option (NodeId × Arena) :=
  match chart.column.find? (isAccepting g root) with
  | none => none
  | some item =>
    match item.node with
    | some node => some (node, chart.arena)
    | none => some (chart.arena.nodeFor ⟨⟨0, 0⟩, .nonterminal root⟩)

end Chart

end ChartParser
