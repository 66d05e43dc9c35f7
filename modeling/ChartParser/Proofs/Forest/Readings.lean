import ChartParser.Proofs.Forest.Licence

/-!
# Reading a forest

A row of nodes over adjacent spans is read in two ways. `Splices` puts the nodes below progress
nodes in their place, so that only nodes of symbols are left. `Unfolds` follows one family of every
node down to the tokens and gives derivations. In a licensed arena the first spells out the symbols
of the row (`Splices.covers`), and the second derives them (`Unfolds.spells`). Both hold whether or
not the forest has cycles, because each reading is finite.
-/

namespace ChartParser.Arena

variable {g : Grammar} {fits : Nat → TerminalId → Bool} {arena : Arena}
  {production : Production} {id : ProductionId} {start middle stop position dot : Nat}

/-- The nodes stand for the symbols over adjacent spans from `start` to `stop`. -/
inductive Row (g : Grammar) (arena : Arena) : List NodeId → List Symbol → Nat → Nat → Prop
  | nil {start : Nat} : Row g arena [] [] start start
  | cons {id : NodeId} {label : Label} {ids : List NodeId} {symbols : List Symbol}
      {start middle stop : Nat} (key : arena.key? id = some ⟨⟨start, middle⟩, label⟩)
      (rest : Row g arena ids symbols middle stop) :
      Row g arena (id :: ids) (label.symbols g ++ symbols) start stop

/-- The nodes, one for each symbol, cover adjacent spans from `start` to `stop`. -/
inductive Covers (arena : Arena) : List NodeId → List Symbol → Nat → Nat → Prop
  | nil {start : Nat} : Covers arena [] [] start start
  | cons {id : NodeId} (symbol : Symbol) {ids : List NodeId} {symbols : List Symbol}
      {start middle stop : Nat}
      (key : arena.key? id = some ⟨⟨start, middle⟩, symbol.labelAt start⟩)
      (rest : Covers arena ids symbols middle stop) :
      Covers arena (id :: ids) (symbol :: symbols) start stop

/-- Adjacent nodes cover adjacent spans. -/
theorem Covers.append {left right : List NodeId} {first second : List Symbol}
    (before : arena.Covers left first start middle)
    (after : arena.Covers right second middle stop) :
    arena.Covers (left ++ right) (first ++ second) start stop := by
  induction before with
  | nil => exact after
  | cons symbol key _ ih => exact .cons symbol key (ih after)

/-- A single node is a row of its own. -/
theorem Row.single {node : NodeId} {label : Label}
    (key : arena.key? node = some ⟨⟨start, stop⟩, label⟩) :
    Row g arena [node] (label.symbols g) start stop := by
  simpa using Row.cons (g := g) key .nil

/-- The children of a step are a row of the symbols that the step has taken. -/
theorem row_of_joins {span : Span} {children : Children}
    (found : g.productions[id]? = some production)
    (joins : children.Joins arena production id dot span) :
    Row g arena children.toList (production.symbols.take dot) span.start span.stop := by
  cases joins with
  | empty _ => simpa [Children.toList] using Row.nil
  | @first symbol _ _ _ alone key =>
    have row := Row.single (g := g) key
    rw [Label.symbols_labelAt] at row
    simpa [alone, Children.toList] using row
  | next next labelled leftKey rightKey =>
    have row := Row.cons (g := g) leftKey (Row.single rightKey)
    rw [Label.symbols_labelAt,
      production.symbols_labelAt? found (Production.lt_of_symbolAt? next) labelled] at row
    rw [Production.take_succ next]
    exact row

/-- A family of a node is a step of a production, and its children are a row of the symbols that the
node stands for: all symbols of a production of its nonterminal, or the first ones. -/
theorem Licensed.row (licensed : arena.Licensed g fits position) {node : Node} {self : NodeId}
    {family : Family} (found : arena.nodes[self]? = some node) (inside : family ∈ node.families) :
    ∃ production dot, g.productions[family.production]? = some production ∧
      node.label = production.ownLabel family.production dot ∧
      Row g arena family.children.toList (production.symbols.take dot)
        node.span.start node.span.stop := by
  obtain ⟨production, dot, known, label, joins⟩ := licensed.family found inside
  exact ⟨production, dot, known, label, row_of_joins known joins⟩

/-- The nodes of a row exist. -/
theorem Row.lt_size {ids : List NodeId} {symbols : List Symbol}
    (row : Row g arena ids symbols start stop) : ∀ id ∈ ids, id < arena.size := by
  induction row with
  | nil => simp
  | cons key _ ih =>
    exact List.forall_mem_cons.2 ⟨lt_size_of_key key, ih⟩

/-- The children of all families exist. -/
def Closed (arena : Arena) : Prop :=
  ∀ {id : NodeId} {node : Node} {family : Family} {child : NodeId}, arena.nodes[id]? = some node →
    family ∈ node.families → child ∈ family.children.toList → child < arena.size

/-- The children of all families of a licensed arena exist. -/
theorem Licensed.closed (licensed : arena.Licensed g fits position) : arena.Closed := by
  intro _ _ _ child found inside below
  obtain ⟨_, _, -, -, row⟩ := licensed.row found inside
  exact row.lt_size child below

/-- A family of a node of a nonterminal is a production of that nonterminal. -/
theorem Licensed.row_of_nonterminal (licensed : arena.Licensed g fits position) {node : Node}
    {self : NodeId} {family : Family} {nonterminal : NonterminalId}
    (found : arena.nodes[self]? = some node) (label : node.label = .nonterminal nonterminal)
    (inside : family ∈ node.families) :
    ∃ production, g.productions[family.production]? = some production ∧
      production.lhs = nonterminal ∧
      Row g arena family.children.toList production.symbols node.span.start node.span.stop := by
  obtain ⟨production, dot, known, own, row⟩ := licensed.row found inside
  rw [label, Production.ownLabel] at own
  split at own
  · rename_i whole
    rw [whole, Production.length, List.take_length] at row
    exact ⟨production, known, (Label.nonterminal.inj own).symm, row⟩
  · simp at own

/-- A family of a progress node is a step of its production. -/
theorem Licensed.row_of_progress (licensed : arena.Licensed g fits position) {node : Node}
    {self : NodeId} {family : Family} {nonterminal : NonterminalId} {rule : ProductionId}
    {dot : Nat} (found : arena.nodes[self]? = some node)
    (label : node.label = .progress nonterminal rule dot) (inside : family ∈ node.families) :
    family.production = rule ∧
      ∃ production, g.productions[rule]? = some production ∧ production.lhs = nonterminal ∧
        Row g arena family.children.toList (production.symbols.take dot)
          node.span.start node.span.stop := by
  obtain ⟨production, reached, known, own, row⟩ := licensed.row found inside
  rw [label, Production.ownLabel] at own
  split at own
  · simp at own
  · obtain ⟨rfl, rfl, rfl⟩ := Label.progress.inj own
    exact ⟨rfl, production, known, rfl, row⟩

/-! ## Splicing -/

/-- Putting the nodes below progress nodes in their place turns the first row into the second. -/
inductive Splices (arena : Arena) : List NodeId → List NodeId → Prop
  | nil : Splices arena [] []
  | keep {id : NodeId} {node : Node} {ids spliced : List NodeId}
      (found : arena.nodes[id]? = some node) (kept : node.isProgress = false)
      (rest : Splices arena ids spliced) : Splices arena (id :: ids) (id :: spliced)
  | splice {id : NodeId} {node : Node} {family : Family} {ids inner spliced : List NodeId}
      (found : arena.nodes[id]? = some node) (progress : node.isProgress = true)
      (inside : family ∈ node.families) (below : Splices arena family.children.toList inner)
      (rest : Splices arena ids spliced) : Splices arena (id :: ids) (inner ++ spliced)

/-- A spliced row spells out the symbols that the row stands for. -/
theorem Splices.covers (licensed : arena.Licensed g fits position) {ids spliced : List NodeId}
    {symbols : List Symbol} (splices : arena.Splices ids spliced)
    (row : Row g arena ids symbols start stop) : arena.Covers spliced symbols start stop := by
  induction splices generalizing symbols start stop with
  | nil =>
    cases row
    exact .nil
  | @keep _ node _ _ found kept _ ih =>
    cases row with
    | @cons _ label _ _ _ middle _ key rest =>
    have same : node.key = ⟨⟨start, middle⟩, label⟩ := key_eq found key
    cases label with
    | nonterminal other => exact .cons (.nonterminal other) key (ih rest)
    | token terminal index =>
      obtain ⟨span, -, -⟩ := licensed.token found (by rw [Node.label, same])
      obtain ⟨rfl, -⟩ : start = index ∧ middle = index + 1 := by simpa [Node.span, same] using span
      exact .cons (.terminal terminal) key (ih rest)
    | progress _ _ _ => simp [Node.isProgress, Node.label, same] at kept
  | @splice _ node _ _ _ _ found progress inside _ _ below ih =>
    cases row with
    | @cons _ label _ _ _ middle _ key rest =>
    have same : node.key = ⟨⟨start, middle⟩, label⟩ := key_eq found key
    cases label with
    | nonterminal _ => simp [Node.isProgress, Node.label, same] at progress
    | token _ _ => simp [Node.isProgress, Node.label, same] at progress
    | progress nonterminal rule dot =>
      obtain ⟨-, production, known, -, inner⟩ :=
        licensed.row_of_progress found (by rw [Node.label, same]) inside
      rw [Node.span, same] at inner
      rw [show Label.symbols g (.progress nonterminal rule dot) = production.symbols.take dot by
        simp [Label.symbols, known]]
      exact (below inner).append (ih rest)

/-! ## Unfolding -/

/-- Following one family of every node turns a row of nodes into derivations. -/
inductive Unfolds (arena : Arena) : List NodeId → List Derivation → Prop
  | nil : Unfolds arena [] []
  | token {id : NodeId} {node : Node} {terminal : TerminalId} {index : Nat} {ids : List NodeId}
      {derivations : List Derivation} (found : arena.nodes[id]? = some node)
      (label : node.label = .token terminal index) (rest : Unfolds arena ids derivations) :
      Unfolds arena (id :: ids) (.token terminal index :: derivations)
  | branch {id : NodeId} {node : Node} {nonterminal : NonterminalId} {family : Family}
      {ids : List NodeId} {children derivations : List Derivation}
      (found : arena.nodes[id]? = some node) (label : node.label = .nonterminal nonterminal)
      (inside : family ∈ node.families) (below : Unfolds arena family.children.toList children)
      (rest : Unfolds arena ids derivations) :
      Unfolds arena (id :: ids) (.branch family.production node.span children :: derivations)
  | progress {id : NodeId} {node : Node} {nonterminal : NonterminalId} {rule : ProductionId}
      {dot : Nat} {family : Family} {ids : List NodeId} {first derivations : List Derivation}
      (found : arena.nodes[id]? = some node) (label : node.label = .progress nonterminal rule dot)
      (inside : family ∈ node.families) (below : Unfolds arena family.children.toList first)
      (rest : Unfolds arena ids derivations) : Unfolds arena (id :: ids) (first ++ derivations)

/-- What a row unfolds to derives the symbols that the row stands for. -/
theorem Unfolds.spells (licensed : arena.Licensed g fits position) {ids : List NodeId}
    {symbols : List Symbol} {derivations : List Derivation}
    (unfolds : arena.Unfolds ids derivations) (row : Row g arena ids symbols start stop) :
    g.Spells fits symbols start stop derivations := by
  induction unfolds generalizing symbols start stop with
  | nil =>
    cases row
    exact .nil
  | @token _ node terminal index _ _ found label _ ih =>
    cases row with
    | @cons _ other _ _ _ middle _ key rest =>
    have same : node.key = ⟨⟨start, middle⟩, other⟩ := key_eq found key
    obtain rfl : other = .token terminal index := by simpa [Node.label, same] using label
    obtain ⟨span, fit, -⟩ := licensed.token found label
    obtain ⟨rfl, rfl⟩ : start = index ∧ middle = index + 1 := by simpa [Node.span, same] using span
    exact .token fit (ih rest)
  | @branch _ node nonterminal _ _ _ _ found label inside _ _ below ih =>
    cases row with
    | @cons _ other _ _ _ middle _ key rest =>
    have same : node.key = ⟨⟨start, middle⟩, other⟩ := key_eq found key
    obtain rfl : other = .nonterminal nonterminal := by simpa [Node.label, same] using label
    obtain ⟨production, known, rfl, inner⟩ := licensed.row_of_nonterminal found label inside
    rw [Node.span, same] at inner ⊢
    exact .branch known (below inner) (ih rest)
  | @progress _ node nonterminal rule dot _ _ _ _ found label inside _ _ below ih =>
    cases row with
    | @cons _ other _ _ _ middle _ key rest =>
    have same : node.key = ⟨⟨start, middle⟩, other⟩ := key_eq found key
    obtain rfl : other = .progress nonterminal rule dot := by simpa [Node.label, same] using label
    obtain ⟨-, production, known, -, inner⟩ := licensed.row_of_progress found label inside
    rw [Node.span, same] at inner
    rw [show Label.symbols g (.progress nonterminal rule dot) = production.symbols.take dot by
      simp [Label.symbols, known]]
    exact (below inner).append (ih rest)

/-- Adjacent rows unfold side by side. -/
theorem Unfolds.append {left right : List NodeId} {first second : List Derivation}
    (before : arena.Unfolds left first) (after : arena.Unfolds right second) :
    arena.Unfolds (left ++ right) (first ++ second) := by
  induction before with
  | nil => exact after
  | token found label _ ih => exact .token found label ih
  | branch found label inside below _ _ ih => exact .branch found label inside below ih
  | progress found label inside below _ _ ih =>
    rw [List.append_assoc]
    exact .progress found label inside below ih

/-- What a row unfolds to is what its first node unfolds to and then what the others do. -/
theorem Unfolds.exists_of_cons {first : NodeId} {ids : List NodeId}
    {derivations : List Derivation} (unfolds : arena.Unfolds (first :: ids) derivations) :
    ∃ before after, derivations = before ++ after ∧ arena.Unfolds [first] before ∧
      arena.Unfolds ids after := by
  cases unfolds with
  | token found label rest => exact ⟨[_], _, rfl, .token found label .nil, rest⟩
  | branch found label inside below rest =>
    exact ⟨[_], _, rfl, .branch found label inside below .nil, rest⟩
  | progress found label inside below rest =>
    refine ⟨_, _, rfl, ?_, rest⟩
    simpa using Unfolds.progress found label inside below .nil

end ChartParser.Arena
