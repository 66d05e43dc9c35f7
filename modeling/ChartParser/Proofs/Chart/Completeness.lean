import ChartParser.Proofs.Chart.Filling

/-!
# Completeness of charts

In a filled chart an item is taken past everything that it can be taken past: wherever the symbols
after its dot cover tokens, the item behind these symbols is in the column where they end, and its
node unfolds to their derivations (`Filled.recognizes`). So the chart misses neither a derivation of
the root (`Filled.accepts`) nor a sentence that only begins with the tokens passed
(`Filled.exists_item`).
-/

namespace ChartParser

variable {g : Grammar} {fits : Nat → TerminalId → Bool} {root : NonterminalId}
  {production : Production} {symbol : Symbol} {symbols : List Symbol}

/-- The symbol after a dot is the first of those that are left. -/
theorem Production.symbolAt?_of_drop {dot : Nat}
    (left : production.symbols.drop dot = symbol :: symbols) :
    production.symbolAt? dot = some symbol := by
  rw [symbolAt?, ← Nat.add_zero dot, ← List.getElem?_drop, left, List.getElem?_cons_zero]

/-- After one more symbol, the others are left. -/
theorem Production.drop_succ {dot : Nat}
    (left : production.symbols.drop dot = symbol :: symbols) :
    production.symbols.drop (dot + 1) = symbols := by
  rw [← List.drop_drop, left, List.drop_one, List.tail_cons]

/-! ## What an item reads -/

namespace Item

variable {arena : Arena} {item : Item} {position middle stop : Nat} {child node : NodeId}
  {derivation : Derivation} {derivations : List Derivation}

/-- The node of the item unfolds to these derivations of the symbols before its dot: to a branch of
them if the item is finished, and else to themselves. -/
def Reads (arena : Arena) (production : Production) (position : Nat) (item : Item)
    (derivations : List Derivation) : Prop :=
  match item.node with
  | none => derivations = []
  | some node =>
    arena.Unfolds [node]
      (if item.dot = production.length then
        [.branch item.production ⟨item.origin, position⟩ derivations]
      else derivations)

/-- An item with nothing recognized reads nothing. -/
theorem Reads.predicted {id : ProductionId} :
    (Item.predicted id position).Reads arena production position [] := rfl

/-- An unfinished item reads what its node unfolds to. -/
theorem reads_iff_of_ne (same : item.node = some node) (unfinished : item.dot ≠ production.length) :
    item.Reads arena production position derivations ↔ arena.Unfolds [node] derivations := by
  rw [Reads, same]
  dsimp only
  rw [if_neg unfinished]

/-- The node of a finished item unfolds to a branch of what the item reads. -/
theorem reads_iff_of_eq (same : item.node = some node) (whole : item.dot = production.length) :
    item.Reads arena production position derivations ↔
      arena.Unfolds [node] [.branch item.production ⟨item.origin, position⟩ derivations] := by
  rw [Reads, same]
  dsimp only
  rw [if_pos whole]

/-- The children that take an item past a symbol unfold to what the item reads and to what the
symbol's node unfolds to. -/
theorem Reads.unfolds_children (reads : item.Reads arena production middle derivations)
    (inside : item.dot < production.length) (below : arena.Unfolds [child] [derivation]) :
    arena.Unfolds (item.childrenWith child).toList (derivations ++ [derivation]) := by
  rw [childrenWith]
  cases same : item.node with
  | none =>
    rw [Reads, same] at reads
    rw [reads]
    exact below
  | some left => exact ((reads_iff_of_ne same (Nat.ne_of_lt inside)).1 reads).append below

/-- An item taken past a symbol also reads what the symbol's node unfolds to. -/
theorem Reads.advanced (reads : item.Reads arena production middle derivations)
    (placed : item.Placed arena middle production) (inside : item.dot < production.length)
    (later : (item.advanced node).Placed arena stop production)
    (joined : item.Joined arena production child node)
    (below : arena.Unfolds [child] [derivation]) :
    (item.advanced node).Reads arena production stop (derivations ++ [derivation]) := by
  have children := reads.unfolds_children inside below
  rw [Item.Joined] at joined
  split at joined
  · rename_i shorter
    have start : item.dot = 0 := by omega
    have unfinished : (item.advanced node).dot ≠ production.length := by
      rw [advanced_dot]
      omega
    rw [Placed, start] at placed
    rw [Reads, placed] at reads
    rw [reads_iff_of_ne advanced_node unfinished, reads, joined]
    exact below
  · rename_i longer
    obtain ⟨known, found, family⟩ := joined
    rw [Placed, advanced_production, advanced_origin, advanced_dot, Production.labelAt?,
      if_neg (Nat.succ_ne_zero _), if_neg longer] at later
    obtain ⟨same, only, key⟩ := later
    obtain rfl := Option.some.inj only
    have owned := Arena.key_eq found key
    rw [Production.ownLabel] at owned
    split at owned
    · rename_i whole
      rw [reads_iff_of_eq advanced_node (by rw [advanced_dot, whole])]
      have branch := Arena.Unfolds.branch found (by rw [Node.label, owned]) family children .nil
      rwa [Node.span, owned] at branch
    · rename_i unfinished
      rw [reads_iff_of_ne advanced_node (by rw [advanced_dot]; exact unfinished)]
      have progress := Arena.Unfolds.progress found (by rw [Node.label, owned]) family children .nil
      rwa [List.append_nil] at progress

end Item

/-! ## Taking items past symbols -/

namespace Chart

variable {chart : Chart} {item : Item} {start stop bound : Nat}
  {before derivations : List Derivation}

/-- An item that has been taken past a symbol in a sound chart reads what it read before and what
the symbol's node unfolds to. -/
theorem Sound.reads_of_took (sound : chart.Sound g fits root) {child : NodeId}
    {derivation : Derivation} (inside : item ∈ chart.columnAt start)
    (found : g.productions[item.production]? = some production)
    (awaited : production.symbolAt? item.dot = some symbol)
    (reads : item.Reads chart.arena production start before)
    (below : chart.arena.Unfolds [child] [derivation])
    (took : Took (chart.columnAt stop) chart.arena production item child) :
    ∃ node, item.advanced node ∈ chart.columnAt stop ∧
      (item.advanced node).Reads chart.arena production stop (before ++ [derivation]) := by
  obtain ⟨node, later, joined⟩ := took
  obtain ⟨_, valid, placed⟩ := sound.item inside
  obtain rfl := Option.some.inj (valid.found.symm.trans found)
  obtain ⟨_, laterValid, laterPlaced⟩ := sound.item later
  obtain rfl := Option.some.inj (laterValid.found.symm.trans found)
  have unfinished := Production.lt_of_symbolAt? awaited
  exact ⟨node, later, reads.advanced placed unfinished laterPlaced joined below⟩

/-- In a closed column there is an item for each production of a nonterminal that an item waits for.
-/
theorem Filled.mem_predicted (consistent : g.Consistent) (filled : chart.Filled g fits root bound)
    (below : start < bound) (inside : item ∈ chart.columnAt start)
    (found : g.productions[item.production]? = some production) {id : ProductionId}
    {inner : Production} (known : g.productions[id]? = some inner)
    (awaited : production.symbolAt? item.dot = some (.nonterminal inner.lhs)) :
    Item.predicted id start ∈ chart.columnAt start := by
  have listed := consistent.mem_productionsOf.2 ⟨inner, known, rfl⟩
  have asks : item.awaited? g = some (.nonterminal inner.lhs) := by
    rw [Item.awaited?_eq found, awaited]
  exact (filled.closed start below).predicted inside asks id listed

/-- A finished item in a closed column has a node that unfolds to a branch of what it reads, and
every item that waited for it has been taken past that node. -/
theorem Filled.exists_node (filled : chart.Filled g fits root bound) (below : stop < bound)
    (inside : item ∈ chart.columnAt stop)
    (found : g.productions[item.production]? = some production)
    (whole : item.dot = production.length)
    (reads : item.Reads chart.arena production stop derivations) :
    ∃ node, chart.arena.Unfolds [node] [.branch item.production ⟨item.origin, stop⟩ derivations] ∧
      chart.arena.key? node = some ⟨⟨item.origin, stop⟩, .nonterminal production.lhs⟩ ∧
      ∀ {waiting : Item} {longer : Production}, waiting ∈ chart.columnAt item.origin →
        g.productions[waiting.production]? = some longer →
          longer.symbolAt? waiting.dot = some (.nonterminal production.lhs) →
            Took (chart.columnAt stop) chart.arena longer waiting node := by
  obtain ⟨_, valid, placed⟩ := filled.sound.item inside
  obtain rfl := Option.some.inj (found.symm.trans valid.found)
  obtain ⟨node, key, empty, resumed⟩ :=
    (filled.closed stop below).completed inside found (valid.awaited?_eq_none.2 whole)
  refine ⟨node, ?_, key, fun present known awaited =>
    resumed present known (by rw [Item.awaited?_eq known, awaited])⟩
  obtain ⟨bare, none⟩ | ⟨-, own, same, ownKey⟩ := placed.of_whole whole
  · rw [Item.Reads, none] at reads
    subst reads
    obtain ⟨known, present, family⟩ := empty bare
    have owned := Arena.key_eq present key
    have branch := Arena.Unfolds.branch present (by rw [Node.label, owned]) family .nil .nil
    rwa [Node.span, owned] at branch
  · rwa [Item.reads_iff_of_eq same whole, filled.sound.arena.unique ownKey key] at reads

/-- Wherever symbols after the dot of an item cover tokens, the item behind these symbols is in the
column where they end, and reads their derivations too. -/
theorem Filled.recognizes (consistent : g.Consistent) (filled : chart.Filled g fits root bound)
    (spelled : g.Spells fits symbols start stop derivations) (below : stop < bound)
    (reached : stop ≤ chart.position) {rest : List Symbol} (inside : item ∈ chart.columnAt start)
    (found : g.productions[item.production]? = some production)
    (left : production.symbols.drop item.dot = symbols ++ rest)
    (reads : item.Reads chart.arena production start before) :
    ∃ later ∈ chart.columnAt stop, later.production = item.production ∧
      later.origin = item.origin ∧ later.dot = item.dot + symbols.length ∧
      later.Reads chart.arena production stop (before ++ derivations) := by
  induction spelled generalizing item production rest before with
  | nil =>
    rw [List.append_nil]
    exact ⟨item, inside, rfl, rfl, rfl, reads⟩
  | @token terminal symbols start stop derivations fit spelledRest ih =>
    have after := spelledRest.start_le
    have awaited := Production.symbolAt?_of_drop left
    obtain ⟨leaf, key, took⟩ := filled.scanned start (by omega) item production terminal inside
      found (by rw [Item.awaited?_eq found, awaited]) fit
    obtain ⟨known, present, owned⟩ := Option.map_eq_some_iff.1 key
    have unfolds : chart.arena.Unfolds [leaf] [.token terminal start] :=
      .token present (by rw [Node.label, owned]) .nil
    obtain ⟨node, later, laterReads⟩ :=
      filled.sound.reads_of_took inside found awaited reads unfolds took
    obtain ⟨last, lastInside, same, origin, dot, lastReads⟩ :=
      ih below reached later found (Production.drop_succ left) laterReads
    refine ⟨last, lastInside, same, origin, ?_, ?_⟩
    · rw [dot, Item.advanced_dot, List.length_cons, Nat.add_assoc, Nat.add_comm 1]
    · rwa [List.append_assoc] at lastReads
  | @branch id inner symbols start middle stop children derivations known spelledBody spelledRest
      ihBody ihRest =>
    have afterBody := spelledBody.start_le
    have afterRest := spelledRest.start_le
    have awaited := Production.symbolAt?_of_drop left
    have predicted := filled.mem_predicted consistent (by omega) inside found known awaited
    obtain ⟨finished, present, same, origin, dot, finishedReads⟩ :=
      ihBody (by omega) (by omega) predicted known (List.append_nil _).symm .predicted
    have finishedFound : g.productions[finished.production]? = some inner := by
      rw [same]
      exact known
    have whole : finished.dot = inner.length := by
      rw [dot, Item.predicted, Nat.zero_add, Production.length]
    obtain ⟨node, unfolds, -, resumed⟩ :=
      filled.exists_node (by omega) present finishedFound whole finishedReads
    rw [same, origin] at unfolds
    rw [origin] at resumed
    obtain ⟨next, later, laterReads⟩ :=
      filled.sound.reads_of_took inside found awaited reads unfolds (resumed inside found awaited)
    obtain ⟨last, lastInside, same, origin, dot, lastReads⟩ :=
      ihRest below reached later found (Production.drop_succ left) laterReads
    refine ⟨last, lastInside, same, origin, ?_, ?_⟩
    · rw [dot, Item.advanced_dot, List.length_cons, Nat.add_assoc, Nat.add_comm 1]
    · rwa [List.append_assoc] at lastReads

/-! ## Whole sentences -/

/-- An item is accepting if its production is a finished one of the root from the first token on. -/
theorem isAccepting_iff : isAccepting g root item = true ↔
    ∃ production, g.productions[item.production]? = some production ∧ production.lhs = root ∧
      item.dot = production.length ∧ item.origin = 0 := by
  rw [isAccepting]
  cases found : g.productions[item.production]? with
  | none => simp
  | some production => simp [and_assoc]

/-- A derivation of the root leaves a finished production of the root in the column where it ends,
which reads the children of the derivation. -/
theorem Filled.exists_finished (consistent : g.Consistent)
    (filled : chart.Filled g fits root bound) {derivation : Derivation}
    (spelled : g.Spells fits [.nonterminal root] 0 stop [derivation]) (below : stop < bound)
    (reached : stop ≤ chart.position) :
    ∃ item ∈ chart.columnAt stop, ∃ production children,
      g.productions[item.production]? = some production ∧ production.lhs = root ∧
      item.dot = production.length ∧ item.origin = 0 ∧
      derivation = .branch item.production ⟨0, stop⟩ children ∧
      item.Reads chart.arena production stop children := by
  obtain ⟨id, production, children, found, rfl, same, body⟩ := spelled.exists_of_nonterminal
  obtain rfl := List.singleton_inj.1 same
  have predicted := filled.started id (consistent.mem_productionsOf.2 ⟨production, found, rfl⟩)
  obtain ⟨item, inside, same, origin, dot, reads⟩ :=
    filled.recognizes consistent body below reached predicted found (List.append_nil _).symm
      .predicted
  rw [Item.predicted] at same
  refine ⟨item, inside, production, children, by rw [same]; exact found, rfl, ?_, origin,
    by rw [same], reads⟩
  rw [dot, Item.predicted, Nat.zero_add, Production.length]

/-- The node of the root over the tokens unfolds to every derivation of the root. -/
theorem Filled.unfolds (consistent : g.Consistent) (filled : chart.Filled g fits root bound)
    {derivation : Derivation} (spelled : g.Spells fits [.nonterminal root] 0 stop [derivation])
    (below : stop < bound) (reached : stop ≤ chart.position) {node : NodeId}
    (key : chart.arena.key? node = some ⟨⟨0, stop⟩, .nonterminal root⟩) :
    chart.arena.Unfolds [node] [derivation] := by
  obtain ⟨item, inside, production, children, found, rfl, whole, origin, rfl, reads⟩ :=
    filled.exists_finished consistent spelled below reached
  obtain ⟨own, unfolds, ownKey, -⟩ := filled.exists_node below inside found whole reads
  rw [origin] at unfolds ownKey
  rwa [filled.sound.arena.unique ownKey key] at unfolds

/-- In a chart whose columns are all closed, the node of the root over all tokens unfolds exactly to
the derivations of the root. -/
theorem Filled.unfolds_iff (consistent : g.Consistent)
    (filled : chart.Filled g fits root (chart.position + 1)) {node : NodeId}
    (key : chart.arena.key? node = some ⟨⟨0, chart.position⟩, .nonterminal root⟩)
    {derivation : Derivation} : chart.arena.Unfolds [node] [derivation] ↔
      g.Spells fits [.nonterminal root] 0 chart.position [derivation] := by
  constructor
  · intro unfolds
    exact unfolds.spells filled.sound.arena (Arena.Row.single key)
  · intro spelled
    exact filled.unfolds consistent spelled (Nat.lt_succ_self _) (Nat.le_refl _) key

/-- A chart whose columns are all closed accepts exactly if the root derives the tokens. It then
gives the node of the root over all tokens and the arena as it is. -/
theorem Filled.accepted?_eq_some (filled : chart.Filled g fits root (chart.position + 1))
    {node : NodeId} {arena : Arena} (accepted : chart.accepted? g root = some (node, arena)) :
    arena = chart.arena ∧
      chart.arena.key? node = some ⟨⟨0, chart.position⟩, .nonterminal root⟩ ∧
      ∃ derivations, g.Spells fits [.nonterminal root] 0 chart.position derivations := by
  rw [Chart.accepted?] at accepted
  split at accepted
  · simp at accepted
  rename_i item met
  have inside : item ∈ chart.columnAt chart.position := by
    rw [columnAt_position]
    exact Array.mem_of_find?_eq_some met
  obtain ⟨production, found, rfl, whole, origin⟩ := isAccepting_iff.1 (Array.find?_some met)
  obtain ⟨_, valid, placed⟩ := filled.sound.item inside
  obtain rfl := Option.some.inj (found.symm.trans valid.found)
  obtain ⟨own, key, -⟩ := (filled.closed chart.position (Nat.lt_succ_self _)).completed inside
    found (valid.awaited?_eq_none.2 whole)
  obtain ⟨body, spelledBody⟩ := valid.spelled
  rw [whole, Production.length, List.take_length] at spelledBody
  have spelled := Grammar.Spells.of_production found spelledBody
  rw [origin] at key spelled
  suffices same : own = node ∧ chart.arena = arena by
    obtain ⟨rfl, rfl⟩ := same
    exact ⟨rfl, key, _, spelled⟩
  obtain ⟨bare, none⟩ | ⟨-, other, same, otherKey⟩ := placed.of_whole whole
  · have here := valid.origin_eq (by rw [whole, Production.length, bare, List.length_nil])
    rw [origin] at here
    rw [← here] at key
    have recent := filled.sound.arena.recent.2 ⟨here, key⟩
    rw [none] at accepted
    simpa [Arena.nodeFor, recent] using accepted
  · rw [origin] at otherKey
    rw [filled.sound.arena.unique key otherKey]
    simpa [same] using accepted

/-- A chart whose columns are all closed accepts what the root derives. -/
theorem Filled.accepts (consistent : g.Consistent)
    (filled : chart.Filled g fits root (chart.position + 1))
    (spelled : g.Spells fits [.nonterminal root] 0 chart.position derivations) :
    ∃ node arena, chart.accepted? g root = some (node, arena) := by
  obtain ⟨derivation, rfl⟩ := List.length_eq_one_iff.1 spelled.length_eq
  obtain ⟨item, inside, production, _, found, same, whole, origin, -⟩ :=
    filled.exists_finished consistent spelled (Nat.lt_succ_self _) (Nat.le_refl _)
  rw [columnAt_position] at inside
  have accepting := isAccepting_iff.2 ⟨production, found, same, whole, origin⟩
  obtain ⟨first, met⟩ : ∃ first, chart.column.find? (isAccepting g root) = some first := by
    rw [← Option.isSome_iff_exists, Array.find?_isSome]
    exact ⟨item, inside, accepting⟩
  rw [Chart.accepted?, met]
  dsimp only
  split
  · exact ⟨_, _, rfl⟩
  · exact ⟨_, _, rfl⟩

/-! ## Beginnings of sentences -/

/-- Wherever the symbols after the dot of an item derive a word that begins with the tokens up to
the current position, the current column has an item. -/
theorem Filled.exists_item (consistent : g.Consistent)
    (filled : chart.Filled g fits root chart.position) {word front back : List TerminalId}
    (derived : g.Derives symbols word) (split : word = front ++ back)
    (fitting : Grammar.Fitting fits start front) (reached : start + front.length = chart.position)
    (before : start < chart.position) {rest : List Symbol} (inside : item ∈ chart.columnAt start)
    (found : g.productions[item.production]? = some production)
    (left : production.symbols.drop item.dot = symbols ++ rest) :
    ∃ later, later ∈ chart.column := by
  induction derived generalizing item production rest start front back with
  | nil =>
    obtain ⟨rfl, rfl⟩ := List.append_eq_nil_iff.1 split.symm
    simp only [List.length_nil] at reached
    omega
  | @terminal id symbols word _ ih =>
    cases front with
    | nil =>
      simp only [List.length_nil] at reached
      omega
    | cons first front =>
      obtain ⟨rfl, rfl⟩ : id = first ∧ word = front ++ back := by simpa using split
      obtain ⟨fit, fittingRest⟩ := Grammar.Fitting.cons_iff.1 fitting
      rw [List.length_cons] at reached
      have awaited := Production.symbolAt?_of_drop left
      obtain ⟨leaf, -, node, later, -⟩ := filled.scanned start before item production id inside
        found (by rw [Item.awaited?_eq found, awaited]) fit
      by_cases last : start + 1 = chart.position
      · rw [last, columnAt_position] at later
        exact ⟨_, later⟩
      · exact ih rfl fittingRest (by omega) (by omega) later found (Production.drop_succ left)
  | @nonterminal id inner symbols first word known derivedBody _ ihBody ihRest =>
    have awaited := Production.symbolAt?_of_drop left
    have predicted := filled.mem_predicted consistent before inside found known awaited
    have whole : inner.symbols.drop (Item.predicted id start).dot = inner.symbols ++ [] :=
      (List.append_nil _).symm
    -- Either the tokens end within what the nonterminal derives, or they go on behind it.
    rcases List.append_eq_append_iff.1 split with ⟨more, rfl, rfl⟩ | ⟨others, rfl, -⟩
    · obtain ⟨fittingFirst, fittingMore⟩ := Grammar.Fitting.append_iff.1 fitting
      rw [List.length_append] at reached
      by_cases last : start + first.length = chart.position
      · exact ihBody (List.append_nil first).symm fittingFirst last before predicted known whole
      obtain ⟨children, spelled⟩ := derivedBody.spells fittingFirst
      obtain ⟨finished, present, same, origin, dot, reads⟩ :=
        filled.recognizes consistent spelled (by omega) (by omega) predicted known whole .predicted
      have finishedFound : g.productions[finished.production]? = some inner := by
        rw [same]
        exact known
      obtain ⟨_, -, -, resumed⟩ := filled.exists_node (by omega) present finishedFound
        (by rw [dot, Item.predicted, Nat.zero_add, Production.length]) reads
      rw [origin] at resumed
      obtain ⟨node, later, -⟩ := resumed inside found awaited
      exact ihRest rfl fittingMore (by omega) (by omega) later found (Production.drop_succ left)
    · exact ihBody rfl fitting reached before predicted known whole

/-- If some tokens have been passed and they begin a sentence, the current column has an item. -/
theorem Filled.exists_item_of_viable (consistent : g.Consistent)
    (filled : chart.Filled g fits root chart.position) (passed : 0 < chart.position)
    (viable : g.Viable fits root chart.position) : ∃ item, item ∈ chart.column := by
  obtain ⟨front, back, derived, length, fitting⟩ := viable
  generalize word_eq : front ++ back = word at derived
  generalize symbols_eq : [Symbol.nonterminal root] = symbols at derived
  cases derived with
  | nil => simp at symbols_eq
  | terminal => simp at symbols_eq
  | @nonterminal id production symbols first word found body rest =>
  obtain ⟨rfl, rfl⟩ : root = production.lhs ∧ symbols = [] := by simpa [eq_comm] using symbols_eq
  cases rest
  rw [List.append_nil] at word_eq
  have predicted := filled.started id (consistent.mem_productionsOf.2 ⟨production, found, rfl⟩)
  have reached : 0 + front.length = chart.position := by omega
  exact filled.exists_item consistent body word_eq.symm fitting reached passed predicted found
    (List.append_nil _).symm

end Chart

end ChartParser
