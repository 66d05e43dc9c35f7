import ChartParser.Chart.Item
import ChartParser.Proofs.Forest.Grounding
import ChartParser.Proofs.Forest.Wanted

/-!
# Valid items

An item is valid at a position if its left-hand side is expected at its origin and the symbols
before its dot cover the tokens in between. It is placed if its node is the one that stands for
these symbols, which depends on nothing but production, dot, origin and position. Taking an item
past a symbol whose node ends at the current position keeps both, and leaves behind a family that
joins the item's node with the node of the symbol.
-/

namespace ChartParser.Item

variable {g : Grammar} {fits : Nat → TerminalId → Bool} {root : NonterminalId} {arena : Arena}
  {item : Item} {production : Production} {symbol : Symbol} {position middle stop : Nat}
  {child node : NodeId}

/-- The item belongs to the production, which is expected at its origin, and the symbols before its
dot cover the tokens up to the position. -/
structure Valid (g : Grammar) (fits : Nat → TerminalId → Bool) (root : NonterminalId)
    (position : Nat) (production : Production) (item : Item) : Prop where
  found : g.productions[item.production]? = some production
  dot_le : item.dot ≤ production.length
  expected : g.Expects fits root production.lhs item.origin
  spelled : ∃ derivations,
    g.Spells fits (production.symbols.take item.dot) item.origin position derivations

/-- The item has the node that stands for the symbols before its dot, and none if there are no such
symbols. -/
def Placed (arena : Arena) (position : Nat) (production : Production) (item : Item) : Prop :=
  match production.labelAt? item.production item.origin item.dot with
  | none => item.node = none
  | some label =>
    ∃ node, item.node = some node ∧ arena.key? node = some ⟨⟨item.origin, position⟩, label⟩

/-- The children of a family that takes the item past a symbol with this node. -/
def childrenWith (item : Item) (child : NodeId) : Children :=
  match item.node with
  | none => .one child
  | some left => .two left child

/-- The node stands for the item taken past a symbol: it is the symbol's own node if that is the
first of several, and else has a family for this step. -/
def Joined (arena : Arena) (production : Production) (item : Item) (child node : NodeId) : Prop :=
  if item.dot + 1 = 1 ∧ production.length ≥ 2 then node = child
  else arena.HasFamily node ⟨item.production, item.childrenWith child⟩

/-- An item taken past a symbol has its dot one symbol later. -/
@[simp]
theorem advanced_dot : (item.advanced node).dot = item.dot + 1 := rfl

/-- An item taken past a symbol has the node for all symbols so far. -/
@[simp]
theorem advanced_node : (item.advanced node).node = some node := rfl

/-- An item taken past a symbol keeps its origin. -/
@[simp]
theorem advanced_origin : (item.advanced node).origin = item.origin := rfl

/-- An item taken past a symbol keeps its production. -/
@[simp]
theorem advanced_production : (item.advanced node).production = item.production := rfl

/-- An item of a known production waits for the symbol after its dot. -/
theorem awaited?_eq (found : g.productions[item.production]? = some production) :
    item.awaited? g = production.symbolAt? item.dot := by
  rw [awaited?, Grammar.symbolAt?, found, Option.bind_some]

namespace Valid

/-- The origin of a valid item is not after its position. -/
theorem origin_le (valid : item.Valid g fits root position production) :
    item.origin ≤ position := by
  obtain ⟨_, spelled⟩ := valid.spelled
  exact spelled.start_le

/-- An item with nothing before its dot is at its origin. -/
theorem origin_eq (valid : item.Valid g fits root position production) (start : item.dot = 0) :
    item.origin = position := by
  obtain ⟨_, spelled⟩ := valid.spelled
  rw [start] at spelled
  exact spelled.eq_of_nil.1

/-- A valid item waits for nothing exactly if its dot is behind all symbols. -/
theorem awaited?_eq_none (valid : item.Valid g fits root position production) :
    item.awaited? g = none ↔ item.dot = production.length := by
  rw [awaited?_eq valid.found, Production.symbolAt?, List.getElem?_eq_none_iff]
  exact ⟨fun beyond => Nat.le_antisymm valid.dot_le beyond, fun whole => Nat.le_of_eq whole.symm⟩

/-- A production of an expected nonterminal is a valid item where nothing is recognized yet. -/
theorem predicted {id : ProductionId} (found : g.productions[id]? = some production)
    (expected : g.Expects fits root production.lhs position) :
    (Item.predicted id position).Valid g fits root position production :=
  ⟨found, Nat.zero_le _, expected, [], .nil⟩

/-- Taking a valid item past the symbol it waits for gives a valid item. -/
theorem advanced (valid : item.Valid g fits root middle production)
    (awaited : item.awaited? g = some symbol) {derivations : List Derivation}
    (spelled : g.Spells fits [symbol] middle stop derivations) (node : NodeId) :
    (item.advanced node).Valid g fits root stop production where
  found := valid.found
  dot_le := by
    rw [awaited?_eq valid.found] at awaited
    exact Production.lt_of_symbolAt? awaited
  expected := valid.expected
  spelled := by
    obtain ⟨before, spelledBefore⟩ := valid.spelled
    rw [awaited?_eq valid.found] at awaited
    refine ⟨before ++ derivations, ?_⟩
    simp only [Item.advanced]
    rw [Production.take_succ awaited]
    exact spelledBefore.append spelled

/-- The symbol that a valid item waits for is awaited at its position. -/
theorem awaits (valid : item.Valid g fits root position production)
    (awaited : item.awaited? g = some symbol) : g.Awaits fits root symbol position := by
  obtain ⟨_, spelled⟩ := valid.spelled
  rw [awaited?_eq valid.found] at awaited
  exact ⟨_, _, _, _, _, valid.found, valid.expected, spelled, awaited⟩

/-- The nonterminal that a valid item waits for is expected at its position. -/
theorem expects {nonterminal : NonterminalId}
    (valid : item.Valid g fits root position production)
    (awaited : item.awaited? g = some (.nonterminal nonterminal)) :
    g.Expects fits root nonterminal position := by
  obtain ⟨_, spelled⟩ := valid.spelled
  rw [awaited?_eq valid.found] at awaited
  exact .next valid.found valid.expected spelled awaited

end Valid

/-- An item stays placed while the arena grows. -/
theorem Placed.grows {later : Arena} (placed : item.Placed arena position production)
    (grows : arena.Grows later) : item.Placed later position production := by
  rw [Placed] at placed ⊢
  split at placed
  · exact placed
  · obtain ⟨node, same, key⟩ := placed
    exact ⟨node, same, grows.key? key⟩

/-- An item is placed if its node has the label for the symbols before its dot. -/
theorem Placed.of_label (label : Label)
    (labelled : production.labelAt? item.production item.origin item.dot = some label)
    (same : item.node = some node)
    (key : arena.key? node = some ⟨⟨item.origin, position⟩, label⟩) :
    item.Placed arena position production := by
  rw [Placed, labelled]
  exact ⟨node, same, key⟩

/-- An item with nothing recognized is placed without a node. -/
theorem Placed.predicted {id : ProductionId} :
    (Item.predicted id position).Placed arena position production := rfl

/-- A finished item has no node if its production is empty, and else the node of its nonterminal. -/
theorem Placed.of_whole (placed : item.Placed arena position production)
    (whole : item.dot = production.length) :
    (production.symbols = [] ∧ item.node = none) ∨
      (production.symbols ≠ [] ∧ ∃ node, item.node = some node ∧
        arena.key? node = some ⟨⟨item.origin, position⟩, .nonterminal production.lhs⟩) := by
  rw [Placed, whole, Production.labelAt?] at placed
  by_cases nothing : production.length = 0
  · rw [if_pos nothing] at placed
    exact .inl ⟨List.length_eq_zero_iff.1 nothing, placed⟩
  · have single : ¬ (production.length = 1 ∧ production.length ≥ 2) := by omega
    rw [if_neg nothing, if_neg single, Production.ownLabel, if_pos rfl] at placed
    exact .inr ⟨fun bare => nothing (List.length_eq_zero_iff.2 bare), placed⟩

/-- Placed items of one position differ in production, dot or origin. -/
theorem Placed.ext {other : Item} (licensed : arena.Licensed g fits stop)
    (first : item.Placed arena position production)
    (second : other.Placed arena position production) (origin : item.origin = other.origin)
    (rule : item.production = other.production) (dot : item.dot = other.dot) : item = other := by
  have node : item.node = other.node := by
    rw [Placed, origin, rule, dot] at first
    rw [Placed] at second
    split at first <;> simp_all only
    obtain ⟨left, sameLeft, keyLeft⟩ := first
    obtain ⟨right, sameRight, keyRight⟩ := second
    rw [sameLeft, sameRight, licensed.unique keyLeft keyRight]
  cases item
  cases other
  simp_all only

/-- The step that takes a placed item past a symbol is licensed. -/
theorem Placed.joins (placed : item.Placed arena middle production)
    (next : production.symbolAt? item.dot = some symbol)
    (origin : item.dot = 0 → item.origin = middle)
    (longer : ¬ (item.dot + 1 = 1 ∧ production.length ≥ 2))
    (key : arena.key? child = some ⟨⟨middle, stop⟩, symbol.labelAt middle⟩) :
    (item.childrenWith child).Joins arena production item.production (item.dot + 1)
      ⟨item.origin, stop⟩ := by
  rw [Placed] at placed
  rw [childrenWith]
  cases dot : item.dot with
  | zero =>
    rw [dot, Production.labelAt?, if_pos rfl] at placed
    rw [dot] at next
    have inside := Production.lt_of_symbolAt? next
    rw [placed, origin dot]
    refine .first ?_ key
    rw [dot] at longer
    have single : production.symbols.length = 1 := by
      rw [Production.length] at longer inside
      omega
    obtain ⟨only, alone⟩ := List.length_eq_one_iff.1 single
    rw [Production.symbolAt?, alone] at next
    rw [alone, ← Option.some.inj next]
  | succ before =>
    rw [dot] at placed next
    split at placed
    · rename_i missing
      rw [Production.labelAt?] at missing
      split at missing
      · omega
      split at missing
      · obtain ⟨first, present⟩ := @Production.exists_symbolAt? production 0 (by omega)
        simp [present] at missing
      · simp at missing
    · rename_i label labelled
      obtain ⟨left, same, leftKey⟩ := placed
      rw [same]
      exact .next next labelled leftKey key

/-- The first of several symbols stands for itself. -/
theorem nodeAfter_eq_child (found : g.productions[item.production]? = some production)
    (shorter : item.dot + 1 = 1 ∧ production.length ≥ 2) :
    item.nodeAfter g arena stop child = (child, arena) := by
  simp only [nodeAfter, found, if_pos shorter]

/-- Any other symbol is joined to what came before it in the node of that key. -/
theorem nodeAfter_eq_addFamily (found : g.productions[item.production]? = some production)
    (longer : ¬ (item.dot + 1 = 1 ∧ production.length ≥ 2)) {key : NodeKey}
    (own : key = ⟨⟨item.origin, stop⟩, production.ownLabel item.production (item.dot + 1)⟩) :
    item.nodeAfter g arena stop child =
      ((arena.nodeFor key).1, (arena.nodeFor key).2.addFamily (arena.nodeFor key).1
        ⟨item.production, item.childrenWith child⟩) := by
  subst own
  simp only [nodeAfter, found, if_neg longer]
  rfl

/-- Past the first of several symbols, the family that takes a placed item past a symbol is
licensed. -/
theorem Placed.licensed_childrenWith (placed : item.Placed arena middle production)
    (valid : item.Valid g fits root middle production)
    (next : production.symbolAt? item.dot = some symbol)
    (longer : ¬ (item.dot + 1 = 1 ∧ production.length ≥ 2))
    (key : arena.key? child = some ⟨⟨middle, stop⟩, symbol.labelAt middle⟩) {own : NodeKey}
    (same : own = ⟨⟨item.origin, stop⟩, production.ownLabel item.production (item.dot + 1)⟩) :
    Family.Licensed g arena own ⟨item.production, item.childrenWith child⟩ := by
  subst same
  exact ⟨production, item.dot + 1, valid.found, rfl, placed.joins next valid.origin_eq longer key⟩

/-- Taking an item past a symbol keeps the arena grounded: a node that it makes gets the family of
this step at once. -/
theorem nodeAfter_grounded (grounded : arena.Grounded)
    (valid : item.Valid g fits root middle production)
    (placed : item.Placed arena middle production) (awaited : item.awaited? g = some symbol)
    (key : arena.key? child = some ⟨⟨middle, stop⟩, symbol.labelAt middle⟩) :
    (item.nodeAfter g arena stop child).2.Grounded := by
  rw [awaited?_eq valid.found] at awaited
  by_cases shorter : item.dot + 1 = 1 ∧ production.length ≥ 2
  · rw [nodeAfter_eq_child valid.found shorter]
    exact grounded
  · have step := placed.licensed_childrenWith valid awaited shorter key rfl
    rw [nodeAfter_eq_addFamily valid.found shorter rfl]
    exact grounded.nodeFor_addFamily step

/-- Taking an item past a symbol makes no node that is not wanted. -/
theorem nodeAfter_wanted (wanted : arena.Wanted g fits root)
    (valid : item.Valid g fits root middle production) (stop : Nat) (child : NodeId) :
    (item.nodeAfter g arena stop child).2.Wanted g fits root := by
  by_cases shorter : item.dot + 1 = 1 ∧ production.length ≥ 2
  · rw [nodeAfter_eq_child valid.found shorter]
    exact wanted
  · rw [nodeAfter_eq_addFamily valid.found shorter rfl]
    have asked : NodeKey.Wanted g fits root
        ⟨⟨item.origin, stop⟩, production.ownLabel item.production (item.dot + 1)⟩ :=
      Production.wanted_ownLabel.2 valid.expected
    exact (wanted.nodeFor asked).addFamily _ _

/-- Taking an item past a symbol finds or makes the node that stands for it, with the family of this
step, in an arena that has grown and is licensed. -/
theorem nodeAfter_licensed (licensed : arena.Licensed g fits stop)
    (valid : item.Valid g fits root middle production)
    (placed : item.Placed arena middle production) (awaited : item.awaited? g = some symbol)
    (key : arena.key? child = some ⟨⟨middle, stop⟩, symbol.labelAt middle⟩) :
    (item.nodeAfter g arena stop child).2.Licensed g fits stop ∧
      arena.Grows (item.nodeAfter g arena stop child).2 ∧
      (item.advanced (item.nodeAfter g arena stop child).1).Placed
        (item.nodeAfter g arena stop child).2 stop production ∧
      item.Joined (item.nodeAfter g arena stop child).2 production child
        (item.nodeAfter g arena stop child).1 := by
  rw [awaited?_eq valid.found] at awaited
  by_cases shorter : item.dot + 1 = 1 ∧ production.length ≥ 2
  · rw [nodeAfter_eq_child valid.found shorter]
    refine ⟨licensed, .refl arena, ?_, by rw [Joined, if_pos shorter]⟩
    have start : item.dot = 0 := by omega
    refine .of_label (symbol.labelAt item.origin) ?_ rfl ?_
    · rw [start] at awaited
      rw [Item.advanced, Production.labelAt?, if_neg (Nat.succ_ne_zero item.dot), if_pos shorter,
        awaited, Option.map_some]
    · rw [Item.advanced, valid.origin_eq start]
      exact key
  obtain ⟨own, same⟩ : ∃ own : NodeKey,
    own = ⟨⟨item.origin, stop⟩, production.ownLabel item.production (item.dot + 1)⟩ := ⟨_, rfl⟩
  have step := placed.licensed_childrenWith valid awaited shorter key same
  rw [nodeAfter_eq_addFamily valid.found shorter same]
  obtain ⟨kept, grows, known, family⟩ := licensed.nodeFor_addFamily (by rw [same]) step
  refine ⟨kept, grows, ?_, by rw [Joined, if_neg shorter]; exact family⟩
  refine .of_label (production.ownLabel item.production (item.dot + 1)) ?_ rfl ?_
  · rw [Item.advanced, Production.labelAt?, if_neg (Nat.succ_ne_zero item.dot), if_neg shorter]
  · rw [known, same]
    rfl

end ChartParser.Item
