import ChartParser.Proofs.Chart.Completeness
import ChartParser.Proofs.Forest.Cycles
import Mathlib.Data.Set.Card

/-!
# What a filled chart contains

Soundness says that a chart has nothing but what the grammar and the tokens ask for, completeness
that it has all of that. Together they say exactly what is in a chart whose columns are closed,
whatever the order in which it was put there: an item for every valid place
(`Filled.mem_place_iff`), a node for every key that stands for something wanted
(`Filled.exists_key_iff`), and for every node a family for every step that leads to it
(`Filled.hasFamily_iff`).
-/

namespace ChartParser

variable {g : Grammar} {fits : Nat → TerminalId → Bool} {root : NonterminalId}

/-- The places of a production, a dot and an origin that are valid at the position. -/
def Grammar.validPlaces (g : Grammar) (fits : Nat → TerminalId → Bool) (root : NonterminalId)
    (position : Nat) : Set (ProductionId × Nat × Nat) :=
  {spot | ∃ production,
    Item.Valid g fits root position production ⟨spot.2.2, spot.1, spot.2.1, none⟩}

/-- The label is one that nodes get: the node for the beginning of a production stands for at least
two of its symbols, but not for all of them, and a token is where its node begins. -/
def NodeKey.Proper (g : Grammar) (key : NodeKey) : Prop :=
  match key.label with
  | .nonterminal _ => True
  | .progress lhs id dot => ∃ production, g.productions[id]? = some production ∧
      production.lhs = lhs ∧ 2 ≤ dot ∧ dot < production.length
  | .token _ index => index = key.span.start

/-- The key stands for symbols that are wanted where it begins and cover its span. -/
structure NodeKey.Stands (g : Grammar) (fits : Nat → TerminalId → Bool) (root : NonterminalId)
    (key : NodeKey) : Prop where
  proper : key.Proper g
  wanted : key.Wanted g fits root
  spelled : ∃ derivations,
    g.Spells fits (key.label.symbols g) key.span.start key.span.stop derivations

/-- Whether an item is valid depends on its place alone. -/
theorem Item.Valid.place_mem {item : Item} {position : Nat} {production : Production}
    (valid : item.Valid g fits root position production) :
    Chart.place item ∈ g.validPlaces fits root position :=
  ⟨production, valid.found, valid.dot_le, valid.expected, valid.spelled⟩

namespace Chart

variable {chart : Chart} {item : Item} {production : Production} {symbol : Symbol}
  {middle stop bound : Nat} {child id : NodeId} {key : NodeKey} {family : Family}

/-! ## Items -/

/-- In closed columns the productions of an expected nonterminal are predicted. -/
theorem Filled.exists_predicted (consistent : g.Consistent)
    (filled : chart.Filled g fits root bound) {nonterminal : NonterminalId} {start : Nat}
    (expected : g.Expects fits root nonterminal start) (below : start < bound)
    (reached : start ≤ chart.position) {rule : ProductionId}
    (found : g.productions[rule]? = some production) (lhs : production.lhs = nonterminal) :
    Item.predicted rule start ∈ chart.columnAt start := by
  induction expected generalizing rule production with
  | root => exact filled.started rule (consistent.mem_productionsOf.2 ⟨production, found, lhs⟩)
  | @next outer longer dot first last _ nonterminal foundOuter _ before awaited ih =>
    have earlier := before.start_le
    have inside := ih (by omega) (by omega) foundOuter rfl
    have split : longer.symbols.drop (Item.predicted outer first).dot =
        longer.symbols.take dot ++ longer.symbols.drop dot :=
      (List.take_append_drop dot longer.symbols).symm
    obtain ⟨item, present, same, -, reachedDot, -⟩ :=
      filled.recognizes consistent before below reached inside foundOuter split .predicted
    have unfinished := Production.lt_of_symbolAt? awaited
    have at_dot : item.dot = dot := by
      rw [reachedDot, Item.predicted, Nat.zero_add, List.length_take]
      exact Nat.min_eq_left (Nat.le_of_lt unfinished)
    have known : g.productions[item.production]? = some longer := by rw [same]; exact foundOuter
    refine filled.mem_predicted consistent below present known found ?_
    rw [at_dot, awaited, lhs]

/-- In closed columns there is an item at every valid place. -/
theorem Filled.exists_item_of_valid (consistent : g.Consistent)
    (filled : chart.Filled g fits root bound) (inside : stop < bound)
    (reached : stop ≤ chart.position) (valid : item.Valid g fits root stop production) :
    ∃ node, { item with node } ∈ chart.columnAt stop := by
  obtain ⟨derivations, spelled⟩ := valid.spelled
  have earlier := spelled.start_le
  have predicted := filled.exists_predicted consistent valid.expected (by omega) (by omega)
    valid.found rfl
  have split : production.symbols.drop (Item.predicted item.production item.origin).dot =
      production.symbols.take item.dot ++ production.symbols.drop item.dot :=
    (List.take_append_drop item.dot production.symbols).symm
  obtain ⟨⟨origin, rule, dot, node⟩, present, sameRule, sameOrigin, sameDot, -⟩ :=
    filled.recognizes consistent spelled inside reached predicted valid.found split .predicted
  have reachedDot : dot = item.dot := by
    have counted : dot = 0 + (production.symbols.take item.dot).length := sameDot
    rw [Nat.zero_add, List.length_take] at counted
    rw [counted]
    exact Nat.min_eq_left valid.dot_le
  obtain rfl : rule = item.production := sameRule
  obtain rfl : origin = item.origin := sameOrigin
  subst reachedDot
  exact ⟨node, present⟩

/-- In closed columns there is an item at every valid place behind some symbols, with the node for
these symbols. -/
theorem Filled.exists_placed (consistent : g.Consistent)
    (filled : chart.Filled g fits root bound) (inside : stop < bound)
    (reached : stop ≤ chart.position) (valid : item.Valid g fits root stop production)
    {label : Label}
    (labelled : production.labelAt? item.production item.origin item.dot = some label) :
    ∃ node, { item with node := some node } ∈ chart.columnAt stop ∧
      chart.arena.key? node = some ⟨⟨item.origin, stop⟩, label⟩ := by
  obtain ⟨node?, present⟩ := filled.exists_item_of_valid consistent inside reached valid
  obtain ⟨_, validToo, placed⟩ := filled.sound.item present
  obtain rfl := Option.some.inj (valid.found.symm.trans validToo.found)
  rw [Item.Placed, labelled] at placed
  obtain ⟨node, rfl, key⟩ := placed
  exact ⟨node, present, key⟩

/-- A closed column has an item at exactly the valid places. -/
theorem Filled.mem_place_iff (consistent : g.Consistent)
    (filled : chart.Filled g fits root (chart.position + 1)) {spot : ProductionId × Nat × Nat} :
    spot ∈ chart.column.toList.map place ↔ spot ∈ g.validPlaces fits root chart.position := by
  constructor
  · intro inside
    obtain ⟨item, inColumn, rfl⟩ := List.mem_map.1 inside
    obtain ⟨production, valid, -⟩ := filled.sound.mem_column (Array.mem_toList_iff.1 inColumn)
    exact valid.place_mem
  · rintro ⟨production, valid⟩
    obtain ⟨node, present⟩ :=
      filled.exists_item_of_valid consistent (Nat.lt_succ_self _) (Nat.le_refl _) valid
    rw [columnAt_position] at present
    exact List.mem_map.2 ⟨_, Array.mem_toList_iff.2 present, rfl⟩

/-- A closed column has as many items as there are valid places. -/
theorem Filled.size_eq (consistent : g.Consistent)
    (filled : chart.Filled g fits root (chart.position + 1)) :
    chart.column.size = (g.validPlaces fits root chart.position).ncard := by
  classical
  have same : g.validPlaces fits root chart.position =
      ((chart.column.toList.map place).toFinset : Set (ProductionId × Nat × Nat)) := by
    ext spot
    rw [Finset.mem_coe, List.mem_toFinset, filled.mem_place_iff consistent]
  rw [same, Set.ncard_coe_finset, List.toFinset_card_of_nodup filled.sound.nodup_places,
    List.length_map, Array.length_toList]

/-- A column without items stays so when it is closed. -/
theorem close_eq_self {next : TerminalId → Bool} (empty : chart.column = #[]) :
    chart.close g next = chart := by
  rw [close, visit]
  cases chart.capacity g with
  | zero => rfl
  | succ limit => rw [visitFrom, empty]; rfl

/-- A column that is not closed yet is empty exactly if no place is valid there. -/
theorem Filled.column_eq_empty_iff (consistent : g.Consistent)
    (filled : chart.Filled g fits root chart.position) :
    chart.column = #[] ↔ g.validPlaces fits root chart.position = ∅ := by
  constructor
  · intro empty
    obtain ⟨closed, -, -⟩ := filled.close consistent
    rw [close_eq_self empty] at closed
    refine Set.eq_empty_of_forall_notMem fun spot valid => ?_
    have inside := (closed.mem_place_iff consistent).2 valid
    simp [empty] at inside
  · intro none
    by_contra nonempty
    obtain ⟨item, inside⟩ := Array.exists_mem_of_ne_empty _ nonempty
    obtain ⟨production, valid, -⟩ := filled.sound.mem_column inside
    have here := valid.place_mem
    simp [none] at here

/-! ## Nodes -/

/-- The derivations that a node of a sound chart unfolds to derive what the node stands for. -/
theorem Sound.exists_spells (sound : chart.Sound g fits root)
    (known : chart.arena.key? id = some key) :
    ∃ derivations,
      g.Spells fits (key.label.symbols g) key.span.start key.span.stop derivations := by
  obtain ⟨derivations, unfolds⟩ :=
    sound.grounded.exists_unfolds sound.arena (Arena.lt_size_of_key known)
  exact ⟨derivations, unfolds.spells sound.arena (Arena.Row.single known)⟩

/-- Where a nonterminal is expected and covers tokens, there is a node for it in a chart whose
columns are all closed, and every item that waits for it there has been taken past that node. -/
theorem Filled.exists_resumed (consistent : g.Consistent)
    (filled : chart.Filled g fits root (chart.position + 1)) {nonterminal : NonterminalId}
    (expected : g.Expects fits root nonterminal middle) {derivations : List Derivation}
    (spelled : g.Spells fits [.nonterminal nonterminal] middle stop derivations)
    (reached : stop ≤ chart.position) :
    ∃ node, chart.arena.key? node = some ⟨⟨middle, stop⟩, .nonterminal nonterminal⟩ ∧
      ∀ {waiting : Item} {longer : Production}, waiting ∈ chart.columnAt middle →
        g.productions[waiting.production]? = some longer →
          longer.symbolAt? waiting.dot = some (.nonterminal nonterminal) →
            Took (chart.columnAt stop) chart.arena longer waiting node := by
  have earlier := spelled.start_le
  obtain ⟨rule, inner, children, known, rfl, -, body⟩ := spelled.exists_of_nonterminal
  have predicted := filled.exists_predicted consistent expected (by omega) (by omega) known rfl
  obtain ⟨finished, present, same, origin, dot, reads⟩ := filled.recognizes consistent body
    (Nat.lt_succ_of_le reached) reached predicted known (List.append_nil _).symm .predicted
  have found : g.productions[finished.production]? = some inner := by
    rw [same]
    exact known
  have whole : finished.dot = inner.length := by
    rw [dot, Item.predicted, Nat.zero_add, Production.length]
  obtain ⟨node, -, key, resumed⟩ :=
    filled.exists_node (Nat.lt_succ_of_le reached) present found whole reads
  rw [origin] at key resumed
  exact ⟨node, key, resumed⟩

/-- In a chart whose columns are all closed, an item has been taken past every node that begins
where the item is and stands for the symbol that it waits for. -/
theorem Filled.took (consistent : g.Consistent)
    (filled : chart.Filled g fits root (chart.position + 1)) (inside : item ∈ chart.columnAt middle)
    (found : g.productions[item.production]? = some production)
    (awaited : production.symbolAt? item.dot = some symbol)
    (key : chart.arena.key? child = some ⟨⟨middle, stop⟩, symbol.labelAt middle⟩) :
    Took (chart.columnAt stop) chart.arena production item child := by
  have licensed := filled.sound.arena
  have reached : stop ≤ chart.position := licensed.stop_le key
  have waits : item.awaited? g = some symbol := by rw [Item.awaited?_eq found, awaited]
  obtain ⟨derivations, spelled⟩ := filled.sound.exists_spells key
  rw [Label.symbols_labelAt] at spelled
  cases symbol with
  | terminal terminal =>
    obtain ⟨node, present, owned⟩ := Option.map_eq_some_iff.1 key
    have label : node.label = .token terminal middle := by rw [Node.label, owned]; rfl
    obtain ⟨span, fit, -⟩ := licensed.token present label
    have last : stop = middle + 1 := by
      rw [Node.span, owned] at span
      exact (Span.mk.inj span).2
    obtain ⟨leaf, leafKey, took⟩ :=
      filled.scanned middle (by omega) item production terminal inside found waits fit
    subst last
    obtain rfl := licensed.unique leafKey key
    exact took
  | nonterminal nonterminal =>
    obtain ⟨_, valid, -⟩ := filled.sound.item inside
    obtain ⟨node, nodeKey, resumed⟩ :=
      filled.exists_resumed consistent (valid.expects waits) spelled reached
    obtain rfl := licensed.unique nodeKey key
    exact resumed inside found awaited

/-- In a licensed arena the family of a node for the beginning of a production takes it to at least
two symbols, but not to all of them. -/
theorem proper_of_joins {arena : Arena} {children : Children} {span : Span} {rule : ProductionId}
    {dot : Nat} (found : g.productions[rule]? = some production)
    (joins : children.Joins arena production rule dot span) :
    NodeKey.Proper g ⟨span, production.ownLabel rule dot⟩ := by
  rw [NodeKey.Proper, Production.ownLabel]
  by_cases whole : dot = production.length
  · simp [whole]
  · rw [if_neg whole]
    refine ⟨production, found, rfl, ?_⟩
    cases joins with
    | empty nothing => exact absurd (by rw [Production.length, nothing]; rfl) whole
    | first alone _ => exact absurd (by rw [Production.length, alone]; rfl) whole
    | @next symbol label left right before start middle stop next labelled _ _ =>
      have inside := Production.lt_of_symbolAt? next
      have positive : before ≠ 0 := by
        intro zero
        simp [Production.labelAt?, zero] at labelled
      omega

/-- A node of a sound chart stands for something wanted. -/
theorem Sound.stands (sound : chart.Sound g fits root)
    (known : chart.arena.key? id = some key) : key.Stands g fits root where
  proper := by
    obtain ⟨node, found, rfl⟩ := Option.map_eq_some_iff.1 known
    cases token : node.isToken with
    | true =>
      cases label : node.label with
      | token terminal index =>
        obtain ⟨span, -, -⟩ := sound.arena.token found label
        rw [NodeKey.Proper, show node.key.label = _ from label, show node.key.span = _ from span]
      | nonterminal _ => simp [Node.isToken, label] at token
      | progress _ _ _ => simp [Node.isToken, label] at token
    | false =>
      obtain ⟨family, later, families, -⟩ := sound.grounded found token
      obtain ⟨production, dot, known, label, joins⟩ :=
        sound.arena.family found (families ▸ List.mem_cons_self)
      have proper := proper_of_joins known joins
      rwa [← label] at proper
  wanted := sound.wanted known
  spelled := sound.exists_spells known

/-- The nodes of a chart whose columns are all closed have exactly the keys that stand for something
wanted up to the current position. -/
theorem Filled.exists_key_iff (consistent : g.Consistent)
    (filled : chart.Filled g fits root (chart.position + 1)) :
    (∃ id, chart.arena.key? id = some key) ↔
      key.Stands g fits root ∧ key.span.stop ≤ chart.position := by
  constructor
  · rintro ⟨id, known⟩
    exact ⟨filled.sound.stands known, filled.sound.arena.stop_le known⟩
  · rintro ⟨⟨proper, wanted, derivations, spelled⟩, reached⟩
    obtain ⟨⟨start, stop⟩, label⟩ := key
    have earlier : start ≤ stop := spelled.start_le
    replace reached : stop ≤ chart.position := reached
    cases label with
    | nonterminal nonterminal =>
      obtain ⟨node, key, -⟩ := filled.exists_resumed consistent wanted spelled reached
      exact ⟨node, key⟩
    | progress lhs rule dot =>
      obtain ⟨production, found, rfl, several, unfinished⟩ := proper
      rw [Label.symbols, found] at spelled
      have valid : Item.Valid g fits root stop production ⟨start, rule, dot, none⟩ :=
        ⟨found, Nat.le_of_lt unfinished, wanted, derivations, spelled⟩
      have labelled : production.labelAt? rule start dot =
          some (.progress production.lhs rule dot) := by
        rw [Production.labelAt?, if_neg (by omega), if_neg (by omega), Production.ownLabel,
          if_neg (Nat.ne_of_lt unfinished)]
      obtain ⟨node, -, key⟩ :=
        filled.exists_placed consistent (by omega) reached valid labelled
      exact ⟨node, key⟩
    | token terminal index =>
      obtain rfl : index = start := proper
      obtain ⟨rule, production, dot, first, before, found, expected, spelledBefore, awaited⟩ :=
        wanted
      obtain ⟨fit, rfl⟩ : fits index terminal = true ∧ index + 1 = stop := by
        cases spelled with
        | token fit rest => exact ⟨fit, rest.eq_of_nil.1⟩
      have valid : Item.Valid g fits root index production ⟨first, rule, dot, none⟩ :=
        ⟨found, Nat.le_of_lt (Production.lt_of_symbolAt? awaited), expected, before,
          spelledBefore⟩
      obtain ⟨node, present⟩ :=
        filled.exists_item_of_valid consistent (by omega) (by omega) valid
      have waits : Item.awaited? g ⟨first, rule, dot, node⟩ = some (.terminal terminal) :=
        (Item.awaited?_eq found).trans awaited
      obtain ⟨leaf, key, -⟩ :=
        filled.scanned index (by omega) _ production terminal present found waits fit
      exact ⟨leaf, key⟩

/-! ## Families -/

/-- The node that an item leads to past the node of a symbol has a family for this step. -/
theorem Filled.hasFamily_childrenWith (consistent : g.Consistent)
    (filled : chart.Filled g fits root (chart.position + 1)) (inside : item ∈ chart.columnAt middle)
    (found : g.productions[item.production]? = some production)
    (awaited : production.symbolAt? item.dot = some symbol)
    (longer : ¬ (item.dot + 1 = 1 ∧ production.length ≥ 2))
    (childKey : chart.arena.key? child = some ⟨⟨middle, stop⟩, symbol.labelAt middle⟩)
    (known : chart.arena.key? id =
      some ⟨⟨item.origin, stop⟩, production.ownLabel item.production (item.dot + 1)⟩) :
    chart.arena.HasFamily id ⟨item.production, item.childrenWith child⟩ := by
  obtain ⟨node, later, joined⟩ := filled.took consistent inside found awaited childKey
  obtain ⟨_, valid, placed⟩ := filled.sound.item later
  obtain rfl := Option.some.inj (found.symm.trans valid.found)
  rw [Item.Placed, Item.advanced_production, Item.advanced_origin, Item.advanced_dot,
    Production.labelAt?, if_neg (Nat.succ_ne_zero _), if_neg longer] at placed
  obtain ⟨own, same, key⟩ := placed
  obtain rfl := Option.some.inj same
  obtain rfl := filled.sound.arena.unique key known
  rw [Item.Joined, if_neg longer] at joined
  exact joined

/-- The node of an empty production of an expected nonterminal has a family without children. -/
theorem Filled.hasFamily_empty (consistent : g.Consistent)
    (filled : chart.Filled g fits root (chart.position + 1)) {start : Nat} {rule : ProductionId}
    (expected : g.Expects fits root production.lhs start)
    (found : g.productions[rule]? = some production) (nothing : production.symbols = [])
    (known : chart.arena.key? id = some ⟨⟨start, start⟩, production.ownLabel rule 0⟩) :
    chart.arena.HasFamily id ⟨rule, .empty⟩ := by
  have reached : start ≤ chart.position := filled.sound.arena.stop_le known
  have predicted := filled.exists_predicted consistent expected (by omega) reached found rfl
  have bare : production.symbolAt? 0 = none := by rw [Production.symbolAt?, nothing]; rfl
  have waits : (Item.predicted rule start).awaited? g = none :=
    (Item.awaited?_eq found).trans bare
  obtain ⟨node, key, has, -⟩ :=
    (filled.closed start (by omega)).completed predicted found waits
  have whole : production.ownLabel rule 0 = .nonterminal production.lhs := by
    rw [Production.ownLabel, if_pos (by rw [Production.length, nothing]; rfl)]
  rw [whole] at known
  obtain rfl := filled.sound.arena.unique key known
  exact has nothing

/-- The node for the symbols of an expected production has every family that joins nodes for these
symbols. -/
theorem Filled.hasFamily_of_joins (consistent : g.Consistent)
    (filled : chart.Filled g fits root (chart.position + 1)) {span : Span} {rule : ProductionId}
    {dot : Nat} {children : Children} (expected : g.Expects fits root production.lhs span.start)
    (found : g.productions[rule]? = some production)
    (joins : children.Joins chart.arena production rule dot span)
    (known : chart.arena.key? id = some ⟨span, production.ownLabel rule dot⟩) :
    chart.arena.HasFamily id ⟨rule, children⟩ := by
  have sound := filled.sound
  cases joins with
  | empty nothing => exact filled.hasFamily_empty consistent expected found nothing known
  | @first symbol child start stop alone childKey =>
    obtain ⟨_, spelled⟩ := sound.exists_spells childKey
    have earlier : start ≤ stop := spelled.start_le
    have reached : stop ≤ chart.position := sound.arena.stop_le known
    replace expected : g.Expects fits root production.lhs start := expected
    have predicted :=
      filled.exists_predicted consistent expected (by omega) (by omega) found rfl
    have awaited : production.symbolAt? 0 = some symbol := by
      rw [Production.symbolAt?, alone]
      rfl
    have single : production.length = 1 := by rw [Production.length, alone]; rfl
    exact filled.hasFamily_childrenWith consistent predicted found awaited
      (by rw [single]; omega) childKey known
  | @next symbol label left right dot start middle stop next labelled leftKey rightKey =>
    have inside := Production.lt_of_symbolAt? next
    have reached : stop ≤ chart.position := sound.arena.stop_le known
    obtain ⟨_, spelledRight⟩ := sound.exists_spells rightKey
    have upTo : middle ≤ stop := spelledRight.start_le
    obtain ⟨before, spelled⟩ := sound.exists_spells leftKey
    rw [production.symbols_labelAt? found inside labelled] at spelled
    have valid : Item.Valid g fits root middle production ⟨start, rule, dot, none⟩ :=
      ⟨found, Nat.le_of_lt inside, expected, before, spelled⟩
    obtain ⟨node, present, nodeKey⟩ :=
      filled.exists_placed consistent (by omega) (by omega) valid labelled
    obtain rfl := sound.arena.unique nodeKey leftKey
    have positive : dot ≠ 0 := by
      intro zero
      simp [Production.labelAt?, zero] at labelled
    exact filled.hasFamily_childrenWith consistent present found next
      (by dsimp only; omega) rightKey known

/-- A node of a chart whose columns are all closed has exactly the families that are steps to it
from nodes of the arena. -/
theorem Filled.hasFamily_iff (consistent : g.Consistent)
    (filled : chart.Filled g fits root (chart.position + 1))
    (known : chart.arena.key? id = some key) :
    chart.arena.HasFamily id family ↔ family.Licensed g chart.arena key := by
  constructor
  · rintro ⟨node, found, has⟩
    have step := filled.sound.arena.family found has
    rwa [Arena.key_eq found known] at step
  · rintro ⟨production, dot, found, label, joins⟩
    have wanted := filled.sound.wanted known
    obtain ⟨span, own⟩ := key
    obtain rfl : own = _ := label
    have expected := Production.wanted_ownLabel.1 wanted
    exact filled.hasFamily_of_joins consistent expected found joins known

end Chart

end ChartParser
