import ChartParser.Proofs.Forest.Readings
import ChartParser.Proofs.Forest.Ways
import ChartParser.Proofs.Grammar.Renaming
import Mathlib.Data.Set.Function
import Mathlib.Order.Interval.Set.Defs

/-!
# Forests with other ids

A renaming gives new ids to what stands in labels and families, and with them to the keys of nodes
and to the ways down a derivation. Nodes have ids of their own, which depend on the order in which
they were made, so that a family is moved along with a map of node ids. A family that is a step to a
key stays one when keys and children are moved alike (`Arena.Moves.licensed`).
-/

namespace ChartParser

/-- The children, with each node moved. -/
def Children.map (move : NodeId → NodeId) : Children → Children
  | empty => .empty
  | one child => .one (move child)
  | two left right => .two (move left) (move right)

/-- Moving children there and back leaves them alone if it leaves each of them alone. -/
theorem Children.map_map_eq_self {move back : NodeId → NodeId} {children : Children}
    (inverse : ∀ child ∈ children.toList, move (back child) = child) :
    (children.map back).map move = children := by
  cases children with
  | empty => rfl
  | one child => simp_all [map, toList]
  | two left right => simp_all [map, toList]

namespace Renaming

/-! ## What has new ids -/

section Actions

variable (change : Renaming)

/-- The label with new ids. -/
def label : Label → Label
  | .nonterminal id => .nonterminal (change.nonterminal id)
  | .progress id production dot =>
    .progress (change.nonterminal id) (change.production production) dot
  | .token terminal index => .token (change.terminal terminal) index

/-- The key with new ids in its label. -/
def key (key : NodeKey) : NodeKey := ⟨key.span, change.label key.label⟩

/-- The family with a new id for its production and with its children moved. -/
def family (move : NodeId → NodeId) (family : Family) : Family :=
  ⟨change.production family.production, family.children.map move⟩

/-- A key gets its old ids back. -/
@[simp]
theorem symm_key (key : NodeKey) : change.symm.key (change.key key) = key := by
  obtain ⟨span, label⟩ := key
  cases label <;> simp [Renaming.key, Renaming.label, symm]

/-- A key gets its new ids back. -/
@[simp]
theorem key_symm (key : NodeKey) : change.key (change.symm.key key) = key :=
  change.symm.symm_key key

/-- Different keys stay different. -/
theorem key_injective : Function.Injective change.key :=
  Function.LeftInverse.injective change.symm_key

/-- A family gets its old ids back if its children are moved back. -/
theorem symm_family {move back : NodeId → NodeId} {family : Family}
    (inverse : ∀ child ∈ family.children.toList, back (move child) = child) :
    change.symm.family back (change.family move family) = family := by
  rw [Renaming.family, Renaming.family, Children.map_map_eq_self inverse]
  simp [symm]

/-- The label of a symbol is that of the symbol under its new id. -/
theorem labelAt_symbol (symbol : Symbol) (start : Nat) :
    (change.symbol symbol).labelAt start = change.label (symbol.labelAt start) := by
  cases symbol <;> rfl

/-- The node of a production is that of the production under its new id. -/
theorem ownLabel_rule (production : Production) (rule : ProductionId) (dot : Nat) :
    (change.rule production).ownLabel (change.production rule) dot =
      change.label (production.ownLabel rule dot) := by
  rw [Production.ownLabel, Production.ownLabel, length_rule]
  split <;> rfl

/-- The label for the first symbols of a production is that for those under their new ids. -/
theorem labelAt?_rule (production : Production) (rule : ProductionId) (start dot : Nat) :
    (change.rule production).labelAt? (change.production rule) start dot =
      (production.labelAt? rule start dot).map change.label := by
  rw [Production.labelAt?, Production.labelAt?, length_rule, ownLabel_rule, symbolAt?_rule]
  split
  · rfl
  split
  · rw [Option.map_map, Option.map_map]
    exact congrArg (Option.map · _) (funext fun symbol => change.labelAt_symbol symbol start)
  · rfl

end Actions

variable {change : Renaming} {g h : Grammar} {fits fitsToo : Nat → TerminalId → Bool}

/-- A label stands for the same symbols under the new ids. -/
theorem Carries.symbols_label (carries : change.Carries g h) (label : Label) :
    (change.label label).symbols h = (label.symbols g).map change.symbol := by
  cases label with
  | nonterminal _ => rfl
  | token _ _ => rfl
  | progress _ rule dot =>
    rw [Renaming.label, Label.symbols, Label.symbols, carries.production]
    cases g.productions[rule]? with
    | none => rfl
    | some production => exact change.take_rule production dot

/-! ## Ways down -/

/-- A production belongs to its left-hand side under the new id. -/
theorem Carries.lhsOf_eq (carries : change.Carries g h) {rule : ProductionId}
    {production : Production} (found : g.productions[rule]? = some production) :
    h.lhsOf (change.production rule) = change.nonterminal (g.lhsOf rule) := by
  rw [Grammar.lhsOf_eq found, Grammar.lhsOf_eq (carries.found found)]
  rfl

/-- The ways to the first symbols of a production meet the same nodes under the new ids. -/
theorem gather_map {rule : ProductionId}
    (lhs : h.lhsOf (change.production rule) = change.nonterminal (g.lhsOf rule))
    (start stop dot : Nat) (ways : List (List NodeKey)) :
    Derivation.gather h (change.production rule) start stop dot
        (ways.map (List.map change.key)) =
      (Derivation.gather g rule start stop dot ways).map (List.map change.key) := by
  match dot with
  | 0 => rfl
  | 1 => rfl
  | dot + 2 =>
    simp only [Derivation.gather, lhs, List.map_map]
    rfl

/-- The ways to the symbols of a production meet the same nodes under the new ids, if the ways down
each symbol do. -/
theorem waysThrough_map {rule : ProductionId}
    (lhs : h.lhsOf (change.production rule) = change.nonterminal (g.lhsOf rule))
    {children : List Derivation} (each : ∀ child ∈ children,
      (change.derivation child).ways h = (child.ways g).map (List.map change.key))
    (start stop dot : Nat) (before : List (List NodeKey)) :
    Derivation.waysThrough h (change.production rule) start stop dot
        (before.map (List.map change.key)) (children.map change.derivation) =
      (Derivation.waysThrough g rule start stop dot before children).map
        (List.map change.key) := by
  induction children generalizing stop dot before with
  | nil => rfl
  | cons child rest ih =>
    obtain ⟨first, later⟩ := List.forall_mem_cons.1 each
    rw [List.map_cons, Derivation.waysThrough, span_derivation, gather_map lhs, first,
      ← List.map_append, ih later, Derivation.waysThrough]

/-- The ways down what is derived meet the same nodes under the new ids. -/
theorem Carries.ways_eq (carries : change.Carries g h) {symbols : List Symbol} {start stop : Nat}
    {derivations : List Derivation} (spelled : g.Spells fits symbols start stop derivations) :
    ∀ derivation ∈ derivations,
      (change.derivation derivation).ways h =
        (derivation.ways g).map (List.map change.key) := by
  induction spelled with
  | nil => simp
  | token _ _ ih => exact List.forall_mem_cons.2 ⟨rfl, ih⟩
  | @branch rule production _ start middle _ children _ found _ _ ihBody ihRest =>
    refine List.forall_mem_cons.2 ⟨?_, ihRest⟩
    have lhs := carries.lhsOf_eq found
    have through := waysThrough_map lhs ihBody start start 0 [[]]
    rw [List.map_singleton, List.map_nil] at through
    rw [derivation_branch, Derivation.ways, Derivation.ways, lhs, through, List.map_map,
      List.map_map]
    rfl

end Renaming

/-! ## Arenas that are moved along -/

namespace Arena

variable {change : Renaming} {move back : NodeId → NodeId} {left right : Arena} {g h : Grammar}
  {fits fitsToo : Nat → TerminalId → Bool} {stop stopToo : Nat} {id : NodeId}

/-- Each node of the first arena is moved to one of the second with the same key under the new ids.
-/
def Moves (change : Renaming) (move : NodeId → NodeId) (left right : Arena) : Prop :=
  ∀ ⦃id : NodeId⦄ ⦃key : NodeKey⦄,
    left.key? id = some key → right.key? (move id) = some (change.key key)

namespace Moves

/-- Children that stand for symbols of a production stand for them under the new ids when they are
moved. -/
theorem joins (moves : left.Moves change move right) {production : Production}
    {rule : ProductionId} {dot : Nat} {span : Span} {children : Children}
    (joins : children.Joins left production rule dot span) :
    (children.map move).Joins right (change.rule production) (change.production rule) dot
      span := by
  cases joins with
  | empty nothing => exact .empty (by rw [Renaming.rule, nothing]; rfl)
  | first alone key =>
    have moved := moves key
    rw [Renaming.key, ← change.labelAt_symbol] at moved
    exact .first (by rw [Renaming.rule, alone]; rfl) moved
  | next next labelled leftKey rightKey =>
    have movedLeft := moves leftKey
    have movedRight := moves rightKey
    rw [Renaming.key, ← change.labelAt_symbol] at movedRight
    refine .next ?_ ?_ movedLeft movedRight
    · rw [change.symbolAt?_rule, next, Option.map_some]
    · rw [change.labelAt?_rule, labelled, Option.map_some]

/-- A step to a key is a step to the key under the new ids when its children are moved. -/
theorem licensed (moves : left.Moves change move right) (carries : change.Carries g h)
    {key : NodeKey} {family : Family} (step : family.Licensed g left key) :
    (change.family move family).Licensed h right (change.key key) := by
  obtain ⟨production, dot, found, label, joins⟩ := step
  refine ⟨change.rule production, dot, carries.found found, ?_, moves.joins joins⟩
  rw [Renaming.key, label]
  exact (change.ownLabel_rule production family.production dot).symm

/-- Moving a node back and forth leaves it where it is. -/
theorem move_back (moves : left.Moves change move right)
    (backwards : right.Moves change.symm back left) (licensed : right.Licensed g fits stop)
    (inside : id < right.size) : move (back id) = id := by
  obtain ⟨key, known⟩ := exists_key inside
  have returned := moves (backwards known)
  rw [change.key_symm] at returned
  exact licensed.unique returned known

/-- If the nodes of each arena are moved to the other, they are moved one to one. -/
theorem bijOn (moves : left.Moves change move right)
    (backwards : right.Moves change.symm back left) (licensed : left.Licensed g fits stop)
    (licensedToo : right.Licensed h fitsToo stopToo) :
    Set.BijOn move (Set.Iio left.size) (Set.Iio right.size) := by
  have there : Set.MapsTo move (Set.Iio left.size) (Set.Iio right.size) := by
    intro id inside
    obtain ⟨key, known⟩ := exists_key inside
    exact lt_size_of_key (moves known)
  have again : Set.MapsTo back (Set.Iio right.size) (Set.Iio left.size) := by
    intro id inside
    obtain ⟨key, known⟩ := exists_key inside
    exact lt_size_of_key (backwards known)
  have leftInverse : Set.LeftInvOn back move (Set.Iio left.size) := by
    intro id inside
    exact backwards.move_back moves licensed inside
  have rightInverse : Set.RightInvOn back move (Set.Iio right.size) := by
    intro id inside
    exact moves.move_back backwards licensedToo inside
  exact Set.InvOn.bijOn ⟨leftInverse, rightInverse⟩ there again

end Moves

/-- The arenas are the same but for ids: the nodes of the first are moved one to one to those of the
second, each to the node of its key under the new ids, which has the same families up to order when
their children are moved as well. -/
structure Renames (change : Renaming) (move : NodeId → NodeId) (left right : Arena) : Prop where
  bijOn : Set.BijOn move (Set.Iio left.size) (Set.Iio right.size)
  node : ∀ {id : NodeId} {node : Node}, left.nodes[id]? = some node →
    ∃ other, right.nodes[move id]? = some other ∧ other.key = change.key node.key ∧
      other.families.Perm (node.families.map (change.family move))

/-- Licensed arenas are the same but for ids if their nodes are moved to each other and have the
same families then. -/
theorem Moves.renames (moves : left.Moves change move right)
    (backwards : right.Moves change.symm back left) (licensed : left.Licensed g fits stop)
    (licensedToo : right.Licensed h fitsToo stopToo)
    (forth : ∀ {id : NodeId} {node other : Node}, left.nodes[id]? = some node →
      right.nodes[move id]? = some other → ∀ family ∈ node.families,
        change.family move family ∈ other.families)
    (again : ∀ {id : NodeId} {node other : Node}, left.nodes[id]? = some node →
      right.nodes[move id]? = some other → ∀ family ∈ other.families,
        change.symm.family back family ∈ node.families) :
    left.Renames change move right where
  bijOn := moves.bijOn backwards licensed licensedToo
  node {id node} found := by
    obtain ⟨other, foundToo, same⟩ := Option.map_eq_some_iff.1 (moves (key?_eq_key found))
    refine ⟨other, foundToo, same, ?_⟩
    have once : (node.families.map (change.family move)).Nodup := by
      refine (licensed.nodup found).map_on fun first inside second insideToo alike => ?_
      have stays : ∀ family ∈ node.families,
          change.symm.family back (change.family move family) = family := by
        intro family inside
        refine change.symm_family fun child below => ?_
        exact backwards.move_back moves licensed (licensed.closed found inside below)
      rw [← stays first inside, alike, stays second insideToo]
    refine (List.perm_ext_iff_of_nodup (licensedToo.nodup foundToo) once).2 fun family => ?_
    rw [List.mem_map]
    constructor
    · intro inside
      refine ⟨_, again found foundToo family inside, ?_⟩
      refine change.symm.symm_family fun child below => ?_
      exact moves.move_back backwards licensedToo (licensedToo.closed foundToo inside below)
    · rintro ⟨origin, inside, rfl⟩
      exact forth found foundToo origin inside

/-- The node with the key under the new ids is the one that a node is moved to. -/
theorem Renames.move_eq (renames : left.Renames change move right)
    (licensed : right.Licensed h fitsToo stop) {key : NodeKey} (known : left.key? id = some key)
    {other : NodeId} (knownToo : right.key? other = some (change.key key)) : move id = other := by
  obtain ⟨node, found, rfl⟩ := Option.map_eq_some_iff.1 known
  obtain ⟨moved, foundToo, same, -⟩ := renames.node found
  refine licensed.unique ?_ knownToo
  rw [key?_eq_key foundToo, same]

end Arena

end ChartParser
