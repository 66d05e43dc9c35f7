import ChartParser.Forest.Arena
import ChartParser.Proofs.Grammar.Derivation
import ChartParser.Proofs.Tables

/-!
# Forests licensed by a grammar

Every node of a forest is known by its key, and every family of a node is a step of a production:
its children stand for the first symbols of the production over adjacent spans. `Arena.Licensed`
says so of a whole arena, together with what makes keys names of nodes: no two nodes have the same
key, and the recent nodes are those that end at the current position. Looking up a node and adding
a licensed family keep an arena licensed, and neither takes anything away from it (`Arena.Grows`).
-/

namespace ChartParser

/-! ## Labels -/

/-- The label of a symbol that is recognized from a token on. -/
def Symbol.labelAt (start : Nat) : Symbol → Label
  | .terminal id => .token id start
  | .nonterminal id => .nonterminal id

/-- The label of the node that a production gets for its first `dot` symbols. -/
def Production.ownLabel (production : Production) (id : ProductionId) (dot : Nat) : Label :=
  if dot = production.length then .nonterminal production.lhs
  else .progress production.lhs id dot

/-- The label of the node that stands for the first `dot` symbols of a production. The first symbol
of a longer production stands for itself. -/
def Production.labelAt? (production : Production) (id : ProductionId) (start dot : Nat) :
    Option Label :=
  if dot = 0 then none
  else if dot = 1 ∧ production.length ≥ 2 then (production.symbolAt? 0).map (·.labelAt start)
  else some (production.ownLabel id dot)

namespace Label

/-- The symbols that a label stands for. -/
def symbols (g : Grammar) : Label → List Symbol
  | nonterminal id => [.nonterminal id]
  | token id _ => [.terminal id]
  | progress _ id dot =>
    match g.productions[id]? with
    | some production => production.symbols.take dot
    | none => []

/-- The label of a symbol stands for the symbol. -/
@[simp]
theorem symbols_labelAt {g : Grammar} {start : Nat} {symbol : Symbol} :
    (symbol.labelAt start).symbols g = [symbol] := by
  cases symbol <;> rfl

end Label

variable {g : Grammar} {production : Production} {id : ProductionId} {start dot : Nat}

/-- One more symbol of a production. -/
theorem Production.take_succ {symbol : Symbol} (next : production.symbolAt? dot = some symbol) :
    production.symbols.take (dot + 1) = production.symbols.take dot ++ [symbol] := by
  rw [symbolAt?] at next
  rw [List.take_add_one, next, Option.toList_some]

/-- A dot before a symbol is not behind all symbols. -/
theorem Production.lt_of_symbolAt? {symbol : Symbol}
    (next : production.symbolAt? dot = some symbol) : dot < production.length :=
  (List.getElem?_eq_some_iff.1 next).1

/-- A dot that is not behind all symbols is before one. -/
theorem Production.exists_symbolAt? (inside : dot < production.length) :
    ∃ symbol, production.symbolAt? dot = some symbol :=
  ⟨production.symbols[dot], List.getElem?_eq_getElem inside⟩

/-- The labels of a production tell apart how many symbols they stand for. -/
theorem Production.dot_eq_of_ownLabel_eq {other : Nat}
    (same : production.ownLabel id dot = production.ownLabel id other) : dot = other := by
  rw [ownLabel, ownLabel] at same
  split at same <;> split at same
  · simp_all only
  · simp at same
  · simp at same
  · exact (Label.progress.inj same).2.2

/-- The node of a production is no token. -/
theorem Production.ownLabel_ne_token {terminal : TerminalId} {index : Nat} :
    production.ownLabel id dot ≠ .token terminal index := by
  rw [ownLabel]
  split <;> simp

/-- The label for the first symbols of a production stands for these symbols, unless they are all of
them. -/
theorem Production.symbols_labelAt? {label : Label} (found : g.productions[id]? = some production)
    (inside : dot < production.length) (labelled : production.labelAt? id start dot = some label) :
    label.symbols g = production.symbols.take dot := by
  rw [labelAt?] at labelled
  split at labelled
  · simp at labelled
  split at labelled
  · rename_i first
    obtain ⟨symbol, next, rfl⟩ := Option.map_eq_some_iff.1 labelled
    rw [Label.symbols_labelAt, first.1]
    simpa using (production.take_succ next).symm
  · obtain rfl := Option.some.inj labelled
    rw [ownLabel, if_neg (Nat.ne_of_lt inside)]
    simp [Label.symbols, found]

/-! ## Nodes that gain a family -/

namespace Node

variable {node : Node} {added other : Family}

/-- A node keeps its key when it gains a family. -/
@[simp]
theorem key_addFamily : (node.addFamily added).key = node.key := by
  rw [addFamily]
  split <;> rfl

/-- A node that gains a family has it besides its own. -/
theorem mem_families_addFamily :
    other ∈ (node.addFamily added).families ↔ other ∈ node.families ∨ other = added := by
  rw [addFamily]
  split
  · rename_i present
    exact ⟨.inl, fun either => either.elim id fun same => same ▸ present⟩
  · rw [List.mem_append, List.mem_singleton]

/-- A node that gains a family keeps its own in front. -/
theorem prefix_families_addFamily : node.families <+: (node.addFamily added).families := by
  rw [addFamily]
  split
  · exact List.prefix_refl _
  · exact List.prefix_append _ _

/-- A node that gains a family has no family twice if it had none twice before. -/
theorem nodup_families_addFamily (once : node.families.Nodup) :
    (node.addFamily added).families.Nodup := by
  rw [addFamily]
  split
  · exact once
  · rename_i absent
    refine List.nodup_append.2 ⟨once, by simp, ?_⟩
    rintro earlier inside last only rfl
    exact absent (List.mem_singleton.1 only ▸ inside)

end Node

/-! ## Arenas that grow -/

namespace Arena

variable {before after arena : Arena}

/-- The key of a node. -/
def key? (arena : Arena) (id : NodeId) : Option NodeKey := (arena.nodes[id]?).map (·.key)

/-- The key of a node is the one it is known by. -/
theorem key_eq {id : NodeId} {node : Node} {key : NodeKey} (found : arena.nodes[id]? = some node)
    (known : arena.key? id = some key) : node.key = key := by
  simpa [key?, found] using known

/-- A node is known by its key. -/
theorem key?_eq_key {id : NodeId} {node : Node} (found : arena.nodes[id]? = some node) :
    arena.key? id = some node.key := by
  rw [key?, found, Option.map_some]

/-- Every node has a key. -/
theorem exists_key {id : NodeId} (inside : id < arena.size) : ∃ key, arena.key? id = some key :=
  ⟨_, key?_eq_key (Array.getElem?_eq_getElem inside)⟩

/-- What has a key is a node. -/
theorem lt_size_of_key {id : NodeId} {key : NodeKey} (known : arena.key? id = some key) :
    id < arena.size := by
  obtain ⟨node, found, -⟩ := Option.map_eq_some_iff.1 known
  exact (Array.getElem?_eq_some_iff.1 found).1

/-- Every node of the earlier arena is in the later one, with the same key and at least its
families. -/
def Grows (before after : Arena) : Prop :=
  ∀ ⦃id : NodeId⦄ ⦃node : Node⦄, before.nodes[id]? = some node →
    ∃ later, after.nodes[id]? = some later ∧ later.key = node.key ∧
      node.families <+: later.families

namespace Grows

/-- An arena has grown from itself. -/
theorem refl (arena : Arena) : arena.Grows arena :=
  fun _ node found => ⟨node, found, rfl, List.prefix_refl _⟩

/-- Growth is transitive. -/
theorem trans {middle : Arena} (first : before.Grows middle) (second : middle.Grows after) :
    before.Grows after := by
  intro id node found
  obtain ⟨between, found, key, families⟩ := first found
  obtain ⟨later, found, sameKey, moreFamilies⟩ := second found
  exact ⟨later, found, sameKey.trans key, families.trans moreFamilies⟩

/-- Keys stay. -/
theorem key? (grows : before.Grows after) {id : NodeId} {key : NodeKey}
    (known : before.key? id = some key) : after.key? id = some key := by
  obtain ⟨node, found, rfl⟩ := Option.map_eq_some_iff.1 known
  obtain ⟨later, found, same, -⟩ := grows found
  rw [Arena.key?, found, Option.map_some, same]

end Grows

/-- Whether the node has the family. -/
def HasFamily (arena : Arena) (id : NodeId) (family : Family) : Prop :=
  ∃ node, arena.nodes[id]? = some node ∧ family ∈ node.families

/-- Families stay. -/
theorem Grows.hasFamily (grows : before.Grows after) {id : NodeId} {family : Family}
    (has : before.HasFamily id family) : after.HasFamily id family := by
  obtain ⟨node, found, inside⟩ := has
  obtain ⟨later, found, -, families⟩ := grows found
  exact ⟨later, found, families.subset inside⟩

/-- An arena grows when a node is added. -/
theorem grows_push (arena : Arena) (key : NodeKey) :
    arena.Grows ⟨arena.nodes.push ⟨key, []⟩, (key, arena.nodes.size) :: arena.recent⟩ := by
  intro id node found
  have inside := (Array.getElem?_eq_some_iff.1 found).1
  refine ⟨node, ?_, rfl, List.prefix_refl _⟩
  rw [← found, Array.getElem?_push_lt inside, Array.getElem?_eq_getElem inside]

/-- An arena grows when a node is looked up. -/
theorem grows_nodeFor (arena : Arena) (key : NodeKey) : arena.Grows (arena.nodeFor key).2 := by
  rw [nodeFor]
  split
  · exact .refl arena
  · exact arena.grows_push key

/-- A family is added to its node, and all other nodes stay as they are. -/
theorem getElem?_addFamily {id other : NodeId} {family : Family} {node : Node}
    (found : (arena.addFamily id family).nodes[other]? = some node) :
    ∃ old, arena.nodes[other]? = some old ∧
      (node = old ∨ other = id ∧ node = old.addFamily family) := by
  simp only [addFamily, Array.getElem?_modify] at found
  split at found
  · rename_i same
    obtain ⟨old, present, rfl⟩ := Option.map_eq_some_iff.1 found
    exact ⟨old, present, .inr ⟨same.symm, rfl⟩⟩
  · exact ⟨node, found, .inl rfl⟩

/-- Adding a family changes no key. -/
@[simp]
theorem key?_addFamily (arena : Arena) (id other : NodeId) (family : Family) :
    (arena.addFamily id family).key? other = arena.key? other :=
  map_getElem?_modify arena.nodes id (fun _ => Node.key_addFamily) other

/-- An arena grows when a family is added. -/
theorem grows_addFamily (arena : Arena) (id : NodeId) (family : Family) :
    arena.Grows (arena.addFamily id family) := by
  intro other node found
  simp only [addFamily, Array.getElem?_modify, found, Option.map_some]
  split
  · exact ⟨_, rfl, Node.key_addFamily, Node.prefix_families_addFamily⟩
  · exact ⟨node, rfl, rfl, List.prefix_refl _⟩

/-- A family added is there. -/
theorem hasFamily_addFamily {id : NodeId} {key : NodeKey} (known : arena.key? id = some key)
    (family : Family) : (arena.addFamily id family).HasFamily id family := by
  obtain ⟨node, found, -⟩ := Option.map_eq_some_iff.1 known
  have present : (arena.addFamily id family).nodes[id]? = some (node.addFamily family) := by
    simp [addFamily, Array.getElem?_modify, found]
  exact ⟨node.addFamily family, present, Node.mem_families_addFamily.2 (.inr rfl)⟩

end Arena

/-! ## Steps of productions -/

/-- The nodes that a family refers to, from left to right. -/
def Children.toList : Children → List NodeId
  | empty => []
  | one child => [child]
  | two left right => [left, right]

/-- The children stand for the first `dot` symbols of the production over the span. -/
inductive Children.Joins (arena : Arena) (production : Production) (id : ProductionId) :
    Nat → Span → Children → Prop
  | empty {start : Nat} (nothing : production.symbols = []) :
      Joins arena production id 0 ⟨start, start⟩ .empty
  | first {symbol : Symbol} {child : NodeId} {start stop : Nat}
      (alone : production.symbols = [symbol])
      (key : arena.key? child = some ⟨⟨start, stop⟩, symbol.labelAt start⟩) :
      Joins arena production id 1 ⟨start, stop⟩ (.one child)
  | next {symbol : Symbol} {label : Label} {left right : NodeId} {dot start middle stop : Nat}
      (next : production.symbolAt? dot = some symbol)
      (labelled : production.labelAt? id start dot = some label)
      (leftKey : arena.key? left = some ⟨⟨start, middle⟩, label⟩)
      (rightKey : arena.key? right = some ⟨⟨middle, stop⟩, symbol.labelAt middle⟩) :
      Joins arena production id (dot + 1) ⟨start, stop⟩ (.two left right)

/-- The family is a step of its production that leads to a node with this key. -/
def Family.Licensed (g : Grammar) (arena : Arena) (key : NodeKey) (family : Family) : Prop :=
  ∃ production dot, g.productions[family.production]? = some production ∧
    key.label = production.ownLabel family.production dot ∧
    family.children.Joins arena production family.production dot key.span

/-- A step stays one while the arena grows. -/
theorem Children.Joins.grows {before after : Arena} {span : Span} {children : Children}
    (joins : children.Joins before production id dot span) (grows : before.Grows after) :
    children.Joins after production id dot span := by
  cases joins with
  | empty nothing => exact .empty nothing
  | first alone key => exact .first alone (grows.key? key)
  | next next labelled leftKey rightKey =>
    exact .next next labelled (grows.key? leftKey) (grows.key? rightKey)

/-- A licensed family stays licensed while the arena grows. -/
theorem Family.Licensed.grows {before after : Arena} {key : NodeKey} {family : Family}
    (licensed : family.Licensed g before key) (grows : before.Grows after) :
    family.Licensed g after key := by
  obtain ⟨production, dot, found, label, joins⟩ := licensed
  exact ⟨production, dot, found, label, joins.grows grows⟩

/-! ## Licensed arenas -/

namespace Arena

variable {fits : Nat → TerminalId → Bool} {stop : Nat} {arena : Arena}

/-- All that the arena holds is licensed by the grammar and by the terminals that the tokens fit,
and its keys name its nodes. -/
structure Licensed (g : Grammar) (fits : Nat → TerminalId → Bool) (stop : Nat) (arena : Arena) :
    Prop where
  /-- The recent nodes are those that end at the current position. -/
  recent : ∀ {key : NodeKey} {id : NodeId},
    arena.recent.lookup key = some id ↔ key.span.stop = stop ∧ arena.key? id = some key
  /-- No node ends later. -/
  stop_le : ∀ {id : NodeId} {key : NodeKey}, arena.key? id = some key → key.span.stop ≤ stop
  /-- No two nodes have the same key. -/
  unique : ∀ {left right : NodeId} {key : NodeKey},
    arena.key? left = some key → arena.key? right = some key → left = right
  /-- A token covers its own position, fits its terminal and has no family. -/
  token : ∀ {id : NodeId} {node : Node} {terminal : TerminalId} {index : Nat},
    arena.nodes[id]? = some node → node.label = .token terminal index →
      node.span = ⟨index, index + 1⟩ ∧ fits index terminal = true ∧ node.families = []
  /-- Every family is a step of a production. -/
  family : ∀ {id : NodeId} {node : Node} {family : Family},
    arena.nodes[id]? = some node → family ∈ node.families → family.Licensed g arena node.key
  /-- No node has the same family twice. -/
  nodup : ∀ {id : NodeId} {node : Node}, arena.nodes[id]? = some node → node.families.Nodup

namespace Licensed

/-- The empty arena is licensed. -/
theorem empty : Arena.empty.Licensed g fits stop where
  recent := by simp [Arena.empty, key?]
  stop_le := by simp [Arena.empty, key?]
  unique := by simp [Arena.empty, key?]
  token := by simp [Arena.empty]
  family := by simp [Arena.empty]
  nodup := by simp [Arena.empty]

/-- At the next position no node is recent. -/
theorem forgetRecent (licensed : arena.Licensed g fits stop) :
    arena.forgetRecent.Licensed g fits (stop + 1) where
  recent {key id} := by
    simp only [Arena.forgetRecent, List.lookup_nil, reduceCtorEq, false_iff, not_and]
    intro later known
    have bound := licensed.stop_le known
    omega
  stop_le known := Nat.le_succ_of_le (licensed.stop_le known)
  unique := licensed.unique
  token := licensed.token
  family found inside := (licensed.family found inside).grows (.refl arena)
  nodup := licensed.nodup

/-- A new node that ends at the current position, without families and with a new key, keeps the
arena licensed. -/
theorem push (licensed : arena.Licensed g fits stop) {key : NodeKey}
    (stops : key.span.stop = stop) (fresh : ∀ id, arena.key? id ≠ some key)
    (token : ∀ terminal index, key.label = .token terminal index →
      key.span = ⟨index, index + 1⟩ ∧ fits index terminal = true) :
    Licensed g fits stop
      ⟨arena.nodes.push ⟨key, []⟩, (key, arena.nodes.size) :: arena.recent⟩ := by
  have keys : ∀ id, key? ⟨arena.nodes.push ⟨key, []⟩, (key, arena.nodes.size) :: arena.recent⟩ id =
      if id = arena.nodes.size then some key else arena.key? id :=
    map_getElem?_push arena.nodes ⟨key, []⟩ Node.key
  have nodes : ∀ {id : NodeId} {node : Node}, (arena.nodes.push ⟨key, []⟩)[id]? = some node →
      node = ⟨key, []⟩ ∨ arena.nodes[id]? = some node := by
    intro id node found
    rw [Array.getElem?_push] at found
    split at found
    · exact .inl (Option.some.inj found).symm
    · exact .inr found
  have beyond : arena.key? arena.nodes.size = none := by simp [key?]
  exact {
    recent := by
      intro other id
      rw [keys, lookup_cons_eq]
      by_cases same : other = key
      · subst same
        by_cases last : id = arena.nodes.size
        · simp [last, stops]
        · simp [last, fresh, Ne.symm last]
      · rw [if_neg same, licensed.recent]
        by_cases last : id = arena.nodes.size
        · simp [last, beyond, Ne.symm same]
        · simp [last]
    stop_le := by
      intro id other known
      rw [keys] at known
      split at known
      · obtain rfl := Option.some.inj known
        exact Nat.le_of_eq stops
      · exact licensed.stop_le known
    unique := fun first second =>
      eq_of_push arena.nodes ⟨key, []⟩ Node.key fresh licensed.unique first second
    token := by
      intro id node terminal index found labelled
      rcases nodes found with rfl | old
      · obtain ⟨span, fit⟩ := token terminal index labelled
        exact ⟨span, fit, rfl⟩
      · exact licensed.token old labelled
    family := by
      intro id node family found inside
      rcases nodes found with rfl | old
      · simp at inside
      · exact (licensed.family old inside).grows (arena.grows_push key)
    nodup := by
      intro id node found
      rcases nodes found with rfl | old
      · exact List.nodup_nil
      · exact licensed.nodup old }

/-- Looking up a node that ends at the current position gives the node of that key and keeps the
arena licensed. -/
theorem nodeFor (licensed : arena.Licensed g fits stop) {key : NodeKey}
    (stops : key.span.stop = stop)
    (token : ∀ terminal index, key.label = .token terminal index →
      key.span = ⟨index, index + 1⟩ ∧ fits index terminal = true) :
    (arena.nodeFor key).2.Licensed g fits stop ∧
      (arena.nodeFor key).2.key? (arena.nodeFor key).1 = some key := by
  rw [Arena.nodeFor]
  cases found : arena.recent.lookup key with
  | some id => exact ⟨licensed, (licensed.recent.1 found).2⟩
  | none =>
    have fresh : ∀ id, arena.key? id ≠ some key := by
      intro id known
      rw [licensed.recent.2 ⟨stops, known⟩] at found
      simp at found
    exact ⟨licensed.push stops fresh token, by simp [key?]⟩

/-- Adding a licensed family keeps the arena licensed. -/
theorem addFamily (licensed : arena.Licensed g fits stop) {id : NodeId} {key : NodeKey}
    {family : Family} (known : arena.key? id = some key)
    (step : family.Licensed g arena key) : (arena.addFamily id family).Licensed g fits stop := by
  have grows := arena.grows_addFamily id family
  exact {
    recent := by
      intro other member
      rw [key?_addFamily]
      exact licensed.recent
    stop_le := by
      intro member other known
      rw [key?_addFamily] at known
      exact licensed.stop_le known
    unique := by
      intro left right other first second
      rw [key?_addFamily] at first second
      exact licensed.unique first second
    token := by
      intro other node terminal index found labelled
      obtain ⟨old, present, rfl | ⟨rfl, rfl⟩⟩ := getElem?_addFamily found
      · exact licensed.token present labelled
      · obtain ⟨production, dot, -, label, -⟩ := step
        rw [Node.label, Node.key_addFamily, key_eq present known, label] at labelled
        exact absurd labelled Production.ownLabel_ne_token
    family := by
      intro other node added found inside
      obtain ⟨old, present, rfl | ⟨rfl, rfl⟩⟩ := getElem?_addFamily found
      · exact (licensed.family present inside).grows grows
      · rw [Node.key_addFamily]
        rcases Node.mem_families_addFamily.1 inside with earlier | rfl
        · exact (licensed.family present earlier).grows grows
        · rw [key_eq present known]
          exact step.grows grows
    nodup := by
      intro other node found
      obtain ⟨old, present, rfl | ⟨rfl, rfl⟩⟩ := getElem?_addFamily found
      · exact licensed.nodup present
      · exact Node.nodup_families_addFamily (licensed.nodup present) }

/-- Looking up the node that a step leads to and adding the step there keeps the arena licensed and
lets it grow, and leaves the step as a family of the node of that key. -/
theorem nodeFor_addFamily (licensed : arena.Licensed g fits stop) {key : NodeKey}
    {family : Family} (stops : key.span.stop = stop) (step : family.Licensed g arena key) :
    ((arena.nodeFor key).2.addFamily (arena.nodeFor key).1 family).Licensed g fits stop ∧
      arena.Grows ((arena.nodeFor key).2.addFamily (arena.nodeFor key).1 family) ∧
      ((arena.nodeFor key).2.addFamily (arena.nodeFor key).1 family).key? (arena.nodeFor key).1 =
        some key ∧
      ((arena.nodeFor key).2.addFamily (arena.nodeFor key).1 family).HasFamily
        (arena.nodeFor key).1 family := by
  have grows := arena.grows_nodeFor key
  obtain ⟨kept, known⟩ := licensed.nodeFor stops fun terminal index labelled => by
    obtain ⟨production, dot, -, label, -⟩ := step
    exact absurd (label.symm.trans labelled) Production.ownLabel_ne_token
  have licensedToo := kept.addFamily known (step.grows grows)
  have grown := grows.trans (grows_addFamily _ (arena.nodeFor key).1 family)
  refine ⟨licensedToo, grown, ?_, hasFamily_addFamily known family⟩
  rw [key?_addFamily]
  exact known

end Licensed

end Arena

end ChartParser
