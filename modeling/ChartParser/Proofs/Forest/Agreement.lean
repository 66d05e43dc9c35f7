import ChartParser.Proofs.Forest.Counting

/-!
# Any forest has trees and a count that agree

A forest need not come from a parse: nodes and families may be entered in any order, so that there
are cycles, shared nodes and nodes without families, and no family need be a step of a production.
All that listing and counting rely on is that what the nodes mention exists (`Arena.Resolved`). Then
neither runs out of depth, and the count is the number of trees up to the largest count
(`Forest.exists_trees?_count?`).
-/

namespace ChartParser

/-- The symbol that a label names in a tree: none if it stands for the beginning of a production. -/
def Label.named? : Label → Option Symbol
  | nonterminal id => some (.nonterminal id)
  | token terminal _ => some (.terminal terminal)
  | progress _ _ _ => none

namespace Arena

variable {g : Grammar} {arena : Arena} {depth : Nat} {path : List NodeId} {id : NodeId}

/-- Families mention only nodes of the arena, and labels only symbols of the grammar. -/
structure Resolved (g : Grammar) (arena : Arena) : Prop where
  /-- The children of all families exist. -/
  closed : arena.Closed
  /-- The terminals and nonterminals that nodes stand for have been entered. -/
  known : ∀ {id : NodeId} {node : Node} {symbol : Symbol}, arena.nodes[id]? = some node →
    node.label.named? = some symbol → g.knows symbol = true

/-- The child lists of children exist if those of each child do. -/
theorem isSome_sequences {below : NodeId → Option (List (List Tree))} {children : Children}
    (each : ∀ child ∈ children.toList, (below child).isSome = true) :
    (children.sequences below).isSome = true := by
  cases children with
  | empty => rfl
  | one child => exact each child (by simp [Children.toList])
  | two left right =>
    obtain ⟨before, first⟩ := Option.isSome_iff_exists.1 (each left (by simp [Children.toList]))
    obtain ⟨after, second⟩ := Option.isSome_iff_exists.1 (each right (by simp [Children.toList]))
    rw [Children.sequences, first, second]
    rfl

/-- The trees of a node exist if its child lists do and its label names nothing unknown. -/
theorem Resolved.isSome_treesOf (resolved : arena.Resolved g) {node : Node}
    (found : arena.nodes[id]? = some node) {children : NodeId → Option (List (List Tree))}
    (below : (children id).isSome = true) :
    (Forest.treesOf g children id node).isSome = true := by
  unfold Forest.treesOf
  cases label : node.label with
  | token terminal index =>
    have entered : g.knows (.terminal terminal) = true :=
      resolved.known found (by rw [label]; rfl)
    simp [Grammar.symbolName?_eq_some entered]
  | nonterminal nonterminal =>
    have entered : g.knows (.nonterminal nonterminal) = true :=
      resolved.known found (by rw [label]; rfl)
    obtain ⟨sequences, listed⟩ := Option.isSome_iff_exists.1 below
    simp [Grammar.symbolName?_eq_some entered, listed]
  | progress nonterminal rule dot => rfl

/-- What a node contributes exists if its child lists do. -/
theorem Resolved.isSome_contributions (resolved : arena.Resolved g) (inside : id < arena.size)
    {children : NodeId → Option (List (List Tree))} (below : (children id).isSome = true) :
    (Forest.contributions g arena children id).isSome = true := by
  have found := Array.getElem?_eq_getElem inside
  unfold Forest.contributions
  rw [found]
  by_cases progress : arena.nodes[id].isProgress = true
  · simpa [progress] using below
  · obtain ⟨trees, listed⟩ := Option.isSome_iff_exists.1 (resolved.isSome_treesOf found below)
    simp [progress, listed]

/-- The child lists of every node exist, on whatever way the node is reached. -/
theorem Resolved.isSome_childrenWithin (resolved : arena.Resolved g) (way : arena.Way path depth)
    (inside : id < arena.size) :
    (Forest.childrenWithin g arena depth path id).isSome = true := by
  induction depth generalizing path id with
  | zero => exact absurd rfl way.depth_ne_zero
  | succ depth ih =>
    have found := Array.getElem?_eq_getElem inside
    unfold Forest.childrenWithin
    by_cases met : id ∈ path
    · rw [if_pos (meets_iff.2 met)]
      rfl
    · rw [if_neg (by rwa [meets_iff]), found]
      have next := way.step inside met
      have families : ∀ family ∈ arena.nodes[id].families,
          family.children.sequences (Forest.contributions g arena
            (Forest.childrenWithin g arena depth (id :: path))) =
          some ((family.children.sequences (Forest.contributions g arena
            (Forest.childrenWithin g arena depth (id :: path)))).getD []) := by
        intro family has
        have listed : (family.children.sequences (Forest.contributions g arena
            (Forest.childrenWithin g arena depth (id :: path)))).isSome = true := by
          refine isSome_sequences fun child below => ?_
          have childInside := resolved.closed found has below
          exact resolved.isSome_contributions childInside (ih next childInside)
        obtain ⟨lists, same⟩ := Option.isSome_iff_exists.1 listed
        rw [same]
        rfl
      simp [mapM_eq_some families]

end Arena

/-- The trees of a forest exist whose root does and whose nodes mention only what exists. -/
theorem Forest.exists_trees? {forest : Forest} (resolved : forest.arena.Resolved forest.grammar)
    {node : Node} (found : forest.arena.nodes[forest.root]? = some node) :
    ∃ trees, forest.trees? = some trees := by
  have inside := (Array.getElem?_eq_some_iff.1 found).1
  have below := resolved.isSome_childrenWithin (.start forest.arena) inside
  have listed := resolved.isSome_treesOf found below
  unfold trees?
  rw [found]
  exact Option.isSome_iff_exists.1 listed

/-- Whatever the nodes and families of a forest are, as long as what they mention exists, listing
and counting its trees both come to an end, and the count is the number of trees up to the largest
count. -/
theorem Forest.exists_trees?_count? (forest : Forest)
    (resolved : forest.arena.Resolved forest.grammar) {node : Node}
    (found : forest.arena.nodes[forest.root]? = some node) (whole : node.isProgress = false) :
    ∃ trees, forest.trees? = some trees ∧
      forest.count? = some (min trees.length maxCount) := by
  obtain ⟨trees, listed⟩ := exists_trees? resolved found
  exact ⟨trees, listed, count?_eq_of_trees? resolved.closed found whole listed⟩

/-- The grammar of `R -> A | B`, `A -> B | x` and `B -> A`. -/
def loopingRules : Grammar := .ofEntries
  [.rule "R" ["A"], .rule "R" ["B"], .rule "A" ["B"], .rule "A" ["x"], .rule "B" ["A"]]

/-- Four nodes over one token, in which `A` and `B` derive each other, and `R` derives both. -/
def loopingArena : Arena :=
  let (x, arena) := Arena.empty.nodeFor ⟨⟨0, 1⟩, .token 0 0⟩
  let (r, arena) := arena.nodeFor ⟨⟨0, 1⟩, .nonterminal 0⟩
  let (a, arena) := arena.nodeFor ⟨⟨0, 1⟩, .nonterminal 1⟩
  let (b, arena) := arena.nodeFor ⟨⟨0, 1⟩, .nonterminal 2⟩
  let arena := (arena.addFamily r ⟨0, .one a⟩).addFamily r ⟨1, .one b⟩
  let arena := (arena.addFamily a ⟨2, .one b⟩).addFamily a ⟨3, .one x⟩
  arena.addFamily b ⟨4, .one a⟩

/-- The cycle between `A` and `B` is cut on both ways into it, and `R` has two trees. -/
theorem count?_loopingArena :
    loopingArena.Resolved loopingRules ∧
      ∃ trees, (⟨loopingRules, loopingArena, 1⟩ : Forest).trees? = some trees ∧
        trees.map Tree.bracketed = ["(R (A x))", "(R (B (A x)))"] ∧
        (⟨loopingRules, loopingArena, 1⟩ : Forest).count? = some 2 := by
  have nodes : ∀ node ∈ loopingArena.nodes.toList,
      (∀ family ∈ node.families, ∀ child ∈ family.children.toList, child < loopingArena.size) ∧
        ∀ symbol ∈ node.label.named?, loopingRules.knows symbol = true := by decide +kernel
  have listed : ∀ {id : NodeId} {node : Node}, loopingArena.nodes[id]? = some node →
      node ∈ loopingArena.nodes.toList := fun found =>
    Array.mem_toList_iff.2 (Array.mem_of_getElem? found)
  have resolved : loopingArena.Resolved loopingRules := {
    closed := fun found has below => (nodes _ (listed found)).1 _ has _ below
    known := fun found named => (nodes _ (listed found)).2 _ named }
  have found : loopingArena.nodes[1]? =
      some ⟨⟨⟨0, 1⟩, .nonterminal 0⟩, [⟨0, .one 2⟩, ⟨1, .one 3⟩]⟩ := by decide +kernel
  obtain ⟨trees, same, counted⟩ := Forest.exists_trees?_count?
    ⟨loopingRules, loopingArena, 1⟩ resolved found rfl
  have printed : (⟨loopingRules, loopingArena, 1⟩ : Forest).trees?.map
      (List.map Tree.bracketed) = some ["(R (A x))", "(R (B (A x)))"] := by decide +kernel
  rw [same, Option.map_some, Option.some.injEq] at printed
  have two : trees.length = 2 := by
    rw [← List.length_map Tree.bracketed, printed]
    rfl
  rw [two] at counted
  exact ⟨resolved, trees, same, printed, counted⟩

end ChartParser
