import ChartParser.Proofs.Forest.Readings

/-!
# First families lead down

The nodes of a forest may refer to each other in cycles, because families are added to a node long
after it was made. But a node is made together with its first family, whose children exist before
it. This order of making is never lost, so that it does not matter what is added later: the first
families alone lead from any node down to tokens and empty productions (`Arena.Grounded`).
-/

namespace ChartParser.Arena

variable {g : Grammar} {fits : Nat → TerminalId → Bool} {arena : Arena} {position : Nat}
  {key : NodeKey} {family : Family}

/-- Every node but a token has a first family, all of whose children were made before the node. -/
def Grounded (arena : Arena) : Prop :=
  ∀ ⦃id : NodeId⦄ ⦃node : Node⦄, arena.nodes[id]? = some node → node.isToken = false →
    ∃ (family : Family) (later : List Family), node.families = family :: later ∧
      ∀ child ∈ family.children.toList, child < id

/-- The node is a child of the first family of the other. -/
def FirstChild (arena : Arena) (child id : NodeId) : Prop :=
  ∃ (node : Node) (family : Family), arena.nodes[id]? = some node ∧
    node.families.head? = some family ∧ child ∈ family.children.toList

/-- In a grounded arena whose tokens have no families, following first families always ends. -/
theorem Grounded.wellFounded_firstChild (grounded : arena.Grounded)
    (licensed : arena.Licensed g fits position) : WellFounded arena.FirstChild := by
  refine Subrelation.wf (fun {child id} below => ?_) Nat.lt_wfRel.wf
  obtain ⟨node, family, found, first, inside⟩ := below
  cases token : node.isToken with
  | false =>
    obtain ⟨made, later, families, smaller⟩ := grounded found token
    rw [families, List.head?_cons, Option.some.injEq] at first
    exact smaller child (first ▸ inside)
  | true =>
    cases label : node.label with
    | token terminal index =>
      obtain ⟨-, -, bare⟩ := licensed.token found label
      simp [bare] at first
    | nonterminal _ => simp [Node.isToken, label] at token
    | progress _ _ _ => simp [Node.isToken, label] at token

/-- The empty arena is grounded. -/
theorem grounded_empty : Arena.empty.Grounded := by
  intro id node found
  simp [Arena.empty] at found

/-- Which nodes are recent does not matter. -/
theorem Grounded.forgetRecent (grounded : arena.Grounded) : arena.forgetRecent.Grounded := grounded

/-- A family added to a node stands behind those it has. -/
theorem Grounded.addFamily (grounded : arena.Grounded) (id : NodeId) (family : Family) :
    (arena.addFamily id family).Grounded := by
  intro other node found token
  obtain ⟨old, present, rfl | ⟨rfl, rfl⟩⟩ := getElem?_addFamily found
  · exact grounded present token
  · have tokenToo : old.isToken = false := by
      unfold Node.isToken Node.label at token ⊢
      rwa [Node.key_addFamily] at token
    obtain ⟨first, later, families, smaller⟩ := grounded present tokenToo
    have grown : old.families <+: (old.addFamily family).families := Node.prefix_families_addFamily
    obtain ⟨added, same⟩ := grown
    rw [families, List.cons_append] at same
    exact ⟨first, later ++ added, same.symm, smaller⟩

/-- A token may be looked up or made. -/
theorem Grounded.nodeFor_token (grounded : arena.Grounded) {terminal : TerminalId} {index : Nat}
    (label : key.label = .token terminal index) : (arena.nodeFor key).2.Grounded := by
  unfold Arena.nodeFor
  split
  · exact grounded
  · intro id node found token
    rw [Array.getElem?_push] at found
    split at found
    · obtain rfl := Option.some.inj found
      simp [Node.isToken, Node.label, label] at token
    · exact grounded found token

/-- The children of a licensed family exist. -/
theorem lt_size_of_licensed (licensed : family.Licensed g arena key) :
    ∀ child ∈ family.children.toList, child < arena.size := by
  obtain ⟨production, dot, found, -, joins⟩ := licensed
  exact (row_of_joins found joins).lt_size

/-- A node may be looked up or made if a licensed family is added to it at once. -/
theorem Grounded.nodeFor_addFamily (grounded : arena.Grounded)
    (step : family.Licensed g arena key) :
    ((arena.nodeFor key).2.addFamily (arena.nodeFor key).1 family).Grounded := by
  have before := lt_size_of_licensed step
  unfold Arena.nodeFor
  split
  · exact grounded.addFamily _ family
  · intro id node found token
    simp only [Arena.addFamily, Array.getElem?_modify, Array.getElem?_push] at found
    by_cases last : id = arena.nodes.size
    · have made : Node.addFamily ⟨key, []⟩ family = node := by simpa [last] using found
      refine ⟨family, [], ?_, ?_⟩
      · rw [← made]
        simp [Node.addFamily]
      · rw [last]
        exact before
    · rw [if_neg (Ne.symm last), if_neg last] at found
      exact grounded found token

end ChartParser.Arena
