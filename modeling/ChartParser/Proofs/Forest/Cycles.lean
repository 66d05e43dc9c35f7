import ChartParser.Proofs.Forest.Finiteness
import ChartParser.Proofs.Forest.Grounding
import Mathlib.Logic.Relation

/-!
# Cycles of a forest

A walk that remembers the nodes on its way comes back to one of them exactly if it can reach a cycle
(`Closed.returns_iff`). In a grounded forest every node unfolds to something, so that a cycle can be
gone around any number of times, and the nodes on it unfold to ever larger derivations; where no
cycle is reached, a walk lists all derivations. So a root has infinitely many derivations exactly if
a cycle can be reached from it (`Licensed.infinite_iff`).
-/

namespace ChartParser.Arena

variable {g : Grammar} {fits : Nat → TerminalId → Bool} {arena : Arena} {stop depth : Nat}
  {path : List NodeId} {id child other : NodeId}

/-! ## Coming back -/

/-- The second node is a child of some family of the first. -/
def Child (arena : Arena) (id child : NodeId) : Prop :=
  ∃ node family, arena.nodes[id]? = some node ∧ family ∈ node.families ∧
    child ∈ family.children.toList

/-- A walk that has come to the node through the nodes of `path` can go on, over nodes that it has
not met, to a node that it has. -/
inductive Returns (arena : Arena) : List NodeId → NodeId → Prop
  | here {path : List NodeId} {id : NodeId} (met : id ∈ path) : Returns arena path id
  | down {path : List NodeId} {id child : NodeId} (fresh : id ∉ path)
      (step : arena.Child id child) (returns : Returns arena (id :: path) child) :
      Returns arena path id

/-- A cycle can be reached from the node. -/
def LeadsToCycle (arena : Arena) (id : NodeId) : Prop :=
  ∃ other, Relation.ReflTransGen arena.Child id other ∧ Relation.TransGen arena.Child other other

/-- What leads to a cycle is on one or has a child that leads to it. -/
theorem LeadsToCycle.exists_child (leads : arena.LeadsToCycle id) :
    ∃ child, arena.Child id child ∧ arena.LeadsToCycle child := by
  obtain ⟨other, reached, cycle⟩ := leads
  rcases reached.cases_head with rfl | ⟨child, step, rest⟩
  · obtain ⟨child, step, back⟩ := Relation.TransGen.head'_iff.1 cycle
    exact ⟨child, step, id, back, cycle⟩
  · exact ⟨child, step, other, rest, cycle⟩

/-- The children of a node of a closed arena exist. -/
theorem Closed.lt_size (closed : arena.Closed) (step : arena.Child id child) :
    child < arena.size := by
  obtain ⟨node, family, found, has, below⟩ := step
  exact closed found has below

/-- A walk comes back where it leads to a cycle: it has no end but to meet a node again. -/
theorem Closed.returns (closed : arena.Closed) (way : arena.Way path depth)
    (inside : id < arena.size) (leads : arena.LeadsToCycle id) : arena.Returns path id := by
  induction depth generalizing path id with
  | zero => exact absurd rfl way.depth_ne_zero
  | succ depth ih =>
    by_cases met : id ∈ path
    · exact .here met
    · obtain ⟨child, step, leadsChild⟩ := leads.exists_child
      have next := way.step inside met
      exact .down met step (ih next (closed.lt_size step) leadsChild)

/-- A walk that comes back has reached a node on its way, or can reach a cycle. -/
theorem Returns.reaches (returns : arena.Returns path id) :
    (∃ upper ∈ path, Relation.ReflTransGen arena.Child id upper) ∨ arena.LeadsToCycle id := by
  induction returns with
  | @here path id met => exact .inl ⟨id, met, .refl⟩
  | @down path id child _ step _ ih =>
    rcases ih with ⟨upper, onWay, reached⟩ | ⟨other, reached, cycle⟩
    · rcases List.mem_cons.1 onWay with rfl | above
      · exact .inr ⟨upper, .refl, Relation.TransGen.head' step reached⟩
      · exact .inl ⟨upper, above, reached.head step⟩
    · exact .inr ⟨other, reached.head step, cycle⟩

/-- A walk from a node comes back exactly if a cycle can be reached from the node. -/
theorem Closed.returns_iff (closed : arena.Closed) (inside : id < arena.size) :
    arena.Returns [] id ↔ arena.LeadsToCycle id := by
  constructor
  · intro returns
    rcases returns.reaches with ⟨upper, above, -⟩ | leads
    · simp at above
    · exact leads
  · exact closed.returns (.start arena) inside

/-! ## Going around -/

/-- Children that all unfold unfold together. -/
theorem exists_unfolds_of_forall {ids : List NodeId}
    (each : ∀ id ∈ ids, ∃ derivations, arena.Unfolds [id] derivations) :
    ∃ body, arena.Unfolds ids body := by
  induction ids with
  | nil => exact ⟨[], .nil⟩
  | cons id ids ih =>
    obtain ⟨here, others⟩ := List.forall_mem_cons.1 each
    obtain ⟨first, unfoldsFirst⟩ := here
    obtain ⟨rest, unfoldsRest⟩ := ih others
    exact ⟨first ++ rest, unfoldsFirst.append unfoldsRest⟩

/-- In a grounded arena every node unfolds, by the first families alone. -/
theorem Grounded.exists_unfolds (grounded : arena.Grounded)
    (licensed : arena.Licensed g fits stop) (inside : id < arena.size) :
    ∃ derivations, arena.Unfolds [id] derivations := by
  induction id using Nat.strongRecOn with
  | _ id ih =>
  have found := Array.getElem?_eq_getElem inside
  cases token : arena.nodes[id].isToken with
  | true =>
    cases label : arena.nodes[id].label with
    | token terminal index => exact ⟨_, .token found label .nil⟩
    | nonterminal _ => simp [Node.isToken, label] at token
    | progress _ _ _ => simp [Node.isToken, label] at token
  | false =>
    obtain ⟨family, later, families, earlier⟩ := grounded found token
    have has : family ∈ arena.nodes[id].families := by
      rw [families]
      exact List.mem_cons_self
    have children : ∀ child ∈ family.children.toList,
        ∃ derivations, arena.Unfolds [child] derivations := by
      intro child below
      have smaller := earlier child below
      exact ih child smaller (Nat.lt_trans smaller inside)
    obtain ⟨body, unfolds⟩ := exists_unfolds_of_forall children
    obtain ⟨outer, unfoldsOuter, -⟩ := licensed.exists_unfolds found has unfolds
    exact ⟨outer, unfoldsOuter⟩

/-- In a grounded arena every node encloses its children. -/
theorem Grounded.encloses (grounded : arena.Grounded) (licensed : arena.Licensed g fits stop)
    (step : arena.Child id child) : arena.Encloses id child := by
  obtain ⟨node, family, found, has, below⟩ := step
  have children : ∀ other ∈ family.children.toList,
      ∃ derivations, arena.Unfolds [other] derivations := by
    intro other among
    exact grounded.exists_unfolds licensed (licensed.closed found has among)
  obtain ⟨body, unfolds⟩ := exists_unfolds_of_forall children
  exact licensed.encloses found has unfolds below

/-- What is below a bounded node of a grounded arena is bounded. -/
theorem Grounded.bounded (grounded : arena.Grounded) (licensed : arena.Licensed g fits stop)
    (reached : Relation.ReflTransGen arena.Child id other) (bounded : arena.Bounded id) :
    arena.Bounded other := by
  induction reached with
  | refl => exact bounded
  | tail _ step ih => exact ih.of_encloses (grounded.encloses licensed step)

/-- A node of a grounded arena encloses what it reaches in one or more steps. -/
theorem Grounded.encloses_of_transGen (grounded : arena.Grounded)
    (licensed : arena.Licensed g fits stop) (reached : Relation.TransGen arena.Child id other) :
    arena.Encloses id other := by
  induction reached with
  | single step => exact grounded.encloses licensed step
  | tail _ step ih => exact ih.trans (grounded.encloses licensed step)

/-- From a bounded node of a grounded arena no cycle can be reached. -/
theorem Grounded.not_leadsToCycle (grounded : arena.Grounded)
    (licensed : arena.Licensed g fits stop) (bounded : arena.Bounded id)
    (inside : id < arena.size) : ¬ arena.LeadsToCycle id := by
  rintro ⟨other, reached, cycle⟩
  have insideToo : other < arena.size := by
    rcases reached.cases_tail with rfl | ⟨_, -, step⟩
    · exact inside
    · exact Closed.lt_size licensed.closed step
  obtain ⟨_, unfolds⟩ := grounded.exists_unfolds licensed insideToo
  have boundedToo := grounded.bounded licensed reached bounded
  exact boundedToo.not_encloses_self unfolds (grounded.encloses_of_transGen licensed cycle)

/-- A root has infinitely many derivations exactly if a cycle can be reached from it. -/
theorem Licensed.infinite_iff (licensed : arena.Licensed g fits stop) (grounded : arena.Grounded)
    {root : NodeId} {span : Span} {nonterminal : NonterminalId}
    (key : arena.key? root = some ⟨span, .nonterminal nonterminal⟩) :
    {derivation | arena.Unfolds [root] [derivation]}.Infinite ↔ arena.LeadsToCycle root := by
  have inside := lt_size_of_key key
  constructor
  · -- Without a cycle no walk comes back, and all derivations are in one list.
    intro infinite
    rw [← Closed.returns_iff licensed.closed inside]
    by_contra fresh
    have complete : ∀ rule body, arena.HasBody root rule body →
        (rule, body) ∈ arena.bodiesWithin (arena.size + 1) [] root := by
      intro rule body has
      refine mem_bodiesWithin_of_fresh (fun path id => ¬ arena.Returns path id) ?_ ?_
        (.start arena) fresh has
      · exact fun unmet _ met => unmet (.here met)
      · intro path id node family child body unmet found has _ below returns
        have step : arena.Child id child := ⟨node, family, found, has, below⟩
        exact unmet (.down (fun met => unmet (.here met)) step returns)
    refine infinite (Set.Finite.subset (List.finite_toSet (arena.derivations root)) ?_)
    exact fun derivation unfolds => mem_derivations_of_unfolds key complete unfolds
  · intro leads finite
    have bounded := licensed.bounded_of_finite key finite
    exact grounded.not_leadsToCycle licensed bounded inside leads

end ChartParser.Arena
