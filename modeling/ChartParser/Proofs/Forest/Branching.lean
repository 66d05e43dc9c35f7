import ChartParser.Proofs.Forest.Cycles

/-!
# Nodes that branch

A node with two families unfolds to two different rows of derivations, and so does every node above
it, because what the others put beside a row cannot make up for the difference. Where no node below
branches there is only one way to unfold. A node therefore has several derivations exactly if it
reaches a node with several families (`Licensed.varies_iff`), also where there are cycles.
-/

namespace ChartParser

/-- The derivations that a node stands for by a family whose children stand for `body`: a node for
the beginning of a production puts them in the place where it stands. -/
def Node.wrap (node : Node) (family : Family) (body : List Derivation) : List Derivation :=
  match node.label with
  | .nonterminal _ => [.branch family.production node.span body]
  | _ => body

namespace Arena

variable {g : Grammar} {fits : Nat → TerminalId → Bool} {arena : Arena} {stop : Nat} {node : Node}
  {family other : Family} {id child : NodeId} {ids : List NodeId}
  {body bodyToo derivations derivationsToo : List Derivation}

/-- A node with more than one family can be reached from the node. -/
def Branches (arena : Arena) (id : NodeId) : Prop :=
  ∃ below node, Relation.ReflTransGen arena.Child id below ∧ arena.nodes[below]? = some node ∧
    node.isAmbiguous = true

/-- The node unfolds in more than one way. -/
def Varies (arena : Arena) (id : NodeId) : Prop :=
  ∃ derivations derivationsToo, arena.Unfolds [id] derivations ∧
    arena.Unfolds [id] derivationsToo ∧ derivations ≠ derivationsToo

/-! ## Without branching -/

/-- What branches below a child branches below the node. -/
theorem Branches.of_child (step : arena.Child id child) (branches : arena.Branches child) :
    arena.Branches id := by
  obtain ⟨below, node, reached, found, several⟩ := branches
  exact ⟨below, node, reached.head step, found, several⟩

/-- A node below which nothing branches has at most one family. -/
theorem family_eq_of_not_branches (plain : ¬ arena.Branches id)
    (found : arena.nodes[id]? = some node) (has : family ∈ node.families)
    (hasToo : other ∈ node.families) : family = other := by
  have few : node.families.length ≤ 1 := by
    by_contra several
    exact plain ⟨id, node, .refl, found, decide_eq_true (Nat.not_le.1 several)⟩
  rcases families : node.families with _ | ⟨only, _ | _⟩
  · simp [families] at has
  · rw [families, List.mem_singleton] at has hasToo
    rw [has, hasToo]
  · simp [families] at few

/-- A row that begins with a token unfolds to the token and what the rest unfolds to. -/
theorem Unfolds.cases_token (unfolds : arena.Unfolds (id :: ids) derivations)
    (found : arena.nodes[id]? = some node) {terminal : TerminalId} {index : Nat}
    (label : node.label = .token terminal index) :
    ∃ others, arena.Unfolds ids others ∧ derivations = .token terminal index :: others := by
  cases unfolds with
  | token foundToo labelToo rest =>
    obtain rfl := Option.some.inj (found.symm.trans foundToo)
    obtain ⟨rfl, rfl⟩ := Label.token.inj (label.symm.trans labelToo)
    exact ⟨_, rest, rfl⟩
  | branch foundToo labelToo _ _ _ =>
    obtain rfl := Option.some.inj (found.symm.trans foundToo)
    simp [label] at labelToo
  | progress foundToo labelToo _ _ _ =>
    obtain rfl := Option.some.inj (found.symm.trans foundToo)
    simp [label] at labelToo

/-- A row that begins with another node unfolds to what the node makes of one of its families and
what the rest unfolds to. -/
theorem Unfolds.cases_families (unfolds : arena.Unfolds (id :: ids) derivations)
    (found : arena.nodes[id]? = some node)
    (label : ∀ terminal index, node.label ≠ .token terminal index) :
    ∃ family ∈ node.families, ∃ body others, arena.Unfolds family.children.toList body ∧
      arena.Unfolds ids others ∧ derivations = node.wrap family body ++ others := by
  cases unfolds with
  | token foundToo labelToo _ =>
    obtain rfl := Option.some.inj (found.symm.trans foundToo)
    exact absurd labelToo (label _ _)
  | branch foundToo labelToo has inner rest =>
    obtain rfl := Option.some.inj (found.symm.trans foundToo)
    exact ⟨_, has, _, _, inner, rest, by simp [Node.wrap, labelToo]⟩
  | progress foundToo labelToo has inner rest =>
    obtain rfl := Option.some.inj (found.symm.trans foundToo)
    exact ⟨_, has, _, _, inner, rest, by simp [Node.wrap, labelToo]⟩

/-- Nodes below which nothing branches unfold in at most one way. -/
theorem Unfolds.eq_of_not_branches (plain : ∀ id ∈ ids, ¬ arena.Branches id)
    (unfolds : arena.Unfolds ids derivations) (unfoldsToo : arena.Unfolds ids derivationsToo) :
    derivations = derivationsToo := by
  -- Below the one family that a node has nothing branches either.
  have below {id : NodeId} {node : Node} {family : Family} (here : ¬ arena.Branches id)
      (found : arena.nodes[id]? = some node) (has : family ∈ node.families) :
      ∀ child ∈ family.children.toList, ¬ arena.Branches child :=
    fun child inside branches => here (branches.of_child ⟨node, family, found, has, inside⟩)
  induction unfolds generalizing derivationsToo with
  | nil =>
    cases unfoldsToo
    rfl
  | token found label _ ih =>
    obtain ⟨-, others⟩ := List.forall_mem_cons.1 plain
    obtain ⟨restToo, later, rfl⟩ := unfoldsToo.cases_token found label
    rw [ih others later]
  | branch found label has _ _ ihInner ih =>
    obtain ⟨here, others⟩ := List.forall_mem_cons.1 plain
    obtain ⟨family, hasToo, bodyToo, restToo, inner, later, rfl⟩ :=
      unfoldsToo.cases_families found (by simp [label])
    obtain rfl := family_eq_of_not_branches here found has hasToo
    rw [ihInner (below here found has) inner, ih others later, Node.wrap, label]
    rfl
  | progress found label has _ _ ihInner ih =>
    obtain ⟨here, others⟩ := List.forall_mem_cons.1 plain
    obtain ⟨family, hasToo, bodyToo, restToo, inner, later, rfl⟩ :=
      unfoldsToo.cases_families found (by simp [label])
    obtain rfl := family_eq_of_not_branches here found has hasToo
    rw [ihInner (below here found has) inner, ih others later, Node.wrap, label]

/-! ## Differences carried up -/

/-- The node of a body unfolds to what it makes of the body. -/
theorem Licensed.unfolds_wrap (licensed : arena.Licensed g fits stop)
    (found : arena.nodes[id]? = some node) (has : family ∈ node.families)
    (unfolds : arena.Unfolds family.children.toList body) :
    arena.Unfolds [id] (node.wrap family body) := by
  rw [Node.wrap]
  cases label : node.label with
  | token _ _ =>
    obtain ⟨-, -, bare⟩ := licensed.token found label
    simp [bare] at has
  | nonterminal _ => exact .branch found label has unfolds .nil
  | progress _ _ _ => simpa using Unfolds.progress found label has unfolds .nil

/-- What a node makes of a body says which family and which body it was. -/
theorem Licensed.eq_of_wrap_eq (licensed : arena.Licensed g fits stop)
    (found : arena.nodes[id]? = some node) (has : family ∈ node.families)
    (hasToo : other ∈ node.families) (unfolds : arena.Unfolds family.children.toList body)
    (unfoldsToo : arena.Unfolds other.children.toList bodyToo)
    (same : node.wrap family body = node.wrap other bodyToo) :
    family = other ∧ body = bodyToo := by
  obtain ⟨rule, rfl⟩ : family.production = other.production ∧ body = bodyToo := by
    rw [Node.wrap, Node.wrap] at same
    cases label : node.label with
    | token _ _ =>
      obtain ⟨-, -, bare⟩ := licensed.token found label
      simp [bare] at has
    | nonterminal _ => simpa [label] using same
    | progress _ _ _ =>
      -- The node belongs to one production, so that the bodies alone tell.
      obtain ⟨own, -⟩ := licensed.row_of_progress found label has
      obtain ⟨ownToo, -⟩ := licensed.row_of_progress found label hasToo
      exact ⟨own.trans ownToo.symm, by simpa [label] using same⟩
  exact ⟨licensed.family_eq found has hasToo rule unfolds unfoldsToo, rfl⟩

/-- A node with two families varies: each of them leads down to some body. -/
theorem Licensed.varies_of_isAmbiguous (licensed : arena.Licensed g fits stop)
    (grounded : arena.Grounded) (found : arena.nodes[id]? = some node)
    (several : node.isAmbiguous = true) : arena.Varies id := by
  obtain ⟨family, other, has, hasToo, differ⟩ : ∃ family other, family ∈ node.families ∧
      other ∈ node.families ∧ family ≠ other := by
    have once := licensed.nodup found
    rw [Node.isAmbiguous, decide_eq_true_iff] at several
    rcases families : node.families with _ | ⟨first, _ | ⟨second, rest⟩⟩
    · simp [families] at several
    · simp [families] at several
    · rw [families] at once
      exact ⟨first, second, by simp, by simp, fun same => by simp [same] at once⟩
  have body : ∀ family ∈ node.families, ∃ body, arena.Unfolds family.children.toList body :=
    fun family has => exists_unfolds_of_forall fun child below =>
      grounded.exists_unfolds licensed (licensed.closed found has below)
  obtain ⟨first, unfolds⟩ := body family has
  obtain ⟨second, unfoldsToo⟩ := body other hasToo
  refine ⟨_, _, licensed.unfolds_wrap found has unfolds,
    licensed.unfolds_wrap found hasToo unfoldsToo, fun same => ?_⟩
  exact differ (licensed.eq_of_wrap_eq found has hasToo unfolds unfoldsToo same).1

/-- A node varies if a child does, whatever stands beside the child. -/
theorem Licensed.varies_of_child (licensed : arena.Licensed g fits stop)
    (grounded : arena.Grounded) (step : arena.Child id child) (varies : arena.Varies child) :
    arena.Varies id := by
  obtain ⟨node, family, found, has, below⟩ := step
  obtain ⟨derivations, derivationsToo, unfolds, unfoldsToo, differ⟩ := varies
  obtain ⟨body, bodyToo, unfoldsBody, unfoldsBodyToo, differBody⟩ : ∃ body bodyToo,
      arena.Unfolds family.children.toList body ∧
        arena.Unfolds family.children.toList bodyToo ∧ body ≠ bodyToo := by
    have beside : ∀ other ∈ family.children.toList,
        ∃ derivations, arena.Unfolds [other] derivations := fun other among =>
      grounded.exists_unfolds licensed (licensed.closed found has among)
    cases children : family.children with
    | empty => simp [children, Children.toList] at below
    | one only =>
      obtain rfl : child = only := by simpa [children, Children.toList] using below
      exact ⟨_, _, unfolds, unfoldsToo, differ⟩
    | two left right =>
      rw [children] at beside
      obtain ⟨before, unfoldsLeft⟩ := beside left (by simp [Children.toList])
      obtain ⟨after, unfoldsRight⟩ := beside right (by simp [Children.toList])
      have sides : child = left ∨ child = right := by
        simpa [children, Children.toList] using below
      rcases sides with rfl | rfl
      · exact ⟨_, _, unfolds.append unfoldsRight, unfoldsToo.append unfoldsRight,
          fun same => differ (List.append_cancel_right same)⟩
      · exact ⟨_, _, unfoldsLeft.append unfolds, unfoldsLeft.append unfoldsToo,
          fun same => differ (List.append_cancel_left same)⟩
  refine ⟨_, _, licensed.unfolds_wrap found has unfoldsBody,
    licensed.unfolds_wrap found has unfoldsBodyToo, fun same => ?_⟩
  exact differBody (licensed.eq_of_wrap_eq found has has unfoldsBody unfoldsBodyToo same).2

/-- A node unfolds in more than one way exactly if a node with more than one family can be reached
from it. -/
theorem Licensed.varies_iff (licensed : arena.Licensed g fits stop) (grounded : arena.Grounded) :
    arena.Varies id ↔ arena.Branches id := by
  constructor
  · rintro ⟨derivations, derivationsToo, unfolds, unfoldsToo, differ⟩
    by_contra plain
    refine differ (unfolds.eq_of_not_branches ?_ unfoldsToo)
    exact List.forall_mem_singleton.2 plain
  · rintro ⟨below, node, reached, found, several⟩
    induction reached using Relation.ReflTransGen.head_induction_on with
    | refl => exact licensed.varies_of_isAmbiguous grounded found several
    | head step _ ih => exact licensed.varies_of_child grounded step ih

/-- More than one derivation is listed for a nonterminal whose derivations are bounded exactly if
its node unfolds in more than one way. -/
theorem Licensed.one_lt_length_derivations_iff (licensed : arena.Licensed g fits stop) {span : Span}
    {nonterminal : NonterminalId} (key : arena.key? id = some ⟨span, .nonterminal nonterminal⟩)
    (bounded : arena.Bounded id) : 1 < (arena.derivations id).length ↔ arena.Varies id := by
  classical
  rw [← List.toFinset_card_of_nodup (licensed.nodup_derivations id), Finset.one_lt_card]
  simp only [List.mem_toFinset, licensed.mem_derivations_iff key bounded]
  constructor
  · rintro ⟨derivation, unfolds, derivationToo, unfoldsToo, differ⟩
    exact ⟨_, _, unfolds, unfoldsToo, fun same => differ (List.singleton_inj.1 same)⟩
  · rintro ⟨derivations, derivationsToo, unfolds, unfoldsToo, differ⟩
    have single {derivations : List Derivation} (unfolds : arena.Unfolds [id] derivations) :
        ∃ derivation, derivations = [derivation] :=
      List.length_eq_one_iff.1 (unfolds.spells licensed (Row.single key)).length_eq
    obtain ⟨derivation, rfl⟩ := single unfolds
    obtain ⟨derivationToo, rfl⟩ := single unfoldsToo
    exact ⟨derivation, unfolds, derivationToo, unfoldsToo, fun same => differ (by rw [same])⟩

end Arena

end ChartParser
