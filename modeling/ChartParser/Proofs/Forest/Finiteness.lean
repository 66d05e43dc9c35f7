import ChartParser.Proofs.Forest.Enumeration
import Mathlib.Data.Set.Finite.Lattice

/-!
# Forests with finitely many derivations

A walk over a forest stops where it meets a node again, and so may miss derivations. It misses none
if there are only finitely many. What a node unfolds to is larger than what any node below it
contributes (`Arena.Encloses`), so a node below itself would unfold to ever larger derivations
(`not_encloses_self`). Where the size is bounded no way down meets a node again, and the walk lists
every derivation (`Licensed.mem_derivations_iff`).
-/

namespace ChartParser

namespace Derivation

mutual

/-- The number of tokens and branches of a derivation. -/
def size : Derivation → Nat
  | token _ _ => 1
  | branch _ _ children => sizeAll children + 1

/-- The number of tokens and branches of several derivations. -/
def sizeAll : List Derivation → Nat
  | [] => 0
  | derivation :: derivations => size derivation + sizeAll derivations

end

/-- Sizes add up. -/
theorem sizeAll_append (before after : List Derivation) :
    sizeAll (before ++ after) = sizeAll before + sizeAll after := by
  induction before with
  | nil => simp [sizeAll]
  | cons derivation before ih =>
    rw [List.cons_append, sizeAll, sizeAll, ih]
    omega

/-- Any derivation has some size. -/
theorem sizeAll_cons_pos (derivation : Derivation) (derivations : List Derivation) :
    0 < sizeAll (derivation :: derivations) := by
  cases derivation with
  | token _ _ =>
    rw [sizeAll, size]
    omega
  | branch _ _ _ =>
    rw [sizeAll, size]
    omega

end Derivation

namespace Arena

variable {g : Grammar} {fits : Nat → TerminalId → Bool} {arena : Arena} {stop depth : Nat}
  {path : List NodeId} {id upper middle lower : NodeId} {rule : ProductionId}
  {body : List Derivation} {bodies : NodeId → List (ProductionId × List Derivation)}

/-! ## Nodes below others -/

/-- Whatever the lower node unfolds to, the upper one unfolds to something larger. -/
def Encloses (arena : Arena) (upper lower : NodeId) : Prop :=
  ∀ inner, arena.Unfolds [lower] inner → ∃ outer, arena.Unfolds [upper] outer ∧
    Derivation.sizeAll inner < Derivation.sizeAll outer

/-- The node unfolds to derivations of bounded size only. -/
def Bounded (arena : Arena) (id : NodeId) : Prop :=
  ∃ bound, ∀ derivations, arena.Unfolds [id] derivations → Derivation.sizeAll derivations ≤ bound

/-- What is below a node below is below. -/
theorem Encloses.trans (first : arena.Encloses upper middle)
    (second : arena.Encloses middle lower) : arena.Encloses upper lower := by
  intro inner unfolds
  obtain ⟨between, unfoldsBetween, smaller⟩ := second inner unfolds
  obtain ⟨outer, unfoldsOuter, smallerToo⟩ := first between unfoldsBetween
  exact ⟨outer, unfoldsOuter, Nat.lt_trans smaller smallerToo⟩

/-- Below a bounded node are bounded nodes. -/
theorem Bounded.of_encloses (bounded : arena.Bounded upper)
    (encloses : arena.Encloses upper lower) : arena.Bounded lower := by
  obtain ⟨bound, within⟩ := bounded
  refine ⟨bound, fun inner unfolds => ?_⟩
  obtain ⟨outer, unfoldsOuter, smaller⟩ := encloses inner unfolds
  exact Nat.le_trans (Nat.le_of_lt smaller) (within outer unfoldsOuter)

/-- A bounded node that unfolds to anything is not below itself. -/
theorem Bounded.not_encloses_self (bounded : arena.Bounded id) {derivations : List Derivation}
    (unfolds : arena.Unfolds [id] derivations) : ¬ arena.Encloses id id := by
  intro encloses
  obtain ⟨bound, within⟩ := bounded
  have larger : ∀ size, ∃ outer, arena.Unfolds [id] outer ∧ size ≤ Derivation.sizeAll outer := by
    intro size
    induction size with
    | zero => exact ⟨derivations, unfolds, Nat.zero_le _⟩
    | succ size ih =>
      obtain ⟨inner, unfoldsInner, reached⟩ := ih
      obtain ⟨outer, unfoldsOuter, smaller⟩ := encloses inner unfoldsInner
      exact ⟨outer, unfoldsOuter, Nat.lt_of_le_of_lt reached smaller⟩
  obtain ⟨outer, unfoldsOuter, beyond⟩ := larger (bound + 1)
  have below := within outer unfoldsOuter
  omega

/-- A node for a nonterminal with finitely many derivations is bounded. -/
theorem Licensed.bounded_of_finite (licensed : arena.Licensed g fits stop) {span : Span}
    {nonterminal : NonterminalId} (key : arena.key? id = some ⟨span, .nonterminal nonterminal⟩)
    (finite : {derivation | arena.Unfolds [id] [derivation]}.Finite) : arena.Bounded id := by
  obtain ⟨bound, within⟩ := Set.Finite.bddAbove (finite.image Derivation.size)
  refine ⟨bound, fun derivations unfolds => ?_⟩
  have spelled := unfolds.spells licensed (Row.single key)
  obtain ⟨derivation, rfl⟩ := List.length_eq_one_iff.1 spelled.length_eq
  have below : derivation.size ≤ bound := within ⟨derivation, unfolds, rfl⟩
  simpa [Derivation.sizeAll] using below

/-- A body of a node makes it unfold to something: to a branch, or to the body itself. -/
theorem Licensed.exists_unfolds (licensed : arena.Licensed g fits stop) {node : Node}
    {family : Family} (found : arena.nodes[id]? = some node) (has : family ∈ node.families)
    (unfolds : arena.Unfolds family.children.toList body) :
    ∃ outer, arena.Unfolds [id] outer ∧ Derivation.sizeAll body ≤ Derivation.sizeAll outer ∧
      (node.isProgress = false → Derivation.sizeAll body < Derivation.sizeAll outer) := by
  cases label : node.label with
  | token terminal index =>
    obtain ⟨-, -, bare⟩ := licensed.token found label
    simp [bare] at has
  | nonterminal nonterminal =>
    refine ⟨_, .branch found label has unfolds .nil, ?_, fun _ => ?_⟩
    all_goals
      simp only [Derivation.sizeAll, Derivation.size]
      omega
  | progress nonterminal rule dot =>
    refine ⟨_, .progress found label has unfolds .nil, ?_, ?_⟩
    · simp only [List.append_nil, Nat.le_refl]
    · simp [Node.isProgress, label]

/-- What a node unfolds to is not nothing. -/
theorem Licensed.sizeAll_pos (licensed : arena.Licensed g fits stop)
    {derivations : List Derivation} (unfolds : arena.Unfolds [id] derivations) :
    0 < Derivation.sizeAll derivations := by
  cases unfolds with
  | token _ _ _ => exact Derivation.sizeAll_cons_pos _ _
  | branch _ _ _ _ _ => exact Derivation.sizeAll_cons_pos _ _
  | @progress _ node _ _ _ family _ _ _ found label has below rest =>
    obtain ⟨production, dot, _, own, joins⟩ := licensed.family found has
    rw [Derivation.sizeAll_append]
    generalize node.key.span = span at joins
    generalize family.children = children at joins below
    cases joins with
    | empty nothing =>
      rw [Production.ownLabel, if_pos (by rw [Production.length, nothing]; rfl)] at own
      simp [Node.label, own] at label
    | first _ key =>
      obtain ⟨derivation, rfl, -⟩ := licensed.exists_eq_singleton key below
      have some := Derivation.sizeAll_cons_pos derivation []
      omega
    | next _ _ _ rightKey =>
      obtain ⟨before, _, rfl, -, after⟩ := below.exists_of_cons
      obtain ⟨derivation, rfl, -⟩ := licensed.exists_eq_singleton rightKey after
      have some := Derivation.sizeAll_cons_pos derivation []
      rw [Derivation.sizeAll_append]
      omega

/-- Where a body unfolds, each child is below the node. -/
theorem Licensed.encloses (licensed : arena.Licensed g fits stop) {node : Node}
    {family : Family} {child : NodeId} (found : arena.nodes[id]? = some node)
    (has : family ∈ node.families) (unfolds : arena.Unfolds family.children.toList body)
    (below : child ∈ family.children.toList) : arena.Encloses id child := by
  intro inner unfoldsInner
  obtain ⟨production, dot, _, own, joins⟩ := licensed.family found has
  generalize node.key.span = span at joins
  cases children : family.children with
  | empty => simp [children, Children.toList] at below
  | one only =>
    obtain rfl : child = only := by simpa [children, Children.toList] using below
    rw [children] at joins
    have finished : node.isProgress = false := by
      cases joins with
      | first alone _ =>
        rw [Production.ownLabel, if_pos (by rw [Production.length, alone]; rfl)] at own
        simp [Node.isProgress, Node.label, own]
    obtain ⟨outer, unfoldsOuter, -, smaller⟩ :=
      licensed.exists_unfolds found has (by rw [children]; exact unfoldsInner)
    exact ⟨outer, unfoldsOuter, smaller finished⟩
  | two left right =>
    rw [children] at unfolds
    obtain ⟨before, after, -, unfoldsLeft, unfoldsRight⟩ := unfolds.exists_of_cons
    have someLeft := licensed.sizeAll_pos unfoldsLeft
    have someRight := licensed.sizeAll_pos unfoldsRight
    have sides : child = left ∨ child = right := by simpa [children, Children.toList] using below
    rcases sides with rfl | rfl
    · obtain ⟨outer, unfoldsOuter, smaller, -⟩ := licensed.exists_unfolds found has
        (by rw [children]; exact unfoldsInner.append unfoldsRight)
      rw [Derivation.sizeAll_append] at smaller
      exact ⟨outer, unfoldsOuter, by omega⟩
    · obtain ⟨outer, unfoldsOuter, smaller, -⟩ := licensed.exists_unfolds found has
        (by rw [children]; exact unfoldsLeft.append unfoldsInner)
      rw [Derivation.sizeAll_append] at smaller
      exact ⟨outer, unfoldsOuter, by omega⟩

/-! ## The walk misses nothing -/

/-- What children unfold to is chosen for them, if it is for each child. -/
theorem mem_choices_of_unfolds {children : Children} {below : NodeId → List (List Derivation)}
    (complete : ∀ child ∈ children.toList, ∀ derivations,
      arena.Unfolds [child] derivations → derivations ∈ below child)
    (unfolds : arena.Unfolds children.toList body) : body ∈ children.choices below := by
  cases children with
  | empty =>
    cases unfolds
    exact List.mem_singleton_self []
  | one child => exact complete child (by simp [Children.toList]) body unfolds
  | two left right =>
    obtain ⟨before, after, rfl, unfoldsLeft, unfoldsRight⟩ := unfolds.exists_of_cons
    have first := complete left (by simp [Children.toList]) before unfoldsLeft
    have second := complete right (by simp [Children.toList]) after unfoldsRight
    exact List.mem_flatMap.2 ⟨before, first, List.mem_map.2 ⟨after, second, rfl⟩⟩

/-- What a node unfolds to is contributed by it, if all its bodies are listed. -/
theorem mem_contributed_of_unfolds
    (complete : ∀ rule body, arena.HasBody id rule body → (rule, body) ∈ bodies id)
    {derivations : List Derivation} (unfolds : arena.Unfolds [id] derivations) :
    derivations ∈ arena.contributed bodies id := by
  cases unfolds with
  | token found label rest =>
    cases rest
    simp [contributed, found, label]
  | @branch _ node _ family _ children _ found label has below rest =>
    cases rest
    have listed := complete _ children ⟨node, family, found, has, rfl, below⟩
    simp only [contributed, found, label]
    exact List.mem_map.2 ⟨_, listed, rfl⟩
  | @progress _ node _ _ _ family _ first _ found label has below rest =>
    cases rest
    have listed := complete _ first ⟨node, family, found, has, rfl, below⟩
    simp only [contributed, found, label, List.append_nil]
    exact List.mem_map.2 ⟨_, listed, rfl⟩

/-- Every body of a node is listed if no way down that the body takes comes back to a node on it.
`Fresh` says so of a node and the way to it, and goes down with the body. -/
theorem mem_bodiesWithin_of_fresh (Fresh : List NodeId → NodeId → Prop)
    (once : ∀ {path id rule body}, Fresh path id → arena.HasBody id rule body → id ∉ path)
    (down : ∀ {path id node family child body}, Fresh path id → arena.nodes[id]? = some node →
      family ∈ node.families → arena.Unfolds family.children.toList body →
        child ∈ family.children.toList → Fresh (id :: path) child)
    (way : arena.Way path depth) (fresh : Fresh path id) (has : arena.HasBody id rule body) :
    (rule, body) ∈ arena.bodiesWithin depth path id := by
  induction depth generalizing path id rule body with
  | zero => exact absurd rfl way.depth_ne_zero
  | succ depth ih =>
    have unmet := once fresh has
    obtain ⟨node, family, found, inside, rfl, unfolds⟩ := has
    have next := way.step (Array.getElem?_eq_some_iff.1 found).1 unmet
    rw [bodiesWithin, if_neg (by rwa [meets_iff])]
    simp only [found]
    refine List.mem_flatMap.2 ⟨family, inside, List.mem_map.2 ⟨body, ?_, rfl⟩⟩
    refine mem_choices_of_unfolds (fun child below derivations unfoldsChild => ?_) unfolds
    refine mem_contributed_of_unfolds (fun _ _ hasChild => ?_) unfoldsChild
    exact ih next (down fresh found inside unfolds below) hasChild

/-- Below nodes of bounded size, every body of a node is listed. -/
theorem Licensed.mem_bodiesWithin (licensed : arena.Licensed g fits stop)
    (way : arena.Way path depth) (bounded : arena.Bounded id)
    (above : ∀ upper ∈ path, arena.Encloses upper id) (has : arena.HasBody id rule body) :
    (rule, body) ∈ arena.bodiesWithin depth path id := by
  refine mem_bodiesWithin_of_fresh
    (fun path id => arena.Bounded id ∧ ∀ upper ∈ path, arena.Encloses upper id)
    ?_ ?_ way ⟨bounded, above⟩ has
  · rintro path id _ _ ⟨bounded, above⟩ ⟨_, _, found, inside, -, unfolds⟩ met
    obtain ⟨_, unfoldsOuter, -⟩ := licensed.exists_unfolds found inside unfolds
    exact bounded.not_encloses_self unfoldsOuter (above id met)
  · rintro path id _ _ child _ ⟨bounded, above⟩ found inside unfolds below
    have encloses := licensed.encloses found inside unfolds below
    refine ⟨bounded.of_encloses encloses, ?_⟩
    exact List.forall_mem_cons.2 ⟨encloses, fun upper inPath => (above upper inPath).trans encloses⟩

/-- A derivation that the root unfolds to is listed if all bodies of the root are. -/
theorem mem_derivations_of_unfolds {root : NodeId} {span : Span} {nonterminal : NonterminalId}
    (key : arena.key? root = some ⟨span, .nonterminal nonterminal⟩)
    (complete : ∀ rule body, arena.HasBody root rule body →
      (rule, body) ∈ arena.bodiesWithin (arena.size + 1) [] root)
    {derivation : Derivation} (unfolds : arena.Unfolds [root] [derivation]) :
    derivation ∈ arena.derivations root := by
  obtain ⟨node, found, owned⟩ := Option.map_eq_some_iff.1 key
  have label : node.label = .nonterminal nonterminal := by rw [Node.label, owned]
  have listed := mem_contributed_of_unfolds complete unfolds
  rw [derivations, found]
  simp only [contributed, found, label, List.mem_map, List.cons.injEq, and_true] at listed
  exact List.mem_map.2 listed

/-- The derivations listed for a nonterminal whose derivations are bounded are exactly those that
its node unfolds to. -/
theorem Licensed.mem_derivations_iff (licensed : arena.Licensed g fits stop) {root : NodeId}
    {span : Span} {nonterminal : NonterminalId}
    (key : arena.key? root = some ⟨span, .nonterminal nonterminal⟩)
    (bounded : arena.Bounded root) {derivation : Derivation} :
    derivation ∈ arena.derivations root ↔ arena.Unfolds [root] [derivation] := by
  refine ⟨unfolds_of_mem_derivations key, mem_derivations_of_unfolds key fun _ _ has => ?_⟩
  exact licensed.mem_bodiesWithin (.start arena) bounded (by simp) has

end Arena

end ChartParser
