import ChartParser.Proofs.Forest.Agreement
import ChartParser.Proofs.Parser.Soundness

/-!
# Cutting cycles leaves trees

The tokens of a sentence may have infinitely many derivations. Their forest then has cycles, and a
way down is cut where it comes back to a node on it. No parse is emptied by that: the way that
follows first families only goes to nodes made earlier and earlier (`Arena.Grounded`), so it never
comes back, and the derivation that it leads to is always counted and listed.
-/

namespace ChartParser

/-- There is a way to derive children together if there is one for each child. -/
theorem Children.tally_pos {below : NodeId → Nat} {children : Children}
    (each : ∀ child ∈ children.toList, 0 < below child) : 0 < children.tally below := by
  cases children with
  | empty => exact Nat.one_pos
  | one child => exact each child (by simp [toList])
  | two left right =>
    have first := each left (by simp [toList])
    have second := each right (by simp [toList])
    exact Nat.mul_pos first second

/-- A node of a grounded arena has a derivation that is not cut, on any way down that has met only
nodes made later. -/
theorem Arena.Grounded.tally_pos {arena : Arena} {depth : Nat} {path : List NodeId} {id : NodeId}
    (grounded : arena.Grounded) (way : arena.Way path depth) (inside : id < arena.size)
    (later : ∀ met ∈ path, id < met) : 0 < arena.tally depth path id := by
  induction id using Nat.strongRecOn generalizing path depth with
  | _ id ih =>
  have found := Array.getElem?_eq_getElem inside
  cases token : arena.nodes[id].isToken with
  | true =>
    rw [tally_of_isToken way found token]
    exact Nat.one_pos
  | false =>
    obtain ⟨depth, rfl⟩ := Nat.exists_eq_succ_of_ne_zero way.depth_ne_zero
    have fresh : id ∉ path := fun met => Nat.lt_irrefl id (later id met)
    have next := way.step inside fresh
    obtain ⟨family, others, families, earlier⟩ := grounded found token
    have first : 0 < family.children.tally (arena.tally depth (id :: path)) := by
      refine Children.tally_pos fun child below => ?_
      have smaller := earlier child below
      refine ih child smaller next (Nat.lt_trans smaller inside) ?_
      intro met onWay
      rcases List.mem_cons.1 onWay with rfl | old
      · exact smaller
      · exact Nat.lt_trans smaller (later met old)
    rw [tally_of_fresh found token fresh, families, List.map_cons, List.sum_cons]
    exact Nat.add_pos_left first _

namespace Parser

variable {τ : Type} [Scannable τ] {g : Grammar} {parser : Parser} {root : NonterminalId}
  {tokens : List τ} {forest : Forest}

/-- In the forest of a parse every node but a token has a first family whose children were made
before the node, so that following first families always ends. The forest therefore has at least
one tree, and counts at least one, however many derivations of the tokens there are. -/
theorem parseFrom_grounded (built : g.Built) (made : ofGrammar g = .ok parser)
    (parsed : parser.parseFrom root tokens = .ok forest) :
    forest.arena.Grounded ∧ WellFounded forest.arena.FirstChild ∧
      (∃ trees, forest.trees? = some trees ∧ trees ≠ []) ∧
      ∃ count, forest.count? = some count ∧ 1 ≤ count := by
  have ending := parseFrom_ending built.consistent made root tokens
  rw [parsed] at ending
  cases ending with
  | @covered chart node derivations known whole filled key _ =>
  have licensed := filled.sound.arena
  have grounded := filled.sound.grounded
  obtain ⟨rootNode, found, owned⟩ := Option.map_eq_some_iff.1 key
  have inside := (Array.getElem?_eq_some_iff.1 found).1
  have finished : rootNode.isProgress = false := by simp [Node.isProgress, Node.label, owned]
  have derived := grounded.tally_pos (.start chart.arena) inside (by simp)
  have counted := Arena.count?_eq licensed.closed inside
  have trees := licensed.trees?_eq built.consistent key known
  have agree := Forest.count?_eq_of_trees? licensed.closed found finished trees
  have positive : 1 ≤ min (chart.arena.tally (chart.arena.size + 1) [] node) maxCount :=
    Nat.le_min.2 ⟨derived, maxCount_pos⟩
  refine ⟨grounded, grounded.wellFounded_firstChild licensed, ⟨_, trees, ?_⟩, _, counted, positive⟩
  intro none
  rw [none, Forest.count?, counted] at agree
  have zero := Option.some.inj agree
  simp at zero
  omega

/-- In this grammar the one token has infinitely many derivations, through the cycle between `A` and
`B`, and yet there is a tree. -/
theorem parseFrom_loopingRules_grounded :
    ∃ forest, (⟨loopingRules, none⟩ : Parser).parseFrom 0 [tokenX] = .ok forest ∧
      forest.arena.Grounded ∧ ∃ trees, forest.trees? = some trees ∧ trees ≠ [] := by
  have built : loopingRules.Built := ⟨_, rfl⟩
  have made : ofGrammar loopingRules = .ok ⟨loopingRules, none⟩ :=
    ofGrammar_of_check (by decide +kernel)
  obtain ⟨forest, parsed⟩ : ∃ forest,
      (⟨loopingRules, none⟩ : Parser).parseFrom 0 [tokenX] = .ok forest :=
    exists_eq_ok (by decide +kernel)
  obtain ⟨grounded, -, trees, -⟩ := parseFrom_grounded built made parsed
  exact ⟨forest, parsed, grounded, trees⟩

end Parser

end ChartParser
