import ChartParser.Forest.Trees
import ChartParser.Proofs.Forest.Readings
import ChartParser.Proofs.Grammar.DerivationTree
import Mathlib.Data.List.Nodup

/-!
# The derivations behind the trees of a forest

The trees of a forest are the trees of derivations, listed in the same order. `Arena.derivations`
lists these derivations by the same walk over the nodes, so that what holds of the list can be said
about derivations: in a licensed arena each of them is one that the root node unfolds to
(`mem_derivations`), and none is listed twice (`Licensed.nodup_derivations`). The walk never runs
out of depth, because a way down without repetition is no longer than the arena
(`Arena.Way`), so the trees of a licensed forest always exist (`Licensed.trees?_eq`).
-/

namespace ChartParser

/-! ## Choices side by side -/

/-- Picking from two lists and joining the picks puts every element of the first before every
element of the second. -/
theorem flatten_combinations {α : Type} (before after : List (List α)) :
    (combinations [before, after]).map List.flatten =
      before.flatMap fun first => after.map (first ++ ·) := by
  have pairs : combinations [before, after] =
      before.flatMap fun first => after.map fun second => [first, second] := by
    rw [combinations, List.foldl_cons, List.foldl_nil, extendBy, List.flatMap_map]
    rfl
  rw [pairs, List.map_flatMap]
  congr 1
  funext first
  simp

/-- The derivation lists that these nodes stand for together, given those of each. -/
def Children.choices (below : NodeId → List (List Derivation)) :
    Children → List (List Derivation)
  | empty => [[]]
  | one child => below child
  | two left right => (below left).flatMap fun first => (below right).map (first ++ ·)

namespace Arena

/-! ## The walk -/

/-- The derivation lists that a node contributes to the family it stands in, given for each node its
productions with the derivations of their symbols. -/
def contributed (arena : Arena) (bodies : NodeId → List (ProductionId × List Derivation))
    (id : NodeId) : List (List Derivation) :=
  match arena.nodes[id]? with
  | none => []
  | some node =>
    match node.label with
    | .token terminal index => [[.token terminal index]]
    | .nonterminal _ => (bodies id).map fun body => [.branch body.1 node.span body.2]
    | .progress _ _ _ => (bodies id).map (·.2)

/-- The productions of a node, each with derivations of its symbols, where the node is reached
through the nodes of `path`, going down at most `depth` nodes. -/
def bodiesWithin (arena : Arena) :
    Nat → List NodeId → NodeId → List (ProductionId × List Derivation)
  | 0, _, _ => []
  | depth + 1, path, id =>
    if meets path id then []
    else
      match arena.nodes[id]? with
      | none => []
      | some node =>
        node.families.flatMap fun family =>
          (family.children.choices (arena.contributed (bodiesWithin arena depth (id :: path)))).map
            (family.production, ·)

/-- The derivations of a node, in the order of the families. -/
def derivations (arena : Arena) (root : NodeId) : List Derivation :=
  match arena.nodes[root]? with
  | none => []
  | some node =>
    (arena.bodiesWithin (arena.size + 1) [] root).map fun body => .branch body.1 node.span body.2

variable {g : Grammar} {fits : Nat → TerminalId → Bool} {arena : Arena} {stop depth : Nat}
  {path : List NodeId} {id : NodeId} {rule : ProductionId} {body : List Derivation}
  {bodies : NodeId → List (ProductionId × List Derivation)}

/-- The node has a family of the production whose children unfold to these derivations. -/
def HasBody (arena : Arena) (id : NodeId) (rule : ProductionId) (body : List Derivation) : Prop :=
  ∃ node family, arena.nodes[id]? = some node ∧ family ∈ node.families ∧
    family.production = rule ∧ arena.Unfolds family.children.toList body

/-- What a node contributes is what it unfolds to, if its bodies are. -/
theorem unfolds_of_mem_contributed
    (sound : ∀ {id rule body}, (rule, body) ∈ bodies id → arena.HasBody id rule body)
    {derivations : List Derivation} (inside : derivations ∈ arena.contributed bodies id) :
    arena.Unfolds [id] derivations := by
  rw [contributed] at inside
  split at inside
  · simp at inside
  rename_i node found
  split at inside
  · rename_i label
    obtain rfl := List.mem_singleton.1 inside
    exact .token found label .nil
  · rename_i label
    obtain ⟨⟨rule, body⟩, listed, rfl⟩ := List.mem_map.1 inside
    obtain ⟨_, family, same, has, rfl, unfolds⟩ := sound listed
    obtain rfl := Option.some.inj (found.symm.trans same)
    exact .branch found label has unfolds .nil
  · rename_i label
    obtain ⟨⟨rule, body⟩, listed, rfl⟩ := List.mem_map.1 inside
    obtain ⟨_, family, same, has, -, unfolds⟩ := sound listed
    obtain rfl := Option.some.inj (found.symm.trans same)
    simpa using Unfolds.progress found label has unfolds .nil

/-- What is chosen for children is what they unfold to, if each choice is. -/
theorem unfolds_of_mem_choices {below : NodeId → List (List Derivation)}
    (sound : ∀ {id derivations}, derivations ∈ below id → arena.Unfolds [id] derivations)
    {children : Children} {derivations : List Derivation}
    (inside : derivations ∈ children.choices below) :
    arena.Unfolds children.toList derivations := by
  cases children with
  | empty =>
    obtain rfl := List.mem_singleton.1 inside
    exact .nil
  | one child => exact sound inside
  | two left right =>
    obtain ⟨first, before, inRest⟩ := List.mem_flatMap.1 inside
    obtain ⟨second, after, rfl⟩ := List.mem_map.1 inRest
    exact (sound before).append (sound after)

/-- Every body listed for a node is one that it has. -/
theorem hasBody_of_mem (listed : (rule, body) ∈ arena.bodiesWithin depth path id) :
    arena.HasBody id rule body := by
  induction depth generalizing path id rule body with
  | zero => simp [bodiesWithin] at listed
  | succ depth ih =>
    rw [bodiesWithin] at listed
    split at listed
    · simp at listed
    split at listed
    · simp at listed
    rename_i node found
    obtain ⟨family, has, inFamily⟩ := List.mem_flatMap.1 listed
    obtain ⟨_, chosen, same⟩ := List.mem_map.1 inFamily
    obtain ⟨rfl, rfl⟩ := Prod.mk.inj same
    have unfolds := unfolds_of_mem_choices (unfolds_of_mem_contributed ih) chosen
    exact ⟨node, family, found, has, rfl, unfolds⟩

/-- Every derivation listed for a nonterminal is one that its node unfolds to. -/
theorem unfolds_of_mem_derivations {root : NodeId} {span : Span} {nonterminal : NonterminalId}
    (key : arena.key? root = some ⟨span, .nonterminal nonterminal⟩) {derivation : Derivation}
    (listed : derivation ∈ arena.derivations root) : arena.Unfolds [root] [derivation] := by
  obtain ⟨node, found, owned⟩ := Option.map_eq_some_iff.1 key
  rw [derivations, found] at listed
  obtain ⟨⟨rule, body⟩, inside, rfl⟩ := List.mem_map.1 listed
  obtain ⟨_, family, same, has, rfl, unfolds⟩ := hasBody_of_mem inside
  obtain rfl := Option.some.inj (found.symm.trans same)
  exact .branch found (by rw [Node.label, owned]) has unfolds .nil

/-! ## Ways down -/

/-- The nodes of a way down are different nodes of the arena, and there is depth left for all nodes
that are not yet on it. -/
structure Way (arena : Arena) (path : List NodeId) (depth : Nat) : Prop where
  nodup : path.Nodup
  inside : ∀ id ∈ path, id < arena.size
  enough : arena.size < path.length + depth

namespace Way

/-- A way down starts with more depth than there are nodes. -/
theorem start (arena : Arena) : arena.Way [] (arena.size + 1) :=
  ⟨List.nodup_nil, by simp, by simp⟩

/-- A way down can go on to a node that it has not met. -/
theorem step (way : arena.Way path (depth + 1)) (inside : id < arena.size) (fresh : id ∉ path) :
    arena.Way (id :: path) depth where
  nodup := List.nodup_cons.2 ⟨fresh, way.nodup⟩
  inside := List.forall_mem_cons.2 ⟨inside, way.inside⟩
  enough := by
    have enough := way.enough
    rw [List.length_cons]
    omega

/-- A way down never runs out of depth. -/
theorem depth_ne_zero (way : arena.Way path depth) : depth ≠ 0 := by
  rintro rfl
  have shorter := way.nodup.length_le_of_subset
    (fun id inPath => List.mem_range.2 (way.inside id inPath))
  have enough := way.enough
  rw [List.length_range] at shorter
  omega

end Way

/-! ## The trees -/

/-- The node exists, and the symbols that it stands for have been entered. -/
def Named (g : Grammar) (arena : Arena) (id : NodeId) : Prop :=
  ∃ node, arena.nodes[id]? = some node ∧ ∀ symbol ∈ node.label.symbols g, g.knows symbol = true

/-- The nodes of a row of known symbols are named. -/
theorem Row.named {ids : List NodeId} {symbols : List Symbol} {start stop : Nat}
    (row : Row g arena ids symbols start stop)
    (known : ∀ symbol ∈ symbols, g.knows symbol = true) : ∀ id ∈ ids, arena.Named g id := by
  induction row with
  | nil => simp
  | @cons id label ids symbols _ _ _ key _ ih =>
    obtain ⟨knownFirst, knownRest⟩ := List.forall_mem_append.1 known
    obtain ⟨node, found, owned⟩ := Option.map_eq_some_iff.1 key
    refine List.forall_mem_cons.2 ⟨⟨node, found, ?_⟩, ih knownRest⟩
    rw [Node.label, owned]
    exact knownFirst

/-- The children of a family are named. -/
theorem Licensed.named (licensed : arena.Licensed g fits stop) (consistent : g.Consistent)
    {node : Node} {family : Family} {child : NodeId} (found : arena.nodes[id]? = some node)
    (has : family ∈ node.families) (below : child ∈ family.children.toList) :
    arena.Named g child := by
  obtain ⟨production, dot, known, -, row⟩ := licensed.row found has
  have entered : ∀ symbol ∈ production.symbols.take dot, g.knows symbol = true :=
    fun symbol taken => consistent.known known symbol (List.mem_of_mem_take taken)
  exact row.named entered child below

/-- The choices of children are listed as the trees of their derivations, if each choice is. -/
theorem sequences_eq {below : NodeId → Option (List (List Tree))}
    {choices : NodeId → List (List Derivation)} {children : Children}
    (each : ∀ child ∈ children.toList,
      below child = some ((choices child).map (List.map (Derivation.tree g)))) :
    children.sequences below =
      some ((children.choices choices).map (List.map (Derivation.tree g))) := by
  cases children with
  | empty => rfl
  | one child => exact each child (by simp [Children.toList])
  | two left right =>
    rw [Children.sequences, each left (by simp [Children.toList]),
      each right (by simp [Children.toList])]
    simp only [bind, Option.bind, pure, flatten_combinations, Children.choices]
    congr 1
    simp [List.map_flatMap, List.flatMap_map, Function.comp_def]

/-- The trees of a known nonterminal are those of its derivations, if its bodies are listed so. -/
theorem Licensed.treesOf_eq (licensed : arena.Licensed g fits stop) {node : Node}
    {nonterminal : NonterminalId} (found : arena.nodes[id]? = some node)
    (label : node.label = .nonterminal nonterminal)
    (known : g.knows (.nonterminal nonterminal) = true)
    {children : NodeId → Option (List (List Tree))}
    (agrees : children id = some ((bodies id).map fun body => body.2.map (Derivation.tree g)))
    (sound : ∀ {rule body}, (rule, body) ∈ bodies id → arena.HasBody id rule body) :
    Forest.treesOf g children id node = some ((bodies id).map fun body =>
      (Derivation.branch body.1 node.span body.2).tree g) := by
  have heads : ∀ entry ∈ bodies id, (Derivation.branch entry.1 node.span entry.2).tree g =
      .branch ⟨g.nameOf (.nonterminal nonterminal), node.span⟩
        (entry.2.map (Derivation.tree g)) := by
    rintro ⟨rule, body⟩ listed
    obtain ⟨_, family, same, has, rfl, -⟩ := sound listed
    obtain rfl := Option.some.inj (found.symm.trans same)
    obtain ⟨production, present, rfl, -⟩ := licensed.row_of_nonterminal found label has
    exact Derivation.tree_branch present _ _
  simp only [Forest.treesOf, label, Grammar.symbolName?_eq_some known, agrees, bind, Option.bind,
    pure, List.map_map]
  rw [List.map_congr_left heads]
  rfl

/-- What a node contributes is listed as the trees of its derivations, if its bodies are. -/
theorem Licensed.contributions_eq (licensed : arena.Licensed g fits stop)
    (named : arena.Named g id) {children : NodeId → Option (List (List Tree))}
    (agrees : children id = some ((bodies id).map fun body => body.2.map (Derivation.tree g)))
    (sound : ∀ {rule body}, (rule, body) ∈ bodies id → arena.HasBody id rule body) :
    Forest.contributions g arena children id =
      some ((arena.contributed bodies id).map (List.map (Derivation.tree g))) := by
  obtain ⟨node, found, known⟩ := named
  simp only [Forest.contributions, contributed, found, bind, Option.bind]
  cases label : node.label with
  | token terminal index =>
    rw [label, Label.symbols] at known
    obtain ⟨span, -⟩ := licensed.token found label
    simp [Node.isProgress, label, Forest.treesOf, span, Derivation.tree,
      Grammar.symbolName?_eq_some (known _ List.mem_cons_self)]
  | nonterminal nonterminal =>
    rw [label, Label.symbols] at known
    have trees := licensed.treesOf_eq found label (known _ List.mem_cons_self) agrees sound
    simp [Node.isProgress, label, trees]
  | progress nonterminal rule dot => simp [Node.isProgress, label, agrees]

/-- If each element gives a result, so does the whole list. -/
theorem mapM_eq_some {α β : Type} {f : α → Option β} {result : α → β} {elements : List α}
    (each : ∀ element ∈ elements, f element = some (result element)) :
    elements.mapM f = some (elements.map result) := by
  induction elements with
  | nil => rfl
  | cons element elements ih =>
    obtain ⟨first, rest⟩ := List.forall_mem_cons.1 each
    rw [List.mapM_cons, first, ih rest]
    rfl

/-- In a licensed arena the child lists of a node are those of its derivations. -/
theorem Licensed.childrenWithin_eq (licensed : arena.Licensed g fits stop)
    (consistent : g.Consistent) (way : arena.Way path depth) (named : arena.Named g id) :
    Forest.childrenWithin g arena depth path id =
      some ((arena.bodiesWithin depth path id).map fun body => body.2.map (Derivation.tree g)) := by
  induction depth generalizing path id with
  | zero => exact absurd rfl way.depth_ne_zero
  | succ depth ih =>
    rw [Forest.childrenWithin, bodiesWithin]
    by_cases met : meets path id
    · rw [if_pos met, if_pos met]
      rfl
    · obtain ⟨node, found, -⟩ := named
      have inside := (Array.getElem?_eq_some_iff.1 found).1
      have fresh : id ∉ path := fun inPath => met (meets_iff.2 inPath)
      have families : ∀ family ∈ node.families,
          family.children.sequences (Forest.contributions g arena
              (Forest.childrenWithin g arena depth (id :: path))) =
            some ((family.children.choices (arena.contributed
              (arena.bodiesWithin depth (id :: path)))).map (List.map (Derivation.tree g))) := by
        intro family has
        refine sequences_eq fun child below => ?_
        have childNamed := licensed.named consistent found has below
        have agrees := ih (way.step inside fresh) childNamed
        exact licensed.contributions_eq childNamed agrees hasBody_of_mem
      rw [if_neg met, if_neg met]
      simp only [found, bind, Option.bind, mapM_eq_some families, pure]
      simp [List.flatMap_def, Function.comp_def]

/-- In a licensed arena the trees of a named nonterminal exist and are those of its derivations. -/
theorem Licensed.trees?_eq (licensed : arena.Licensed g fits stop) (consistent : g.Consistent)
    {root : NodeId} {span : Span} {nonterminal : NonterminalId}
    (key : arena.key? root = some ⟨span, .nonterminal nonterminal⟩)
    (known : nonterminal < g.nonterminals.size) :
    (⟨g, arena, root⟩ : Forest).trees? =
      some ((arena.derivations root).map (Derivation.tree g)) := by
  obtain ⟨node, found, owned⟩ := Option.map_eq_some_iff.1 key
  have label : node.label = .nonterminal nonterminal := by rw [Node.label, owned]
  have entered : g.knows (.nonterminal nonterminal) = true := by simpa [Grammar.knows] using known
  have named : arena.Named g root := by
    refine ⟨node, found, ?_⟩
    rw [label, Label.symbols]
    exact List.forall_mem_singleton.2 entered
  have agrees := licensed.childrenWithin_eq consistent (.start arena) named
  rw [Forest.trees?, derivations, found]
  simp only [bind, Option.bind, List.map_map]
  exact licensed.treesOf_eq found label entered agrees hasBody_of_mem

/-! ## No repetition -/

/-- A symbol's node unfolds to single derivations over its span. -/
theorem Licensed.exists_eq_singleton (licensed : arena.Licensed g fits stop) {symbol : Symbol}
    {start last : Nat} (key : arena.key? id = some ⟨⟨start, last⟩, symbol.labelAt start⟩)
    {derivations : List Derivation} (unfolds : arena.Unfolds [id] derivations) :
    ∃ derivation, derivations = [derivation] ∧ derivation.span = ⟨start, last⟩ := by
  have spelled := unfolds.spells licensed (Row.single key)
  rw [Label.symbols_labelAt] at spelled
  obtain ⟨derivation, rfl⟩ := List.length_eq_one_iff.1 spelled.length_eq
  exact ⟨derivation, rfl, spelled.span_eq⟩

/-- Two families of a node that belong to the same production and have a body in common are the
same: the derivation of the last symbol says where the two sides meet. -/
theorem Licensed.family_eq (licensed : arena.Licensed g fits stop) {node : Node}
    {left right : Family} (found : arena.nodes[id]? = some node) (has : left ∈ node.families)
    (hasToo : right ∈ node.families) (same : left.production = right.production)
    (unfolds : arena.Unfolds left.children.toList body)
    (unfoldsToo : arena.Unfolds right.children.toList body) : left = right := by
  obtain ⟨production, dot, known, label, joins⟩ := licensed.family found has
  obtain ⟨other, reached, knownToo, labelToo, joinsToo⟩ := licensed.family found hasToo
  rw [← same] at knownToo labelToo joinsToo
  obtain rfl := Option.some.inj (known.symm.trans knownToo)
  obtain rfl := Production.dot_eq_of_ownLabel_eq (label.symm.trans labelToo)
  suffices children : left.children = right.children by
    cases left
    cases right
    simp_all only
  generalize left.children = children at joins unfolds
  generalize right.children = others at joinsToo unfoldsToo
  -- Only a step behind another symbol has a choice, of where the two sides meet.
  generalize node.key.span = span at joins joinsToo
  cases joins with
  | empty _ =>
    cases joinsToo
    rfl
  | first alone key =>
    cases joinsToo with
    | first aloneToo keyToo =>
      obtain rfl := List.singleton_inj.1 (alone.symm.trans aloneToo)
      rw [licensed.unique key keyToo]
    | next _ labelled _ _ => simp [Production.labelAt?] at labelled
  | @next _ _ _ _ _ start middle last next labelled leftKey rightKey =>
    cases joinsToo with
    | first _ _ => simp [Production.labelAt?] at labelled
    | @next _ _ _ _ _ _ between _ nextToo labelledToo leftKeyToo rightKeyToo =>
    obtain rfl := Option.some.inj (next.symm.trans nextToo)
    obtain rfl := Option.some.inj (labelled.symm.trans labelledToo)
    obtain ⟨before, _, rfl, -, unfoldsRight⟩ := unfolds.exists_of_cons
    obtain ⟨beforeToo, _, split, -, unfoldsRightToo⟩ := unfoldsToo.exists_of_cons
    obtain ⟨derivation, rfl, span⟩ := licensed.exists_eq_singleton rightKey unfoldsRight
    obtain ⟨_, rfl, spanToo⟩ := licensed.exists_eq_singleton rightKeyToo unfoldsRightToo
    obtain ⟨-, rfl⟩ := List.append_singleton_inj.1 split
    obtain ⟨rfl, -⟩ := Span.mk.inj (span.symm.trans spanToo)
    rw [licensed.unique leftKey leftKeyToo, licensed.unique rightKey rightKeyToo]

/-- A choice for children is listed once, if each node's are. -/
theorem Licensed.nodup_choices (licensed : arena.Licensed g fits stop) {node : Node}
    {family : Family} (found : arena.nodes[id]? = some node) (has : family ∈ node.families)
    {below : NodeId → List (List Derivation)}
    (sound : ∀ {id derivations}, derivations ∈ below id → arena.Unfolds [id] derivations)
    (nodup : ∀ id, (below id).Nodup) : (family.children.choices below).Nodup := by
  obtain ⟨_, _, -, -, joins⟩ := licensed.family found has
  generalize node.key.span = span at joins
  generalize family.children = children at joins ⊢
  cases joins with
  | empty _ => exact List.nodup_singleton []
  | first _ _ => exact nodup _
  | @next _ _ left right _ _ _ _ _ _ _ rightKey =>
    refine List.nodup_flatMap.2 ⟨fun first _ => ?_, ?_⟩
    · exact (nodup right).map (List.append_right_injective first)
    · refine (nodup left).pairwise_of_forall_ne fun first _ other _ differs => ?_
      intro joined inFirst inOther
      obtain ⟨_, second, rfl⟩ := List.mem_map.1 inFirst
      obtain ⟨_, secondToo, split⟩ := List.mem_map.1 inOther
      obtain ⟨_, rfl, -⟩ := licensed.exists_eq_singleton rightKey (sound second)
      obtain ⟨_, rfl, -⟩ := licensed.exists_eq_singleton rightKey (sound secondToo)
      exact differs (List.append_singleton_inj.1 split).1.symm

/-- What a node contributes is listed once, if its bodies are. -/
theorem Licensed.nodup_contributed (licensed : arena.Licensed g fits stop)
    (sound : ∀ {id rule body}, (rule, body) ∈ bodies id → arena.HasBody id rule body)
    (nodup : ∀ id, (bodies id).Nodup) (id : NodeId) : (arena.contributed bodies id).Nodup := by
  rw [contributed]
  split
  · exact List.nodup_nil
  rename_i node found
  split
  · exact List.nodup_singleton _
  · refine (nodup id).map ?_
    rintro ⟨rule, body⟩ ⟨other, rest⟩ same
    simpa using same
  · rename_i rule _ label
    refine List.Nodup.map_on ?_ (nodup id)
    -- A progress node has only one production, so its bodies differ in the derivations.
    have only : ∀ {id' body}, (id', body) ∈ bodies id → id' = rule := by
      intro _ _ listed
      obtain ⟨_, family, same, has, rfl, -⟩ := sound listed
      obtain rfl := Option.some.inj (found.symm.trans same)
      exact (licensed.row_of_progress found label has).1
    rintro ⟨first, body⟩ listed ⟨second, rest⟩ listedToo same
    rw [only listed, only listedToo]
    exact congrArg (rule, ·) same

/-- No body of a node is listed twice. -/
theorem Licensed.nodup_bodiesWithin (licensed : arena.Licensed g fits stop) (depth : Nat)
    (path : List NodeId) (id : NodeId) : (arena.bodiesWithin depth path id).Nodup := by
  induction depth generalizing path id with
  | zero => exact List.nodup_nil
  | succ depth ih =>
    rw [bodiesWithin]
    split
    · exact List.nodup_nil
    split
    · exact List.nodup_nil
    rename_i node found
    have once := licensed.nodup_contributed hasBody_of_mem (ih (id :: path))
    have sound : ∀ {child derivations}, derivations ∈
        arena.contributed (arena.bodiesWithin depth (id :: path)) child →
          arena.Unfolds [child] derivations :=
      unfolds_of_mem_contributed hasBody_of_mem
    refine List.nodup_flatMap.2 ⟨fun family has => ?_, ?_⟩
    · exact (licensed.nodup_choices found has sound once).map fun _ _ same => (Prod.mk.inj same).2
    · refine (licensed.nodup found).pairwise_of_forall_ne fun left has right hasToo differs => ?_
      rintro ⟨rule, body⟩ inLeft inRight
      obtain ⟨_, chosen, sameLeft⟩ := List.mem_map.1 inLeft
      obtain ⟨_, chosenToo, sameRight⟩ := List.mem_map.1 inRight
      obtain ⟨rfl, rfl⟩ := Prod.mk.inj sameLeft
      obtain ⟨same, rfl⟩ := Prod.mk.inj sameRight
      have unfolds := unfolds_of_mem_choices sound chosen
      have unfoldsToo := unfolds_of_mem_choices sound chosenToo
      exact differs (licensed.family_eq found has hasToo same.symm unfolds unfoldsToo)

/-- No derivation of a node is listed twice. -/
theorem Licensed.nodup_derivations (licensed : arena.Licensed g fits stop) (root : NodeId) :
    (arena.derivations root).Nodup := by
  rw [derivations]
  split
  · exact List.nodup_nil
  · refine (licensed.nodup_bodiesWithin _ _ _).map ?_
    rintro ⟨rule, body⟩ ⟨other, rest⟩ same
    simpa using same

end Arena

end ChartParser
