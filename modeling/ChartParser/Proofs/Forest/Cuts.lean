import ChartParser.Proofs.Forest.Enumeration
import ChartParser.Proofs.Forest.Ways

/-!
# What cutting leaves

The walk that lists the trees of a forest cuts a way down where it meets a node again. In a licensed
arena a node is known by what it stands for, so whether a way is cut can be seen from the derivation
it belongs to: a derivation is listed exactly if the node of the root unfolds to it and none of its
ways meets a node twice (`Licensed.mem_derivations_iff_nodup`). These nodes include those for the
beginnings of productions, which no tree shows.
-/

namespace ChartParser

/-- The ways down from a node with this key, where it unfolds to these derivations. -/
def NodeKey.ways (g : Grammar) (key : NodeKey) (derivations : List Derivation) :
    List (List NodeKey) :=
  match key.label with
  | .progress _ rule _ =>
    (Derivation.bodyWays g rule key.span.start derivations).map (key :: ·)
  | _ => derivations.flatMap (Derivation.ways g)

namespace Arena

open ChartParser.Derivation

variable {g : Grammar} {fits : Nat → TerminalId → Bool} {arena : Arena} {stop depth : Nat}
  {path : List NodeId} {id child : NodeId} {rule : ProductionId} {body : List Derivation}
  {key : NodeKey}

/-- A way that goes on from the nodes of `path` meets no node twice. -/
def Uncut (arena : Arena) (path : List NodeId) (way : List NodeKey) : Prop :=
  way.Nodup ∧ ∀ met ∈ path, ∀ key ∈ way, arena.key? met ≠ some key

/-- A way that ends at once meets nothing. -/
theorem uncut_nil : arena.Uncut path [] := ⟨List.nodup_nil, by simp⟩

/-- A way that starts without any node before it meets no node twice if it has none twice. -/
theorem uncut_start {way : List NodeKey} : arena.Uncut [] way ↔ way.Nodup := by
  simp [Uncut]

/-- A way may go on to a node that has not been met, if it does not come back to it. -/
theorem Licensed.uncut_cons (licensed : arena.Licensed g fits stop) {way : List NodeKey}
    (known : arena.key? id = some key) :
    arena.Uncut path (key :: way) ↔ id ∉ path ∧ arena.Uncut (id :: path) way := by
  unfold Uncut
  constructor
  · rintro ⟨once, apart⟩
    obtain ⟨absent, onceToo⟩ := List.nodup_cons.1 once
    refine ⟨fun met => apart id met key List.mem_cons_self known, onceToo, ?_⟩
    refine List.forall_mem_cons.2 ⟨fun other inside same => ?_, fun met inPath other inside => ?_⟩
    · obtain rfl := Option.some.inj (known.symm.trans same)
      exact absent inside
    · exact apart met inPath other (List.mem_cons_of_mem key inside)
  · rintro ⟨fresh, once, apart⟩
    obtain ⟨apartHere, apartPath⟩ := List.forall_mem_cons.1 apart
    refine ⟨List.nodup_cons.2 ⟨fun inside => apartHere key inside known, once⟩, ?_⟩
    intro met inPath
    refine List.forall_mem_cons.2 ⟨fun same => ?_, apartPath met inPath⟩
    obtain rfl := licensed.unique known same
    exact fresh inPath

/-- All ways through a node are uncut if the node has not been met and they are uncut behind it. -/
theorem Licensed.uncut_map_cons (licensed : arena.Licensed g fits stop)
    (known : arena.key? id = some key) {ways : List (List NodeKey)} (some : ways ≠ []) :
    (∀ way ∈ ways.map (key :: ·), arena.Uncut path way) ↔
      id ∉ path ∧ ∀ way ∈ ways, arena.Uncut (id :: path) way := by
  obtain ⟨first, others, rfl⟩ := List.exists_cons_of_ne_nil some
  rw [List.forall_mem_map]
  simp only [licensed.uncut_cons known]
  constructor
  · intro each
    exact ⟨(each first List.mem_cons_self).1, fun way inside => (each way inside).2⟩
  · rintro ⟨fresh, each⟩ way inside
    exact ⟨fresh, each way inside⟩

/-! ## One node -/

/-- The ways down from the node of a nonterminal meet it and go on to the symbols of a production.
-/
theorem Licensed.ways_branch (licensed : arena.Licensed g fits stop) {node : Node}
    {nonterminal : NonterminalId} (found : arena.nodes[id]? = some node)
    (label : node.label = .nonterminal nonterminal) (has : arena.HasBody id rule body) :
    node.key.ways g [.branch rule node.span body] =
      (bodyWays g rule node.span.start body).map (node.key :: ·) := by
  obtain ⟨_, family, same, inside, rfl, -⟩ := has
  obtain rfl := Option.some.inj (found.symm.trans same)
  obtain ⟨production, present, rfl, -⟩ := licensed.row_of_nonterminal found label inside
  have own : node.key = ⟨node.span, .nonterminal (g.lhsOf family.production)⟩ := by
    rw [g.lhsOf_eq present, ← label]
    rfl
  unfold NodeKey.ways
  rw [show node.key.label = _ from label, List.flatMap_singleton, Derivation.ways_branch, own]

/-- The ways down from the node for the beginning of a production meet it and go on to the symbols
there. -/
theorem Licensed.ways_progress (licensed : arena.Licensed g fits stop) {node : Node}
    {nonterminal : NonterminalId} {production : ProductionId} {dot : Nat}
    (found : arena.nodes[id]? = some node)
    (label : node.label = .progress nonterminal production dot)
    (has : arena.HasBody id rule body) :
    node.key.ways g body = (bodyWays g rule node.span.start body).map (node.key :: ·) := by
  obtain ⟨_, family, same, inside, rfl, -⟩ := has
  obtain rfl := Option.some.inj (found.symm.trans same)
  obtain ⟨rfl, -⟩ := licensed.row_of_progress found label inside
  unfold NodeKey.ways
  rw [show node.key.label = _ from label]
  rfl

/-- The bodies listed for a node are those that it has and whose ways are all uncut. -/
def ListsUncut (g : Grammar) (arena : Arena) (depth : Nat) (path : List NodeId) (id : NodeId)
    (key : NodeKey) : Prop :=
  ∀ (rule : ProductionId) (body : List Derivation),
    (rule, body) ∈ arena.bodiesWithin depth path id ↔ arena.HasBody id rule body ∧ id ∉ path ∧
      ∀ way ∈ bodyWays g rule key.span.start body, arena.Uncut (id :: path) way

/-- What a node contributes is what it unfolds to with all ways uncut, if its bodies are so listed.
-/
theorem Licensed.mem_contributed_iff (licensed : arena.Licensed g fits stop)
    (known : arena.key? id = some key) (lists : ListsUncut g arena depth path id key)
    {derivations : List Derivation} :
    derivations ∈ arena.contributed (arena.bodiesWithin depth path) id ↔
      arena.Unfolds [id] derivations ∧ ∀ way ∈ key.ways g derivations, arena.Uncut path way := by
  obtain ⟨node, found, rfl⟩ := Option.map_eq_some_iff.1 known
  have through : ∀ {rule : ProductionId} {body : List Derivation},
      (∀ way ∈ (bodyWays g rule node.span.start body).map (node.key :: ·), arena.Uncut path way) ↔
        id ∉ path ∧ ∀ way ∈ bodyWays g rule node.span.start body, arena.Uncut (id :: path) way :=
    licensed.uncut_map_cons known bodyWays_ne_nil
  constructor
  · intro inside
    refine ⟨unfolds_of_mem_contributed hasBody_of_mem inside, ?_⟩
    unfold contributed at inside
    rw [found] at inside
    dsimp only at inside
    split at inside
    · rename_i terminal index label
      obtain rfl := List.mem_singleton.1 inside
      unfold NodeKey.ways
      rw [show node.key.label = _ from label]
      simpa [ways] using uncut_nil
    · rename_i label
      obtain ⟨⟨rule, body⟩, listed, rfl⟩ := List.mem_map.1 inside
      obtain ⟨has, uncut⟩ := (lists rule body).1 listed
      rw [licensed.ways_branch found label has, through]
      exact uncut
    · rename_i label
      obtain ⟨⟨rule, body⟩, listed, rfl⟩ := List.mem_map.1 inside
      obtain ⟨has, uncut⟩ := (lists rule body).1 listed
      rw [licensed.ways_progress found label has, through]
      exact uncut
  · rintro ⟨unfolds, uncut⟩
    cases unfolds with
    | token foundToo label rest =>
      cases rest
      simp [contributed, foundToo, label]
    | branch foundToo label inside below rest =>
      cases rest
      obtain rfl := Option.some.inj (found.symm.trans foundToo)
      have has : arena.HasBody id _ _ := ⟨_, _, found, inside, rfl, below⟩
      rw [licensed.ways_branch found label has, through] at uncut
      have listed := (lists _ _).2 ⟨has, uncut⟩
      simp only [contributed, found, label]
      exact List.mem_map.2 ⟨_, listed, rfl⟩
    | progress foundToo label inside below rest =>
      cases rest
      obtain rfl := Option.some.inj (found.symm.trans foundToo)
      have has : arena.HasBody id _ _ := ⟨_, _, found, inside, rfl, below⟩
      rw [List.append_nil, licensed.ways_progress found label has, through] at uncut
      have listed := (lists _ _).2 ⟨has, uncut⟩
      simp only [contributed, found, label, List.append_nil]
      exact List.mem_map.2 ⟨_, listed, rfl⟩

/-! ## The children of a family -/

/-- The ways down from the node of a symbol are those of its derivation. -/
theorem ways_labelAt (symbol : Symbol) (span : Span) (start : Nat) (derivation : Derivation) :
    NodeKey.ways g ⟨span, symbol.labelAt start⟩ [derivation] = derivation.ways g := by
  cases symbol with
  | terminal _ => exact List.flatMap_singleton _ _
  | nonterminal _ => exact List.flatMap_singleton _ _

/-- The ways to the symbols before the last one of a step are those down from the left child. -/
theorem Licensed.gather_eq_ways (licensed : arena.Licensed g fits stop) {production : Production}
    {start middle dot : Nat} {label : Label} {left : NodeId} {before : List Derivation}
    (found : g.productions[rule]? = some production) (inside : dot < production.length)
    (labelled : production.labelAt? rule start dot = some label)
    (known : arena.key? left = some ⟨⟨start, middle⟩, label⟩)
    (unfolds : arena.Unfolds [left] before) :
    gather g rule start (stopOf start before) before.length (bodyWays g rule start before) =
      NodeKey.ways g ⟨⟨start, middle⟩, label⟩ before := by
  have spelled := unfolds.spells licensed (Row.single known)
  rw [production.symbols_labelAt? found inside labelled] at spelled
  have length : before.length = dot := by
    rw [spelled.length_eq, List.length_take]
    exact Nat.min_eq_left (Nat.le_of_lt inside)
  rw [spelled.stopOf_eq, length]
  unfold Production.labelAt? at labelled
  by_cases none : dot = 0
  · rw [if_pos none] at labelled
    simp at labelled
  rw [if_neg none] at labelled
  by_cases single : dot = 1
  · rw [if_pos ⟨single, by omega⟩] at labelled
    obtain ⟨symbol, -, rfl⟩ := Option.map_eq_some_iff.1 labelled
    obtain ⟨derivation, rfl⟩ := List.length_eq_one_iff.1 (length.trans single)
    rw [single, ways_labelAt, ← bodyWays_singleton]
    rfl
  · rw [if_neg fun both => single both.1, Option.some.injEq, Production.ownLabel,
      if_neg (Nat.ne_of_lt inside), ← g.lhsOf_eq found] at labelled
    obtain ⟨dot, rfl⟩ : ∃ more, dot = more + 2 := ⟨dot - 2, by omega⟩
    subst labelled
    rfl

/-- What is chosen for the children of a step is what they unfold to with all ways of some kind, if
this is so for each child. -/
theorem Licensed.mem_choices_iff (licensed : arena.Licensed g fits stop) {production : Production}
    {dot : Nat} {span : Span} {children : Children} {below : NodeId → List (List Derivation)}
    {holds : List NodeKey → Prop} (found : g.productions[rule]? = some production)
    (joins : children.Joins arena production rule dot span) (ended : holds [])
    (each : ∀ child ∈ children.toList, ∀ key, arena.key? child = some key → ∀ derivations,
      derivations ∈ below child ↔
        arena.Unfolds [child] derivations ∧ ∀ way ∈ key.ways g derivations, holds way) :
    body ∈ children.choices below ↔
      arena.Unfolds children.toList body ∧ ∀ way ∈ bodyWays g rule span.start body, holds way := by
  cases joins with
  | empty _ =>
    constructor
    · intro chosen
      obtain rfl := List.mem_singleton.1 chosen
      refine ⟨.nil, ?_⟩
      rw [bodyWays_nil]
      exact List.forall_mem_singleton.2 ended
    · rintro ⟨unfolds, -⟩
      cases unfolds
      exact List.mem_singleton_self []
  | first _ key =>
    refine (each _ List.mem_cons_self _ key body).trans (and_congr_right fun unfolds => ?_)
    obtain ⟨derivation, rfl, -⟩ := licensed.exists_eq_singleton key unfolds
    rw [ways_labelAt, bodyWays_singleton]
  | @next symbol label left right _ start middle last next labelled leftKey rightKey =>
    have inside := Production.lt_of_symbolAt? next
    have split : ∀ {before after : List Derivation}, arena.Unfolds [left] before →
        arena.Unfolds [right] after →
        ((∀ way ∈ bodyWays g rule start (before ++ after), holds way) ↔
          (∀ way ∈ NodeKey.ways g ⟨⟨start, middle⟩, label⟩ before, holds way) ∧
            ∀ way ∈ NodeKey.ways g ⟨⟨middle, last⟩, symbol.labelAt middle⟩ after, holds way) := by
      intro before after unfoldsLeft unfoldsRight
      obtain ⟨derivation, rfl, -⟩ := licensed.exists_eq_singleton rightKey unfoldsRight
      rw [bodyWays_append_singleton, List.forall_mem_append, ways_labelAt,
        licensed.gather_eq_ways found inside labelled leftKey unfoldsLeft]
    have eachLeft := each left (by simp [Children.toList]) _ leftKey
    have eachRight := each right (by simp [Children.toList]) _ rightKey
    constructor
    · intro chosen
      obtain ⟨before, chosenLeft, rest⟩ := List.mem_flatMap.1 chosen
      obtain ⟨after, chosenRight, rfl⟩ := List.mem_map.1 rest
      obtain ⟨unfoldsLeft, holdsLeft⟩ := (eachLeft before).1 chosenLeft
      obtain ⟨unfoldsRight, holdsRight⟩ := (eachRight after).1 chosenRight
      exact ⟨unfoldsLeft.append unfoldsRight,
        (split unfoldsLeft unfoldsRight).2 ⟨holdsLeft, holdsRight⟩⟩
    · rintro ⟨unfolds, all⟩
      obtain ⟨before, after, rfl, unfoldsLeft, unfoldsRight⟩ := unfolds.exists_of_cons
      obtain ⟨holdsLeft, holdsRight⟩ := (split unfoldsLeft unfoldsRight).1 all
      have chosenLeft := (eachLeft before).2 ⟨unfoldsLeft, holdsLeft⟩
      have chosenRight := (eachRight after).2 ⟨unfoldsRight, holdsRight⟩
      exact List.mem_flatMap.2 ⟨before, chosenLeft, List.mem_map.2 ⟨after, chosenRight, rfl⟩⟩

/-! ## The whole walk -/

/-- The bodies listed for a node, on whatever way it is reached, are those that it has and whose
ways are all uncut. -/
theorem Licensed.listsUncut (licensed : arena.Licensed g fits stop) (way : arena.Way path depth)
    (known : arena.key? id = some key) : ListsUncut g arena depth path id key := by
  induction depth generalizing path id key with
  | zero => exact absurd rfl way.depth_ne_zero
  | succ depth ih =>
    obtain ⟨node, found, rfl⟩ := Option.map_eq_some_iff.1 known
    intro rule body
    rw [bodiesWithin]
    by_cases met : id ∈ path
    · rw [if_pos (meets_iff.2 met)]
      simp [met]
    rw [if_neg (by rwa [meets_iff]), found]
    have next := way.step (Array.getElem?_eq_some_iff.1 found).1 met
    -- For each family, the choices for its children are right by induction.
    have families : ∀ family ∈ node.families, ∀ body, body ∈ family.children.choices
        (arena.contributed (arena.bodiesWithin depth (id :: path))) ↔
          arena.Unfolds family.children.toList body ∧
            ∀ way ∈ bodyWays g family.production node.span.start body,
              arena.Uncut (id :: path) way := by
      intro family has body
      obtain ⟨production, dot, present, -, joins⟩ := licensed.family found has
      refine licensed.mem_choices_iff present joins uncut_nil fun child _ key knownChild _ => ?_
      exact licensed.mem_contributed_iff knownChild (ih next knownChild)
    constructor
    · intro listed
      obtain ⟨family, has, inFamily⟩ := List.mem_flatMap.1 listed
      obtain ⟨_, chosen, same⟩ := List.mem_map.1 inFamily
      obtain ⟨rfl, rfl⟩ := Prod.mk.inj same
      obtain ⟨unfolds, uncut⟩ := (families family has _).1 chosen
      exact ⟨⟨node, family, found, has, rfl, unfolds⟩, met, uncut⟩
    · rintro ⟨⟨_, family, same, has, rfl, unfolds⟩, -, uncut⟩
      obtain rfl := Option.some.inj (found.symm.trans same)
      have chosen := (families family has body).2 ⟨unfolds, uncut⟩
      exact List.mem_flatMap.2 ⟨family, has, List.mem_map.2 ⟨body, chosen, rfl⟩⟩

/-- The derivations listed for a nonterminal are those that its node unfolds to and none of whose
ways meets a node twice. -/
theorem Licensed.mem_derivations_iff_nodup (licensed : arena.Licensed g fits stop) {root : NodeId}
    {span : Span} {nonterminal : NonterminalId}
    (known : arena.key? root = some ⟨span, .nonterminal nonterminal⟩) {derivation : Derivation} :
    derivation ∈ arena.derivations root ↔
      arena.Unfolds [root] [derivation] ∧ ∀ way ∈ derivation.ways g, way.Nodup := by
  have lists := licensed.listsUncut (.start arena) known
  have contributed_iff :
      [derivation] ∈ arena.contributed (arena.bodiesWithin (arena.size + 1) []) root ↔
        arena.Unfolds [root] [derivation] ∧ ∀ way ∈ derivation.ways g, arena.Uncut [] way := by
    rw [← ways_labelAt (.nonterminal nonterminal) span 0 derivation]
    exact licensed.mem_contributed_iff known lists
  simp only [uncut_start] at contributed_iff
  rw [← contributed_iff]
  obtain ⟨node, found, owned⟩ := Option.map_eq_some_iff.1 known
  have label : node.label = .nonterminal nonterminal := by rw [Node.label, owned]
  simp only [derivations, contributed, found, label, List.mem_map, List.cons.injEq, and_true]

end Arena

end ChartParser
