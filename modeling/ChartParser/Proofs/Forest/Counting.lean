import ChartParser.Forest.Count
import ChartParser.Proofs.Forest.Enumeration
import Mathlib.Algebra.GroupWithZero.Nat

/-!
# Counting and listing agree

The number of trees of a forest is the length of their list, up to the largest count. Both are
compared with `Arena.tally`, which multiplies and adds along the same walk but remembers nothing. A
remembered count is right for every way down that has met no node with a remembered count
(`Arena.Remembers`). That is enough, because the nodes of a way down are never remembered while the
way is on them, and a count without a cut rests on remembered counts only, so that it holds for
every such way (`Arena.Tells`). All of this is true of any arena whose children exist, with cycles
and nodes without families included.
-/

namespace ChartParser

/-! ## Counts that stop growing -/

/-- A sum stops growing where it does if its parts have. -/
theorem min_min_add_min (left right most : Nat) :
    min (min left most + min right most) most = min (left + right) most := by
  omega

/-- A product stops growing where it does if its factors have. -/
theorem min_min_mul_min (left right most : Nat) :
    min (min left most * min right most) most = min (left * right) most := by
  by_cases zero : left * right = 0
  · rcases Nat.mul_eq_zero.1 zero with rfl | rfl <;> simp
  have leftPos : 0 < left := Nat.pos_of_ne_zero (Nat.ne_zero_of_mul_ne_zero_left zero)
  have rightPos : 0 < right := Nat.pos_of_ne_zero (Nat.ne_zero_of_mul_ne_zero_right zero)
  by_cases mostZero : most = 0
  · simp [mostZero]
  by_cases within : left ≤ most ∧ right ≤ most
  · rw [Nat.min_eq_left within.1, Nat.min_eq_left within.2]
  · -- One factor has reached the largest count and the other is not zero.
    have large : most ≤ left * right := by
      rcases not_and_or.1 within with beyond | beyond
      · exact Nat.le_trans (by omega) (Nat.le_mul_of_pos_right left rightPos)
      · exact Nat.le_trans (by omega) (Nat.le_mul_of_pos_left right leftPos)
    have largeToo : most ≤ min left most * min right most := by
      rcases not_and_or.1 within with beyond | beyond
      · rw [Nat.min_eq_right (by omega : most ≤ left)]
        exact Nat.le_mul_of_pos_right most (by omega)
      · rw [Nat.min_eq_right (by omega : most ≤ right)]
        exact Nat.le_mul_of_pos_left most (by omega)
    rw [Nat.min_eq_right large, Nat.min_eq_right largeToo]

/-- There is a count larger than zero. -/
theorem maxCount_pos : 0 < maxCount := by decide

/-! ## The tally -/

/-- The number of ways to derive these nodes together, given that of each. -/
def Children.tally (below : NodeId → Nat) : Children → Nat
  | empty => 1
  | one child => below child
  | two left right => below left * below right

namespace Arena

/-- The number of ways to derive a node that is reached through the nodes of `path`, going down at
most `depth` nodes. -/
def tally (arena : Arena) : Nat → List NodeId → NodeId → Nat
  | 0, _, _ => 0
  | depth + 1, path, id =>
    match arena.nodes[id]? with
    | none => 0
    | some node =>
      if node.isToken then 1
      else if meets path id then 0
      else
        (node.families.map fun family =>
          family.children.tally (tally arena depth (id :: path))).sum

variable {arena : Arena} {depth : Nat} {path : List NodeId} {id : NodeId}

/-- A token is derived in one way. -/
theorem tally_of_isToken (way : arena.Way path depth) {node : Node}
    (found : arena.nodes[id]? = some node) (token : node.isToken = true) :
    arena.tally depth path id = 1 := by
  obtain ⟨depth, rfl⟩ := Nat.exists_eq_succ_of_ne_zero way.depth_ne_zero
  simp [tally, found, token]

/-- A node that is met again is cut. -/
theorem tally_of_meets {node : Node} (found : arena.nodes[id]? = some node)
    (token : node.isToken = false) (met : id ∈ path) :
    arena.tally (depth + 1) path id = 0 := by
  simp [tally, found, token, meets_iff.2 met]

/-- The ways of the families of a node add up. -/
theorem tally_of_fresh {node : Node} (found : arena.nodes[id]? = some node)
    (token : node.isToken = false) (fresh : id ∉ path) :
    arena.tally (depth + 1) path id =
      (node.families.map fun family =>
        family.children.tally (arena.tally depth (id :: path))).sum := by
  have unmet : meets path id = false := by
    rw [← Bool.not_eq_true, meets_iff]
    exact fresh
  simp [tally, found, token, unmet]

/-! ## Remembered counts -/

/-- No node of the way down has a remembered count. -/
def Fresh (memo : CountMemo) (path : List NodeId) : Prop := ∀ id ∈ path, memo[id]?.join = none

/-- The count is the value for this way down, and without a cut it is the value for every fresh one.
-/
structure Tells (arena : Arena) (memo : CountMemo) (depth : Nat) (path : List NodeId)
    (value : Nat → List NodeId → Nat) (count : Count) : Prop where
  here : count.total = min (value depth path) maxCount
  anywhere : count.cut = false → ∀ {depth : Nat} {path : List NodeId}, arena.Way path depth →
    Fresh memo path → count.total = min (value depth path) maxCount

/-- The memo has a place for every node, and each remembered count is the tally for every fresh way
down. -/
structure Remembers (arena : Arena) (memo : CountMemo) : Prop where
  size : memo.size = arena.size
  right : ∀ {id : NodeId} {total : Nat}, memo[id]?.join = some total →
    ∀ {depth : Nat} {path : List NodeId}, arena.Way path depth → Fresh memo path →
      total = min (arena.tally depth path id) maxCount

/-- Counting has given a count that tells the value, and has remembered more, but nothing on the way
down and nothing wrong. -/
def Counted (arena : Arena) (memo : CountMemo) (depth : Nat) (path : List NodeId)
    (value : Nat → List NodeId → Nat) (result : Option (Count × CountMemo)) : Prop :=
  ∃ count later, result = some (count, later) ∧ arena.Remembers later ∧ Fresh later path ∧
    (∀ other, Fresh later other → Fresh memo other) ∧ arena.Tells later depth path value count

variable {memo later : CountMemo} {value first second : Nat → List NodeId → Nat}
  {count before after : Count} {below : NodeId → Counting}

namespace Tells

/-- What a count tells holds while more is remembered. -/
theorem mono (tells : arena.Tells memo depth path value count)
    (kept : ∀ other, Fresh later other → Fresh memo other) :
    arena.Tells later depth path value count :=
  ⟨tells.here, fun uncut _ _ way fresh => tells.anywhere uncut way (kept _ fresh)⟩

/-- The sum of two counts tells the sum of their values. -/
theorem add (tells : arena.Tells memo depth path first before)
    (tellsToo : arena.Tells memo depth path second after) :
    arena.Tells memo depth path (fun depth path => first depth path + second depth path)
      (before.add after) where
  here := by
    rw [Count.add, tells.here, tellsToo.here]
    exact min_min_add_min _ _ _
  anywhere uncut _ _ way fresh := by
    obtain ⟨uncutBefore, uncutAfter⟩ := Bool.or_eq_false_iff.1 uncut
    rw [Count.add, tells.anywhere uncutBefore way fresh, tellsToo.anywhere uncutAfter way fresh]
    exact min_min_add_min _ _ _

/-- The product of two counts tells the product of their values. -/
theorem times (tells : arena.Tells memo depth path first before)
    (tellsToo : arena.Tells memo depth path second after) :
    arena.Tells memo depth path (fun depth path => first depth path * second depth path)
      (before.times after) where
  here := by
    rw [Count.times, tells.here, tellsToo.here]
    exact min_min_mul_min _ _ _
  anywhere uncut _ _ way fresh := by
    obtain ⟨uncutBefore, uncutAfter⟩ := Bool.or_eq_false_iff.1 uncut
    rw [Count.times, tells.anywhere uncutBefore way fresh, tellsToo.anywhere uncutAfter way fresh]
    exact min_min_mul_min _ _ _

/-- A count of zero tells every product with its value. -/
theorem times_of_zero (tells : arena.Tells memo depth path first before)
    (zero : before.total = 0) :
    arena.Tells memo depth path (fun depth path => first depth path * second depth path)
      before := by
  have nothing : ∀ {left right : Nat}, before.total = min left maxCount →
      before.total = min (left * right) maxCount := by
    intro left right same
    have most := maxCount_pos
    obtain rfl : left = 0 := by omega
    simpa using same
  exact ⟨nothing tells.here, fun uncut _ _ way fresh => nothing (tells.anywhere uncut way fresh)⟩

end Tells

/-- A count that tells the value has been counted without remembering anything. -/
theorem counted_of_tells (remembers : arena.Remembers memo) (fresh : Fresh memo path)
    (tells : arena.Tells memo depth path value count) :
    arena.Counted memo depth path value (some (count, memo)) :=
  ⟨count, memo, rfl, remembers, fresh, fun _ same => same, tells⟩

/-- Counting children counts the ways to derive them together, if each child is counted so. -/
theorem counted_children {children : Children} {values : NodeId → Nat → List NodeId → Nat}
    (each : ∀ child ∈ children.toList, ∀ memo, arena.Remembers memo → Fresh memo path →
      arena.Counted memo depth path (values child) (below child memo))
    (remembers : arena.Remembers memo) (fresh : Fresh memo path) :
    arena.Counted memo depth path
      (fun depth path => children.tally fun child => values child depth path)
      (children.count below memo) := by
  cases children with
  | empty =>
    have one : 1 = min 1 maxCount := (Nat.min_eq_left maxCount_pos).symm
    exact counted_of_tells remembers fresh ⟨one, fun _ _ _ _ _ => one⟩
  | one child => exact each child (by simp [Children.toList]) memo remembers fresh
  | two left right =>
    obtain ⟨before, middle, countedLeft, remembersMiddle, freshMiddle, kept, tells⟩ :=
      each left (by simp [Children.toList]) memo remembers fresh
    rw [Children.count, countedLeft]
    by_cases zero : before.total = 0
    · simp only [if_pos zero]
      exact ⟨before, middle, rfl, remembersMiddle, freshMiddle, kept, tells.times_of_zero zero⟩
    · obtain ⟨after, later, countedRight, remembersLater, freshLater, keptToo, tellsToo⟩ :=
        each right (by simp [Children.toList]) middle remembersMiddle freshMiddle
      simp only [if_neg zero, countedRight]
      exact ⟨_, later, rfl, remembersLater, freshLater,
        fun other freshOther => kept other (keptToo other freshOther),
        (tells.mono keptToo).times tellsToo⟩

/-- Counting families adds up what is counted for each. -/
theorem counted_families {families : List Family} {values : Family → Nat → List NodeId → Nat}
    (each : ∀ family ∈ families, ∀ memo, arena.Remembers memo → Fresh memo path →
      arena.Counted memo depth path (values family) (family.children.count below memo))
    (remembers : arena.Remembers memo) (fresh : Fresh memo path)
    (tells : arena.Tells memo depth path value count) :
    arena.Counted memo depth path
      (fun depth path =>
        value depth path + (families.map fun family => values family depth path).sum)
      (Family.countAll below families count memo) := by
  induction families generalizing memo value count with
  | nil => exact counted_of_tells remembers fresh (by simpa using tells)
  | cons family families ih =>
    obtain ⟨eachFirst, eachRest⟩ := List.forall_mem_cons.1 each
    obtain ⟨next, middle, counted, remembersMiddle, freshMiddle, kept, tellsNext⟩ :=
      eachFirst memo remembers fresh
    obtain ⟨final, later, countedRest, remembersLater, freshLater, keptToo, tellsFinal⟩ :=
      ih eachRest remembersMiddle freshMiddle ((tells.mono kept).add tellsNext)
    rw [Family.countAll, counted]
    refine ⟨final, later, countedRest, remembersLater, freshLater,
      fun other freshOther => kept other (keptToo other freshOther), ?_⟩
    simpa only [List.map_cons, List.sum_cons, Nat.add_assoc] using tellsFinal

/-- What is remembered once the count of a node is known. -/
theorem join_remember (remembers : arena.Remembers memo) (inside : id < arena.size)
    (uncut : count.cut = false) (other : NodeId) :
    (count.remember id memo)[other]?.join =
      if other = id then some count.total else memo[other]?.join := by
  have bound : id < memo.size := by rwa [remembers.size]
  rw [Count.remember, if_neg (by simp [uncut]), Array.getElem?_setIfInBounds]
  by_cases same : other = id
  · subst same
    simp [bound]
  · rw [if_neg (Ne.symm same), if_neg same]

/-- Nothing is forgotten when the count of a node is remembered. -/
theorem fresh_of_remember (remembers : arena.Remembers memo) (inside : id < arena.size)
    {other : List NodeId} (fresh : Fresh (count.remember id memo) other) : Fresh memo other := by
  intro met inOther
  cases cut : count.cut with
  | true =>
    have same := fresh met inOther
    rwa [Count.remember, if_pos cut] at same
  | false =>
    have same := fresh met inOther
    rw [join_remember remembers inside cut] at same
    split at same
    · simp at same
    · exact same

/-- Once the families of a node are counted, the count tells its tally, and it may be remembered
unless there was a cut: it rests on remembered counts only, and the node itself is not one of them.
-/
theorem counted_remember {node : Node} (found : arena.nodes[id]? = some node)
    (token : node.isToken = false) (unmet : id ∉ path)
    (remembers : arena.Remembers memo) (fresh : Fresh memo (id :: path))
    (tells : arena.Tells memo depth (id :: path) (fun depth path =>
      (node.families.map fun family => family.children.tally (arena.tally depth path)).sum)
      count) :
    arena.Remembers (count.remember id memo) ∧ Fresh (count.remember id memo) path ∧
      arena.Tells (count.remember id memo) (depth + 1) path
        (fun depth path => arena.tally depth path id) count := by
  have inside := (Array.getElem?_eq_some_iff.1 found).1
  obtain ⟨unknown, freshPath⟩ := List.forall_mem_cons.1 fresh
  have here : count.total = min (arena.tally (depth + 1) path id) maxCount := by
    rw [tally_of_fresh found token unmet, tells.here]
  cases cut : count.cut with
  | true =>
    rw [Count.remember, if_pos cut]
    exact ⟨remembers, freshPath, here, by simp [cut]⟩
  | false =>
    -- Every other fresh way can go on to the node, and is fresh for its families too.
    have anywhere : ∀ {depth : Nat} {path : List NodeId}, arena.Way path depth →
        Fresh (count.remember id memo) path →
          count.total = min (arena.tally depth path id) maxCount := by
      intro depth path way freshLater
      obtain ⟨depth, rfl⟩ := Nat.exists_eq_succ_of_ne_zero way.depth_ne_zero
      have unmet : id ∉ path := by
        intro met
        have known := freshLater id met
        simp [join_remember remembers inside cut] at known
      have freshToo := fresh_of_remember remembers inside freshLater
      rw [tally_of_fresh found token unmet, tells.anywhere cut (way.step inside unmet)
        (List.forall_mem_cons.2 ⟨unknown, freshToo⟩)]
    refine ⟨⟨?_, ?_⟩, ?_, here, fun _ => anywhere⟩
    · rw [Count.remember, if_neg (by simp [cut]), Array.size_setIfInBounds, remembers.size]
    · intro other total known depth path way freshLater
      rw [join_remember remembers inside cut] at known
      split at known
      · rename_i same
        obtain rfl := Option.some.inj known
        rw [same]
        exact anywhere way freshLater
      · exact remembers.right known way (fresh_of_remember remembers inside freshLater)
    · intro met inPath
      have differs : met ≠ id := fun same => unmet (same ▸ inPath)
      rw [join_remember remembers inside cut, if_neg differs]
      exact freshPath met inPath

/-- Counting below a node counts its tally. -/
theorem counted_countWithin (closed : arena.Closed) (way : arena.Way path depth)
    (inside : id < arena.size) (remembers : arena.Remembers memo) (fresh : Fresh memo path) :
    arena.Counted memo depth path (fun depth path => arena.tally depth path id)
      (arena.countWithin depth path id memo) := by
  induction depth generalizing path id memo with
  | zero => exact absurd rfl way.depth_ne_zero
  | succ depth ih =>
    obtain ⟨node, found⟩ : ∃ node, arena.nodes[id]? = some node :=
      ⟨_, Array.getElem?_eq_getElem inside⟩
    rw [countWithin]
    cases known : memo[id]?.join with
    | some total =>
      refine counted_of_tells remembers fresh ⟨?_, fun _ _ _ wayToo freshToo => ?_⟩
      · exact remembers.right known way fresh
      · exact remembers.right known wayToo freshToo
    | none =>
    simp only [found]
    by_cases token : node.isToken = true
    · have one : ∀ {depth : Nat} {path : List NodeId}, arena.Way path depth →
          1 = min (arena.tally depth path id) maxCount := by
        intro depth path way
        rw [tally_of_isToken way found token, Nat.min_eq_left maxCount_pos]
      rw [if_pos token]
      exact counted_of_tells remembers fresh ⟨one way, fun _ _ _ wayToo _ => one wayToo⟩
    rw [if_neg token]
    rw [Bool.not_eq_true] at token
    by_cases met : id ∈ path
    · rw [if_pos (meets_iff.2 met)]
      refine counted_of_tells remembers fresh ⟨?_, by simp⟩
      rw [tally_of_meets found token met, Nat.zero_min]
    rw [if_neg (by rwa [meets_iff])]
    have next := way.step inside met
    have children : ∀ family ∈ node.families, ∀ memo, arena.Remembers memo →
        Fresh memo (id :: path) → arena.Counted memo depth (id :: path)
          (fun depth path => family.children.tally (arena.tally depth path))
          (family.children.count (arena.countWithin depth (id :: path)) memo) :=
      fun family has _ remembersToo freshToo => counted_children
        (fun child below _ remembersChild freshChild =>
          ih next (closed found has below) remembersChild freshChild) remembersToo freshToo
    have nothing : arena.Tells memo depth (id :: path) (fun _ _ => 0) ⟨0, false⟩ :=
      ⟨(Nat.zero_min _).symm, fun _ _ _ _ _ => (Nat.zero_min _).symm⟩
    obtain ⟨count, later, counted, remembersLater, freshLater, kept, tells⟩ :=
      counted_families children remembers (List.forall_mem_cons.2 ⟨known, fresh⟩) nothing
    simp only [counted]
    simp only [Nat.zero_add] at tells
    obtain ⟨remembersFinal, freshFinal, tellsFinal⟩ :=
      counted_remember found token met remembersLater freshLater tells
    refine ⟨count, _, rfl, remembersFinal, freshFinal, fun other freshOther => ?_, tellsFinal⟩
    exact kept other (fresh_of_remember remembersLater inside freshOther)

/-- The count of a node is its tally from the start, up to the largest count. -/
theorem count?_eq (closed : arena.Closed) (inside : id < arena.size) :
    arena.count? id = some (min (arena.tally (arena.size + 1) [] id) maxCount) := by
  have bare : ∀ other : NodeId,
      (Array.replicate arena.size (none : Option Nat))[other]?.join = none := by
    intro other
    rw [Array.getElem?_replicate]
    split <;> rfl
  have remembers : arena.Remembers (Array.replicate arena.size none) :=
    ⟨Array.size_replicate, fun known => by simp [bare] at known⟩
  obtain ⟨count, later, counted, -, -, -, tells⟩ :=
    counted_countWithin closed (.start arena) inside remembers (fun other _ => bare other)
  rw [count?, counted, Option.map_some, tells.here]

/-! ## Listing -/

variable {g : Grammar}

/-- If each element gives a list of some length, these lengths add up over the whole list. -/
theorem length_flatten_of_mapM {α β : Type} {f : α → Option (List β)} {length : α → Nat}
    {elements : List α} {lists : List (List β)} (listed : elements.mapM f = some lists)
    (each : ∀ element ∈ elements, ∀ list, f element = some list → list.length = length element) :
    lists.flatten.length = (elements.map length).sum := by
  induction elements generalizing lists with
  | nil =>
    obtain rfl := Option.some.inj listed
    rfl
  | cons element elements ih =>
    obtain ⟨eachFirst, eachRest⟩ := List.forall_mem_cons.1 each
    rw [List.mapM_cons] at listed
    cases first : f element with
    | none => simp [first] at listed
    | some list =>
      cases rest : elements.mapM f with
      | none => simp [first, rest] at listed
      | some others =>
        obtain rfl : list :: others = lists := by simpa [first, rest] using listed
        rw [List.flatten_cons, List.length_append, List.map_cons, List.sum_cons, ih rest eachRest,
          eachFirst list first]

/-- The child lists of children are as many as the ways to derive them together. -/
theorem length_sequences {below : NodeId → Option (List (List Tree))} {counts : NodeId → Nat}
    {children : Children} {lists : List (List Tree)}
    (listed : children.sequences below = some lists)
    (each : ∀ child ∈ children.toList, ∀ list, below child = some list →
      list.length = counts child) : lists.length = children.tally counts := by
  cases children with
  | empty =>
    obtain rfl := Option.some.inj listed
    rfl
  | one child => exact each child (by simp [Children.toList]) lists listed
  | two left right =>
    rw [Children.sequences] at listed
    cases before : below left with
    | none => simp [before] at listed
    | some first =>
      cases after : below right with
      | none => simp [before, after] at listed
      | some second =>
        simp only [before, after, bind, Option.bind, pure, Option.some.injEq,
          flatten_combinations] at listed
        have sizeLeft := each left (by simp [Children.toList]) first before
        have sizeRight := each right (by simp [Children.toList]) second after
        rw [← listed, Children.tally, ← sizeLeft, ← sizeRight]
        simp [List.length_flatMap, List.map_const']

/-- A token has one tree, and a nonterminal as many as it has child lists. -/
theorem length_treesOf {children : NodeId → Option (List (List Tree))} {node : Node}
    {trees : List Tree} (whole : node.isProgress = false)
    (listed : Forest.treesOf g children id node = some trees) :
    (node.isToken = true ∧ trees.length = 1) ∨
      (node.isToken = false ∧
        ∃ sequences, children id = some sequences ∧ trees.length = sequences.length) := by
  rw [Forest.treesOf] at listed
  cases label : node.label with
  | token terminal index =>
    simp only [label, Option.bind_eq_bind, Option.bind_eq_some_iff, pure, Option.some.injEq]
      at listed
    obtain ⟨name, -, rfl⟩ := listed
    exact .inl ⟨by simp [Node.isToken, label], rfl⟩
  | nonterminal nonterminal =>
    simp only [label, Option.bind_eq_bind, Option.bind_eq_some_iff, pure, Option.some.injEq]
      at listed
    obtain ⟨name, -, sequences, given, rfl⟩ := listed
    exact .inr ⟨by simp [Node.isToken, label], sequences, given, List.length_map _⟩
  | progress nonterminal rule dot => simp [Node.isProgress, label] at whole

/-- A node contributes as many child lists as there are ways to derive it, if so many are listed for
it. -/
theorem length_contributions (way : arena.Way path depth)
    {children : NodeId → Option (List (List Tree))} {lists : List (List Tree)}
    (listed : Forest.contributions g arena children id = some lists)
    (below : ∀ {node sequences}, arena.nodes[id]? = some node → node.isToken = false →
      children id = some sequences → sequences.length = arena.tally depth path id) :
    lists.length = arena.tally depth path id := by
  simp only [Forest.contributions, Option.bind_eq_bind, Option.bind_eq_some_iff] at listed
  obtain ⟨node, found, listed⟩ := listed
  by_cases progress : node.isProgress = true
  · rw [if_pos progress] at listed
    have token : node.isToken = false := by
      rw [Node.isProgress] at progress
      rw [Node.isToken]
      split at progress <;> simp_all
    exact below found token listed
  · simp only [if_neg progress, Option.bind_eq_some_iff, pure, Option.some.injEq] at listed
    obtain ⟨trees, treed, rfl⟩ := listed
    rw [Bool.not_eq_true] at progress
    rw [List.length_map]
    rcases length_treesOf progress treed with ⟨token, one⟩ | ⟨token, sequences, given, same⟩
    · rw [tally_of_isToken way found token, one]
    · rw [same, below found token given]

/-- As many child lists are listed for a node as there are ways to derive it. -/
theorem length_childrenWithin (way : arena.Way path depth) {node : Node}
    {sequences : List (List Tree)} (found : arena.nodes[id]? = some node)
    (token : node.isToken = false)
    (listed : Forest.childrenWithin g arena depth path id = some sequences) :
    sequences.length = arena.tally depth path id := by
  induction depth generalizing path id node sequences with
  | zero => exact absurd rfl way.depth_ne_zero
  | succ depth ih =>
    rw [Forest.childrenWithin] at listed
    by_cases met : id ∈ path
    · rw [if_pos (meets_iff.2 met)] at listed
      rw [tally_of_meets found token met, ← Option.some.inj listed, List.length_nil]
    · rw [if_neg (by rwa [meets_iff])] at listed
      have next := way.step (Array.getElem?_eq_some_iff.1 found).1 met
      simp only [found, bind, Option.bind] at listed
      split at listed
      · simp at listed
      rename_i lists families
      rw [tally_of_fresh found token met, ← Option.some.inj listed]
      refine length_flatten_of_mapM families fun family _ list chosen => ?_
      refine length_sequences chosen fun child _ contributed given => ?_
      exact length_contributions next given fun present finished below =>
        ih next present finished below

end Arena

/-- The count of a forest is the number of its trees, up to the largest count. -/
theorem Forest.count?_eq_of_trees? {forest : Forest} {node : Node} {trees : List Tree}
    (closed : forest.arena.Closed) (found : forest.arena.nodes[forest.root]? = some node)
    (whole : node.isProgress = false) (listed : forest.trees? = some trees) :
    forest.count? = some (min trees.length maxCount) := by
  have contributed : contributions forest.grammar forest.arena
      (childrenWithin forest.grammar forest.arena (forest.arena.size + 1) []) forest.root =
        some (trees.map ([·])) := by
    simp only [trees?, found, bind, Option.bind] at listed
    simp [contributions, found, whole, listed]
  have length := Arena.length_contributions (.start forest.arena) contributed
    fun present finished below =>
      Arena.length_childrenWithin (.start forest.arena) present finished below
  rw [List.length_map] at length
  rw [count?, Arena.count?_eq closed (Array.getElem?_eq_some_iff.1 found).1, length]

/-- The count of a known nonterminal is the number of its derivations, up to the largest count. -/
theorem Arena.Licensed.count?_eq {g : Grammar} {fits : Nat → TerminalId → Bool} {arena : Arena}
    {stop : Nat} (licensed : arena.Licensed g fits stop) (consistent : g.Consistent)
    {root : NodeId} {span : Span} {nonterminal : NonterminalId}
    (key : arena.key? root = some ⟨span, .nonterminal nonterminal⟩)
    (known : nonterminal < g.nonterminals.size) :
    (⟨g, arena, root⟩ : Forest).count? =
      some (min (arena.derivations root).length maxCount) := by
  obtain ⟨top, found, owned⟩ := Option.map_eq_some_iff.1 key
  have finished : top.isProgress = false := by simp [Node.isProgress, Node.label, owned]
  have trees := licensed.trees?_eq consistent key known
  have counted := Forest.count?_eq_of_trees? licensed.closed found finished trees
  rwa [List.length_map] at counted

end ChartParser
