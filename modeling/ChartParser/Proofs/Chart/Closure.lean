import ChartParser.Proofs.Chart.Steps

/-!
# Closed columns

An item is processed if all that it asks for has been done: its nonterminal is predicted, its
terminal is noted if the next token fits it, and if it is finished, every item that waited for it
has been taken past it. Later steps cannot undo this, with one exception to be shown harmless: a
nonterminal may be finished without a token after an item that waits for it has been processed. The
step that remembers such a nonterminal also takes past it all items of the column (`Settles`), so
closing a column leaves every item of it processed (`Sound.close`).
-/

namespace ChartParser.Chart

variable {g : Grammar} {fits : Nat → TerminalId → Bool} {root : NonterminalId}
  {chart before after : Chart} {item : Item} {production : Production}

/-! ## Processed items -/

/-- The finished item has this node, and what waited for it has been taken past it, unless it began
here: then its nonterminal is remembered instead. -/
structure Completed (g : Grammar) (chart : Chart) (item : Item) (production : Production)
    (node : NodeId) : Prop where
  key : chart.arena.key? node =
    some ⟨⟨item.origin, chart.position⟩, .nonterminal production.lhs⟩
  empty : production.symbols = [] → chart.arena.HasFamily node ⟨item.production, .empty⟩
  remembered : item.origin = chart.position → chart.nullable.lookup production.lhs = some node
  resumed : item.origin ≠ chart.position →
    ∀ other ∈ chart.columnAt item.origin, Resumed g production.lhs node other chart

/-- All that the item asks for has been done in the chart. -/
structure Processed (g : Grammar) (fits : Nat → TerminalId → Bool) (item : Item) (chart : Chart) :
    Prop where
  noted : ∀ {terminal : TerminalId}, item.awaited? g = some (.terminal terminal) →
    fits chart.position terminal = true → (item, terminal) ∈ chart.scannable
  predicted : ∀ {nonterminal : NonterminalId},
    item.awaited? g = some (.nonterminal nonterminal) → ∀ id ∈ g.productionsOf nonterminal,
      Item.predicted id chart.position ∈ chart.column
  stepped : ∀ {nonterminal : NonterminalId} {node : NodeId},
    chart.nullable.lookup nonterminal = some node → Resumed g nonterminal node item chart
  completed : item.awaited? g = none → ∀ {production : Production},
    g.productions[item.production]? = some production →
      ∃ node, Completed g chart item production node

/-- The later chart has grown from the earlier one, and if it remembers a nonterminal that the
earlier one does not, all its items have been taken past that. -/
structure Settles (g : Grammar) (before after : Chart) : Prop where
  grows : before.Grows after
  kept : ∀ {nonterminal : NonterminalId} {node : NodeId},
    before.nullable.lookup nonterminal = some node → after.nullable.lookup nonterminal = some node
  fresh : ∀ {nonterminal : NonterminalId} {node : NodeId},
    after.nullable.lookup nonterminal = some node →
      before.nullable.lookup nonterminal = some node ∨
        ∀ item ∈ after.column, Resumed g nonterminal node item after

/-- An extension remembers nothing new. -/
theorem Extends.settles (extended : before.Extends g fits root after) : Settles g before after where
  grows := extended.grows
  kept found := by rwa [extended.nullable]
  fresh found := .inl (by rwa [extended.nullable] at found)

/-- A completed item stays completed. -/
theorem Completed.settles {node : NodeId} (completed : Completed g before item production node)
    (origin_le : item.origin ≤ before.position) (settles : Settles g before after) :
    Completed g after item production node where
  key := by
    rw [settles.grows.position]
    exact settles.grows.arena.key? completed.key
  empty nothing := settles.grows.arena.hasFamily (completed.empty nothing)
  remembered here := by
    rw [settles.grows.position] at here
    exact settles.kept (completed.remembered here)
  resumed elsewhere other inside := by
    rw [settles.grows.position] at elsewhere
    have earlier : item.origin < before.finished.size := Nat.lt_of_le_of_ne origin_le elsewhere
    have found := Array.getElem?_eq_getElem earlier
    rw [columnAt_of_finished (by rw [settles.grows.finished, found])] at inside
    refine (completed.resumed elsewhere other ?_).grows settles.grows
    rwa [columnAt_of_finished found]

/-- A processed item stays processed. -/
theorem Processed.settles (processed : Processed g fits item before) (inside : item ∈ before.column)
    (origin_le : item.origin ≤ before.position) (settles : Settles g before after) :
    Processed g fits item after where
  noted awaited fit := by
    rw [settles.grows.position] at fit
    exact settles.grows.scannable (processed.noted awaited fit)
  predicted awaited id listed := by
    rw [settles.grows.position]
    exact settles.grows.mem (processed.predicted awaited id listed)
  stepped found := by
    rcases settles.fresh found with old | all
    · exact (processed.stepped old).grows settles.grows
    · exact all item (settles.grows.mem inside)
  completed finished _ found := by
    obtain ⟨node, completed⟩ := processed.completed finished found
    exact ⟨node, completed.settles origin_le settles⟩

/-! ## Completion -/

/-- A finished item finds or makes the node of its nonterminal, in a chart that has been extended.
An empty production leaves its family there. -/
theorem Sound.finishedNode (sound : chart.Sound g fits root)
    (valid : item.Valid g fits root chart.position production)
    (placed : item.Placed chart.arena chart.position production)
    (whole : item.dot = production.length) :
    chart.Extends g fits root (chart.finishedNode item production.lhs).2 ∧
      (chart.finishedNode item production.lhs).2.arena.key?
          (chart.finishedNode item production.lhs).1 =
        some ⟨⟨item.origin, chart.position⟩, .nonterminal production.lhs⟩ ∧
      (production.symbols = [] → (chart.finishedNode item production.lhs).2.arena.HasFamily
        (chart.finishedNode item production.lhs).1 ⟨item.production, .empty⟩) := by
  rw [Chart.finishedNode]
  obtain ⟨bare, bare_node⟩ | ⟨filled, node, same, key⟩ := placed.of_whole whole
  · rw [bare_node]
    have nothing : item.dot = 0 := by rw [whole, Production.length, bare, List.length_nil]
    obtain ⟨own, same⟩ : ∃ own : NodeKey,
      own = ⟨⟨chart.position, chart.position⟩, .nonterminal production.lhs⟩ := ⟨_, rfl⟩
    have step : Family.Licensed g chart.arena own ⟨item.production, .empty⟩ := by
      subst same
      exact ⟨production, 0, valid.found,
        by rw [Production.ownLabel, if_pos (nothing.symm.trans whole)], .empty bare⟩
    rw [← same]
    obtain ⟨kept, grows, known, family⟩ := sound.arena.nodeFor_addFamily (by rw [same]) step
    have grounded := sound.grounded.nodeFor_addFamily step
    have asked : own.Wanted g fits root := by
      rw [same, ← valid.origin_eq nothing]
      exact valid.expected
    have wanted := (sound.wanted.nodeFor asked).addFamily
      (chart.arena.nodeFor own).1 ⟨item.production, .empty⟩
    refine ⟨sound.withArena kept grounded wanted grows, ?_, fun _ => family⟩
    rw [valid.origin_eq nothing, ← same]
    exact known
  · rw [same]
    exact ⟨.refl sound, key, fun bare => absurd bare filled⟩

/-- Remembering a finished nonterminal keeps the chart sound. Its node is then the one remembered,
nothing is forgotten, and nothing else is new. -/
theorem Sound.rememberNullable (sound : chart.Sound g fits root) {nonterminal : NonterminalId}
    {node : NodeId} {derivations : List Derivation}
    (key : chart.arena.key? node =
      some ⟨⟨chart.position, chart.position⟩, .nonterminal nonterminal⟩)
    (spelled : g.Spells fits [.nonterminal nonterminal] chart.position chart.position
      derivations) :
    (chart.rememberNullable nonterminal node).Sound g fits root ∧
      chart.Grows (chart.rememberNullable nonterminal node) ∧
      (chart.rememberNullable nonterminal node).nullable.lookup nonterminal = some node ∧
      (∀ other child, chart.nullable.lookup other = some child →
        (chart.rememberNullable nonterminal node).nullable.lookup other = some child) ∧
      ∀ other child,
        (chart.rememberNullable nonterminal node).nullable.lookup other = some child →
          chart.nullable.lookup other = some child ∨ (other = nonterminal ∧ child = node) := by
  rw [Chart.rememberNullable]
  split
  · rename_i old found
    have same := sound.arena.unique (sound.nullable found).1 key
    exact ⟨sound, .refl chart, by rw [found, same], fun _ _ kept => kept, fun _ _ => .inl⟩
  · rename_i missing
    have fresh : ∀ other child, List.lookup other ((nonterminal, node) :: chart.nullable) =
        some child → chart.nullable.lookup other = some child ∨
          (other = nonterminal ∧ child = node) := by
      intro other child found
      rw [lookup_cons_eq] at found
      split at found
      · exact .inr ⟨‹_›, (Option.some.inj found).symm⟩
      · exact .inl found
    refine ⟨?_, ⟨rfl, id, .refl _, id⟩, by rw [lookup_cons_eq, if_pos rfl], ?_, fresh⟩
    · exact { sound with
        nullable := by
          intro other child found
          rcases fresh other child found with old | ⟨rfl, rfl⟩
          · exact sound.nullable old
          · exact ⟨key, derivations, spelled⟩ }
    · intro other child found
      rw [lookup_cons_eq, if_neg]
      · exact found
      · rintro rfl
        simp [missing] at found

/-- Completing a finished item keeps the chart sound, settles what it remembers and leaves the item
completed. -/
theorem Sound.complete (sound : chart.Sound g fits root)
    (valid : item.Valid g fits root chart.position production)
    (placed : item.Placed chart.arena chart.position production)
    (whole : item.dot = production.length) :
    (chart.complete g item).Sound g fits root ∧ Settles g chart (chart.complete g item) ∧
      ∃ node, Completed g (chart.complete g item) item production node := by
  obtain ⟨body, spelledBody⟩ := valid.spelled
  rw [whole, Production.length, List.take_length] at spelledBody
  have spelled := Grammar.Spells.of_production valid.found spelledBody
  obtain ⟨extended, key, empty⟩ := sound.finishedNode valid placed whole
  rw [Chart.complete, valid.found]
  dsimp only
  generalize chart.finishedNode item production.lhs = made at extended key empty ⊢
  obtain ⟨node, middle⟩ := made
  dsimp only at extended key empty ⊢
  rw [← extended.grows.position] at key spelled
  by_cases here : item.origin = middle.position
  · rw [if_pos here]
    rw [here] at key spelled
    obtain ⟨good, grown, remembered, kept, fresh⟩ := extended.sound.rememberNullable key spelled
    rw [← grown.position] at here key spelled
    generalize middle.rememberNullable production.lhs node = noted at *
    rw [here]
    obtain ⟨last, resumed⟩ := good.resumeAll (grown.arena.key? key) spelled
    generalize noted.resumeAll g production.lhs node noted.position = final at *
    have grows := grown.trans last.grows
    refine ⟨last.sound, ⟨extended.grows.trans grows, fun found => ?_, fun found => ?_⟩,
      node, ?_⟩
    · rw [last.nullable]
      exact kept _ _ (by rwa [extended.nullable])
    · rw [last.nullable] at found
      rcases fresh _ _ found with old | ⟨rfl, rfl⟩
      · exact .inl (by rwa [extended.nullable] at old)
      · refine .inr fun other inside => resumed other ?_
        rwa [← last.grows.position, columnAt_position]
    · exact {
        key := by rw [here, last.grows.position]; exact grows.arena.key? key
        empty := fun nothing => grows.arena.hasFamily (empty nothing)
        remembered := fun _ => by rw [last.nullable]; exact remembered
        resumed := fun elsewhere => absurd (here.trans last.grows.position.symm) elsewhere }
  · rw [if_neg here]
    obtain ⟨last, resumed⟩ := extended.sound.resumeAll key spelled
    refine ⟨last.sound, (extended.trans last).settles, node, ?_⟩
    exact {
      key := by rw [last.grows.position]; exact last.grows.arena.key? key
      empty := fun nothing => last.grows.arena.hasFamily (empty nothing)
      remembered := fun same => absurd (same.trans last.grows.position) here
      resumed := fun _ => resumed }

/-! ## Prediction and scanning -/

/-- Predicting for an item extends the chart with the productions of the nonterminal it waits for.
If that has been finished here without a token, the item has been taken past it. -/
theorem Sound.predict (consistent : g.Consistent) (sound : chart.Sound g fits root)
    (valid : item.Valid g fits root chart.position production)
    (placed : item.Placed chart.arena chart.position production) {nonterminal : NonterminalId}
    (awaited : item.awaited? g = some (.nonterminal nonterminal)) :
    chart.Extends g fits root (chart.predict g item nonterminal) ∧
      (∀ id ∈ g.productionsOf nonterminal,
        Item.predicted id chart.position ∈ (chart.predict g item nonterminal).column) ∧
      ∀ node, chart.nullable.lookup nonterminal = some node →
        Resumed g nonterminal node item (chart.predict g item nonterminal) := by
  obtain ⟨extended, listed⟩ := sound.predictAll consistent (valid.expects awaited)
  rw [Chart.predict]
  generalize chart.predictAll g nonterminal = middle at extended listed ⊢
  rw [← extended.nullable]
  cases found : middle.nullable.lookup nonterminal with
  | none => exact ⟨extended, listed, by simp⟩
  | some node =>
    obtain ⟨key, derivations, spelled⟩ := extended.sound.nullable found
    rw [← extended.grows.position] at valid placed
    obtain ⟨last, took⟩ := extended.sound.advance valid (placed.grows extended.grows.arena) awaited
      key spelled
    refine ⟨extended.trans last, fun id inside => last.grows.mem (listed id inside), ?_⟩
    intro other same
    obtain rfl := Option.some.inj same
    intro unique known _
    obtain rfl := Option.some.inj (valid.found.symm.trans known)
    exact took

/-- Noting an item extends the chart. If the next token fits the terminal that the item waits for,
it is noted. -/
theorem Sound.await (sound : chart.Sound g fits root) (inside : item ∈ chart.column)
    {terminal : TerminalId} (awaited : item.awaited? g = some (.terminal terminal)) :
    chart.Extends g fits root (chart.await (fits chart.position) item terminal) ∧
      (fits chart.position terminal = true →
        (item, terminal) ∈ (chart.await (fits chart.position) item terminal).scannable) := by
  rw [Chart.await]
  split
  · rename_i fit
    refine ⟨⟨?_, ⟨rfl, id, .refl _, fun noted => Array.mem_push.2 (.inl noted)⟩, rfl⟩,
      fun _ => Array.mem_push_self⟩
    exact { sound with
      scannable := by
        intro other symbol noted
        rcases Array.mem_push.1 noted with old | new
        · exact sound.scannable old
        · obtain ⟨rfl, rfl⟩ := Prod.mk.inj new
          exact ⟨inside, awaited, fit⟩ }
  · exact ⟨.refl sound, fun fit => absurd fit ‹_›⟩

/-! ## Closing -/

/-- Processing an item of the current column keeps the chart sound, settles what it remembers and
leaves the item processed. -/
theorem Sound.process (consistent : g.Consistent) (sound : chart.Sound g fits root)
    (inside : item ∈ chart.column) :
    (chart.process g (fits chart.position) item).Sound g fits root ∧
      Settles g chart (chart.process g (fits chart.position) item) ∧
      Processed g fits item (chart.process g (fits chart.position) item) := by
  obtain ⟨production, valid, placed⟩ := sound.item (by rw [columnAt_position]; exact inside)
  rw [Chart.process]
  split
  · rename_i finished
    obtain ⟨good, settles, node, completed⟩ :=
      sound.complete valid placed (valid.awaited?_eq_none.1 finished)
    refine ⟨good, settles, ?_⟩
    exact {
      noted := by simp [finished]
      predicted := by simp [finished]
      stepped := by simp [Resumed, finished]
      completed := fun _ _ found => by
        obtain rfl := Option.some.inj (valid.found.symm.trans found)
        exact ⟨node, completed⟩ }
  · rename_i nonterminal awaited
    obtain ⟨extended, listed, stepped⟩ := sound.predict consistent valid placed awaited
    refine ⟨extended.sound, extended.settles, ?_⟩
    exact {
      noted := by simp [awaited]
      predicted := by
        intro other same
        obtain rfl : nonterminal = other := by simpa [awaited] using same
        rw [extended.grows.position]
        exact listed
      stepped := by
        intro other node found known present same
        obtain rfl : nonterminal = other := by simpa [awaited] using same
        rw [extended.nullable] at found
        exact stepped node found known present same
      completed := by simp [awaited] }
  · rename_i terminal awaited
    obtain ⟨extended, noted⟩ := sound.await inside awaited
    refine ⟨extended.sound, extended.settles, ?_⟩
    exact {
      noted := by
        intro other same fit
        obtain rfl : terminal = other := by simpa [awaited] using same
        rw [extended.grows.position] at fit
        exact noted fit
      predicted := by simp [awaited]
      stepped := by simp [Resumed, awaited]
      completed := by simp [awaited] }

/-- Closing the current column keeps the chart sound, lets it grow and leaves every item of the
column processed. -/
theorem Sound.close (consistent : g.Consistent) (sound : chart.Sound g fits root) :
    (chart.close g (fits chart.position)).Sound g fits root ∧
      chart.Grows (chart.close g (fits chart.position)) ∧
      ∀ item ∈ (chart.close g (fits chart.position)).column,
        Processed g fits item (chart.close g (fits chart.position)) := by
  have once : ∀ later item, later.Sound g fits root ∧ chart.Grows later → item ∈ later.column →
      ((later.process g (fits chart.position) item).Sound g fits root ∧
          chart.Grows (later.process g (fits chart.position) item)) ∧
        later.Grows (later.process g (fits chart.position) item) ∧
        Processed g fits item (later.process g (fits chart.position) item) ∧
        ∀ other ∈ later.column, Processed g fits other later →
          Processed g fits other (later.process g (fits chart.position) item) := by
    rintro later item ⟨good, grows⟩ inside
    rw [← grows.position]
    obtain ⟨kept, settles, processed⟩ := good.process consistent inside
    refine ⟨⟨kept, grows.trans settles.grows⟩, settles.grows, processed, ?_⟩
    intro other present done
    obtain ⟨_, valid, -⟩ := good.item (by rw [columnAt_position]; exact present)
    exact done.settles present valid.origin_le settles
  obtain ⟨⟨kept, grows⟩, done⟩ := visit_spec (Chart.process g (fits chart.position))
    (fun later => later.Sound g fits root ∧ chart.Grows later) (Processed g fits)
    (fun _ kept => kept) once ⟨sound, .refl chart⟩
  exact ⟨kept, grows, done⟩

end ChartParser.Chart
