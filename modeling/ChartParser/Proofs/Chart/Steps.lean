import ChartParser.Proofs.Chart.Invariant

/-!
# Steps of a chart

Each step on a chart keeps it sound and lets it grow, and leaves something behind: predicted items,
or items taken past a finished nonterminal. A step is repeated over a list of items or over the
current column, which may grow under it. `foldl_spec` and `visitFrom_spec` say once what such a
repetition establishes for every item, so that the steps themselves are proved one item at a time.
-/

namespace ChartParser.Chart

variable {g : Grammar} {fits : Nat → TerminalId → Bool} {root : NonterminalId}
  {chart before after : Chart} {item : Item} {production : Production}

/-! ## Repetition -/

/-- A step for each element of a list extends the chart if each single step does, and what it does
for an element stays done. -/
theorem foldl_spec {α : Type} (step : Chart → α → Chart) (Done : α → Chart → Prop)
    (elements : List α)
    (once : ∀ element ∈ elements, ∀ later, chart.Extends g fits root later →
      later.Extends g fits root (step later element) ∧ Done element (step later element))
    (stays : ∀ {element : α} {before after : Chart},
      Done element before → before.Grows after → Done element after)
    {current : Chart} (extended : chart.Extends g fits root current) :
    current.Extends g fits root (elements.foldl step current) ∧
      ∀ element ∈ elements, Done element (elements.foldl step current) := by
  induction elements generalizing current with
  | nil => exact ⟨.refl extended.sound, by simp⟩
  | cons element elements ih =>
    obtain ⟨next, done⟩ := once element List.mem_cons_self current extended
    obtain ⟨all, doneAll⟩ :=
      ih (fun other inside => once other (List.mem_cons_of_mem _ inside)) (extended.trans next)
    refine ⟨next.trans all, fun other inside => ?_⟩
    rcases List.mem_cons.1 inside with rfl | later
    · exact stays done all.grows
    · exact doneAll other later

/-- A step for each item of the current column, items added by the steps included, keeps what one
step keeps and gets every item done, provided no step undoes another and the column stays within a
bound. -/
theorem visitFrom_spec {step : Item → Chart → Chart} {Keeps : Chart → Prop}
    {Done : Item → Chart → Prop} (bound : Nat)
    (size_le : ∀ chart, Keeps chart → chart.column.size ≤ bound)
    (once : ∀ chart item, Keeps chart → item ∈ chart.column →
      Keeps (step item chart) ∧ chart.Grows (step item chart) ∧ Done item (step item chart) ∧
        ∀ other ∈ chart.column, Done other chart → Done other (step item chart))
    (limit index : Nat) {chart : Chart} (keeps : Keeps chart) (enough : bound ≤ index + limit)
    (earlier : ∀ place < index, ∀ item, chart.column[place]? = some item → Done item chart) :
    Keeps (visitFrom step limit index chart) ∧
      chart.Grows (visitFrom step limit index chart) ∧
      ∀ item ∈ (visitFrom step limit index chart).column,
        Done item (visitFrom step limit index chart) := by
  have done_of_size_le : chart.column.size ≤ index → ∀ item ∈ chart.column, Done item chart := by
    intro small item inside
    obtain ⟨place, found⟩ := Array.mem_iff_getElem?.1 inside
    have inColumn := (Array.getElem?_eq_some_iff.1 found).1
    exact earlier place (by omega) item found
  induction limit generalizing index chart with
  | zero =>
    have small := size_le chart keeps
    exact ⟨keeps, .refl _, done_of_size_le (by omega)⟩
  | succ limit ih =>
    rw [visitFrom]
    cases found : chart.column[index]? with
    | none =>
      have small := Array.getElem?_eq_none_iff.1 found
      exact ⟨keeps, .refl _, done_of_size_le small⟩
    | some item =>
      have inside := Array.mem_of_getElem? found
      obtain ⟨kept, grows, done, undisturbed⟩ := once chart item keeps inside
      have earlierToo : ∀ place < index + 1, ∀ other,
          (step item chart).column[place]? = some other → Done other (step item chart) := by
        intro place below other at_place
        rcases Nat.lt_succ_iff_lt_or_eq.1 below with before | rfl
        · have bounded := (Array.getElem?_eq_some_iff.1 found).1
          have old := Array.getElem?_eq_getElem (Nat.lt_trans before bounded)
          have same := (grows.column old).symm.trans at_place
          rw [Option.some.inj same] at old
          exact undisturbed other (Array.mem_of_getElem? old) (earlier place before other old)
        · obtain rfl := Option.some.inj ((grows.column found).symm.trans at_place)
          exact done
      have doneLater : (step item chart).column.size ≤ index + 1 →
          ∀ other ∈ (step item chart).column, Done other (step item chart) := by
        intro small other inStep
        obtain ⟨place, at_place⟩ := Array.mem_iff_getElem?.1 inStep
        have inColumn := (Array.getElem?_eq_some_iff.1 at_place).1
        exact earlierToo place (by omega) other at_place
      obtain ⟨keptAll, growsAll, doneAll⟩ :=
        ih (index + 1) kept (by omega) earlierToo doneLater
      exact ⟨keptAll, grows.trans growsAll, doneAll⟩

/-- A visit of the current column of a sound chart keeps what one step keeps and gets every item
done. -/
theorem visit_spec (step : Item → Chart → Chart) (Keeps : Chart → Prop)
    (Done : Item → Chart → Prop)
    (sound : ∀ later, Keeps later → later.Sound g fits root ∧ chart.Grows later)
    (once : ∀ chart item, Keeps chart → item ∈ chart.column →
      Keeps (step item chart) ∧ chart.Grows (step item chart) ∧ Done item (step item chart) ∧
        ∀ other ∈ chart.column, Done other chart → Done other (step item chart))
    (keeps : Keeps chart) :
    Keeps (chart.visit g step) ∧
      ∀ item ∈ (chart.visit g step).column, Done item (chart.visit g step) := by
  have size_le : ∀ later, Keeps later → later.column.size ≤ chart.capacity g := by
    intro later kept
    obtain ⟨good, grows⟩ := sound later kept
    have bounded := good.size_le_capacity
    rwa [capacity, grows.position] at bounded
  obtain ⟨kept, -, done⟩ :=
    visitFrom_spec (chart.capacity g) size_le once (chart.capacity g) 0 keeps (by omega) (by simp)
  exact ⟨kept, done⟩

/-! ## Prediction -/

/-- Predicting an expected nonterminal extends the chart with an item for each of its productions.
-/
theorem Sound.predictAll (consistent : g.Consistent) (sound : chart.Sound g fits root)
    {nonterminal : NonterminalId} (expected : g.Expects fits root nonterminal chart.position) :
    chart.Extends g fits root (chart.predictAll g nonterminal) ∧
      ∀ id ∈ g.productionsOf nonterminal,
        Item.predicted id chart.position ∈ (chart.predictAll g nonterminal).column := by
  refine foldl_spec (fun later id => later.add (.predicted id later.position))
    (fun id later => Item.predicted id chart.position ∈ later.column) _ ?_
    (fun inside grows => grows.mem inside) (.refl sound)
  intro id listed later extended
  obtain ⟨production, found, rfl⟩ := consistent.mem_productionsOf.1 listed
  rw [extended.grows.position]
  have valid := Item.Valid.predicted found expected
  rw [← extended.grows.position] at valid ⊢
  exact ⟨extended.sound.add valid Item.Placed.predicted, mem_add_self⟩

/-! ## Resumption -/

/-- In the chart, the item has been taken past the nonterminal with this node, if that is what it
waits for. -/
def Resumed (g : Grammar) (nonterminal : NonterminalId) (child : NodeId) (item : Item)
    (chart : Chart) : Prop :=
  ∀ production, g.productions[item.production]? = some production →
    item.awaited? g = some (.nonterminal nonterminal) →
      Took chart.column chart.arena production item child

/-- What has been resumed stays so in a chart that has grown. -/
theorem Resumed.grows {nonterminal : NonterminalId} {child : NodeId}
    (resumed : Resumed g nonterminal child item before) (grows : before.Grows after) :
    Resumed g nonterminal child item after :=
  fun production found awaited => (resumed production found awaited).grows grows

/-- Resuming an item extends the chart and takes the item past the nonterminal, if that is what it
waits for. -/
theorem Sound.resume (sound : chart.Sound g fits root) {nonterminal : NonterminalId}
    {origin : Nat} {child : NodeId} {derivations : List Derivation}
    (key : chart.arena.key? child =
      some ⟨⟨origin, chart.position⟩, .nonterminal nonterminal⟩)
    (spelled : g.Spells fits [.nonterminal nonterminal] origin chart.position derivations)
    (inside : item ∈ chart.columnAt origin) :
    chart.Extends g fits root (chart.resume g nonterminal child item) ∧
      Resumed g nonterminal child item (chart.resume g nonterminal child item) := by
  rw [Chart.resume]
  split
  · rename_i awaited
    obtain ⟨production, valid, placed⟩ := sound.item inside
    obtain ⟨extended, took⟩ := sound.advance valid placed awaited key spelled
    refine ⟨extended, fun other found _ => ?_⟩
    obtain rfl := Option.some.inj (valid.found.symm.trans found)
    exact took
  · rename_i other
    exact ⟨.refl sound, fun _ _ awaited => absurd awaited other⟩

/-- Resuming all items at the origin of a finished nonterminal extends the chart and takes each item
there past the nonterminal, if that is what it waits for. -/
theorem Sound.resumeAll (sound : chart.Sound g fits root) {nonterminal : NonterminalId}
    {origin : Nat} {child : NodeId} {derivations : List Derivation}
    (key : chart.arena.key? child =
      some ⟨⟨origin, chart.position⟩, .nonterminal nonterminal⟩)
    (spelled : g.Spells fits [.nonterminal nonterminal] origin chart.position derivations) :
    chart.Extends g fits root (chart.resumeAll g nonterminal child origin) ∧
      ∀ item ∈ (chart.resumeAll g nonterminal child origin).columnAt origin,
        Resumed g nonterminal child item (chart.resumeAll g nonterminal child origin) := by
  have once : ∀ later item, chart.Extends g fits root later → item ∈ later.columnAt origin →
      later.Extends g fits root (later.resume g nonterminal child item) ∧
        Resumed g nonterminal child item (later.resume g nonterminal child item) := by
    intro later item extended inside
    refine extended.sound.resume ?_ (by rw [extended.grows.position]; exact spelled) inside
    rw [extended.grows.position]
    exact extended.grows.arena.key? key
  rw [Chart.resumeAll]
  split
  · rename_i column finished
    rw [← Array.foldl_toList]
    obtain ⟨extended, done⟩ := foldl_spec
      (fun later item => later.resume g nonterminal child item) (Resumed g nonterminal child)
      column.toList
      (fun item inside later extended => by
        refine once later item extended ?_
        rw [columnAt_of_finished (by rw [extended.grows.finished, finished])]
        exact Array.mem_toList_iff.1 inside)
      (fun resumed grows => resumed.grows grows) (.refl sound)
    refine ⟨extended, fun item inside => ?_⟩
    rw [columnAt_of_finished (by rw [extended.grows.finished, finished])] at inside
    exact done item (Array.mem_toList_iff.2 inside)
  · rename_i current
    have beyond := Array.getElem?_eq_none_iff.1 current
    have here : origin = chart.position := Nat.le_antisymm spelled.start_le beyond
    obtain ⟨extended, done⟩ := visit_spec (fun item later => later.resume g nonterminal child item)
      (chart.Extends g fits root) (Resumed g nonterminal child)
      (fun later extended => ⟨extended.sound, extended.grows⟩)
      (fun later item extended inside => by
        have at_origin : item ∈ later.columnAt origin := by
          rw [here, ← extended.grows.position, columnAt_position]
          exact inside
        obtain ⟨next, resumed⟩ := once later item extended at_origin
        exact ⟨extended.trans next, next.grows, resumed, fun _ _ done => done.grows next.grows⟩)
      (.refl sound)
    refine ⟨extended, fun item inside => ?_⟩
    rw [here, ← extended.grows.position, columnAt_position] at inside
    exact done item inside

end ChartParser.Chart
