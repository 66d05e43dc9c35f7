import ChartParser.Proofs.Chart.Closure

/-!
# Walks along a growing column

A column is walked from its front until no item is left, and every step may put further items at its
end; the completer walks the column of its origin in the same way, which is the one that is being
closed if nothing was consumed. Nothing in these two loops bounds them. Here they are relations that
know no bound (`Walks`, `Walked`, `Closes`), and what bounds them is proved: in a sound chart the
node of an item is determined by its production, dot and origin, so that the column has room for
finitely many items only. Each walk comes to an end, and to one end only, which is the chart that
`close` computes (`Sound.closes_iff`).
-/

namespace ChartParser.Chart

variable {g : Grammar} {fits : Nat → TerminalId → Bool} {root : NonterminalId}
  {chart next last : Chart} {item : Item} {production : Production} {view : Chart → Column}
  {Step : Item → Chart → Chart → Prop}

/-! ## Walks -/

/-- Steps are made for the items of a column from an index on, as long as there is one, where the
column is looked at anew in every chart. -/
inductive Walks (view : Chart → Column) (Step : Item → Chart → Chart → Prop) :
    Nat → Chart → Chart → Prop
  | done {index : Nat} {chart : Chart} (ended : (view chart)[index]? = none) :
      Walks view Step index chart chart
  | item {index : Nat} {item : Item} {chart next last : Chart}
      (found : (view chart)[index]? = some item) (step : Step item chart next)
      (rest : Walks view Step (index + 1) next last) : Walks view Step index chart last

/-- Past the last item a walk is over. -/
theorem walks_iff_of_none {index : Nat} (ended : (view chart)[index]? = none) :
    Walks view Step index chart last ↔ last = chart := by
  constructor
  · intro walk
    cases walk with
    | done _ => rfl
    | item found _ _ =>
      rw [ended] at found
      cases found
  · rintro rfl
    exact .done ended

/-- At an item a walk makes the step of the item and goes on. -/
theorem walks_iff_of_some {index : Nat} (found : (view chart)[index]? = some item) {made : Chart}
    (step : ∀ next, Step item chart next ↔ next = made) :
    Walks view Step index chart last ↔ Walks view Step (index + 1) made last := by
  constructor
  · intro walk
    cases walk with
    | done ended =>
      rw [found] at ended
      cases ended
    | item foundToo taken rest =>
      rw [found] at foundToo
      obtain rfl := Option.some.inj foundToo
      rw [(step _).1 taken] at rest
      exact rest
  · intro rest
    exact .item found ((step _).2 rfl) rest

/-- A walk along the current column comes to the chart that a visit computes, if the column stays
within a bound and the limit of the visit reaches it. -/
theorem walks_iff_visitFrom {step : Item → Chart → Chart} {Keeps : Chart → Prop} {bound : Nat}
    (size_le : ∀ chart, Keeps chart → chart.column.size ≤ bound)
    (viewed : ∀ chart, Keeps chart → view chart = chart.column)
    (once : ∀ chart item, Keeps chart → item ∈ chart.column →
      Keeps (step item chart) ∧ ∀ next, Step item chart next ↔ next = step item chart)
    (limit index : Nat) (keeps : Keeps chart) (enough : bound ≤ index + limit) :
    Walks view Step index chart last ↔ last = visitFrom step limit index chart := by
  induction limit generalizing index chart with
  | zero =>
    have small := size_le chart keeps
    refine walks_iff_of_none ?_
    rw [viewed chart keeps]
    exact Array.getElem?_eq_none (by omega)
  | succ limit ih =>
    rw [visitFrom]
    cases found : chart.column[index]? with
    | none => exact walks_iff_of_none (by rw [viewed chart keeps, found])
    | some item =>
      obtain ⟨kept, made⟩ := once chart item keeps (Array.mem_of_getElem? found)
      rw [walks_iff_of_some (by rw [viewed chart keeps, found]) made]
      exact ih (index + 1) kept (by omega)

/-- A walk along a column that no step changes comes to the chart after the steps of its items. -/
theorem walks_iff_foldl {step : Item → Chart → Chart} {Keeps : Chart → Prop} {column : Column}
    (viewed : ∀ chart, Keeps chart → view chart = column)
    (once : ∀ chart item, Keeps chart →
      Keeps (step item chart) ∧ ∀ next, Step item chart next ↔ next = step item chart)
    (index : Nat) (keeps : Keeps chart) :
    Walks view Step index chart last ↔
      last = (column.toList.drop index).foldl (fun chart item => step item chart) chart := by
  generalize left : column.toList.drop index = items
  induction items generalizing index chart with
  | nil =>
    refine walks_iff_of_none ?_
    have ended := List.drop_eq_nil_iff.1 left
    rw [viewed chart keeps]
    exact Array.getElem?_eq_none (by simpa using ended)
  | cons item items ih =>
    have found : column[index]? = some item := by
      have front := @List.getElem?_drop _ column.toList index 0
      rw [left] at front
      simpa using front.symm
    have rest : column.toList.drop (index + 1) = items := by
      rw [← List.drop_drop, left]
      rfl
    obtain ⟨kept, made⟩ := once chart item keeps
    rw [walks_iff_of_some (by rw [viewed chart keeps, found]) made, List.foldl_cons]
    exact ih (index + 1) kept rest

/-! ## The loops of the parser -/

/-- The node of a finished item, and the chart in which its nonterminal is remembered if it has been
finished without a token. -/
def noteFinished (item : Item) (nonterminal : NonterminalId) (chart : Chart) : NodeId × Chart :=
  let (node, chart) := chart.finishedNode item nonterminal
  (node, if item.origin = chart.position then chart.rememberNullable nonterminal node else chart)

/-- What is done for an item of the column that is being closed. For a finished item that is a walk
along the column of its origin, in which each item that waits for it is taken past it. -/
inductive Handles (g : Grammar) (fits : TerminalId → Bool) (item : Item) : Chart → Chart → Prop
  | finished {chart last : Chart} {production : Production} (waits : item.awaited? g = none)
      (found : g.productions[item.production]? = some production)
      (walk : Walks (columnAt · item.origin)
        (fun waiting before after =>
          after = before.resume g production.lhs (chart.noteFinished item production.lhs).1 waiting)
        0 (chart.noteFinished item production.lhs).2 last) : Handles g fits item chart last
  | predicted {chart : Chart} {nonterminal : NonterminalId}
      (waits : item.awaited? g = some (.nonterminal nonterminal)) :
      Handles g fits item chart (chart.predict g item nonterminal)
  | awaited {chart : Chart} {terminal : TerminalId}
      (waits : item.awaited? g = some (.terminal terminal)) :
      Handles g fits item chart (chart.await fits item terminal)

/-- Closing the current column ends with this chart: all its items have been handled, those added on
the way included. -/
def Closes (g : Grammar) (fits : TerminalId → Bool) (chart last : Chart) : Prop :=
  Walks Chart.column (Handles g fits) 0 chart last

/-- Completing an item is noting that it is finished, and taking past it what waits for it. -/
theorem complete_eq (found : g.productions[item.production]? = some production) :
    chart.complete g item = (chart.noteFinished item production.lhs).2.resumeAll g production.lhs
      (chart.noteFinished item production.lhs).1 item.origin := by
  rw [complete, found]
  rfl

/-- Taking an item past a nonterminal changes no finished column. -/
theorem finished_resume (nonterminal : NonterminalId) (child : NodeId) (waiting : Item) :
    (chart.resume g nonterminal child waiting).finished = chart.finished := by
  rw [resume]
  split
  · rw [advance, finished_add]
  · rfl

/-- Noting that an item is finished keeps the chart sound and where it is, and the node that is
noted stands for the nonterminal. -/
theorem Sound.noteFinished (sound : chart.Sound g fits root)
    (valid : item.Valid g fits root chart.position production)
    (placed : item.Placed chart.arena chart.position production)
    (whole : item.dot = production.length) {derivations : List Derivation}
    (spelled : g.Spells fits [.nonterminal production.lhs] item.origin chart.position
      derivations) :
    (chart.noteFinished item production.lhs).2.Sound g fits root ∧
      (chart.noteFinished item production.lhs).2.position = chart.position ∧
      (chart.noteFinished item production.lhs).2.arena.key?
          (chart.noteFinished item production.lhs).1 =
        some ⟨⟨item.origin, chart.position⟩, .nonterminal production.lhs⟩ := by
  obtain ⟨extended, key, -⟩ := sound.finishedNode valid placed whole
  rw [Chart.noteFinished]
  generalize chart.finishedNode item production.lhs = made at extended key ⊢
  obtain ⟨node, middle⟩ := made
  dsimp only at extended key ⊢
  have stays := extended.grows.position
  split
  · rename_i here
    rw [here, stays] at key spelled
    rw [← stays] at key spelled
    obtain ⟨good, grown, -⟩ := extended.sound.rememberNullable key spelled
    refine ⟨good, grown.position.trans stays, ?_⟩
    rw [here, ← stays]
    exact grown.arena.key? key
  · exact ⟨extended.sound, stays, key⟩

/-- The walk of the completer along the column of its origin comes to an end, which is where all
items there have been taken past the nonterminal. -/
theorem Sound.walks_iff_resumeAll (sound : chart.Sound g fits root) {nonterminal : NonterminalId}
    {origin : Nat} {child : NodeId} {derivations : List Derivation}
    (key : chart.arena.key? child = some ⟨⟨origin, chart.position⟩, .nonterminal nonterminal⟩)
    (spelled : g.Spells fits [.nonterminal nonterminal] origin chart.position derivations) :
    Walks (columnAt · origin)
        (fun waiting before after => after = before.resume g nonterminal child waiting) 0 chart
        last ↔
      last = chart.resumeAll g nonterminal child origin := by
  rw [Chart.resumeAll]
  split
  · -- the origin is in a finished column, which stays as it is
    rename_i column found
    have viewed : ∀ later : Chart, later.finished = chart.finished →
        later.columnAt origin = column :=
      fun later same => columnAt_of_finished (by rw [same, found])
    have once : ∀ (later : Chart) (waiting : Item), later.finished = chart.finished →
        (later.resume g nonterminal child waiting).finished = chart.finished ∧
          ∀ after, after = later.resume g nonterminal child waiting ↔
            after = later.resume g nonterminal child waiting :=
      fun later waiting same =>
        ⟨(finished_resume nonterminal child waiting).trans same, fun after => Iff.rfl⟩
    rw [← Array.foldl_toList]
    exact walks_iff_foldl viewed once 0 rfl
  · -- the origin is in the column that is being closed, which may grow
    rename_i current
    have beyond := Array.getElem?_eq_none_iff.1 current
    have here : origin = chart.position := Nat.le_antisymm spelled.start_le beyond
    subst here
    have size_le : ∀ later, chart.Extends g fits root later →
        later.column.size ≤ chart.capacity g := by
      intro later extended
      have bounded := extended.sound.size_le_capacity
      rwa [capacity, extended.grows.position] at bounded
    have viewed : ∀ later, chart.Extends g fits root later →
        later.columnAt chart.position = later.column := by
      intro later extended
      rw [← extended.grows.position, columnAt_position]
    refine walks_iff_visitFrom size_le viewed (fun later waiting extended inside => ?_) _ 0
      (.refl sound) (by omega)
    rw [← extended.grows.position] at key spelled
    have present : waiting ∈ later.columnAt later.position := by rwa [columnAt_position]
    obtain ⟨resumed, -⟩ := extended.sound.resume (extended.grows.arena.key? key) spelled present
    exact ⟨extended.trans resumed, fun next => Iff.rfl⟩

/-- Whatever an item of the column asks for, handling it comes to an end, which is the chart after
the item has been processed. -/
theorem Sound.handles_iff (sound : chart.Sound g fits root) (inside : item ∈ chart.column)
    (fitting : TerminalId → Bool) :
    Handles g fitting item chart last ↔ last = chart.process g fitting item := by
  obtain ⟨production, valid, placed⟩ := sound.mem_column inside
  rw [Chart.process]
  cases waits : item.awaited? g with
  | none =>
    dsimp only
    have whole := valid.awaited?_eq_none.1 waits
    obtain ⟨body, spelledBody⟩ := valid.spelled
    rw [whole, Production.length, List.take_length] at spelledBody
    have spelled := Grammar.Spells.of_production valid.found spelledBody
    obtain ⟨good, stays, key⟩ := sound.noteFinished valid placed whole spelled
    rw [← stays] at key spelled
    rw [complete_eq valid.found, ← good.walks_iff_resumeAll key spelled]
    constructor
    · intro handled
      cases handled with
      | finished _ found walk =>
        obtain rfl := Option.some.inj (valid.found.symm.trans found)
        exact walk
      | predicted other => rw [waits] at other; cases other
      | awaited other => rw [waits] at other; cases other
    · exact .finished waits valid.found
  | some symbol =>
    cases symbol with
    | terminal terminal =>
      constructor
      · intro handled
        cases handled with
        | finished other _ _ => rw [waits] at other; cases other
        | predicted other => rw [waits] at other; cases other
        | awaited same => rw [waits] at same; cases same; rfl
      · rintro rfl
        exact .awaited waits
    | nonterminal nonterminal =>
      constructor
      · intro handled
        cases handled with
        | finished other _ _ => rw [waits] at other; cases other
        | predicted same => rw [waits] at same; cases same; rfl
        | awaited other => rw [waits] at other; cases other
      · rintro rfl
        exact .predicted waits

/-- Closing the current column of a sound chart comes to an end, and to one end only. -/
theorem Sound.closes_iff (consistent : g.Consistent) (sound : chart.Sound g fits root) :
    Closes g (fits chart.position) chart last ↔ last = chart.close g (fits chart.position) := by
  have size_le : ∀ later, later.Sound g fits root ∧ chart.Grows later →
      later.column.size ≤ chart.capacity g := by
    rintro later ⟨good, grows⟩
    have bounded := good.size_le_capacity
    rwa [capacity, grows.position] at bounded
  have once : ∀ later item, later.Sound g fits root ∧ chart.Grows later → item ∈ later.column →
      ((later.process g (fits chart.position) item).Sound g fits root ∧
          chart.Grows (later.process g (fits chart.position) item)) ∧
        ∀ next, Handles g (fits chart.position) item later next ↔
          next = later.process g (fits chart.position) item := by
    rintro later item ⟨good, grows⟩ inside
    rw [← grows.position]
    obtain ⟨kept, settles, -⟩ := good.process consistent inside
    exact ⟨⟨kept, grows.trans settles.grows⟩, fun next => good.handles_iff inside _⟩
  exact walks_iff_visitFrom size_le (fun _ _ => rfl) once _ 0 ⟨sound, .refl chart⟩ (by omega)

end ChartParser.Chart
