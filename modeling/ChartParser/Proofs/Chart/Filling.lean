import ChartParser.Proofs.Chart.Closure

/-!
# Filling a chart

What has been done for the items of a column is done for good: closing a later column and passing a
token only add to the arena and to the columns that come after. A chart is filled up to some bound
if every column before it is closed, and every item that waited for a token passed has been taken
past it (`Filled`). The chart before the first token is filled up to the first column, closing fills
the current column, and scanning moves on to the next one.
-/

namespace ChartParser.Chart

variable {g : Grammar} {fits : Nat → TerminalId → Bool} {root : NonterminalId}
  {chart before after : Chart} {item : Item} {production : Production} {position bound : Nat}

/-! ## Columns that are done -/

/-- The column at the position has the productions of every nonterminal that is waited for there,
and every item at the origin of a finished one has been taken past it. -/
structure ClosedAt (g : Grammar) (chart : Chart) (position : Nat) : Prop where
  predicted : ∀ {item : Item} {nonterminal : NonterminalId}, item ∈ chart.columnAt position →
    item.awaited? g = some (.nonterminal nonterminal) → ∀ id ∈ g.productionsOf nonterminal,
      Item.predicted id position ∈ chart.columnAt position
  completed : ∀ {item : Item} {production : Production}, item ∈ chart.columnAt position →
    g.productions[item.production]? = some production → item.awaited? g = none →
      ∃ node,
        chart.arena.key? node = some ⟨⟨item.origin, position⟩, .nonterminal production.lhs⟩ ∧
        (production.symbols = [] → chart.arena.HasFamily node ⟨item.production, .empty⟩) ∧
        ∀ {waiting : Item} {longer : Production}, waiting ∈ chart.columnAt item.origin →
          g.productions[waiting.production]? = some longer →
            waiting.awaited? g = some (.nonterminal production.lhs) →
              Took (chart.columnAt position) chart.arena longer waiting node

/-- Every item at the position that waits for a terminal which the token there fits has been taken
past the node of that token. -/
def ScannedAt (g : Grammar) (fits : Nat → TerminalId → Bool) (chart : Chart) (position : Nat) :
    Prop :=
  ∀ (item : Item) (production : Production) (terminal : TerminalId),
    item ∈ chart.columnAt position → g.productions[item.production]? = some production →
      item.awaited? g = some (.terminal terminal) → fits position terminal = true →
        ∃ leaf,
          chart.arena.key? leaf = some ⟨⟨position, position + 1⟩, .token terminal position⟩ ∧
          Took (chart.columnAt (position + 1)) chart.arena production item leaf

/-- A closed column stays closed while the arena grows. -/
theorem ClosedAt.mono (closed : ClosedAt g before position) (sound : before.Sound g fits root)
    (same : ∀ earlier ≤ position, after.columnAt earlier = before.columnAt earlier)
    (grows : before.arena.Grows after.arena) : ClosedAt g after position where
  predicted inside awaited id listed := by
    rw [same position (Nat.le_refl _)] at inside ⊢
    exact closed.predicted inside awaited id listed
  completed {item production} inside found finished := by
    rw [same position (Nat.le_refl _)] at inside ⊢
    obtain ⟨_, valid, -⟩ := sound.item inside
    obtain ⟨node, key, empty, resumed⟩ := closed.completed inside found finished
    refine ⟨node, grows.key? key, fun nothing => grows.hasFamily (empty nothing), ?_⟩
    intro waiting longer present known awaited
    rw [same item.origin valid.origin_le] at present
    exact (resumed present known awaited).mono (fun _ => id) grows

/-- A token passed stays passed while the next column and the arena grow. -/
theorem ScannedAt.mono (scanned : ScannedAt g fits before position)
    (same : after.columnAt position = before.columnAt position)
    (next : ∀ item ∈ before.columnAt (position + 1), item ∈ after.columnAt (position + 1))
    (grows : before.arena.Grows after.arena) : ScannedAt g fits after position := by
  intro item production terminal inside found awaited fit
  rw [same] at inside
  obtain ⟨leaf, key, took⟩ := scanned item production terminal inside found awaited fit
  exact ⟨leaf, grows.key? key, took.mono next grows⟩

/-! ## Filled charts -/

/-- The chart is sound and has the productions of the root in front, the columns before the bound
are closed, and all tokens before the current position are passed. -/
structure Filled (g : Grammar) (fits : Nat → TerminalId → Bool) (root : NonterminalId)
    (bound : Nat) (chart : Chart) : Prop where
  sound : chart.Sound g fits root
  started : ∀ id ∈ g.productionsOf root, Item.predicted id 0 ∈ chart.columnAt 0
  closed : ∀ position < bound, ClosedAt g chart position
  scanned : ∀ position < chart.position, ScannedAt g fits chart position

/-- The empty chart is sound. -/
theorem sound_empty : Chart.empty.Sound g fits root where
  arena := Arena.Licensed.empty
  grounded := Arena.grounded_empty
  wanted := Arena.wanted_empty
  item inside := by
    rcases mem_columnAt inside with ⟨_, found, _⟩ | ⟨_, absent⟩
    · simp [Chart.empty] at found
    · simp [Chart.empty] at absent
  nodup := List.nodup_nil
  nullable := by simp [Chart.empty]
  scannable := by simp [Chart.empty]

/-- The chart with the productions of the root is filled up to the first column. -/
theorem filled_start (consistent : g.Consistent) :
    (Chart.empty.predictAll g root).Filled g fits root 0 ∧
      (Chart.empty.predictAll g root).position = 0 := by
  have sound : Chart.empty.Sound g fits root := sound_empty
  obtain ⟨extended, listed⟩ := sound.predictAll consistent Grammar.Expects.root
  have first : (Chart.empty.predictAll g root).position = 0 := extended.grows.position
  refine ⟨⟨extended.sound, ?_, by simp, by simp [first]⟩, first⟩
  intro id inside
  rw [← first, columnAt_position, first]
  exact listed id inside

/-- Growth changes no column before the current one. -/
theorem Grows.columnAt_eq (grows : before.Grows after) (earlier : position < before.position) :
    after.columnAt position = before.columnAt position := by
  obtain ⟨column, found⟩ : ∃ column, before.finished[position]? = some column :=
    ⟨_, Array.getElem?_eq_getElem earlier⟩
  rw [columnAt_of_finished found, columnAt_of_finished (by rw [grows.finished, found])]

/-- A column all of whose items are processed is closed. -/
theorem closedAt_of_processed
    (processed : ∀ item ∈ chart.column, Processed g fits item chart) :
    ClosedAt g chart chart.position where
  predicted inside awaited id listed := by
    rw [columnAt_position] at inside ⊢
    exact (processed _ inside).predicted awaited id listed
  completed {item production} inside found finished := by
    rw [columnAt_position] at inside ⊢
    obtain ⟨node, completed⟩ := (processed item inside).completed finished found
    refine ⟨node, completed.key, completed.empty, fun {waiting longer} present known awaited => ?_⟩
    by_cases here : item.origin = chart.position
    · rw [here, columnAt_position] at present
      exact (processed waiting present).stepped (completed.remembered here) longer known awaited
    · exact completed.resumed here waiting present longer known awaited

/-- Closing fills the current column. -/
theorem Filled.close (consistent : g.Consistent)
    (filled : chart.Filled g fits root chart.position) :
    (chart.close g (fits chart.position)).Filled g fits root (chart.position + 1) ∧
      chart.Grows (chart.close g (fits chart.position)) ∧
      ∀ item ∈ (chart.close g (fits chart.position)).column,
        Processed g fits item (chart.close g (fits chart.position)) := by
  obtain ⟨sound, grows, processed⟩ := filled.sound.close consistent
  refine ⟨⟨sound, fun id listed => grows.mem_columnAt (filled.started id listed), ?_, ?_⟩,
    grows, processed⟩
  · intro position below
    rcases Nat.lt_succ_iff_lt_or_eq.1 below with earlier | rfl
    · have same : ∀ other ≤ position,
          (chart.close g (fits chart.position)).columnAt other = chart.columnAt other :=
        fun other le => grows.columnAt_eq (Nat.lt_of_le_of_lt le earlier)
      exact (filled.closed position earlier).mono filled.sound same grows.arena
    · have closed := closedAt_of_processed processed
      rwa [grows.position] at closed
  · intro position below
    rw [grows.position] at below
    exact (filled.scanned position below).mono (grows.columnAt_eq below)
      (fun _ => grows.mem_columnAt) grows.arena

/-! ## Scanning -/

/-- The next chart has the columns of the earlier one in front. -/
theorem columnAt_of_push (pushed : after.finished = before.finished.push before.column)
    (inside : position ≤ before.position) : after.columnAt position = before.columnAt position := by
  have below : position < (before.finished.push before.column).size := by
    rw [Array.size_push]
    exact Nat.lt_succ_of_le inside
  have found := Array.getElem?_eq_getElem below
  rw [columnAt_of_finished (by rw [pushed]; exact found), columnAt, found]
  rfl

/-- The chart at the next position before any item has been taken there. -/
def next (chart : Chart) : Chart :=
  ⟨chart.finished.push chart.column, #[], chart.arena.forgetRecent, [], #[]⟩

/-- The chart in which a noted item has been taken past the node of the token. -/
def pass (g : Grammar) (index : Nat) (later : Chart) (entry : Item × TerminalId) : Chart :=
  let (leaf, arena) := later.arena.nodeFor ⟨⟨index, index + 1⟩, .token entry.2 index⟩
  { later with arena }.advance g entry.1 leaf

/-- Scanning takes all noted items past the token. -/
theorem scan_eq : chart.scan g = chart.scannable.foldl (pass g chart.position) chart.next := rfl

/-- In the chart, the noted item has been taken past the node of the token. -/
def Passed (g : Grammar) (index : Nat) (entry : Item × TerminalId) (chart : Chart) : Prop :=
  ∃ leaf, chart.arena.key? leaf = some ⟨⟨index, index + 1⟩, .token entry.2 index⟩ ∧
    ∀ production, g.productions[entry.1.production]? = some production →
      Took chart.column chart.arena production entry.1 leaf

/-- The next position comes after the current one. -/
theorem position_next : chart.next.position = chart.position + 1 := by
  rw [next, position, Array.size_push, position]

/-- Moving on to the next token keeps the chart sound. -/
theorem Sound.next (sound : chart.Sound g fits root) : chart.next.Sound g fits root where
  arena := by
    rw [position_next]
    exact sound.arena.forgetRecent
  grounded := sound.grounded.forgetRecent
  wanted := sound.wanted
  item {at_position item} inside := by
    rcases mem_columnAt inside with ⟨column, found, inColumn⟩ | ⟨_, absent⟩
    · have old : item ∈ chart.columnAt at_position := by
        rw [Chart.next] at found
        rw [columnAt, found]
        exact inColumn
      obtain ⟨production, valid, placed⟩ := sound.item old
      exact ⟨production, valid, placed.grows (.refl _)⟩
    · simp [Chart.next] at absent
  nodup := List.nodup_nil
  nullable := by simp [Chart.next]
  scannable := by simp [Chart.next]

/-- Taking a noted item past the token extends the chart and leaves the item taken past it. -/
theorem Sound.pass (sound : chart.Sound g fits root) {entry : Item × TerminalId}
    (noted : entry ∈ chart.scannable) (extended : chart.next.Extends g fits root after) :
    after.Extends g fits root (after.pass g chart.position entry) ∧
      Passed g chart.position entry (after.pass g chart.position entry) := by
  obtain ⟨waiting, awaited, fit⟩ := sound.scannable noted
  have here : after.position = chart.position + 1 := by
    rw [extended.grows.position, position_next]
  obtain ⟨own, same⟩ : ∃ own : NodeKey,
    own = ⟨⟨chart.position, after.position⟩, .token entry.2 chart.position⟩ := ⟨_, rfl⟩
  have stops : own.span.stop = after.position := by rw [same]
  obtain ⟨licensed, known⟩ := extended.sound.arena.nodeFor stops fun terminal index labelled => by
    obtain ⟨rfl, rfl⟩ : entry.2 = terminal ∧ chart.position = index := by
      simpa [same] using labelled
    rw [same, here]
    exact ⟨rfl, fit⟩
  have grown := after.arena.grows_nodeFor own
  rw [Chart.pass, ← here, ← same]
  dsimp only
  have grounded : (after.arena.nodeFor own).2.Grounded :=
    extended.sound.grounded.nodeFor_token (by rw [same])
  have present : entry.1 ∈ after.columnAt chart.position := by
    rw [columnAt_of_push extended.grows.finished (Nat.le_refl _), columnAt_position]
    exact waiting
  obtain ⟨production, valid, placed⟩ := extended.sound.item present
  have asked : own.Wanted g fits root := by
    rw [same]
    exact valid.awaits awaited
  have leafed := extended.sound.withArena licensed grounded (extended.sound.wanted.nodeFor asked)
    grown
  have spelled : g.Spells fits [.terminal entry.2] chart.position after.position
      [.token entry.2 chart.position] := by
    rw [here]
    exact .token fit .nil
  obtain ⟨last, took⟩ := leafed.sound.advance valid (placed.grows grown) awaited
    (by rw [known, same]; rfl) spelled
  refine ⟨leafed.trans last, (after.arena.nodeFor own).1, ?_, fun other found => ?_⟩
  · rw [← here, ← same]
    exact last.grows.arena.key? known
  · obtain rfl := Option.some.inj (valid.found.symm.trans found)
    exact took

/-- Scanning keeps the chart sound, moves on by one token, and takes past it every item that was
noted. -/
theorem Sound.scan (sound : chart.Sound g fits root) :
    chart.next.Extends g fits root (chart.scan g) ∧
      ∀ entry ∈ chart.scannable, Passed g chart.position entry (chart.scan g) := by
  rw [scan_eq, ← Array.foldl_toList]
  obtain ⟨extended, passed⟩ := foldl_spec (Chart.pass g chart.position)
    (Passed g chart.position) chart.scannable.toList
    (fun entry noted later extended => sound.pass (Array.mem_toList_iff.1 noted) extended)
    (fun ⟨leaf, key, took⟩ grows =>
      ⟨leaf, grows.arena.key? key, fun production found => (took production found).grows grows⟩)
    (.refl sound.next)
  exact ⟨extended, fun entry noted => passed entry (Array.mem_toList_iff.2 noted)⟩

/-- Scanning a closed chart fills it up to the next column. -/
theorem Filled.scan (filled : chart.Filled g fits root (chart.position + 1))
    (processed : ∀ item ∈ chart.column, Processed g fits item chart) :
    (chart.scan g).Filled g fits root (chart.scan g).position ∧
      (chart.scan g).position = chart.position + 1 := by
  obtain ⟨extended, passed⟩ := filled.sound.scan
  have moved : (chart.scan g).position = chart.position + 1 := by
    rw [extended.grows.position, position_next]
  have same : ∀ position ≤ chart.position,
      (chart.scan g).columnAt position = chart.columnAt position :=
    fun _ => columnAt_of_push extended.grows.finished
  have grows : chart.arena.Grows (chart.scan g).arena := extended.grows.arena
  refine ⟨⟨extended.sound, ?_, ?_, ?_⟩, moved⟩
  · rw [same 0 (Nat.zero_le _)]
    exact filled.started
  · intro position below
    rw [moved] at below
    have sameBefore : ∀ earlier ≤ position,
        (chart.scan g).columnAt earlier = chart.columnAt earlier :=
      fun earlier le => same earlier (Nat.le_trans le (Nat.le_of_lt_succ below))
    exact (filled.closed position below).mono filled.sound sameBefore grows
  · intro position below
    rw [moved] at below
    rcases Nat.lt_succ_iff_lt_or_eq.1 below with earlier | rfl
    · refine (filled.scanned position earlier).mono (same position (Nat.le_of_lt earlier)) ?_ grows
      rw [same (position + 1) earlier]
      exact fun _ => id
    · intro item production terminal inside found awaited fit
      rw [same _ (Nat.le_refl _), columnAt_position] at inside
      obtain ⟨leaf, key, took⟩ := passed _ ((processed item inside).noted awaited fit)
      rw [← moved, columnAt_position]
      exact ⟨leaf, by rw [moved]; exact key, took production found⟩

/-- Closing the current column and scanning it fills the chart up to the next one. -/
theorem Filled.advance (consistent : g.Consistent)
    (filled : chart.Filled g fits root chart.position) :
    ((chart.close g (fits chart.position)).scan g).Filled g fits root
        ((chart.close g (fits chart.position)).scan g).position ∧
      ((chart.close g (fits chart.position)).scan g).position = chart.position + 1 := by
  obtain ⟨closed, grows, processed⟩ := filled.close consistent
  generalize chart.close g (fits chart.position) = middle at closed grows processed ⊢
  rw [← grows.position] at closed ⊢
  exact closed.scan processed

end ChartParser.Chart
