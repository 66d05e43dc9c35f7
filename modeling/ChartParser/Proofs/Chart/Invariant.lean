import ChartParser.Chart.Basic
import ChartParser.Proofs.Chart.Items
import Mathlib.Data.List.Nodup

/-!
# Sound charts

A chart is sound if its arena is licensed and grounded and has only wanted nodes, all its items are
valid and placed, no item stands twice in the current column, and what it remembers for later is
true. Items, nodes and families are only ever added (`Chart.Grows`). Because a placed item is
determined by production, dot and origin, the current column of a sound chart never exceeds its
capacity (`Sound.size_le_capacity`), so that a visit of the column always reaches its end.
-/

namespace ChartParser.Chart

variable {g : Grammar} {fits : Nat → TerminalId → Bool} {root : NonterminalId}
  {chart before after : Chart} {item : Item} {production : Production}

/-- The items at a position, in a finished column or in the current one. -/
def columnAt (chart : Chart) (position : Nat) : Column :=
  ((chart.finished.push chart.column)[position]?).getD #[]

/-- The column at the current position is the current one. -/
theorem columnAt_position : chart.columnAt chart.position = chart.column := by
  simp [columnAt, position]

/-- A finished column stays at its position. -/
theorem columnAt_of_finished {position : Nat} {column : Column}
    (found : chart.finished[position]? = some column) : chart.columnAt position = column := by
  have inside := (Array.getElem?_eq_some_iff.1 found).1
  rw [Array.getElem?_eq_getElem inside] at found
  rw [columnAt, Array.getElem?_push_lt inside, Option.some.inj found]
  rfl

/-- An item at a position is in a finished column or in the current one. -/
theorem mem_columnAt {position : Nat} (inside : item ∈ chart.columnAt position) :
    (∃ column, chart.finished[position]? = some column ∧ item ∈ column) ∨
      (position = chart.position ∧ item ∈ chart.column) := by
  rw [columnAt, Array.getElem?_push] at inside
  split at inside
  · exact .inr ⟨‹_›, inside⟩
  · cases found : chart.finished[position]? with
    | none => simp [found] at inside
    | some column =>
      rw [found] at inside
      exact .inl ⟨column, rfl, inside⟩

/-! ## Growth -/

/-- The later chart is at the same position and has all items in their places, all nodes and all
families of the earlier one. -/
structure Grows (before after : Chart) : Prop where
  finished : after.finished = before.finished
  column : ∀ {index : Nat} {item : Item},
    before.column[index]? = some item → after.column[index]? = some item
  arena : before.arena.Grows after.arena
  scannable : ∀ {entry : Item × TerminalId}, entry ∈ before.scannable → entry ∈ after.scannable

namespace Grows

/-- A chart has grown from itself. -/
theorem refl (chart : Chart) : chart.Grows chart := ⟨rfl, id, .refl _, id⟩

/-- Growth is transitive. -/
theorem trans {middle : Chart} (first : before.Grows middle) (second : middle.Grows after) :
    before.Grows after where
  finished := second.finished.trans first.finished
  column found := second.column (first.column found)
  arena := first.arena.trans second.arena
  scannable inside := second.scannable (first.scannable inside)

/-- The position stays. -/
theorem position (grows : before.Grows after) : after.position = before.position := by
  rw [Chart.position, grows.finished, Chart.position]

/-- Items stay in the current column. -/
theorem mem (grows : before.Grows after) (inside : item ∈ before.column) : item ∈ after.column := by
  obtain ⟨index, found⟩ := Array.mem_iff_getElem?.1 inside
  exact Array.mem_iff_getElem?.2 ⟨index, grows.column found⟩

/-- Items stay at their positions. -/
theorem mem_columnAt (grows : before.Grows after) {position : Nat}
    (inside : item ∈ before.columnAt position) : item ∈ after.columnAt position := by
  rcases Chart.mem_columnAt inside with ⟨column, found, inColumn⟩ | ⟨rfl, inColumn⟩
  · rw [columnAt_of_finished (by rw [grows.finished, found])]
    exact inColumn
  · rw [← grows.position, columnAt_position]
    exact grows.mem inColumn

end Grows

/-! ## Soundness -/

/-- All that the chart holds is true of the tokens up to its position. -/
structure Sound (g : Grammar) (fits : Nat → TerminalId → Bool) (root : NonterminalId)
    (chart : Chart) : Prop where
  arena : chart.arena.Licensed g fits chart.position
  grounded : chart.arena.Grounded
  wanted : chart.arena.Wanted g fits root
  item : ∀ {position : Nat} {item : Item}, item ∈ chart.columnAt position →
    ∃ production, item.Valid g fits root position production ∧
      item.Placed chart.arena position production
  nodup : chart.column.toList.Nodup
  nullable : ∀ {nonterminal : NonterminalId} {node : NodeId},
    chart.nullable.lookup nonterminal = some node →
      chart.arena.key? node =
        some ⟨⟨chart.position, chart.position⟩, .nonterminal nonterminal⟩ ∧
      ∃ derivations,
        g.Spells fits [.nonterminal nonterminal] chart.position chart.position derivations
  scannable : ∀ {item : Item} {terminal : TerminalId}, (item, terminal) ∈ chart.scannable →
    item ∈ chart.column ∧ item.awaited? g = some (.terminal terminal) ∧
      fits chart.position terminal = true

/-- In the column and the arena, the item has been taken past the symbol with this node. -/
def Took (column : Column) (arena : Arena) (production : Production) (item : Item)
    (child : NodeId) : Prop :=
  ∃ node, item.advanced node ∈ column ∧ item.Joined arena production child node

/-- What has been taken past a symbol stays so in a longer column and an arena that has grown. -/
theorem Took.mono {column later : Column} {arena grown : Arena} {child : NodeId}
    (took : Took column arena production item child) (items : ∀ item ∈ column, item ∈ later)
    (grows : arena.Grows grown) : Took later grown production item child := by
  obtain ⟨node, inside, joined⟩ := took
  refine ⟨node, items _ inside, ?_⟩
  rw [Item.Joined] at joined ⊢
  split
  · rwa [if_pos ‹_›] at joined
  · rw [if_neg ‹_›] at joined
    exact grows.hasFamily joined

/-- What has been taken past a symbol stays so in a chart that has grown. -/
theorem Took.grows {child : NodeId} (grows : before.Grows after)
    (took : Took before.column before.arena production item child) :
    Took after.column after.arena production item child :=
  took.mono (fun _ => grows.mem) grows.arena

/-- The later chart is sound, has all of the earlier one and remembers the same finished
nonterminals. -/
structure Extends (g : Grammar) (fits : Nat → TerminalId → Bool) (root : NonterminalId)
    (before after : Chart) : Prop where
  sound : after.Sound g fits root
  grows : before.Grows after
  nullable : after.nullable = before.nullable

namespace Extends

/-- A sound chart extends itself. -/
theorem refl (sound : chart.Sound g fits root) : chart.Extends g fits root chart :=
  ⟨sound, .refl _, rfl⟩

/-- Extension is transitive. -/
theorem trans {middle : Chart} (first : before.Extends g fits root middle)
    (second : middle.Extends g fits root after) : before.Extends g fits root after :=
  ⟨second.sound, first.grows.trans second.grows, second.nullable.trans first.nullable⟩

end Extends

/-- A chart is extended by an arena that has grown. -/
theorem Sound.withArena (sound : chart.Sound g fits root) {arena : Arena}
    (licensed : arena.Licensed g fits chart.position) (grounded : arena.Grounded)
    (wanted : arena.Wanted g fits root) (grows : chart.arena.Grows arena) :
    chart.Extends g fits root { chart with arena } := by
  refine ⟨?_, ⟨rfl, id, grows, id⟩, rfl⟩
  exact {
    arena := licensed
    grounded := grounded
    wanted := wanted
    item := fun inside => by
      obtain ⟨production, valid, placed⟩ := sound.item inside
      exact ⟨production, valid, placed.grows grows⟩
    nodup := sound.nodup
    nullable := fun found => by
      obtain ⟨key, spelled⟩ := sound.nullable found
      exact ⟨grows.key? key, spelled⟩
    scannable := sound.scannable }

/-! ## Adding an item -/

/-- Adding an item changes nothing but the current column. -/
@[simp]
theorem finished_add : (chart.add item).finished = chart.finished := by
  rw [add]
  split <;> rfl

/-- Adding an item leaves the arena as it is. -/
@[simp]
theorem arena_add : (chart.add item).arena = chart.arena := by
  rw [add]
  split <;> rfl

/-- Adding an item leaves the position as it is. -/
@[simp]
theorem position_add : (chart.add item).position = chart.position := by
  rw [position, finished_add, position]

/-- Adding an item leaves the finished nonterminals as they are. -/
@[simp]
theorem nullable_add : (chart.add item).nullable = chart.nullable := by
  rw [add]
  split <;> rfl

/-- Adding an item leaves the items that wait for the next token as they are. -/
@[simp]
theorem scannable_add : (chart.add item).scannable = chart.scannable := by
  rw [add]
  split <;> rfl

/-- A chart grows when an item is added. -/
theorem grows_add : chart.Grows (chart.add item) where
  finished := finished_add
  column {index other} found := by
    rw [add]
    split
    · exact found
    · have inside := (Array.getElem?_eq_some_iff.1 found).1
      rw [Array.getElem?_push_lt inside, ← Array.getElem?_eq_getElem inside, found]
  arena := by rw [arena_add]; exact .refl _
  scannable := by rw [scannable_add]; exact id

/-- An item added is there. -/
theorem mem_add_self : item ∈ (chart.add item).column := mem_add.2 (.inr rfl)

/-- An item at a position after adding one is an old one or the one added. -/
theorem mem_columnAt_add {other : Item} {position : Nat}
    (inside : item ∈ (chart.add other).columnAt position) :
    item ∈ chart.columnAt position ∨ (item = other ∧ position = chart.position) := by
  rcases mem_columnAt inside with ⟨column, found, inColumn⟩ | ⟨rfl, inColumn⟩
  · rw [finished_add] at found
    rw [columnAt_of_finished found]
    exact .inl inColumn
  · rw [position_add, columnAt_position]
    exact (mem_add.1 inColumn).imp_right fun same => ⟨same, rfl⟩

/-- Adding an item keeps the column free of repetitions. -/
theorem nodup_add (nodup : chart.column.toList.Nodup) : (chart.add item).column.toList.Nodup := by
  rw [add]
  split
  · exact nodup
  · rename_i absent
    rw [Array.toList_push]
    refine List.nodup_append.2 ⟨nodup, by simp, ?_⟩
    rintro other inside _ last rfl
    obtain rfl := List.mem_singleton.1 last
    simp only [Bool.not_eq_true, Array.any_eq_false, beq_eq_false_iff_ne] at absent
    obtain ⟨index, bound, same⟩ := List.mem_iff_getElem.1 inside
    exact absent index (by simpa using bound) (by simpa using same)

/-- Adding a valid and placed item extends a sound chart. -/
theorem Sound.add (sound : chart.Sound g fits root)
    (valid : item.Valid g fits root chart.position production)
    (placed : item.Placed chart.arena chart.position production) :
    chart.Extends g fits root (chart.add item) := by
  refine ⟨?_, grows_add, nullable_add⟩
  exact {
    arena := by
      rw [arena_add, position_add]
      exact sound.arena
    grounded := by
      rw [arena_add]
      exact sound.grounded
    wanted := by
      rw [arena_add]
      exact sound.wanted
    item := fun inside => by
      rw [arena_add]
      rcases mem_columnAt_add inside with old | ⟨rfl, rfl⟩
      · exact sound.item old
      · exact ⟨production, valid, placed⟩
    nodup := nodup_add sound.nodup
    nullable := fun found => by
      rw [nullable_add] at found
      rw [arena_add, position_add]
      exact sound.nullable found
    scannable := fun inside => by
      rw [scannable_add] at inside
      obtain ⟨waiting, awaited, fit⟩ := sound.scannable inside
      rw [position_add]
      exact ⟨mem_add.2 (.inl waiting), awaited, fit⟩ }

/-! ## Taking an item past a symbol -/

/-- Taking a valid item past a symbol whose node ends here extends the chart and leaves the item
taken past the symbol. -/
theorem Sound.advance (sound : chart.Sound g fits root) {symbol : Symbol} {middle : Nat}
    {child : NodeId} {derivations : List Derivation}
    (valid : item.Valid g fits root middle production)
    (placed : item.Placed chart.arena middle production) (awaited : item.awaited? g = some symbol)
    (key : chart.arena.key? child = some ⟨⟨middle, chart.position⟩, symbol.labelAt middle⟩)
    (spelled : g.Spells fits [symbol] middle chart.position derivations) :
    chart.Extends g fits root (chart.advance g item child) ∧
      Took (chart.advance g item child).column (chart.advance g item child).arena production item
        child := by
  obtain ⟨licensed, grown, newPlaced, joined⟩ :=
    Item.nodeAfter_licensed sound.arena valid placed awaited key
  have grounded := Item.nodeAfter_grounded sound.grounded valid placed awaited key
  have wanted := Item.nodeAfter_wanted sound.wanted valid chart.position child
  have joinedArena := sound.withArena licensed grounded wanted grown
  have extended := joinedArena.trans
    (joinedArena.sound.add (valid.advanced awaited spelled _) newPlaced)
  rw [Chart.advance]
  exact ⟨extended, _, mem_add_self, by rw [arena_add]; exact joined⟩

/-! ## Capacity -/

/-- The production, the dot and the origin of an item. -/
def place (item : Item) : ProductionId × Nat × Nat := (item.production, item.dot, item.origin)

/-- All places that items up to a position can have. -/
def places (g : Grammar) (position : Nat) : List (ProductionId × Nat × Nat) :=
  g.productions.toList.zipIdx.flatMap fun (production, id) =>
    (List.range (production.length + 1)).flatMap fun dot =>
      (List.range (position + 1)).map fun origin => (id, dot, origin)

/-- There are as many places as dots can stand, for each origin. -/
theorem length_places (g : Grammar) (position : Nat) :
    (places g position).length = dotPlaces g * (position + 1) := by
  rw [places, dotPlaces, ← Array.foldl_toList]
  suffices counted : ∀ (productions : List Production) (first total : Nat),
      total * (position + 1) + ((productions.zipIdx first).flatMap fun (production, id) =>
        (List.range (production.length + 1)).flatMap fun dot =>
          (List.range (position + 1)).map fun origin => (id, dot, origin)).length =
      productions.foldl (fun total production => total + (production.length + 1)) total *
        (position + 1) by
    simpa using counted g.productions.toList 0 0
  intro productions
  induction productions with
  | nil => simp
  | cons production productions ih =>
    intro first total
    rw [List.zipIdx_cons, List.flatMap_cons, List.length_append, List.foldl_cons,
      ← ih (first + 1), ← Nat.add_assoc]
    congr 1
    simp [List.length_flatMap, List.map_const', Nat.add_mul]

/-- A valid item has one of the places. -/
theorem place_mem_places {position : Nat} (valid : item.Valid g fits root position production) :
    place item ∈ places g position := by
  have listed : (production, item.production) ∈ g.productions.toList.zipIdx := by
    rw [List.mem_zipIdx_iff_getElem?]
    simpa using valid.found
  have dot := Nat.lt_succ_of_le valid.dot_le
  have origin := Nat.lt_succ_of_le valid.origin_le
  simp only [places, List.mem_flatMap, List.mem_map, List.mem_range]
  exact ⟨(production, item.production), listed, item.dot, dot, item.origin, origin, rfl⟩

/-- An item of the current column of a sound chart is valid and placed. -/
theorem Sound.mem_column (sound : chart.Sound g fits root) (inside : item ∈ chart.column) :
    ∃ production, item.Valid g fits root chart.position production ∧
      item.Placed chart.arena chart.position production :=
  sound.item (by rw [columnAt_position]; exact inside)

/-- No two items of the current column of a sound chart have the same place. -/
theorem Sound.nodup_places (sound : chart.Sound g fits root) :
    (chart.column.toList.map place).Nodup := by
  refine List.Nodup.map_on ?_ sound.nodup
  intro left inLeft right inRight same
  obtain ⟨first, validLeft, placedLeft⟩ := sound.mem_column (Array.mem_toList_iff.1 inLeft)
  obtain ⟨second, validRight, placedRight⟩ := sound.mem_column (Array.mem_toList_iff.1 inRight)
  simp only [place, Prod.mk.injEq] at same
  obtain ⟨rule, dot, origin⟩ := same
  obtain rfl : first = second := by
    have found := validLeft.found
    rw [rule, validRight.found] at found
    exact (Option.some.inj found).symm
  exact placedLeft.ext sound.arena placedRight origin rule dot

/-- The current column of a sound chart is within the capacity. -/
theorem Sound.size_le_capacity (sound : chart.Sound g fits root) :
    chart.column.size ≤ chart.capacity g := by
  have bounded : chart.column.toList.map place ⊆ places g chart.position := by
    intro spot inside
    obtain ⟨item, inColumn, rfl⟩ := List.mem_map.1 inside
    obtain ⟨_, valid, -⟩ := sound.mem_column (Array.mem_toList_iff.1 inColumn)
    exact place_mem_places valid
  have shorter := sound.nodup_places.length_le_of_subset bounded
  rw [List.length_map, length_places, Array.length_toList] at shorter
  exact shorter

end ChartParser.Chart
