import ChartParser.Proofs.Chart.Contents
import ChartParser.Proofs.Forest.Renaming

/-!
# Charts with other ids

Twins are charts that are filled for the same tokens, by grammars that differ in ids only. What is
in them has been said without the order in which it came about, so it is the same up to ids: as many
items in their columns (`Chart.Twins.size_eq`), and the same nodes with the same families
(`Chart.Twins.exists_renames`).
-/

namespace ChartParser

namespace Renaming.Preserves

variable {change : Renaming} {g h : Grammar} {fits fitsToo : Nat → TerminalId → Bool}
  {root : NonterminalId} {position : Nat}

/-- What is awaited is awaited under the new ids. -/
theorem awaits (preserves : change.Preserves g h fits fitsToo) {symbol : Symbol}
    (awaited : g.Awaits fits root symbol position) :
    h.Awaits fitsToo (change.nonterminal root) (change.symbol symbol) position := by
  obtain ⟨rule, production, dot, start, derivations, found, expected, before, next⟩ := awaited
  refine ⟨change.production rule, change.rule production, dot, start,
    derivations.map change.derivation, preserves.carries.found found, preserves.expects expected,
    preserves.spells_take found before, ?_⟩
  rw [change.symbolAt?_rule, next, Option.map_some]

/-- A valid item is valid under the new ids. -/
theorem valid (preserves : change.Preserves g h fits fitsToo) {production : Production}
    {origin rule dot : Nat}
    (valid : Item.Valid g fits root position production ⟨origin, rule, dot, none⟩) :
    Item.Valid h fitsToo (change.nonterminal root) position (change.rule production)
      ⟨origin, change.production rule, dot, none⟩ where
  found := preserves.carries.found valid.found
  dot_le := by
    rw [change.length_rule]
    exact valid.dot_le
  expected := preserves.expects valid.expected
  spelled := by
    obtain ⟨derivations, spelled⟩ := valid.spelled
    exact ⟨_, preserves.spells_take valid.found spelled⟩

/-- The valid places are the same but for the ids of productions. -/
theorem validPlaces_eq (preserves : change.Preserves g h fits fitsToo) :
    h.validPlaces fitsToo (change.nonterminal root) position =
      Prod.map change.production id '' g.validPlaces fits root position := by
  ext ⟨rule, dot, origin⟩
  constructor
  · rintro ⟨production, valid⟩
    have back := preserves.symm.valid valid
    rw [change.symm_nonterminal_apply] at back
    refine ⟨⟨change.symm.production rule, dot, origin⟩, ⟨_, back⟩, ?_⟩
    rw [Prod.map_apply, change.production_symm_apply]
    rfl
  · rintro ⟨⟨old, _, _⟩, ⟨production, valid⟩, same⟩
    obtain ⟨rfl, rfl, rfl⟩ : change.production old = rule ∧ _ = dot ∧ _ = origin := by
      simpa using same
    exact ⟨_, preserves.valid valid⟩

/-- What a wanted key stands for uses terminals that some production mentions. -/
theorem uses_of_stands {key : NodeKey} (stands : key.Stands g fits root) (id : TerminalId)
    (inside : Symbol.terminal id ∈ key.label.symbols g) : g.Uses id := by
  obtain ⟨span, label⟩ := key
  cases label with
  | nonterminal _ => simp [Label.symbols] at inside
  | progress _ rule _ =>
    obtain ⟨production, found, -⟩ := stands.proper
    rw [Label.symbols, found] at inside
    exact ⟨rule, production, found, List.mem_of_mem_take inside⟩
  | token terminal index =>
    obtain rfl : id = terminal := by simpa [Label.symbols] using inside
    obtain ⟨rule, production, dot, _, _, found, _, _, awaited⟩ := stands.wanted
    exact ⟨rule, production, found, List.mem_of_getElem? awaited⟩

/-- A key that stands for something wanted does so under the new ids. -/
theorem stands (preserves : change.Preserves g h fits fitsToo) {key : NodeKey}
    (stands : key.Stands g fits root) :
    (change.key key).Stands h fitsToo (change.nonterminal root) where
  proper := by
    have proper := stands.proper
    obtain ⟨span, label⟩ := key
    cases label with
    | nonterminal _ => trivial
    | progress _ rule _ =>
      obtain ⟨production, found, rfl, several, unfinished⟩ := proper
      refine ⟨_, preserves.carries.found found, rfl, several, ?_⟩
      rwa [change.length_rule]
    | token _ _ => exact proper
  wanted := by
    have wanted := stands.wanted
    obtain ⟨span, label⟩ := key
    cases label with
    | nonterminal _ => exact preserves.expects wanted
    | progress _ _ _ => exact preserves.expects wanted
    | token _ _ => exact preserves.awaits wanted
  spelled := by
    obtain ⟨derivations, spelled⟩ := stands.spelled
    refine ⟨derivations.map change.derivation, ?_⟩
    rw [Renaming.key, preserves.carries.symbols_label]
    exact (preserves.spells spelled (uses_of_stands stands)).1

/-- A key that stands for something wanted does so under the old ids. -/
theorem stands_symm (preserves : change.Preserves g h fits fitsToo) {key : NodeKey}
    (stands : key.Stands h fitsToo (change.nonterminal root)) :
    (change.symm.key key).Stands g fits root := by
  have back := preserves.symm.stands stands
  rwa [change.symm_nonterminal_apply] at back

end Renaming.Preserves

/-- If each key of the first arena is one of the second under its new ids, there is a map of nodes
that moves the first to the second. -/
theorem Arena.exists_moves {change : Renaming} {left right : Arena}
    (each : ∀ key, (∃ id, left.key? id = some key) → ∃ id, right.key? id = some (change.key key)) :
    ∃ move, left.Moves change move right := by
  have moved : ∀ id, ∃ other, ∀ key, left.key? id = some key →
      right.key? other = some (change.key key) := by
    intro id
    cases known : left.key? id with
    | none => exact ⟨0, by simp⟩
    | some key =>
      obtain ⟨other, knownToo⟩ := each key ⟨id, known⟩
      refine ⟨other, fun own same => ?_⟩
      obtain rfl := Option.some.inj same
      exact knownToo
  choose move moves using moved
  exact ⟨move, moves⟩

namespace Chart

variable {change : Renaming} {g h : Grammar} {fits fitsToo : Nat → TerminalId → Bool}
  {root : NonterminalId} {bound : Nat} {left right : Chart}

/-- The charts are at the same position and filled up to the same column, the second by a grammar
with other ids. -/
structure Twins (change : Renaming) (g h : Grammar) (fits fitsToo : Nat → TerminalId → Bool)
    (root : NonterminalId) (bound : Nat) (left right : Chart) : Prop where
  filled : left.Filled g fits root bound
  filledToo : right.Filled h fitsToo (change.nonterminal root) bound
  position_eq : right.position = left.position

namespace Twins

/-- Closed columns have as many items as each other. -/
theorem size_eq (consistent : g.Consistent) (consistentToo : h.Consistent)
    (preserves : change.Preserves g h fits fitsToo)
    (twins : Twins change g h fits fitsToo root (left.position + 1) left right) :
    right.column.size = left.column.size := by
  obtain ⟨filled, filledToo, same⟩ := twins
  rw [← same] at filledToo
  have injective : Function.Injective (Prod.map change.production (id : Nat × Nat → Nat × Nat)) :=
    change.production.injective.prodMap Function.injective_id
  rw [filledToo.size_eq consistentToo, filled.size_eq consistent, same, preserves.validPlaces_eq,
    Set.ncard_image_of_injective _ injective]

/-- Columns that are not closed yet are empty together. -/
theorem isEmpty_eq (consistent : g.Consistent) (consistentToo : h.Consistent)
    (preserves : change.Preserves g h fits fitsToo)
    (twins : Twins change g h fits fitsToo root left.position left right) :
    right.column.isEmpty = left.column.isEmpty := by
  obtain ⟨filled, filledToo, same⟩ := twins
  rw [← same] at filledToo
  rw [Bool.eq_iff_iff, Array.isEmpty_iff, Array.isEmpty_iff,
    filledToo.column_eq_empty_iff consistentToo, filled.column_eq_empty_iff consistent, same,
    preserves.validPlaces_eq, Set.image_eq_empty]

/-- Before the first token, the charts with the productions of the root are twins. -/
theorem start (consistent : g.Consistent) (consistentToo : h.Consistent) :
    Twins change g h fits fitsToo root 0 (empty.predictAll g root)
        (empty.predictAll h (change.nonterminal root)) ∧
      (empty.predictAll g root).position = 0 := by
  obtain ⟨filled, first⟩ := @filled_start g fits root consistent
  obtain ⟨filledToo, firstToo⟩ := @filled_start h fitsToo (change.nonterminal root) consistentToo
  exact ⟨⟨filled, filledToo, firstToo.trans first.symm⟩, first⟩

/-- Closing the current column of twins and then passing the token leaves twins each time. -/
theorem close (consistent : g.Consistent) (consistentToo : h.Consistent)
    (twins : Twins change g h fits fitsToo root left.position left right)
    {final finalToo : Chart} (closed : final = left.close g (fits left.position))
    (closedToo : finalToo = right.close h (fitsToo left.position)) :
    final.position = left.position ∧
      Twins change g h fits fitsToo root (final.position + 1) final finalToo ∧
      Twins change g h fits fitsToo root (final.scan g).position (final.scan g)
        (finalToo.scan h) ∧
      (final.scan g).position = left.position + 1 := by
  obtain ⟨filled, filledToo, same⟩ := twins
  rw [← same] at filledToo closedToo
  obtain ⟨full, grows, processed⟩ := filled.close consistent
  obtain ⟨fullToo, growsToo, processedToo⟩ := filledToo.close consistentToo
  rw [← closed] at full grows processed
  rw [← closedToo] at fullToo growsToo processedToo
  have stays := grows.position
  have together : finalToo.position = final.position := by rw [growsToo.position, same, stays]
  rw [← stays] at full
  rw [← growsToo.position] at fullToo
  obtain ⟨next, moved⟩ := full.scan processed
  obtain ⟨nextToo, movedToo⟩ := fullToo.scan processedToo
  have onward : (finalToo.scan h).position = (final.scan g).position := by
    rw [movedToo, together, moved]
  rw [together] at fullToo
  rw [onward] at nextToo
  exact ⟨stays, ⟨full, fullToo, together⟩, ⟨next, nextToo, onward⟩, stays ▸ moved⟩

/-- Twins whose columns are all closed have the same nodes with the same families, but for ids. -/
theorem exists_renames (consistent : g.Consistent) (consistentToo : h.Consistent)
    (preserves : change.Preserves g h fits fitsToo)
    (twins : Twins change g h fits fitsToo root (left.position + 1) left right) :
    ∃ move, left.arena.Renames change move right.arena := by
  obtain ⟨filled, filledToo, same⟩ := twins
  rw [← same] at filledToo
  obtain ⟨move, moves⟩ : ∃ move, left.arena.Moves change move right.arena := by
    refine Arena.exists_moves fun key known => (filledToo.exists_key_iff consistentToo).2 ?_
    obtain ⟨stands, reached⟩ := (filled.exists_key_iff consistent).1 known
    exact ⟨preserves.stands stands, same ▸ reached⟩
  obtain ⟨back, backwards⟩ : ∃ back, right.arena.Moves change.symm back left.arena := by
    refine Arena.exists_moves fun key known => (filled.exists_key_iff consistent).2 ?_
    obtain ⟨stands, reached⟩ := (filledToo.exists_key_iff consistentToo).1 known
    exact ⟨preserves.stands_symm stands, same ▸ reached⟩
  have licensed := filled.sound.arena
  have licensedToo := filledToo.sound.arena
  refine ⟨move, moves.renames backwards licensed licensedToo ?_ ?_⟩
  · intro id node other found foundToo family inside
    have known := Arena.key?_eq_key found
    have step := moves.licensed preserves.carries (licensed.family found inside)
    obtain ⟨_, present, has⟩ := (filledToo.hasFamily_iff consistentToo (moves known)).2 step
    obtain rfl := Option.some.inj (foundToo.symm.trans present)
    exact has
  · intro id node other found foundToo family inside
    have known := Arena.key?_eq_key found
    have step := backwards.licensed preserves.carries.symm (licensedToo.family foundToo inside)
    rw [Arena.key_eq foundToo (moves known), change.symm_key] at step
    obtain ⟨_, present, has⟩ := (filled.hasFamily_iff consistent known).2 step
    obtain rfl := Option.some.inj (found.symm.trans present)
    exact has

end Twins

end Chart

end ChartParser
