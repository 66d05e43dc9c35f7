import ChartParser.Grammar.Check
import ChartParser.Proofs.Grammar.Entries
import Mathlib.Data.List.Nodup

/-!
# The search for reachable nonterminals

The check of a grammar follows right-hand sides from the root on, breadth first. A nonterminal waits
in the queue from when it is first met until it is followed, so whatever has been met and does not
wait has all that it mentions met as well (`Search.Explores`). Following one more nonterminal keeps
this (`Search.Explores.follow`). No nonterminal joins the queue twice, so the queue runs empty
before the steps do, and what has been met by then is exactly what the root leads to
(`Consistent.mem_reachable_iff`).
-/

namespace ChartParser.Grammar

variable {g : Grammar} {id root : NonterminalId} {search : Search}

/-- The root leads to the nonterminal through right-hand sides. -/
inductive Reaches (g : Grammar) (root : NonterminalId) : NonterminalId → Prop
  | root : Reaches g root root
  | next {rule : ProductionId} {production : Production} {id : NonterminalId}
      (found : g.productions[rule]? = some production) (above : Reaches g root production.lhs)
      (mentioned : Symbol.nonterminal id ∈ production.symbols) : Reaches g root id

/-- What a known root leads to is known. -/
theorem Reaches.lt (consistent : g.Consistent) (inside : root < g.nonterminals.size)
    (reached : g.Reaches root id) : id < g.nonterminals.size := by
  cases reached with
  | root => exact inside
  | next found _ mentioned => simpa [knows] using consistent.known found _ mentioned

/-- A nonterminal is among the symbols if they have it as a nonterminal. -/
theorem mem_filterMap_nonterminal? {symbols : List Symbol} :
    id ∈ symbols.filterMap Symbol.nonterminal? ↔ Symbol.nonterminal id ∈ symbols := by
  rw [List.mem_filterMap]
  constructor
  · rintro ⟨symbol, inside, same⟩
    cases symbol with
    | terminal _ => simp [Symbol.nonterminal?] at same
    | nonterminal other =>
      obtain rfl := Option.some.inj same
      exact inside
  · intro inside
    exact ⟨Symbol.nonterminal id, inside, rfl⟩

/-- A nonterminal mentions what its productions mention. -/
theorem Consistent.mem_mentionedBy (consistent : g.Consistent) {next : NonterminalId} :
    next ∈ g.mentionedBy id ↔ ∃ (rule : ProductionId) (production : Production),
      g.productions[rule]? = some production ∧ production.lhs = id ∧
        Symbol.nonterminal next ∈ production.symbols := by
  unfold mentionedBy
  simp only [List.mem_flatMap, consistent.mem_productionsOf]
  constructor
  · rintro ⟨rule, ⟨production, found, same⟩, mentioned⟩
    rw [found, Option.map_some, Option.getD_some, mem_filterMap_nonterminal?] at mentioned
    exact ⟨rule, production, found, same, mentioned⟩
  · rintro ⟨rule, production, found, same, mentioned⟩
    refine ⟨rule, ⟨production, found, same⟩, ?_⟩
    rwa [found, Option.map_some, Option.getD_some, mem_filterMap_nonterminal?]

namespace Search

/-- Meeting nonterminals one after the other adds the new ones among them, each once, to what has
been met and to the end of the queue. -/
theorem exists_foldl_meet (ids : List NonterminalId) (search : Search) :
    ∃ new, ids.foldl meet search = ⟨new.reverse ++ search.met, search.queue ++ new⟩ ∧
      (∀ id, id ∈ new ↔ id ∈ ids ∧ id ∉ search.met) ∧ new.Nodup := by
  induction ids generalizing search with
  | nil => exact ⟨[], by simp⟩
  | cons first ids ih =>
    rw [List.foldl_cons, meet]
    split
    · rename_i old
      obtain ⟨new, same, members, once⟩ := ih search
      refine ⟨new, same, fun id => ?_, once⟩
      rw [members, List.mem_cons]
      constructor
      · exact fun ⟨inside, fresh⟩ => ⟨Or.inr inside, fresh⟩
      · rintro ⟨rfl | inside, fresh⟩
        · exact absurd old fresh
        · exact ⟨inside, fresh⟩
    · rename_i fresh
      obtain ⟨new, same, members, once⟩ := ih ⟨first :: search.met, search.queue ++ [first]⟩
      refine ⟨first :: new, by simp [same], fun id => ?_, ?_⟩
      · rw [List.mem_cons, members, List.mem_cons, List.mem_cons]
        by_cases same : id = first
        · simp [same, fresh]
        · simp [same]
      · refine List.nodup_cons.2 ⟨fun again => ?_, once⟩
        exact ((members first).1 again).2 List.mem_cons_self

/-- What a search from the root has done so far. -/
structure Explores (g : Grammar) (root : NonterminalId) (search : Search) : Prop where
  /-- The search starts from the root. -/
  root_met : root ∈ search.met
  /-- Only what the root leads to has been met. -/
  reached : ∀ id ∈ search.met, g.Reaches root id
  /-- What has been met waits, or all that it mentions has been met. -/
  followed : ∀ id ∈ search.met, id ∈ search.queue ∨ ∀ next ∈ g.mentionedBy id, next ∈ search.met
  /-- Only what has been met waits. -/
  queued : ∀ id ∈ search.queue, id ∈ search.met
  /-- Nothing has been met twice. -/
  once : search.met.Nodup

namespace Explores

/-- At first only the root has been met, and it waits. -/
theorem start (g : Grammar) (root : NonterminalId) : Explores g root ⟨[root], [root]⟩ where
  root_met := List.mem_singleton_self root
  reached id inside := by
    obtain rfl := List.mem_singleton.1 inside
    exact .root
  followed _ inside := Or.inl inside
  queued _ inside := inside
  once := List.nodup_singleton root

/-- Following the first of the queue keeps what is known of the search. -/
theorem follow (consistent : g.Consistent) {met queue : List NonterminalId}
    (explores : Explores g root ⟨met, id :: queue⟩) :
    Explores g root ((g.mentionedBy id).foldl meet ⟨met, queue⟩) := by
  obtain ⟨new, same, members, once⟩ := exists_foldl_meet (g.mentionedBy id) ⟨met, queue⟩
  have inside : ∀ other, other ∈ new.reverse ++ met ↔ other ∈ new ∨ other ∈ met := by simp
  rw [same]
  exact {
    root_met := (inside root).2 (Or.inr explores.root_met)
    reached := fun other here => by
      rcases (inside other).1 here with fresh | old
      · obtain ⟨rule, production, found, rfl, mentioned⟩ :=
          consistent.mem_mentionedBy.1 ((members other).1 fresh).1
        exact .next found (explores.reached _ (explores.queued _ List.mem_cons_self)) mentioned
      · exact explores.reached other old
    followed := fun other here => by
      rcases (inside other).1 here with fresh | old
      · exact Or.inl (List.mem_append_right queue fresh)
      · by_cases isFirst : other = id
        · -- this is the one followed now, so all that it mentions has been met
          right
          intro next mentioned
          by_cases before : next ∈ met
          · exact (inside next).2 (Or.inr before)
          · exact (inside next).2 (Or.inl ((members next).2 ⟨isFirst ▸ mentioned, before⟩))
        · rcases explores.followed other old with waits | closed
          · left
            exact List.mem_append_left new ((List.mem_cons.1 waits).resolve_left isFirst)
          · exact Or.inr fun next mentioned => (inside next).2 (Or.inr (closed next mentioned))
    queued := fun other waits => by
      rcases List.mem_append.1 waits with before | fresh
      · exact (inside other).2 (Or.inr (explores.queued other (List.mem_cons_of_mem id before)))
      · exact (inside other).2 (Or.inl fresh)
    once := by
      refine List.nodup_append'.2 ⟨List.nodup_reverse.2 once, explores.once, ?_⟩
      intro other fresh old
      exact ((members other).1 (List.mem_reverse.1 fresh)).2 old }

/-- No more nonterminals are met than there are. -/
theorem length_met_le (consistent : g.Consistent) (inside : root < g.nonterminals.size)
    (explores : search.Explores g root) : search.met.length ≤ g.nonterminals.size := by
  have known : search.met ⊆ List.range g.nonterminals.size := fun id here =>
    List.mem_range.2 ((explores.reached id here).lt consistent inside)
  simpa using explores.once.length_le_of_subset known

/-- Once nothing waits, exactly what the root leads to has been met. -/
theorem mem_met_iff (consistent : g.Consistent) (explores : search.Explores g root)
    (done : search.queue = []) : id ∈ search.met ↔ g.Reaches root id := by
  constructor
  · exact explores.reached id
  · intro reached
    induction reached with
    | root => exact explores.root_met
    | @next rule production id found _ mentioned ih =>
      have closed := (explores.followed _ ih).resolve_left (by simp [done])
      exact closed id (consistent.mem_mentionedBy.2 ⟨rule, production, found, rfl, mentioned⟩)

/-- A search with a step for each nonterminal that waits or has not been met yet comes to its end,
and meets exactly what the root leads to. -/
theorem mem_searchFrom_iff (consistent : g.Consistent) (inside : root < g.nonterminals.size)
    (explores : search.Explores g root) {steps : Nat}
    (enough : search.queue.length + g.nonterminals.size ≤ steps + search.met.length) :
    id ∈ g.searchFrom steps search ↔ g.Reaches root id := by
  induction steps generalizing search with
  | zero =>
    have most := explores.length_met_le consistent inside
    have done : search.queue = [] := List.eq_nil_of_length_eq_zero (by omega)
    exact explores.mem_met_iff consistent done
  | succ steps ih =>
    obtain ⟨met, _ | ⟨first, queue⟩⟩ := search
    · exact explores.mem_met_iff consistent rfl
    · obtain ⟨new, same, -, -⟩ := exists_foldl_meet (g.mentionedBy first) ⟨met, queue⟩
      refine ih (explores.follow consistent) ?_
      simp only [same, List.length_append, List.length_reverse, List.length_cons] at enough ⊢
      omega

end Explores

end Search

/-- The nonterminals found to be reachable are exactly those that the root leads to. -/
theorem Consistent.mem_reachable_iff (consistent : g.Consistent)
    (inside : root < g.nonterminals.size) : id ∈ g.reachable root ↔ g.Reaches root id :=
  (Search.Explores.start g root).mem_searchFrom_iff consistent inside
    (Nat.le_of_eq (Nat.add_comm _ _))

end ChartParser.Grammar
