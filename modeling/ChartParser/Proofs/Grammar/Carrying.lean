import ChartParser.Proofs.Grammar.Renaming
import ChartParser.Proofs.Grammar.WellFormed

/-!
# Well-formed grammars with other ids

What makes a grammar well formed is said by its productions, whatever the ids are. So a grammar that
a renaming carries to another one passes the check if the other one does
(`Grammar.check_of_carries`).
-/

namespace ChartParser

variable {change : Renaming} {g h : Grammar} {root id : NonterminalId} {symbols : List Symbol}
  {word : List TerminalId}

namespace Renaming

/-- The renaming that gives no new ids. -/
def refl : Renaming := ⟨Equiv.refl _, Equiv.refl _, Equiv.refl _⟩

/-- Without new ids, a production stays as it is. -/
theorem rule_refl (production : Production) : refl.rule production = production := by
  have same : ∀ symbol, refl.symbol symbol = symbol := fun symbol => by cases symbol <;> rfl
  unfold rule
  rw [funext same, List.map_id']
  rfl

end Renaming

namespace Renaming.Carries

/-- What is derived is derived under the new ids. -/
theorem derives (carries : change.Carries g h) (derived : g.Derives symbols word) :
    h.Derives (symbols.map change.symbol) (word.map change.terminal) := by
  induction derived with
  | nil => exact .nil
  | terminal _ ih => exact .terminal ih
  | nonterminal found _ _ body rest =>
    rw [List.map_append]
    exact .nonterminal (carries.found found) body rest

/-- A nonterminal that derives a word derives one under its new id. -/
theorem productive (carries : change.Carries g h) (productive : g.Productive id) :
    h.Productive (change.nonterminal id) := by
  obtain ⟨word, derived⟩ := productive
  exact ⟨_, carries.derives derived⟩

/-- What is mentioned is mentioned under its new id. -/
theorem mentions (carries : change.Carries g h) (mentioned : g.Mentions id) :
    h.Mentions (change.nonterminal id) := by
  obtain ⟨rule, production, found, inside⟩ := mentioned
  exact ⟨_, _, carries.found found, List.mem_map.2 ⟨_, inside, rfl⟩⟩

/-- What is reached is reached under its new id. -/
theorem reaches (carries : change.Carries g h) (reached : g.Reaches root id) :
    h.Reaches (change.nonterminal root) (change.nonterminal id) := by
  induction reached with
  | root => exact .root
  | next found _ mentioned above =>
    exact .next (carries.found found) above (List.mem_map.2 ⟨_, mentioned, rfl⟩)

/-- Every nonterminal of the second grammar is the new one of a nonterminal of the first. -/
theorem exists_nonterminal (carries : change.Carries g h) (inside : id < h.nonterminals.size) :
    ∃ old < g.nonterminals.size, change.nonterminal old = id := by
  have known : h.knows (.nonterminal id) = true := by simpa [Grammar.knows] using inside
  obtain ⟨name, named⟩ := Grammar.knows_iff.1 known
  have before := carries.symm.nonterminal id
  rw [named] at before
  have knownBefore := Grammar.knows_iff.2 ⟨name, before⟩
  exact ⟨_, by simpa [Grammar.knows] using knownBefore, change.nonterminal_symm_apply id⟩

/-- A grammar that is well formed is so under the new ids. -/
theorem wellFormed (carries : change.Carries g h) (formed : g.WellFormed root) :
    h.WellFormed (change.nonterminal root) where
  mentioned id inside other := by
    obtain ⟨old, before, rfl⟩ := carries.exists_nonterminal inside
    refine carries.mentions (formed.mentioned old before fun same => other ?_)
    rw [same]
  populated id inside := by
    obtain ⟨old, before, rfl⟩ := carries.exists_nonterminal inside
    obtain ⟨rule, production, found, rfl⟩ := formed.populated old before
    exact ⟨_, _, carries.found found, rfl⟩
  loopless {rule production} found loop := by
    have before := carries.symm.found found
    refine formed.loopless before ?_
    rw [Renaming.rule, loop]
    rfl
  productive id inside := by
    obtain ⟨old, before, rfl⟩ := carries.exists_nonterminal inside
    exact carries.productive (formed.productive old before)
  reachable id inside := by
    obtain ⟨old, before, rfl⟩ := carries.exists_nonterminal inside
    exact carries.reaches (formed.reachable old before)

end Renaming.Carries

namespace Grammar

/-- A grammar with a root passes the check exactly if it is well formed. -/
theorem Built.check_eq_ok_iff (built : g.Built) (known : g.root? = some root) :
    g.check = .ok () ↔ g.WellFormed root := by
  rw [built.consistent.wellFormed_iff]
  exact (built.decides_requirements known).passes

/-- A grammar that passes the check has a root. -/
theorem exists_root_of_check (checked : g.check = .ok ()) : ∃ root, g.root? = some root := by
  cases known : g.root? with
  | some root => exact ⟨root, rfl⟩
  | none =>
    unfold check at checked
    rw [known] at checked
    cases checked

/-- A grammar passes the check if the one that is carried to it does. -/
theorem check_of_carries (built : g.Built) (builtToo : h.Built) (carries : change.Carries g h)
    (root : h.root? = g.root?.map change.nonterminal) (checked : g.check = .ok ()) :
    h.check = .ok () := by
  obtain ⟨id, known⟩ := exists_root_of_check checked
  rw [known, Option.map_some] at root
  have formed := (built.check_eq_ok_iff known).1 checked
  exact (builtToo.check_eq_ok_iff root).2 (carries.wellFormed formed)

end Grammar

end ChartParser
