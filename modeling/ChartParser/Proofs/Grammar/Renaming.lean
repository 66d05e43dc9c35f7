import ChartParser.Proofs.Grammar.Viable
import Mathlib.Logic.Equiv.Basic

/-!
# Grammars with other ids

An id says when something was entered, and nothing else. A renaming gives new ids to nonterminals,
terminals and productions. It carries a grammar to another one if that has the same names, terminals
and productions under the new ids (`Renaming.Carries`). What the one grammar derives and expects,
the other then derives and expects under the new ids (`Renaming.Preserves`), and since a renaming
can be undone, nothing else. The syntax trees of both are the same, because they show names only.
-/

namespace ChartParser

/-- Some production mentions the terminal. -/
def Grammar.Uses (g : Grammar) (id : TerminalId) : Prop :=
  ∃ (rule : ProductionId) (production : Production), g.productions[rule]? = some production ∧
    Symbol.terminal id ∈ production.symbols

/-- New ids for nonterminals, terminals and productions. -/
structure Renaming where
  nonterminal : Equiv.Perm NonterminalId
  terminal : Equiv.Perm TerminalId
  production : Equiv.Perm ProductionId

namespace Renaming

/-! ## What has new ids -/

section Actions

variable (change : Renaming)

/-- The renaming back to the old ids. -/
def symm : Renaming :=
  ⟨change.nonterminal.symm, change.terminal.symm, change.production.symm⟩

/-- The symbol under its new id. -/
def symbol : Symbol → Symbol
  | .terminal id => .terminal (change.terminal id)
  | .nonterminal id => .nonterminal (change.nonterminal id)

/-- The production with new ids for itself and its symbols. -/
def rule (production : Production) : Production :=
  ⟨change.production production.id, change.nonterminal production.lhs,
    production.symbols.map change.symbol⟩

mutual

/-- The derivation with new ids. -/
def derivation : Derivation → Derivation
  | .token terminal index => .token (change.terminal terminal) index
  | .branch production span children =>
    .branch (change.production production) span (derivations children)

/-- Several derivations with new ids. -/
def derivations : List Derivation → List Derivation
  | [] => []
  | first :: rest => derivation first :: derivations rest

end

/-- Several derivations are renamed one by one. -/
theorem derivations_eq_map (each : List Derivation) :
    change.derivations each = each.map change.derivation := by
  induction each with
  | nil => rfl
  | cons first rest ih => rw [derivations, ih, List.map_cons]

/-- A branch is renamed with all its children. -/
theorem derivation_branch (rule : ProductionId) (span : Span) (children : List Derivation) :
    change.derivation (.branch rule span children) =
      .branch (change.production rule) span (children.map change.derivation) := by
  rw [derivation, derivations_eq_map]

/-- A derivation keeps its span. -/
@[simp]
theorem span_derivation (derivation : Derivation) :
    (change.derivation derivation).span = derivation.span := by
  cases derivation with
  | token _ _ => rfl
  | branch _ _ _ => rw [derivation_branch]; rfl

/-- A nonterminal gets its new id back. -/
theorem nonterminal_symm_apply (id : NonterminalId) :
    change.nonterminal (change.symm.nonterminal id) = id :=
  change.nonterminal.apply_symm_apply id

/-- A nonterminal gets its old id back. -/
theorem symm_nonterminal_apply (id : NonterminalId) :
    change.symm.nonterminal (change.nonterminal id) = id :=
  change.nonterminal.symm_apply_apply id

/-- A terminal gets its new id back. -/
theorem terminal_symm_apply (id : TerminalId) : change.terminal (change.symm.terminal id) = id :=
  change.terminal.apply_symm_apply id

/-- A production gets its new id back. -/
theorem production_symm_apply (id : ProductionId) :
    change.production (change.symm.production id) = id :=
  change.production.apply_symm_apply id

/-- A symbol gets its old id back. -/
@[simp]
theorem symm_symbol (symbol : Symbol) : change.symm.symbol (change.symbol symbol) = symbol := by
  cases symbol <;> simp [Renaming.symbol, symm]

/-- A production gets its old ids back. -/
@[simp]
theorem symm_rule (production : Production) :
    change.symm.rule (change.rule production) = production := by
  have symbols : (production.symbols.map change.symbol).map change.symm.symbol =
      production.symbols := by
    rw [List.map_map]
    exact List.map_id'' change.symm_symbol _
  unfold rule
  rw [symbols]
  simp [symm]

mutual

/-- A derivation gets its old ids back. -/
theorem symm_derivation :
    ∀ derivation, change.symm.derivation (change.derivation derivation) = derivation
  | .token _ _ => by simp [derivation, symm]
  | .branch rule span children => by
    rw [derivation, derivation, symm_derivations children]
    simp [symm]

/-- Several derivations get their old ids back. -/
theorem symm_derivations :
    ∀ each, change.symm.derivations (change.derivations each) = each
  | [] => rfl
  | first :: rest => by
    rw [derivations, derivations, symm_derivation first, symm_derivations rest]

end

/-- Different derivations stay different. -/
theorem derivation_injective : Function.Injective change.derivation :=
  Function.LeftInverse.injective change.symm_derivation

/-- A production has the symbol after the dot under its new id. -/
theorem symbolAt?_rule (production : Production) (dot : Nat) :
    (change.rule production).symbolAt? dot = (production.symbolAt? dot).map change.symbol :=
  List.getElem?_map

/-- The first symbols of a production are renamed one by one. -/
theorem take_rule (production : Production) (dot : Nat) :
    (change.rule production).symbols.take dot =
      (production.symbols.take dot).map change.symbol :=
  List.map_take.symm

/-- A production keeps its length. -/
@[simp]
theorem length_rule (production : Production) :
    (change.rule production).length = production.length :=
  List.length_map _

end Actions

/-! ## Grammars that are carried along -/

variable {change : Renaming} {g h : Grammar} {fits fitsToo : Nat → TerminalId → Bool}

/-- The renaming carries the first grammar to the second: nonterminals keep their names, terminals
that are in use stay what they are, and the productions are the same under new ids. -/
structure Carries (change : Renaming) (g h : Grammar) : Prop where
  nonterminal : ∀ id, h.symbolName? (.nonterminal (change.nonterminal id)) =
    g.symbolName? (.nonterminal id)
  terminal : ∀ id, g.Uses id → h.terminals[change.terminal id]? = g.terminals[id]?
  production : ∀ id, h.productions[change.production id]? =
    g.productions[id]?.map change.rule

namespace Carries

/-- A production is found under its new id. -/
theorem found (carries : change.Carries g h) {rule : ProductionId} {production : Production}
    (found : g.productions[rule]? = some production) :
    h.productions[change.production rule]? = some (change.rule production) := by
  rw [carries.production, found, Option.map_some]

/-- A production that is found under an old id is one under its new id. -/
theorem symm_production (carries : change.Carries g h) (id : ProductionId) :
    g.productions[change.symm.production id]? =
      h.productions[id]?.map change.symm.rule := by
  have here := carries.production (change.symm.production id)
  rw [change.production_symm_apply] at here
  rw [here, Option.map_map]
  simp [Function.comp_def]

/-- A terminal is in use if it is under its old id. -/
theorem uses_symm (carries : change.Carries g h) {id : TerminalId} (used : h.Uses id) :
    g.Uses (change.symm.terminal id) := by
  obtain ⟨rule, production, found, inside⟩ := used
  refine ⟨change.symm.production rule, change.symm.rule production, ?_, ?_⟩
  · rw [carries.symm_production, found, Option.map_some]
  · exact List.mem_map.2 ⟨_, inside, rfl⟩

/-- The renaming back to the old ids carries the second grammar to the first. -/
theorem symm (carries : change.Carries g h) : change.symm.Carries h g where
  nonterminal id := by
    have here := carries.nonterminal (change.symm.nonterminal id)
    rw [change.nonterminal_symm_apply] at here
    exact here.symm
  terminal id used := by
    have here := carries.terminal (change.symm.terminal id) (carries.uses_symm used)
    rw [change.terminal_symm_apply] at here
    exact here.symm
  production := carries.symm_production

/-- A nonterminal has the name that it has under its old id. -/
theorem nameOf_nonterminal (carries : change.Carries g h) (id : NonterminalId) :
    h.nameOf (.nonterminal (change.nonterminal id)) = g.nameOf (.nonterminal id) := by
  rw [Grammar.nameOf, carries.nonterminal]
  rfl

/-- A terminal in use has the name that it has under its old id. -/
theorem nameOf_terminal (carries : change.Carries g h) {id : TerminalId} (used : g.Uses id) :
    h.nameOf (.terminal (change.terminal id)) = g.nameOf (.terminal id) := by
  rw [Grammar.nameOf, Grammar.symbolName?, carries.terminal id used]
  rfl

end Carries

/-! ## What is derived and expected -/

/-- The renaming carries the first grammar to the second, and the tokens fit the terminals in use
under their new ids as they do under the old ones. -/
structure Preserves (change : Renaming) (g h : Grammar) (fits fitsToo : Nat → TerminalId → Bool) :
    Prop where
  carries : change.Carries g h
  fits : ∀ index id, g.Uses id → fitsToo index (change.terminal id) = fits index id

namespace Preserves

variable {symbols : List Symbol} {start stop position : Nat} {derivations : List Derivation}

/-- Tokens fit the terminals in use under their old ids as they do under the new ones. -/
theorem symm (preserves : change.Preserves g h fits fitsToo) :
    change.symm.Preserves h g fitsToo fits where
  carries := preserves.carries.symm
  fits index id used := by
    have here := preserves.fits index (change.symm.terminal id) (preserves.carries.uses_symm used)
    rw [change.terminal_symm_apply] at here
    exact here.symm

/-- What is derived is derived under the new ids, with the same syntax trees. -/
theorem spells (preserves : change.Preserves g h fits fitsToo)
    (spelled : g.Spells fits symbols start stop derivations)
    (used : ∀ id, Symbol.terminal id ∈ symbols → g.Uses id) :
    h.Spells fitsToo (symbols.map change.symbol) start stop
        (derivations.map change.derivation) ∧
      (derivations.map change.derivation).map (Derivation.tree h) =
        derivations.map (Derivation.tree g) := by
  induction spelled with
  | nil => exact ⟨.nil, rfl⟩
  | @token id symbols start stop derivations fit _ ih =>
    obtain ⟨rest, trees⟩ := ih fun other inside => used other (List.mem_cons_of_mem _ inside)
    have here : g.Uses id := used id List.mem_cons_self
    constructor
    · exact .token ((preserves.fits start id here).trans fit) rest
    · rw [List.map_cons, List.map_cons, trees, List.map_cons, derivation, Derivation.tree,
        preserves.carries.nameOf_terminal here, Derivation.tree]
  | @branch id production symbols start middle stop children derivations found _ _ ihBody ihRest =>
    obtain ⟨body, treesBody⟩ := ihBody fun _ inside => ⟨id, production, found, inside⟩
    obtain ⟨rest, treesRest⟩ :=
      ihRest fun other inside => used other (List.mem_cons_of_mem _ inside)
    have foundToo := preserves.carries.found found
    rw [List.map_cons, List.map_cons, derivation_branch]
    constructor
    · exact .branch foundToo body rest
    · rw [List.map_cons, List.map_cons, treesRest, Derivation.tree_branch foundToo, treesBody,
        Derivation.tree_branch found, rule, preserves.carries.nameOf_nonterminal]

/-- The first symbols of a production cover the same tokens under the new ids. -/
theorem spells_take (preserves : change.Preserves g h fits fitsToo) {rule : ProductionId}
    {production : Production} {dot : Nat} (found : g.productions[rule]? = some production)
    (spelled : g.Spells fits (production.symbols.take dot) start stop derivations) :
    h.Spells fitsToo ((change.rule production).symbols.take dot) start stop
      (derivations.map change.derivation) := by
  rw [take_rule]
  have used : ∀ id, Symbol.terminal id ∈ production.symbols.take dot → g.Uses id := by
    intro id inside
    exact ⟨rule, production, found, List.mem_of_mem_take inside⟩
  exact (preserves.spells spelled used).1

/-- What is expected is expected under the new ids. -/
theorem expects (preserves : change.Preserves g h fits fitsToo) {root id : NonterminalId}
    (expected : g.Expects fits root id position) :
    h.Expects fitsToo (change.nonterminal root) (change.nonterminal id) position := by
  induction expected with
  | root => exact .root
  | @next rule production dot start stop _ id found _ before awaited ih =>
    refine .next (preserves.carries.found found) ih (preserves.spells_take found before) ?_
    rw [symbolAt?_rule, awaited]
    rfl

end Preserves

end Renaming

end ChartParser
