import ChartParser.Proofs.Grammar.Store
import Mathlib.Data.List.Forall2

/-!
# What names stand for

A name stands for a symbol of the kind that its first character tells. An operation gives no symbol
another name, and only the symbols that it enters get one, so that what is said of all symbols and
their names holds on if it holds of those entered (`EachNamed`).
-/

namespace ChartParser

/-- What is in the second of two lists that are related one by one is related to something in the
first. -/
theorem exists_of_forall₂ {α β : Type} {related : α → β → Prop} {left : List α} {right : List β}
    (each : List.Forall₂ related left right) {second : β} (inside : second ∈ right) :
    ∃ first ∈ left, related first second := by
  induction each with
  | nil => cases inside
  | @cons first other left right here _ ih =>
    rcases List.mem_cons.1 inside with rfl | later
    · exact ⟨first, List.mem_cons_self, here⟩
    · obtain ⟨found, among, alike⟩ := ih later
      exact ⟨found, List.mem_cons_of_mem _ among, alike⟩

namespace Grammar

variable {g h : Grammar} {name : String} {names : List String}

/-! ## The symbol of a name -/

section Denotes

variable {symbol : Symbol} {symbols : List Symbol}

/-- The symbol is the one that the name stands for. -/
structure Denotes (g : Grammar) (name : String) (symbol : Symbol) : Prop where
  named : g.symbolName? symbol = some name
  kind : symbol.nonterminal?.isSome = startsUppercase name

/-- What a name stands for, it stands for later on. -/
theorem Denotes.of_persists (denotes : g.Denotes name symbol)
    (persists : g.Persists h) : h.Denotes name symbol :=
  ⟨persists.symbolName? denotes.named, denotes.kind⟩

/-- A name stands for the symbol that has been entered by it. -/
theorem Consistent.denotes_symbol (consistent : g.Consistent)
    (entered : g.symbol name = (.ok symbol, h)) : h.Denotes name symbol :=
  ⟨(consistent.symbolName?_symbol entered).1, (consistent.symbolName?_symbol entered).2⟩

/-- Names stand for the symbols that have been entered by them. -/
theorem Consistent.denotes_symbols (consistent : g.Consistent)
    (entered : g.symbols names = (.ok symbols, h)) : List.Forall₂ h.Denotes names symbols := by
  induction names generalizing g symbols with
  | nil =>
    obtain ⟨same, -⟩ := Prod.mk.inj entered
    obtain rfl := Except.ok.inj same
    exact .nil
  | cons name names ih =>
    obtain ⟨first, middle, rest, read, others, rfl⟩ := symbols_cons_eq_ok entered
    have next : middle.Consistent := Consistent.invariant.symbol consistent read
    exact .cons ((consistent.denotes_symbol read).of_persists (.symbols others)) (ih next others)

/-- Symbols go by the names that stand for them. -/
theorem map_nameOf (denotes : List.Forall₂ g.Denotes names symbols) :
    symbols.map g.nameOf = names := by
  induction denotes with
  | nil => rfl
  | cons here _ ih => rw [List.map_cons, ih, nameOf, here.named, Option.getD_some]

/-- A symbol that is known goes by the same name later on. -/
theorem Persists.nameOf (persists : g.Persists h) (known : g.knows symbol = true) :
    h.nameOf symbol = g.nameOf symbol := by
  obtain ⟨name, named⟩ := knows_iff.1 known
  rw [Grammar.nameOf, Grammar.nameOf, persists.symbolName? named, named]

/-- Entering a symbol enters no production. -/
theorem productions_symbol (entered : g.symbol name = (.ok symbol, h)) :
    h.productions = g.productions := by
  rcases symbol_eq_ok entered with ⟨-, -, rfl⟩ | ⟨-, id, found, -⟩
  · exact productions_nonterminalId g name
  · rcases terminalId_eq_ok found with ⟨-, rfl⟩ | ⟨_, -, -, -, rfl⟩ <;> rfl

/-- Entering symbols enters no production. -/
theorem productions_symbols (entered : g.symbols names = (.ok symbols, h)) :
    h.productions = g.productions := by
  induction names generalizing g symbols with
  | nil =>
    obtain ⟨-, rfl⟩ := Prod.mk.inj entered
    rfl
  | cons name names ih =>
    obtain ⟨first, middle, rest, read, others, -⟩ := symbols_cons_eq_ok entered
    exact (ih others).trans (productions_symbol read)

/-! ## Names that can be entered -/

/-- A symbol can be entered by the name, whatever has been entered before. -/
structure IsEnterable (name : String) : Prop where
  nonempty : name.toList ≠ []
  described : startsUppercase name = true ∨ ∃ terminal, Terminal.ofSpec name = .ok terminal

/-- A symbol is entered by a name that allows it. -/
theorem IsEnterable.exists_symbol (enterable : IsEnterable name) (g : Grammar) :
    ∃ symbol h, g.symbol name = (.ok symbol, h) := by
  obtain ⟨c, rest, shape⟩ := List.exists_cons_of_ne_nil enterable.nonempty
  rw [Grammar.symbol, shape]
  dsimp only
  split
  · exact ⟨_, _, rfl⟩
  rename_i lower
  have described := enterable.described
  rw [startsUppercase, shape, List.head?_cons, Option.any_some] at described
  obtain ⟨terminal, read⟩ := described.resolve_left lower
  have found : ∃ id h, g.terminalId name = (.ok id, h) := by
    rw [Grammar.terminalId]
    split
    · exact ⟨_, _, rfl⟩
    · rw [read]
      exact ⟨_, _, rfl⟩
  obtain ⟨id, h, entered⟩ := found
  rw [entered]
  exact ⟨_, _, rfl⟩

/-- Symbols are entered by names that allow it. -/
theorem exists_symbols (enterable : ∀ name ∈ names, IsEnterable name) (g : Grammar) :
    ∃ symbols h, g.symbols names = (.ok symbols, h) := by
  induction names generalizing g with
  | nil => exact ⟨[], g, rfl⟩
  | cons name names ih =>
    obtain ⟨enterableFirst, enterableRest⟩ := List.forall_mem_cons.1 enterable
    obtain ⟨first, middle, read⟩ := enterableFirst.exists_symbol g
    obtain ⟨rest, h, others⟩ := ih enterableRest middle
    refine ⟨first :: rest, h, ?_⟩
    rw [Grammar.symbols, read]
    dsimp only
    rw [others]

end Denotes

/-! ## All symbols and their names -/

/-- A nonterminal that is new has the name that it was entered by. -/
theorem symbolName?_nonterminalId_eq_some {id : NonterminalId} {other : String}
    (named : (g.nonterminalId name).2.symbolName? (.nonterminal id) = some other) :
    g.symbolName? (.nonterminal id) = some other ∨ other = name := by
  unfold nonterminalId at named
  split at named
  · exact Or.inl named
  · change ((g.nonterminals.push (.mentioned name))[id]?).map _ = some other at named
    rw [map_getElem?_push] at named
    split at named
    · exact Or.inr (Option.some.inj named).symm
    · exact Or.inl named

/-- This is said of every symbol and its name. -/
def EachNamed (g : Grammar) (allows : Symbol → String → Prop) : Prop :=
  ∀ (symbol : Symbol) (name : String), g.symbolName? symbol = some name → allows symbol name

namespace EachNamed

variable {allows : Symbol → String → Prop}

/-- What follows from what is said of every symbol is said of every symbol, too. -/
theorem imp (each : g.EachNamed allows) {weaker : Symbol → String → Prop}
    (onward : ∀ symbol name, allows symbol name → weaker symbol name) : g.EachNamed weaker :=
  fun symbol name named => onward symbol name (each symbol name named)

/-- What is said of all symbols holds on if it holds of the nonterminal that is entered. -/
theorem nonterminalId (each : g.EachNamed allows) (new : ∀ id, allows (.nonterminal id) name) :
    (g.nonterminalId name).2.EachNamed allows := by
  intro symbol other named
  cases symbol with
  | terminal id =>
    refine each _ _ ?_
    unfold Grammar.nonterminalId at named
    split at named <;> exact named
  | nonterminal id =>
    rcases symbolName?_nonterminalId_eq_some named with before | rfl
    · exact each _ _ before
    · exact new id

/-- What is said of all symbols holds on if it holds of the nonterminal that is defined. -/
theorem defineAt (each : g.EachNamed allows) (new : ∀ id, allows (.nonterminal id) name)
    (place : Location) : (g.defineAt name place).2.EachNamed allows := by
  intro symbol other named
  rw [symbolName?_defineAt_eq] at named
  exact each.nonterminalId new _ _ named

/-- What is said of all symbols holds on if it holds of the symbol that is entered. -/
theorem symbol (each : g.EachNamed allows) {symbol : Symbol}
    (entered : g.symbol name = (.ok symbol, h))
    (new : ∀ symbol : Symbol, symbol.nonterminal?.isSome = startsUppercase name →
      allows symbol name) : h.EachNamed allows := by
  rcases symbol_eq_ok entered with ⟨upper, -, rfl⟩ | ⟨lower, id, found, -⟩
  · exact each.nonterminalId fun id => new (.nonterminal id) upper.symm
  · rcases terminalId_eq_ok found with ⟨-, rfl⟩ | ⟨terminal, -, described, -, rfl⟩
    · exact each
    intro other otherName named
    cases other with
    | nonterminal _ => exact each _ _ named
    | terminal other =>
      change ((g.terminals.push terminal)[other]?).map _ = some otherName at named
      rw [map_getElem?_push] at named
      split at named
      · rw [name_of_ofSpec described, Option.some.injEq] at named
        subst named
        exact new (.terminal other) lower.symm
      · exact each _ _ named

/-- What is said of all symbols holds on if it holds of the symbols that are entered. -/
theorem symbols (each : g.EachNamed allows) {symbols : List Symbol}
    (entered : g.symbols names = (.ok symbols, h))
    (new : ∀ name ∈ names, ∀ symbol : Symbol,
      symbol.nonterminal?.isSome = startsUppercase name → allows symbol name) :
    h.EachNamed allows := by
  induction names generalizing g symbols with
  | nil =>
    obtain ⟨-, rfl⟩ := Prod.mk.inj entered
    exact each
  | cons name names ih =>
    obtain ⟨first, middle, rest, read, others, -⟩ := symbols_cons_eq_ok entered
    obtain ⟨newFirst, newRest⟩ := List.forall_mem_cons.1 new
    exact ih (each.symbol read newFirst) others newRest

/-- What is said of all symbols holds on when a production is added. -/
theorem addProduction (each : g.EachNamed allows) {lhs : NonterminalId} {symbols : List Symbol}
    {rule : ProductionId} (added : g.addProduction lhs symbols = (.ok rule, h)) :
    h.EachNamed allows := by
  intro symbol name named
  rw [symbolName?_addProduction added] at named
  exact each symbol name named

end EachNamed

end Grammar

end ChartParser
