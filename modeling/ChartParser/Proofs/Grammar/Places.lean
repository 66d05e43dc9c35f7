import ChartParser.Proofs.Grammar.Store

/-!
# Grammars without places

A nonterminal remembers where it was first defined, so that errors can name the place. Nothing else
depends on it: entering symbols, rules and productions is the same whether places are known or not,
and forgetting them afterwards is as good as never knowing them.
-/

namespace ChartParser

/-- The nonterminal with its place forgotten. -/
def Nonterminal.withoutPlace (nonterminal : Nonterminal) : Nonterminal :=
  { nonterminal with place := Location.unknown }

namespace Grammar

variable {g h : Grammar} {name : String} {place : Location}

/-- The grammar with all places forgotten. -/
def withoutPlaces (g : Grammar) : Grammar :=
  { g with nonterminals := g.nonterminals.map Nonterminal.withoutPlace }

/-- The empty grammar has no places. -/
theorem withoutPlaces_empty : empty.withoutPlaces = empty := by
  simp [withoutPlaces, empty]

/-- A nonterminal is found by its name without places, too. -/
theorem findNonterminal?_withoutPlaces (g : Grammar) (name : String) :
    g.withoutPlaces.findNonterminal? name = g.findNonterminal? name := rfl

/-- A nonterminal has the same productions without places. -/
theorem productionsOf_withoutPlaces (g : Grammar) (id : NonterminalId) :
    g.withoutPlaces.productionsOf id = g.productionsOf id := rfl

/-- A symbol keeps its name when places are forgotten. -/
theorem symbolName?_withoutPlaces (g : Grammar) (symbol : Symbol) :
    g.withoutPlaces.symbolName? symbol = g.symbolName? symbol := by
  cases symbol with
  | terminal _ => rfl
  | nonterminal id =>
    show ((g.nonterminals.map Nonterminal.withoutPlace)[id]?).map _ = _
    rw [Array.getElem?_map, Option.map_map]
    rfl

/-- The name of the root is the same without places. -/
theorem rootName?_withoutPlaces (g : Grammar) : g.withoutPlaces.rootName? = g.rootName? := by
  unfold rootName?
  show g.root?.bind _ = _
  simp only [symbolName?_withoutPlaces]

/-- A change of a nonterminal may be made before or after its place is forgotten. -/
theorem modify_withoutPlaces (nonterminals : Array Nonterminal) (id : NonterminalId)
    {change changeToo : Nonterminal → Nonterminal}
    (same : ∀ nonterminal : Nonterminal,
      changeToo nonterminal.withoutPlace = (change nonterminal).withoutPlace) :
    (nonterminals.map Nonterminal.withoutPlace).modify id changeToo =
      (nonterminals.modify id change).map Nonterminal.withoutPlace := by
  refine Array.ext_getElem? fun other => ?_
  rw [Array.getElem?_modify, Array.getElem?_map, Array.getElem?_map, Array.getElem?_modify]
  split
  · rw [Option.map_map, Option.map_map]
    exact congrArg (fun changed => (nonterminals[other]?).map changed) (funext same)
  · rfl

/-- A nonterminal is entered alike without places. -/
theorem nonterminalId_withoutPlaces (g : Grammar) (name : String) :
    g.withoutPlaces.nonterminalId name =
      ((g.nonterminalId name).1, (g.nonterminalId name).2.withoutPlaces) := by
  unfold nonterminalId
  rw [findNonterminal?_withoutPlaces]
  split
  · rfl
  · simp [withoutPlaces, Nonterminal.withoutPlace, Nonterminal.mentioned]

/-- A nonterminal that is defined at a place is defined at no known place without places. -/
theorem define_withoutPlaces (g : Grammar) (name : String) (place : Location) :
    g.withoutPlaces.define name =
      ((g.defineAt name place).1, (g.defineAt name place).2.withoutPlaces) := by
  have marks : ∀ nonterminal : Nonterminal,
      markDefined Location.unknown nonterminal.withoutPlace =
        (markDefined place nonterminal).withoutPlace := by
    intro nonterminal
    unfold markDefined
    by_cases defined : nonterminal.defined = true
    · rw [if_pos defined, if_pos (show nonterminal.withoutPlace.defined = true from defined)]
    · rw [if_neg defined, if_neg (show ¬ nonterminal.withoutPlace.defined = true from defined)]
      rfl
  unfold define defineAt
  rw [nonterminalId_withoutPlaces]
  dsimp only [withoutPlaces]
  rw [modify_withoutPlaces _ _ marks]

/-- A terminal is entered alike without places. -/
theorem terminalId_withoutPlaces (g : Grammar) (spec : String) :
    g.withoutPlaces.terminalId spec =
      ((g.terminalId spec).1, (g.terminalId spec).2.withoutPlaces) := by
  have same : g.withoutPlaces.findTerminal? spec = g.findTerminal? spec := rfl
  unfold terminalId
  rw [same]
  cases g.findTerminal? spec with
  | some id => rfl
  | none => cases Terminal.ofSpec spec <;> rfl

/-- A symbol is entered alike without places. -/
theorem symbol_withoutPlaces (g : Grammar) (name : String) :
    g.withoutPlaces.symbol name = ((g.symbol name).1, (g.symbol name).2.withoutPlaces) := by
  unfold symbol
  split
  · rfl
  · split
    · rw [nonterminalId_withoutPlaces]
    · rw [terminalId_withoutPlaces]

/-- Symbols are entered alike without places, up to the same fault if there is one. -/
theorem symbols_withoutPlaces (g : Grammar) (names : List String) :
    g.withoutPlaces.symbols names = ((g.symbols names).1, (g.symbols names).2.withoutPlaces) := by
  induction names generalizing g with
  | nil => rfl
  | cons name names ih =>
    rw [symbols, symbols, symbol_withoutPlaces]
    rcases g.symbol name with ⟨fault | first, next⟩
    · rfl
    · dsimp only
      rw [ih]
      rcases next.symbols names with ⟨_ | _, _⟩ <;> rfl

/-- Nonterminals are marked as referenced alike without places. -/
theorem reference_withoutPlaces (g : Grammar) (symbols : List Symbol) :
    g.withoutPlaces.reference symbols = (g.reference symbols).withoutPlaces := by
  have marks : ∀ n : Nonterminal, { n.withoutPlace with referenced := true } =
      ({ n with referenced := true } : Nonterminal).withoutPlace := fun _ => rfl
  have same : ∀ (ids : List NonterminalId) (nonterminals : Array Nonterminal),
      ids.foldl (fun nonterminals id => nonterminals.modify id fun n =>
          { n with referenced := true }) (nonterminals.map Nonterminal.withoutPlace) =
        (ids.foldl (fun nonterminals id => nonterminals.modify id fun n =>
          { n with referenced := true }) nonterminals).map Nonterminal.withoutPlace := by
    intro ids
    induction ids with
    | nil => exact fun _ => rfl
    | cons id ids ih =>
      intro nonterminals
      rw [List.foldl_cons, List.foldl_cons, modify_withoutPlaces nonterminals id marks, ih]
  unfold reference withoutPlaces
  dsimp only
  rw [same]

/-- A new production is entered alike without places. -/
theorem withProduction_withoutPlaces (g : Grammar) (lhs : NonterminalId) (symbols : List Symbol) :
    g.withoutPlaces.withProduction lhs symbols = (g.withProduction lhs symbols).withoutPlaces := by
  unfold withProduction
  rw [reference_withoutPlaces]
  rfl

/-- A production is added or refused alike without places. A refusal names another place. -/
theorem addProduction_withoutPlaces (g : Grammar) (lhs : NonterminalId) (symbols : List Symbol) :
    SucceedAlike (fun rule ruleToo => ruleToo = rule) (g.addProduction lhs symbols).1
        (g.withoutPlaces.addProduction lhs symbols).1 ∧
      (g.withoutPlaces.addProduction lhs symbols).2 =
        (g.addProduction lhs symbols).2.withoutPlaces := by
  have entries : g.withoutPlaces.nonterminals[lhs]? =
      (g.nonterminals[lhs]?).map Nonterminal.withoutPlace := Array.getElem?_map
  have known : g.withoutPlaces.knows = g.knows := by
    funext symbol
    rw [Bool.eq_iff_iff, knows_iff, knows_iff, symbolName?_withoutPlaces]
  have empties : g.withoutPlaces.emptyAmong? (g.withoutPlaces.productionsOf lhs) =
      g.emptyAmong? (g.productionsOf lhs) := rfl
  unfold addProduction
  rw [entries, known, empties]
  cases g.nonterminals[lhs]? with
  | none => exact ⟨.failed _ _, rfl⟩
  | some nonterminal =>
    dsimp only [Option.map_some]
    split
    · exact ⟨.failed _ _, rfl⟩
    split
    · exact ⟨.passed rfl, rfl⟩
    · exact ⟨.passed rfl, withProduction_withoutPlaces g lhs symbols⟩

end Grammar

end ChartParser
