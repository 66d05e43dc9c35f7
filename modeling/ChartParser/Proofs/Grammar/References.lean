import ChartParser.Grammar.Check
import ChartParser.Proofs.Grammar.Entries

/-!
# Nonterminals that right-hand sides mention

A nonterminal carries a flag that says whether some right-hand side mentions it. The flag is kept
beside the productions: it is set when a production is entered and never taken back, and an empty
production that is entered a second time sets no flag. In every grammar built by entries it says
exactly what the productions say (`Built.referenced_iff`).
-/

namespace ChartParser.Grammar

variable {g h : Grammar} {id : NonterminalId}

/-- Some right-hand side mentions the nonterminal. -/
def Mentions (g : Grammar) (id : NonterminalId) : Prop :=
  ∃ (rule : ProductionId) (production : Production), g.productions[rule]? = some production ∧
    Symbol.nonterminal id ∈ production.symbols

/-- Whether the nonterminal is known and flagged as mentioned. -/
def isFlagged (g : Grammar) (id : NonterminalId) : Bool :=
  (g.nonterminals[id]?.map (·.referenced)).getD false

/-- The flags of nonterminals say which of them the productions mention. -/
def Flagged (g : Grammar) : Prop := ∀ id, g.isFlagged id = true ↔ g.Mentions id

/-- A grammar with the same flags and productions has its flags right as well. -/
theorem Flagged.congr (flagged : g.Flagged) (productions : h.productions = g.productions)
    (flags : ∀ id, h.isFlagged id = g.isFlagged id) : h.Flagged := by
  intro id
  unfold Mentions
  rw [flags, productions]
  exact flagged id

/-- A change of a nonterminal that keeps its flag changes no flag. -/
theorem isFlagged_modify (g : Grammar) (changed : NonterminalId)
    (change : Nonterminal → Nonterminal)
    (kept : ∀ nonterminal, (change nonterminal).referenced = nonterminal.referenced)
    (id : NonterminalId) :
    isFlagged { g with nonterminals := g.nonterminals.modify changed change } id =
      g.isFlagged id := by
  unfold isFlagged
  rw [map_getElem?_modify g.nonterminals changed kept]

/-- A nonterminal of which only the name is known is not flagged. -/
theorem isFlagged_nonterminalId (g : Grammar) (name : String) (id : NonterminalId) :
    (g.nonterminalId name).2.isFlagged id = g.isFlagged id := by
  unfold nonterminalId
  split
  · rfl
  unfold isFlagged
  rw [map_getElem?_push]
  by_cases last : id = g.nonterminals.size
  · simp [last, Nonterminal.mentioned]
  · rw [if_neg last]

/-- Entering a nonterminal by name enters no production. -/
theorem productions_nonterminalId (g : Grammar) (name : String) :
    (g.nonterminalId name).2.productions = g.productions := by
  unfold nonterminalId
  split <;> rfl

/-- Defining a nonterminal changes no flag. -/
theorem isFlagged_defineAt (g : Grammar) (name : String) (place : Location) (id : NonterminalId) :
    (g.defineAt name place).2.isFlagged id = g.isFlagged id := by
  have marked := isFlagged_modify (g.nonterminalId name).2 (g.nonterminalId name).1
    (markDefined place) (fun nonterminal => by unfold markDefined; split <;> rfl) id
  exact marked.trans (isFlagged_nonterminalId g name id)

/-- Marking one nonterminal as mentioned flags it if it is known. -/
theorem isFlagged_mark (g : Grammar) (marked id : NonterminalId) :
    isFlagged { g with nonterminals := g.nonterminals.modify marked fun nonterminal =>
      { nonterminal with referenced := true } } id = true ↔
        g.isFlagged id = true ∨ (id = marked ∧ id < g.nonterminals.size) := by
  simp only [isFlagged, Array.getElem?_modify]
  by_cases same : marked = id
  · subst same
    by_cases inside : marked < g.nonterminals.size
    · simp [inside]
    · simp [inside]
  · simp [same, Ne.symm same]

/-- The nonterminals among the symbols become flagged. -/
theorem isFlagged_reference {symbols : List Symbol}
    (known : ∀ symbol ∈ symbols, g.knows symbol = true) :
    (g.reference symbols).isFlagged id = true ↔
      g.isFlagged id = true ∨ Symbol.nonterminal id ∈ symbols := by
  unfold reference
  induction symbols generalizing g with
  | nil => simp
  | cons symbol symbols ih =>
    have first := known symbol List.mem_cons_self
    have later : ∀ symbol ∈ symbols, g.knows symbol = true := fun other inside =>
      known other (List.mem_cons_of_mem _ inside)
    cases symbol with
    | terminal _ =>
      rw [List.filterMap_cons_none rfl, ih later]
      simp
    | nonterminal marked =>
      let next : Grammar := { g with nonterminals := g.nonterminals.modify marked fun nonterminal =>
        { nonterminal with referenced := true } }
      have kept : ∀ symbol ∈ symbols, next.knows symbol = true := by
        intro other inside
        have before := later other inside
        cases other with
        | terminal _ => exact before
        | nonterminal _ => simpa [next, knows] using before
      have rest := ih kept
      have marking : next.isFlagged id = true ↔ _ := isFlagged_mark g marked id
      have inside : marked < g.nonterminals.size := by simpa [knows] using first
      refine rest.trans ?_
      rw [marking, List.mem_cons, Symbol.nonterminal.injEq]
      constructor
      · rintro ((old | ⟨same, -⟩) | mentioned)
        · exact Or.inl old
        · exact Or.inr (Or.inl same)
        · exact Or.inr (Or.inr mentioned)
      · rintro (old | rfl | mentioned)
        · exact Or.inl (Or.inl old)
        · exact Or.inl (Or.inr ⟨rfl, inside⟩)
        · exact Or.inr mentioned

/-- What is mentioned once a production has been added. -/
theorem mentions_withProduction (g : Grammar) (lhs : NonterminalId) (symbols : List Symbol) :
    (g.withProduction lhs symbols).Mentions id ↔
      g.Mentions id ∨ Symbol.nonterminal id ∈ symbols := by
  constructor
  · rintro ⟨rule, production, found, mentioned⟩
    rcases found_withProduction found with before | ⟨-, rfl⟩
    · exact Or.inl ⟨rule, production, before, mentioned⟩
    · exact Or.inr mentioned
  · rintro (⟨rule, production, found, mentioned⟩ | mentioned)
    · exact ⟨rule, production, getElem?_withProduction_of_some found lhs symbols, mentioned⟩
    · exact ⟨_, _, getElem?_withProduction g lhs symbols, mentioned⟩

/-- Adding a production flags what it mentions. -/
theorem Flagged.addProduction (flagged : g.Flagged) {lhs : NonterminalId} {symbols : List Symbol}
    {rule : ProductionId} (added : g.addProduction lhs symbols = (.ok rule, h)) : h.Flagged := by
  obtain ⟨-, known, ⟨-, -, rfl⟩ | ⟨-, -, rfl⟩⟩ := addProduction_eq_ok added
  · exact flagged
  intro id
  calc
    _ ↔ (g.reference symbols).isFlagged id = true := Iff.rfl
    _ ↔ g.isFlagged id = true ∨ Symbol.nonterminal id ∈ symbols := isFlagged_reference known
    _ ↔ g.Mentions id ∨ Symbol.nonterminal id ∈ symbols := by rw [flagged id]
    _ ↔ _ := (mentions_withProduction g lhs symbols).symm

/-- That the flags are right is an invariant. -/
theorem Flagged.invariant : Invariant Flagged where
  start := by
    intro id
    simp [isFlagged, Mentions, empty]
  nonterminalId name flagged :=
    flagged.congr (productions_nonterminalId _ name) (isFlagged_nonterminalId _ name)
  defineAt name place flagged :=
    flagged.congr (productions_nonterminalId _ name) (isFlagged_defineAt _ name place)
  terminalId entered flagged := by
    rcases terminalId_eq_ok entered with ⟨-, rfl⟩ | ⟨_, -, -, -, rfl⟩
    · exact flagged
    · exact flagged.congr rfl (fun _ => rfl)
  addProduction added flagged := flagged.addProduction added

/-- A nonterminal of a grammar built by entries is flagged as mentioned exactly if some right-hand
side mentions it. -/
theorem Built.referenced_iff (built : g.Built) {nonterminal : Nonterminal}
    (found : g.nonterminals[id]? = some nonterminal) :
    nonterminal.referenced = true ↔ g.Mentions id := by
  rw [← Flagged.invariant.of_built built id, isFlagged, found]
  rfl

end ChartParser.Grammar
