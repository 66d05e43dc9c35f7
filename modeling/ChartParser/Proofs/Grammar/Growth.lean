import ChartParser.Proofs.Grammar.Entries

/-!
# Grammars that grow

What a grammar has entered stays as it is, whatever is entered later: ids are never given to
anything else, terminals and productions never change, of a nonterminal only the flags are still
set, and lists of productions only grow at their end (`Grammar.Persists`). What an operation answers
is found under the id that it answers with, and so it is found there for good.
-/

namespace ChartParser

/-- A nonterminal later on: it has its name, its flags are still set where they were, and its place
is settled once it is defined. -/
structure Nonterminal.Grows (before after : Nonterminal) : Prop where
  name : after.name = before.name
  referenced : before.referenced = true → after.referenced = true
  defined : before.defined = true → after.defined = true ∧ after.place = before.place

namespace Nonterminal.Grows

variable {before middle after : Nonterminal}

/-- A nonterminal may stay as it is. -/
theorem refl (nonterminal : Nonterminal) : nonterminal.Grows nonterminal where
  name := rfl
  referenced set := set
  defined set := ⟨set, rfl⟩

/-- A nonterminal may grow again. -/
theorem trans (first : before.Grows middle) (second : middle.Grows after) :
    before.Grows after where
  name := second.name.trans first.name
  referenced set := second.referenced (first.referenced set)
  defined set := by
    have once := first.defined set
    have twice := second.defined once.1
    exact ⟨twice.1, twice.2.trans once.2⟩

/-- A nonterminal grows when it is marked as defined. -/
theorem markDefined (place : Location) (nonterminal : Nonterminal) :
    nonterminal.Grows (Grammar.markDefined place nonterminal) := by
  unfold Grammar.markDefined
  by_cases defined : nonterminal.defined = true
  · rw [if_pos defined]
    exact refl nonterminal
  · rw [if_neg defined]
    exact ⟨rfl, id, fun set => absurd set defined⟩

/-- A nonterminal grows when it is marked as referenced. -/
theorem reference (nonterminal : Nonterminal) :
    nonterminal.Grows { nonterminal with referenced := true } :=
  ⟨rfl, fun _ => rfl, fun set => ⟨set, rfl⟩⟩

end Nonterminal.Grows

namespace Grammar

variable {g h k : Grammar} {id : Nat}

/-- All that the first grammar has entered, the second one has as well, under the same ids. -/
structure Persists (g h : Grammar) : Prop where
  root : ∀ {root : NonterminalId}, g.root? = some root → h.root? = some root
  nonterminal : ∀ {id : NonterminalId} {nonterminal : Nonterminal},
    g.nonterminals[id]? = some nonterminal →
      ∃ later, h.nonterminals[id]? = some later ∧ nonterminal.Grows later
  terminal : ∀ {id : TerminalId} {terminal : Terminal},
    g.terminals[id]? = some terminal → h.terminals[id]? = some terminal
  production : ∀ {rule : ProductionId} {production : Production},
    g.productions[rule]? = some production → h.productions[rule]? = some production
  productionsOf : ∀ id, g.productionsOf id <+: h.productionsOf id

namespace Persists

/-- A grammar has all that it has. -/
theorem refl (g : Grammar) : g.Persists g where
  root known := known
  nonterminal found := ⟨_, found, .refl _⟩
  terminal found := found
  production found := found
  productionsOf _ := List.prefix_refl _

/-- A grammar may grow again. -/
theorem trans (first : g.Persists h) (second : h.Persists k) : g.Persists k where
  root known := second.root (first.root known)
  nonterminal found := by
    obtain ⟨middle, foundMiddle, grows⟩ := first.nonterminal found
    obtain ⟨later, foundLater, growsOn⟩ := second.nonterminal foundMiddle
    exact ⟨later, foundLater, grows.trans growsOn⟩
  terminal found := second.terminal (first.terminal found)
  production found := second.production (first.production found)
  productionsOf id := (first.productionsOf id).trans (second.productionsOf id)

/-- A symbol keeps its name. -/
theorem symbolName? (persists : g.Persists h) {symbol : Symbol} {name : String}
    (named : g.symbolName? symbol = some name) : h.symbolName? symbol = some name := by
  cases symbol with
  | terminal id =>
    obtain ⟨terminal, found, same⟩ := Option.map_eq_some_iff.1 named
    exact Option.map_eq_some_iff.2 ⟨terminal, persists.terminal found, same⟩
  | nonterminal id =>
    obtain ⟨nonterminal, found, same⟩ := Option.map_eq_some_iff.1 named
    obtain ⟨later, foundLater, grows⟩ := persists.nonterminal found
    exact Option.map_eq_some_iff.2 ⟨later, foundLater, grows.name.trans same⟩

/-- A symbol that is known stays known. -/
theorem knows (persists : g.Persists h) {symbol : Symbol} (known : g.knows symbol = true) :
    h.knows symbol = true := by
  obtain ⟨name, named⟩ := knows_iff.1 known
  exact knows_iff.2 ⟨name, persists.symbolName? named⟩

/-- A change that lets a nonterminal grow lets the grammar grow. -/
theorem modify (g : Grammar) (id : NonterminalId) {change : Nonterminal → Nonterminal}
    (grows : ∀ nonterminal : Nonterminal, nonterminal.Grows (change nonterminal)) :
    g.Persists { g with nonterminals := g.nonterminals.modify id change } where
  root known := known
  nonterminal {other nonterminal} found := by
    show ∃ later, (g.nonterminals.modify id change)[other]? = some later ∧ _
    rw [Array.getElem?_modify, found]
    by_cases same : id = other
    · exact ⟨_, if_pos same, grows nonterminal⟩
    · exact ⟨_, if_neg same, .refl nonterminal⟩
  terminal found := found
  production found := found
  productionsOf _ := List.prefix_refl _

/-- Entering a nonterminal by name leaves what is there. -/
theorem nonterminalId (g : Grammar) (name : String) : g.Persists (g.nonterminalId name).2 := by
  have lists := fun id => (productionsOf_nonterminalId g name id).symm
  unfold Grammar.nonterminalId at lists ⊢
  split
  · exact refl g
  · rename_i missed
    rw [missed] at lists
    exact {
      root := fun known => known
      nonterminal := fun found => ⟨_, getElem?_push_of_some found _, .refl _⟩
      terminal := fun found => found
      production := fun found => found
      productionsOf := fun id => lists id ▸ List.prefix_refl _ }

/-- A root that is set where there is none leaves what is there. -/
theorem setRoot (g : Grammar) (id : NonterminalId) :
    g.Persists { g with root? := some (g.root?.getD id) } where
  root known := by rw [known]; rfl
  nonterminal found := ⟨_, found, .refl _⟩
  terminal found := found
  production found := found
  productionsOf _ := List.prefix_refl _

/-- Defining a nonterminal leaves what is there. -/
theorem defineAt (g : Grammar) (name : String) (place : Location) :
    g.Persists (g.defineAt name place).2 := by
  have entered := nonterminalId g name
  have marked := modify (g.nonterminalId name).2 (g.nonterminalId name).1
    (Nonterminal.Grows.markDefined place)
  have rooted := setRoot
    { (g.nonterminalId name).2 with
      nonterminals := (g.nonterminalId name).2.nonterminals.modify (g.nonterminalId name).1
        (markDefined place) } (g.nonterminalId name).1
  exact entered.trans (marked.trans rooted)

/-- Entering a terminal by its spec leaves what is there. -/
theorem terminalId {spec : String} {id : TerminalId} (entered : g.terminalId spec = (.ok id, h)) :
    g.Persists h := by
  rcases terminalId_eq_ok entered with ⟨-, rfl⟩ | ⟨terminal, -, -, -, rfl⟩
  · exact refl h
  · exact {
      root := fun known => known
      nonterminal := fun found => ⟨_, found, .refl _⟩
      terminal := fun found => getElem?_push_of_some found _
      production := fun found => found
      productionsOf := fun _ => List.prefix_refl _ }

/-- Marking nonterminals as referenced leaves what is there. -/
theorem reference (g : Grammar) (symbols : List Symbol) : g.Persists (g.reference symbols) := by
  unfold Grammar.reference
  generalize symbols.filterMap Symbol.nonterminal? = ids
  induction ids generalizing g with
  | nil => exact refl g
  | cons id ids ih =>
    rw [List.foldl_cons]
    exact (modify g id Nonterminal.Grows.reference).trans (ih _)

/-- A new production leaves what is there. -/
theorem withProduction (g : Grammar) (lhs : NonterminalId) (symbols : List Symbol) :
    g.Persists (g.withProduction lhs symbols) where
  root known := known
  nonterminal found := (reference g symbols).nonterminal found
  terminal found := found
  production found := getElem?_withProduction_of_some found lhs symbols
  productionsOf id := by
    simp only [Grammar.productionsOf, Grammar.withProduction, Array.getElem?_modify]
    split
    · cases g.byLhs[id]? with
      | none => exact List.prefix_refl _
      | some listed => exact List.prefix_append _ _
    · exact List.prefix_refl _

/-- Adding a production leaves what is there. -/
theorem addProduction {lhs : NonterminalId} {symbols : List Symbol} {rule : ProductionId}
    (added : g.addProduction lhs symbols = (.ok rule, h)) : g.Persists h := by
  obtain ⟨-, -, ⟨-, -, rfl⟩ | ⟨-, -, rfl⟩⟩ := addProduction_eq_ok added
  · exact refl h
  · exact withProduction g lhs symbols

/-- What a grammar has entered is kept by every operation. -/
theorem kept (g : Grammar) : Kept g.Persists where
  nonterminalId name before := before.trans (nonterminalId _ name)
  defineAt name place before := before.trans (defineAt _ name place)
  terminalId entered before := before.trans (terminalId entered)
  addProduction added before := before.trans (addProduction added)

/-- Entering symbols by name leaves what is there. -/
theorem symbols {names : List String} {result : Except Fault (List Symbol)}
    (entered : g.symbols names = (result, h)) : g.Persists h :=
  (kept g).of_symbols (.refl g) entered

end Persists

/-! ## What the operations answer -/

/-- The id that a nonterminal is entered with has its name. -/
theorem Consistent.symbolName?_nonterminalId (consistent : g.Consistent) (name : String) :
    (g.nonterminalId name).2.symbolName? (.nonterminal (g.nonterminalId name).1) = some name := by
  unfold Grammar.nonterminalId
  split
  · rename_i found
    exact consistent.findNonterminal?_eq_some.1 found
  · show ((g.nonterminals.push (.mentioned name))[g.nonterminals.size]?).map _ = some name
    rw [map_getElem?_push, if_pos rfl]
    rfl

/-- Names are those that there are once the nonterminal is entered; marking it changes none. -/
theorem symbolName?_defineAt_eq (g : Grammar) (name : String) (place : Location)
    (symbol : Symbol) :
    (g.defineAt name place).2.symbolName? symbol = (g.nonterminalId name).2.symbolName? symbol := by
  have marked := symbolName?_modify (g.nonterminalId name).2 (g.nonterminalId name).1
    (name_markDefined place) symbol
  cases symbol with
  | terminal _ => rfl
  | nonterminal _ => exact marked

/-- Defining a nonterminal changes no list of productions. -/
theorem productionsOf_defineAt (g : Grammar) (name : String) (place : Location)
    (id : NonterminalId) : (g.defineAt name place).2.productionsOf id = g.productionsOf id :=
  productionsOf_nonterminalId g name id

/-- The id that a nonterminal is defined with has its name. -/
theorem Consistent.symbolName?_defineAt (consistent : g.Consistent) (name : String)
    (place : Location) :
    (g.defineAt name place).2.symbolName? (.nonterminal (g.defineAt name place).1) =
      some name :=
  (symbolName?_defineAt_eq g name place _).trans (consistent.symbolName?_nonterminalId name)

/-- The id that a terminal is entered with has its spec. -/
theorem Consistent.symbolName?_terminalId (consistent : g.Consistent) {spec : String}
    {id : TerminalId} (entered : g.terminalId spec = (.ok id, h)) :
    h.symbolName? (.terminal id) = some spec := by
  rcases terminalId_eq_ok entered with ⟨found, rfl⟩ | ⟨terminal, -, described, rfl, rfl⟩
  · exact consistent.findTerminal?_eq_some.1 found
  · show ((g.terminals.push terminal)[g.terminals.size]?).map _ = some spec
    rw [map_getElem?_push, if_pos rfl, name_of_ofSpec described]

/-- A symbol that is entered by name has that name. It is a nonterminal exactly if the name starts
in upper case. -/
theorem Consistent.symbolName?_symbol (consistent : g.Consistent) {name : String}
    {symbol : Symbol} (entered : g.symbol name = (.ok symbol, h)) :
    h.symbolName? symbol = some name ∧
      symbol.nonterminal?.isSome = name.toList.head?.any Text.isUppercase := by
  rcases symbol_eq_ok entered with ⟨upper, rfl, rfl⟩ | ⟨lower, id, found, rfl⟩
  · exact ⟨consistent.symbolName?_nonterminalId name, upper.symm⟩
  · exact ⟨consistent.symbolName?_terminalId found, lower.symm⟩

/-- Marking nonterminals as referenced changes no name. -/
theorem symbolName?_reference (g : Grammar) (symbols : List Symbol) (symbol : Symbol) :
    (g.reference symbols).symbolName? symbol = g.symbolName? symbol := by
  cases symbol with
  | terminal _ => rfl
  | nonterminal id => exact map_getElem?_reference g symbols (fun _ => rfl) id

/-- Adding a production changes no name. -/
theorem symbolName?_addProduction {lhs : NonterminalId} {symbols : List Symbol}
    {rule : ProductionId} (added : g.addProduction lhs symbols = (.ok rule, h)) (symbol : Symbol) :
    h.symbolName? symbol = g.symbolName? symbol := by
  obtain ⟨-, -, ⟨-, -, rfl⟩ | ⟨-, -, rfl⟩⟩ := addProduction_eq_ok added
  · rfl
  · have same := symbolName?_reference g symbols symbol
    cases symbol <;> exact same

/-- The id that a production is added with has that production. -/
theorem Consistent.productions_addProduction (consistent : g.Consistent) {lhs : NonterminalId}
    {symbols : List Symbol} {rule : ProductionId}
    (added : g.addProduction lhs symbols = (.ok rule, h)) :
    h.productions[rule]? = some ⟨rule, lhs, symbols⟩ := by
  obtain ⟨-, -, ⟨rfl, present, rfl⟩ | ⟨-, rfl, rfl⟩⟩ := addProduction_eq_ok added
  · have listed : rule ∈ h.productionsOf lhs := List.mem_of_find?_eq_some present
    obtain ⟨production, here, rfl⟩ := consistent.mem_productionsOf.1 listed
    obtain rfl := consistent.production_id here
    have empty := List.find?_some present
    rw [here, Option.any_some, Production.isEmpty, List.isEmpty_iff] at empty
    rw [here, ← empty]
  · exact getElem?_withProduction g lhs symbols

end Grammar

end ChartParser
