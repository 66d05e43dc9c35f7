import ChartParser.Proofs.Grammar.DerivationTree
import ChartParser.Proofs.Grammar.Productive
import ChartParser.Proofs.Grammar.Renaming
import Mathlib.Data.List.Nodup
import Mathlib.GroupTheory.Perm.ViaEmbedding

/-!
# Grammars known by names

Read by names, a grammar is a list of productions, in the order in which they were entered. If two
grammars list the same productions in different orders, their symbols and productions have different
ids. Names find what belongs together: a name belongs to one symbol of its kind, and what a terminal
asks for is written in its name. From that there is a renaming that carries one grammar to the other
(`Grammar.exists_carries`).
-/

namespace ChartParser

/-! ## Places in lists -/

section Places

variable {α : Type}

/-- Where a list is another one in a different order, places can be exchanged for places. -/
theorem exists_places_of_perm {left right : List α} (perm : left.Perm right) :
    ∃ places : Equiv.Perm Nat, ∀ index, right[places index]? = left[index]? := by
  induction perm with
  | nil => exact ⟨1, fun _ => rfl⟩
  | @cons first left right _ ih =>
    obtain ⟨places, same⟩ := ih
    let later : Nat ↪ Nat := ⟨Nat.succ, Nat.succ_injective⟩
    refine ⟨places.viaEmbedding later, fun index => ?_⟩
    cases index with
    | zero =>
      have front : 0 ∉ Set.range later := by
        rintro ⟨index, after⟩
        exact Nat.succ_ne_zero index after
      rw [Equiv.Perm.viaEmbedding_apply_of_notMem _ _ _ front]
      rfl
    | succ index =>
      have shifted := Equiv.Perm.viaEmbedding_apply places later index
      rw [show index + 1 = later index from rfl, shifted]
      exact same index
  | swap first second rest =>
    refine ⟨Equiv.swap 0 1, fun index => ?_⟩
    match index with
    | 0 => rw [Equiv.swap_apply_left]; rfl
    | 1 => rw [Equiv.swap_apply_right]; rfl
    | index + 2 =>
      rw [Equiv.swap_apply_of_ne_of_ne (Nat.succ_ne_zero _) (by omega)]
      rfl
  | trans _ _ first second =>
    obtain ⟨places, same⟩ := first
    obtain ⟨onward, sameToo⟩ := second
    refine ⟨places.trans onward, fun index => ?_⟩
    rw [Equiv.trans_apply, sameToo, same]

/-- Between two lists without repetitions, places can be exchanged for places so that what is in
both lists keeps to its place. -/
theorem exists_places_of_nodup [DecidableEq α] {left right : List α} (once : left.Nodup)
    (onceToo : right.Nodup) :
    ∃ places : Equiv.Perm Nat, ∀ index name, left[index]? = some name → name ∈ right →
      right[places index]? = some name := by
  have extended : ∀ {first second : List α}, first.Nodup → second.Nodup →
      (first ++ second.filter (· ∉ first)).Nodup := by
    intro first second nodup nodupToo
    refine nodup.append (nodupToo.filter _) ?_
    intro name inside filtered
    simp [inside] at filtered
  have perm : (left ++ right.filter (· ∉ left)).Perm (right ++ left.filter (· ∉ right)) := by
    refine (List.perm_ext_iff_of_nodup (extended once onceToo) (extended onceToo once)).2 ?_
    intro name
    simp only [List.mem_append, List.mem_filter, decide_eq_true_eq]
    tauto
  obtain ⟨places, same⟩ := exists_places_of_perm perm
  refine ⟨places, fun index name found inside => ?_⟩
  have before : index < left.length := (List.getElem?_eq_some_iff.1 found).1
  have moved := same index
  rw [List.getElem?_append_left before, found] at moved
  by_cases within : places index < right.length
  · rwa [List.getElem?_append_left within] at moved
  · rw [List.getElem?_append_right (Nat.le_of_not_lt within)] at moved
    have beyond := List.mem_of_getElem? moved
    simp [inside] at beyond

/-- Between two tables in which a key belongs to one entry only, places can be exchanged for places
so that a key of both tables keeps to its place. -/
theorem exists_places {β : Type} [DecidableEq α] (left right : Array β) (key : β → α)
    (unique : ∀ {first second : Nat} {name : α}, (left[first]?).map key = some name →
      (left[second]?).map key = some name → first = second)
    (uniqueToo : ∀ {first second : Nat} {name : α}, (right[first]?).map key = some name →
      (right[second]?).map key = some name → first = second) :
    ∃ places : Equiv.Perm Nat, ∀ {id : Nat} {name : α}, (left[id]?).map key = some name →
      (∃ other : Nat, (right[other]?).map key = some name) →
        (right[places id]?).map key = some name := by
  have keys : ∀ (table : Array β) (id : Nat),
      (table.toList.map key)[id]? = (table[id]?).map key := by
    intro table id
    rw [List.getElem?_map, Array.getElem?_toList]
  obtain ⟨places, kept⟩ :=
    exists_places_of_nodup (nodup_keys left key unique) (nodup_keys right key uniqueToo)
  refine ⟨places, fun {id name} found ⟨other, foundToo⟩ => ?_⟩
  rw [← keys] at found foundToo ⊢
  exact kept id name found (List.mem_of_getElem? foundToo)

end Places

/-! ## Names of symbols and productions -/

/-- The name of a symbol. Terminals and nonterminals have names of their own, so that a text may
name one of each. -/
inductive SymbolName where
  | terminal (name : String)
  | nonterminal (name : String)
deriving DecidableEq, Repr

/-- Whether a name starts in upper case, as those of nonterminals do in rules. -/
def startsUppercase (name : String) : Bool := name.toList.head?.any Text.isUppercase

/-- The name of a symbol whose kind follows its plain name. -/
def SymbolName.ofPlain (named : String → Bool) (name : String) : SymbolName :=
  if named name then .nonterminal name else .terminal name

namespace Grammar

variable {g h : Grammar}

/-- The name of the root. -/
def rootName? (g : Grammar) : Option String :=
  g.root?.bind fun root => g.symbolName? (.nonterminal root)

/-- The name by which the symbol is known. -/
def nameSymbol (g : Grammar) : Symbol → SymbolName
  | .terminal id => .terminal (g.nameOf (.terminal id))
  | .nonterminal id => .nonterminal (g.nameOf (.nonterminal id))

/-- The production, read by the names of its symbols. -/
def nameProduction (g : Grammar) (production : Production) : String × List SymbolName :=
  (g.nameOf (.nonterminal production.lhs), production.symbols.map g.nameSymbol)

/-- The productions by names, in the order in which they were entered. -/
def namedProductions (g : Grammar) : List (String × List SymbolName) :=
  g.productions.toList.map g.nameProduction

/-- The productions by plain names, in which a terminal may look like a nonterminal. -/
def plainProductions (g : Grammar) : List (String × List String) :=
  g.productions.toList.map fun production =>
    (g.nameOf (.nonterminal production.lhs), production.symbols.map g.nameOf)

/-- In right-hand sides the nonterminals are the symbols with a name of this kind. -/
def KindsFollow (g : Grammar) (named : String → Bool) : Prop :=
  ∀ production ∈ g.productions.toList, ∀ symbol ∈ production.symbols,
    symbol.nonterminal?.isSome = named (g.nameOf symbol)

/-- Where kinds follow names, the name of a symbol is read off its plain name. -/
theorem nameSymbol_eq (g : Grammar) (symbol : Symbol) {named : String → Bool}
    (follows : symbol.nonterminal?.isSome = named (g.nameOf symbol)) :
    .ofPlain named (g.nameOf symbol) = g.nameSymbol symbol := by
  rw [SymbolName.ofPlain, ← follows]
  cases symbol <;> rfl

/-- Where kinds follow names, productions are read off their plain names. -/
theorem KindsFollow.map_plainProductions {named : String → Bool} (kinds : g.KindsFollow named) :
    g.plainProductions.map (Prod.map id (List.map (.ofPlain named))) = g.namedProductions := by
  rw [plainProductions, namedProductions, List.map_map]
  refine List.map_congr_left fun production inside => ?_
  refine Prod.ext rfl ?_
  refine Eq.trans List.map_map ?_
  exact List.map_congr_left fun symbol mentioned =>
    g.nameSymbol_eq symbol (kinds production inside symbol mentioned)

/-- Where kinds follow names, the same productions by plain names are the same productions. -/
theorem namedProductions_perm {named : String → Bool} (kinds : g.KindsFollow named)
    (kindsToo : h.KindsFollow named) (same : g.plainProductions.Perm h.plainProductions) :
    g.namedProductions.Perm h.namedProductions := by
  rw [← kinds.map_plainProductions, ← kindsToo.map_plainProductions]
  exact same.map _

/-- Symbols that have been entered are told apart by their names. -/
theorem Consistent.nameSymbol_inj (consistent : g.Consistent) {left right : Symbol}
    (known : g.knows left = true) (knownToo : g.knows right = true)
    (same : g.nameSymbol left = g.nameSymbol right) : left = right := by
  cases left with
  | terminal _ =>
    cases right with
    | terminal _ =>
      rw [consistent.nameOf_terminal_inj known knownToo (SymbolName.terminal.inj same)]
    | nonterminal _ => simp [nameSymbol] at same
  | nonterminal _ =>
    cases right with
    | terminal _ => simp [nameSymbol] at same
    | nonterminal _ =>
      rw [consistent.nameOf_nonterminal_inj known knownToo (SymbolName.nonterminal.inj same)]

/-- A nonterminal that is the left-hand side of a production has been entered. -/
theorem Consistent.knows_lhs (consistent : g.Consistent) {rule : ProductionId}
    {production : Production} (found : g.productions[rule]? = some production) :
    g.knows (.nonterminal production.lhs) = true := by
  simpa [knows] using consistent.lhs_lt found

/-- Strings of known symbols are told apart by the names in them. -/
theorem Consistent.map_nameSymbol_inj (consistent : g.Consistent) {left right : List Symbol}
    (known : ∀ symbol ∈ left, g.knows symbol = true)
    (knownToo : ∀ symbol ∈ right, g.knows symbol = true)
    (same : left.map g.nameSymbol = right.map g.nameSymbol) : left = right := by
  induction left generalizing right with
  | nil => exact (List.map_eq_nil_iff.1 same.symm).symm
  | cons first rest ih =>
    cases right with
    | nil => simp at same
    | cons other others =>
      obtain ⟨knownFirst, knownRest⟩ := List.forall_mem_cons.1 known
      obtain ⟨knownOther, knownOthers⟩ := List.forall_mem_cons.1 knownToo
      obtain ⟨sameFirst, sameRest⟩ := List.cons.inj same
      rw [consistent.nameSymbol_inj knownFirst knownOther sameFirst,
        ih knownRest knownOthers sameRest]

/-- Productions of known symbols with the same names in them have the same sides. -/
theorem Consistent.nameProduction_inj (consistent : g.Consistent) {left right : Production}
    (lhs : g.knows (.nonterminal left.lhs) = true)
    (lhsToo : g.knows (.nonterminal right.lhs) = true)
    (known : ∀ symbol ∈ left.symbols, g.knows symbol = true)
    (knownToo : ∀ symbol ∈ right.symbols, g.knows symbol = true)
    (same : g.nameProduction left = g.nameProduction right) :
    left.lhs = right.lhs ∧ left.symbols = right.symbols := by
  obtain ⟨sameLhs, sameSymbols⟩ := Prod.mk.inj same
  exact ⟨consistent.nameOf_nonterminal_inj lhs lhsToo sameLhs,
    consistent.map_nameSymbol_inj known knownToo sameSymbols⟩

/-! ## What terminals ask for -/

/-- Every terminal is the one that its name describes. -/
def Described (g : Grammar) : Prop :=
  ∀ (id : TerminalId) (terminal : Terminal), g.terminals[id]? = some terminal →
    Terminal.ofSpec terminal.name = .ok terminal

/-- That terminals are described by their names is an invariant. -/
theorem Described.invariant : Invariant Described where
  start := by
    intro id terminal found
    simp [empty] at found
  nonterminalId name described := by
    unfold Grammar.nonterminalId
    split
    · exact described
    · exact described
  defineAt name place described := by
    unfold Grammar.defineAt Grammar.nonterminalId
    dsimp only
    split
    · exact described
    · exact described
  terminalId entered described := by
    rcases terminalId_eq_ok entered with ⟨-, rfl⟩ | ⟨terminal, -, read, -, rfl⟩
    · exact described
    intro id other found
    change (_ : Array Terminal)[id]? = some other at found
    rw [withTerminal, Array.getElem?_push] at found
    split at found
    · obtain rfl := Option.some.inj found
      rw [name_of_ofSpec read, read]
    · exact described id other found
  addProduction added described := by
    obtain ⟨-, -, ⟨-, -, rfl⟩ | ⟨-, -, rfl⟩⟩ := addProduction_eq_ok added
    · exact described
    · exact described

/-- Terminals of the same name are the same terminal. -/
theorem Described.terminals_eq (described : g.Described) (describedToo : h.Described)
    {id other : TerminalId}
    (same : h.symbolName? (.terminal other) = g.symbolName? (.terminal id)) :
    h.terminals[other]? = g.terminals[id]? := by
  have names : (h.terminals[other]?).map Terminal.name = (g.terminals[id]?).map Terminal.name :=
    same
  cases found : g.terminals[id]? with
  | none => simpa [found] using names
  | some terminal =>
    rw [found] at names
    obtain ⟨longer, foundToo, alike⟩ := Option.map_eq_some_iff.1 names
    have first := described id terminal found
    have second := describedToo other longer foundToo
    rw [alike, first] at second
    rw [foundToo, Except.ok.inj second]

/-! ## The same productions in different orders -/

/-- The nonterminals of a checked grammar are those that productions are named after. -/
theorem Consistent.exists_nonterminal_iff (consistent : g.Consistent) (checked : g.check = .ok ())
    (name : String) : (∃ id, g.symbolName? (.nonterminal id) = some name) ↔
      ∃ names, (name, names) ∈ g.namedProductions := by
  constructor
  · rintro ⟨id, named⟩
    have known : g.knows (.nonterminal id) = true := knows_iff.2 ⟨name, named⟩
    have inside : id < g.nonterminals.size := by simpa [knows] using known
    obtain ⟨rule, listed⟩ := List.exists_mem_of_ne_nil _ (check_eq_ok checked inside).1
    obtain ⟨production, found, rfl⟩ := consistent.mem_productionsOf.1 listed
    have present := List.mem_map_of_mem (f := g.nameProduction)
      (Array.mem_toList_iff.2 (Array.mem_of_getElem? found))
    have owned : g.nameOf (.nonterminal production.lhs) = name := by
      rw [nameOf, named, Option.getD_some]
    rw [nameProduction, owned] at present
    exact ⟨_, present⟩
  · rintro ⟨names, inside⟩
    obtain ⟨production, listed, same⟩ := List.mem_map.1 inside
    obtain ⟨rule, found⟩ := Array.mem_iff_getElem?.1 (Array.mem_toList_iff.1 listed)
    obtain ⟨rfl, -⟩ := Prod.mk.inj same
    exact ⟨production.lhs, symbolName?_eq_some (consistent.knows_lhs found)⟩

/-- A terminal in use is the one of its name in a grammar with the same productions. -/
theorem Consistent.exists_terminal (consistent : g.Consistent) (consistentToo : h.Consistent)
    (same : g.namedProductions.Perm h.namedProductions) {id : TerminalId} (used : g.Uses id) :
    ∃ name, g.symbolName? (.terminal id) = some name ∧
      ∃ other, h.symbolName? (.terminal other) = some name := by
  obtain ⟨rule, production, found, inside⟩ := used
  have named := symbolName?_eq_some (consistent.known found _ inside)
  refine ⟨_, named, ?_⟩
  have listed : g.nameProduction production ∈ h.namedProductions := by
    refine same.mem_iff.1 (List.mem_map_of_mem ?_)
    exact Array.mem_toList_iff.2 (Array.mem_of_getElem? found)
  obtain ⟨longer, present, alike⟩ := List.mem_map.1 listed
  obtain ⟨ruleToo, foundToo⟩ := Array.mem_iff_getElem?.1 (Array.mem_toList_iff.1 present)
  have mentioned : g.nameSymbol (.terminal id) ∈ (h.nameProduction longer).2 := by
    rw [alike]
    exact List.mem_map_of_mem inside
  obtain ⟨symbol, insideToo, sameName⟩ := List.mem_map.1 mentioned
  have namedToo := symbolName?_eq_some (consistentToo.known foundToo symbol insideToo)
  cases symbol with
  | nonterminal _ => simp [nameSymbol] at sameName
  | terminal other =>
    rw [SymbolName.terminal.inj sameName] at namedToo
    exact ⟨other, namedToo⟩

/-- If both grammars have the same names of nonterminals, each nonterminal has a new id under which
it keeps its name. -/
theorem exists_nonterminal_places (consistent : g.Consistent) (consistentToo : h.Consistent)
    (same : ∀ name, (∃ id, g.symbolName? (.nonterminal id) = some name) ↔
      ∃ id, h.symbolName? (.nonterminal id) = some name) :
    ∃ places : Equiv.Perm NonterminalId, ∀ id,
      h.symbolName? (.nonterminal (places id)) = g.symbolName? (.nonterminal id) := by
  obtain ⟨places, kept⟩ := exists_places g.nonterminals h.nonterminals Nonterminal.name
    consistent.nonterminal_unique consistentToo.nonterminal_unique
  have moved : ∀ {id : NonterminalId} {name : String},
      g.symbolName? (.nonterminal id) = some name →
        h.symbolName? (.nonterminal (places id)) = some name :=
    fun {id name} named => kept named ((same name).1 ⟨id, named⟩)
  refine ⟨places, fun id => ?_⟩
  cases named : g.symbolName? (.nonterminal id) with
  | some name => exact moved named
  | none =>
    -- A name at this place would belong to another nonterminal, which has been moved elsewhere.
    cases taken : h.symbolName? (.nonterminal (places id)) with
    | none => rfl
    | some name =>
      obtain ⟨other, namedOther⟩ := (same name).2 ⟨_, taken⟩
      have together := consistentToo.nonterminal_unique (moved namedOther) taken
      obtain rfl := places.injective together
      simp [named] at namedOther

/-- A renaming that keeps the names of nonterminals and of the terminals in use keeps the names in
productions. -/
theorem nameProduction_rule {change : Renaming}
    (nonterminals : ∀ id, h.symbolName? (.nonterminal (change.nonterminal id)) =
      g.symbolName? (.nonterminal id))
    (terminals : ∀ id, g.Uses id → h.symbolName? (.terminal (change.terminal id)) =
      g.symbolName? (.terminal id))
    {rule : ProductionId} {production : Production}
    (found : g.productions[rule]? = some production) :
    h.nameProduction (change.rule production) = g.nameProduction production ∧
      ∀ symbol ∈ production.symbols,
        h.symbolName? (change.symbol symbol) = g.symbolName? symbol := by
  have names : ∀ symbol ∈ production.symbols,
      h.symbolName? (change.symbol symbol) = g.symbolName? symbol := by
    intro symbol inside
    cases symbol with
    | terminal id => exact terminals id ⟨rule, production, found, inside⟩
    | nonterminal id => exact nonterminals id
  have symbols : ∀ symbol ∈ production.symbols,
      h.nameSymbol (change.symbol symbol) = g.nameSymbol symbol := by
    intro symbol inside
    have named := names symbol inside
    cases symbol with
    | terminal id => exact congrArg (SymbolName.terminal <| Option.getD · "") named
    | nonterminal id => exact congrArg (SymbolName.nonterminal <| Option.getD · "") named
  refine ⟨?_, names⟩
  rw [nameProduction, nameProduction, Renaming.rule, List.map_map]
  refine Prod.ext ?_ (List.map_congr_left symbols)
  exact congrArg (Option.getD · "") (nonterminals production.lhs)

/-- A production that has the same names in it is the same production under the new ids. -/
theorem productions_eq (consistent : g.Consistent) (consistentToo : h.Consistent)
    {change : Renaming}
    (nonterminals : ∀ id, h.symbolName? (.nonterminal (change.nonterminal id)) =
      g.symbolName? (.nonterminal id))
    (terminals : ∀ id, g.Uses id → h.symbolName? (.terminal (change.terminal id)) =
      g.symbolName? (.terminal id))
    {rule : ProductionId}
    (same : (h.productions[change.production rule]?).map h.nameProduction =
      (g.productions[rule]?).map g.nameProduction) :
    h.productions[change.production rule]? = g.productions[rule]?.map change.rule := by
  cases found : g.productions[rule]? with
  | none => simpa [found] using same
  | some production =>
    rw [found] at same
    obtain ⟨longer, foundToo, alike⟩ := Option.map_eq_some_iff.1 same
    obtain ⟨renamed, names⟩ := nameProduction_rule nonterminals terminals found
    have lhs : h.knows (.nonterminal (change.nonterminal production.lhs)) = true := by
      rw [knows_iff, nonterminals]
      exact knows_iff.1 (consistent.knows_lhs found)
    have known : ∀ symbol ∈ (change.rule production).symbols, h.knows symbol = true := by
      intro symbol inside
      obtain ⟨old, mentioned, rfl⟩ := List.mem_map.1 inside
      rw [knows_iff, names old mentioned]
      exact knows_iff.1 (consistent.known found old mentioned)
    obtain ⟨sameLhs, sameSymbols⟩ := consistentToo.nameProduction_inj
      (consistentToo.knows_lhs foundToo) lhs (consistentToo.known foundToo) known
      (alike.trans renamed.symm)
    have sameId : longer.id = change.production production.id := by
      rw [consistentToo.production_id foundToo, consistent.production_id found]
    have equal : longer = change.rule production := Production.ext sameId sameLhs sameSymbols
    rw [foundToo, equal, Option.map_some]

/-- If two grammars have the same names of nonterminals and the same productions by names, whatever
their order, there is a renaming that carries one to the other. -/
theorem exists_carries_of_names (built : g.Built) (builtToo : h.Built)
    (names : ∀ name, (∃ id, g.symbolName? (.nonterminal id) = some name) ↔
      ∃ id, h.symbolName? (.nonterminal id) = some name)
    (same : g.namedProductions.Perm h.namedProductions) :
    ∃ change : Renaming, change.Carries g h := by
  have consistent := built.consistent
  have consistentToo := builtToo.consistent
  obtain ⟨nonterminal, nonterminals⟩ :=
    exists_nonterminal_places consistent consistentToo names
  obtain ⟨terminal, kept⟩ := exists_places g.terminals h.terminals Terminal.name
    consistent.terminal_unique consistentToo.terminal_unique
  have terminals : ∀ id, g.Uses id →
      h.symbolName? (.terminal (terminal id)) = g.symbolName? (.terminal id) := by
    intro id used
    obtain ⟨name, named, namedToo⟩ := consistent.exists_terminal consistentToo same used
    rw [named]
    exact kept named namedToo
  obtain ⟨rule, rules⟩ := exists_places_of_perm same
  let change : Renaming := ⟨nonterminal, terminal, rule⟩
  refine ⟨change, nonterminals, fun id used => ?_, fun id => ?_⟩
  · have described := Described.invariant.of_built built
    exact described.terminals_eq (Described.invariant.of_built builtToo) (terminals id used)
  · have alike := rules id
    rw [namedProductions, namedProductions, List.getElem?_map, List.getElem?_map,
      Array.getElem?_toList, Array.getElem?_toList] at alike
    have moved : h.productions[change.production id]? = g.productions[id]?.map change.rule :=
      productions_eq consistent consistentToo nonterminals terminals alike
    exact moved

/-- If two checked grammars have the same productions by names, whatever their order, there is a
renaming that carries one to the other. -/
theorem exists_carries (built : g.Built) (builtToo : h.Built) (checked : g.check = .ok ())
    (checkedToo : h.check = .ok ()) (same : g.namedProductions.Perm h.namedProductions) :
    ∃ change : Renaming, change.Carries g h := by
  refine exists_carries_of_names built builtToo (fun name => ?_) same
  rw [built.consistent.exists_nonterminal_iff checked,
    builtToo.consistent.exists_nonterminal_iff checkedToo]
  exact exists_congr fun _ => same.mem_iff

end Grammar

end ChartParser
