import ChartParser.Proofs.Grammar.Symbols

/-!
# Grammars made of rules

Rules given by names are added one after the other. Each defines its left-hand side, enters the
symbols of its right-hand side, and adds the production. Which nonterminals are defined in the end
is up to the left-hand sides alone.
-/

namespace ChartParser.Grammar

variable {g h : Grammar} {name lhs : String} {place : Location} {id : NonterminalId}

/-- The rules, each of their alternatives with its left-hand side. -/
def alternativesOf (rules : List (String × List (List String))) : List (String × List String) :=
  rules.flatMap fun (lhs, listed) => listed.map (lhs, ·)

/-- The grammar with one more rule, unless that is refused. -/
def withRule (g : Grammar) (rule : String × List String) : Except GrammarError Grammar :=
  (accepted (g.addRule rule.1 rule.2)).map (·.2)

/-- The grammar of rules is made by adding them one after the other. -/
theorem ofRules_eq (rules : List (String × List String)) :
    ofRules rules = rules.foldlM withRule empty := rfl

/-- A rule is added by entering its symbols and then its production. -/
theorem withRule_eq (g : Grammar) (lhs : String) (names : List String) :
    g.withRule (lhs, names) =
      match (g.define lhs).2.symbols names with
      | (.error fault, _) => .error (.ofFault fault)
      | (.ok symbols, middle) =>
        (accepted (middle.addProduction (g.define lhs).1 symbols)).map (·.2) := by
  unfold withRule addRule
  dsimp only
  rcases (g.define lhs).2.symbols names with ⟨fault | symbols, middle⟩ <;> rfl

/-- A rule that has been added leaves the grammar after it. -/
theorem withRule_eq_ok_iff {rule : String × List String} :
    g.withRule rule = .ok h ↔ ∃ id, g.addRule rule.1 rule.2 = (.ok id, h) := by
  unfold withRule
  rw [map_eq_ok]
  constructor
  · rintro ⟨⟨id, next⟩, added, rfl⟩
    exact ⟨id, accepted_eq_ok.1 added⟩
  · rintro ⟨id, added⟩
    exact ⟨(id, h), accepted_eq_ok.2 added, rfl⟩

/-- A rule that has been added defines its left-hand side, has entered its symbols and added the
production. -/
theorem withRule_eq_ok {rule : String × List String} (added : g.withRule rule = .ok h) :
    ∃ symbols middle id, (g.define rule.1).2.symbols rule.2 = (.ok symbols, middle) ∧
      middle.addProduction (g.define rule.1).1 symbols = (.ok id, h) := by
  obtain ⟨id, accepted⟩ := withRule_eq_ok_iff.1 added
  obtain ⟨symbols, middle, entered, produced⟩ := addRule_eq_ok (congrArg Prod.fst accepted)
  rw [accepted] at produced
  exact ⟨symbols, middle, id, entered, produced⟩

/-- Adding a rule keeps what the operations keep. -/
theorem Kept.withRule {holds : Grammar → Prop} (kept : Kept holds) (before : holds g)
    {rule : String × List String} (added : g.withRule rule = .ok h) : holds h := by
  obtain ⟨id, accepted⟩ := withRule_eq_ok_iff.1 added
  have after := kept.addRule before rule.1 rule.2
  rwa [accepted] at after

/-- A grammar that has been made of rules is that of their entries. -/
theorem ofEntries_of_ofRules {rules : List (String × List String)} (made : ofRules rules = .ok g) :
    ofEntries (rules.map fun rule => .rule rule.1 rule.2) = g := by
  rw [ofRules_eq] at made
  unfold ofEntries
  generalize empty = first at made ⊢
  induction rules generalizing first with
  | nil => exact Except.ok.inj made
  | cons rule rules ih =>
    rw [List.foldlM_cons, bind_eq_ok] at made
    obtain ⟨next, added, rest⟩ := made
    obtain ⟨id, accepted⟩ := withRule_eq_ok_iff.1 added
    have entered : first.enter (.rule rule.1 rule.2) = next := congrArg Prod.snd accepted
    rw [List.map_cons, List.foldl_cons, entered]
    exact ih _ rest

/-- A grammar that has been made of rules is built by entries. -/
theorem built_of_ofRules {rules : List (String × List String)} (made : ofRules rules = .ok g) :
    g.Built :=
  ⟨_, ofEntries_of_ofRules made⟩

/-- The root is the left-hand side of the first rule. -/
theorem rootName?_ofRules {rules : List (String × List String)} (made : ofRules rules = .ok g) :
    g.rootName? = rules.head?.map Prod.fst := by
  rw [← ofEntries_of_ofRules made, rootName?_ofEntries]
  cases rules <;> rfl

/-- A rule is added if symbols can be entered by its names. -/
theorem Consistent.exists_withRule (consistent : g.Consistent) {names : List String}
    (enterable : ∀ name ∈ names, IsEnterable name) (lhs : String) :
    ∃ h, g.withRule (lhs, names) = .ok h := by
  obtain ⟨symbols, middle, entered⟩ := exists_symbols enterable (g.define lhs).2
  have defined : (g.define lhs).2.Consistent := consistent.defineAt lhs Location.unknown
  have inside := (Persists.symbols entered).knows
    (knows_iff.2 ⟨lhs, consistent.symbolName?_defineAt lhs Location.unknown⟩)
  have known : ∀ symbol ∈ symbols, middle.knows symbol = true := by
    intro symbol mentioned
    obtain ⟨name, -, denotes⟩ := exists_of_forall₂ (defined.denotes_symbols entered) mentioned
    exact knows_iff.2 ⟨name, denotes.named⟩
  rw [withRule_eq, entered]
  dsimp only
  have added := addProduction_eq inside known
  change middle.addProduction (g.define lhs).1 symbols = _ at added
  rw [added]
  split <;> exact ⟨_, rfl⟩

/-- Rules make a grammar if symbols can be entered by their names. -/
theorem exists_ofRules {rules : List (String × List String)}
    (enterable : ∀ rule ∈ rules, ∀ name ∈ rule.2, IsEnterable name) :
    ∃ g, ofRules rules = .ok g := by
  suffices run : ∀ first : Grammar, first.Consistent →
      ∃ g, rules.foldlM Grammar.withRule first = .ok g from run empty .empty
  induction rules with
  | nil => exact fun first _ => ⟨first, rfl⟩
  | cons rule rules ih =>
    intro first consistent
    obtain ⟨enterableFirst, enterableRest⟩ := List.forall_mem_cons.1 enterable
    obtain ⟨next, added⟩ := consistent.exists_withRule enterableFirst rule.1
    obtain ⟨g, made⟩ := ih enterableRest next (Consistent.invariant.withRule consistent added)
    exact ⟨g, by rw [List.foldlM_cons, bind_eq_ok]; exact ⟨next, added, made⟩⟩

/-! ## The productions of rules -/

/-- A rule adds a production of the symbols that its names stand for, unless it is a second empty
one of its left-hand side. -/
theorem Consistent.withRule (consistent : g.Consistent) {names : List String}
    (added : g.withRule (lhs, names) = .ok h) :
    ∃ (id : NonterminalId) (symbols : List Symbol),
      h.symbolName? (.nonterminal id) = some lhs ∧
      List.Forall₂ h.Denotes names symbols ∧
      (h.productions = g.productions.push ⟨g.productions.size, id, symbols⟩ ∨
        (symbols = [] ∧ ∃ rule : ProductionId, g.productions[rule]? = some ⟨rule, id, []⟩)) := by
  obtain ⟨symbols, middle, rule, entered, produced⟩ := withRule_eq_ok added
  have persists := Persists.symbols entered
  have defined : (g.define lhs).2.Consistent := consistent.defineAt lhs Location.unknown
  have consistentToo : middle.Consistent := Consistent.invariant.of_symbols defined entered
  have same : middle.productions = g.productions :=
    (productions_symbols entered).trans (productions_nonterminalId g lhs)
  have later := Persists.addProduction produced
  have named := persists.trans later |>.symbolName?
    (consistent.symbolName?_defineAt lhs Location.unknown)
  have denotes := (defined.denotes_symbols entered).imp fun _ _ denotes =>
    denotes.of_persists later
  refine ⟨_, symbols, named, denotes, ?_⟩
  have found := consistentToo.productions_addProduction produced
  obtain ⟨-, -, ⟨rfl, -, rfl⟩ | ⟨-, -, rfl⟩⟩ := addProduction_eq_ok produced
  · rw [same] at found
    exact Or.inr ⟨rfl, rule, found⟩
  · rw [← same]
    exact Or.inl rfl

/-- What is said of all symbols holds on if it holds of the symbols of a rule that is added. -/
theorem EachNamed.withRule {allows : Symbol → String → Prop} (each : g.EachNamed allows)
    {names : List String} (added : g.withRule (lhs, names) = .ok h)
    (newLhs : ∀ id, allows (.nonterminal id) lhs)
    (new : ∀ name ∈ names, ∀ symbol : Symbol,
      symbol.nonterminal?.isSome = startsUppercase name → allows symbol name) :
    h.EachNamed allows := by
  obtain ⟨symbols, middle, rule, entered, produced⟩ := withRule_eq_ok added
  have defined := each.defineAt newLhs Location.unknown
  exact (defined.symbols entered new).addProduction produced

/-- A production that is added comes last among the productions by names. -/
theorem Consistent.plainProductions_push (consistent : g.Consistent) (persists : g.Persists h)
    {rule : ProductionId} {symbols : List Symbol} {names : List String}
    (pushed : h.productions = g.productions.push ⟨rule, id, symbols⟩)
    (named : h.symbolName? (.nonterminal id) = some lhs)
    (denotes : List.Forall₂ h.Denotes names symbols) :
    h.plainProductions = g.plainProductions ++ [(lhs, names)] := by
  unfold plainProductions
  rw [pushed, Array.toList_push, List.map_append, List.map_singleton, map_nameOf denotes,
    nameOf, named, Option.getD_some]
  congr 1
  refine List.map_congr_left fun production inside => ?_
  obtain ⟨rule, found⟩ := exists_getElem?_of_mem inside
  refine Prod.ext (persists.nameOf (consistent.knows_lhs found)) ?_
  exact List.map_congr_left fun symbol mentioned =>
    persists.nameOf (consistent.known found symbol mentioned)

/-- The kinds of symbols go on following their names if they do in the production that is added. -/
theorem KindsFollow.push (kinds : g.KindsFollow startsUppercase) (consistent : g.Consistent)
    (persists : g.Persists h) {rule : ProductionId} {symbols : List Symbol} {names : List String}
    (pushed : h.productions = g.productions.push ⟨rule, id, symbols⟩)
    (denotes : List.Forall₂ h.Denotes names symbols) : h.KindsFollow startsUppercase := by
  intro production inside symbol mentioned
  rw [pushed, Array.toList_push] at inside
  rcases List.mem_append.1 inside with before | last
  · obtain ⟨rule, found⟩ := exists_getElem?_of_mem before
    rw [persists.nameOf (consistent.known found symbol mentioned)]
    exact kinds production before symbol mentioned
  · obtain rfl := List.mem_singleton.1 last
    obtain ⟨name, -, stands⟩ := exists_of_forall₂ denotes mentioned
    rw [stands.kind, nameOf, stands.named, Option.getD_some]

/-- The grammar has the productions of the rules, in this order, and no other nonterminals than
those that the rules name. -/
structure MadeOf (rules : List (String × List String)) (g : Grammar) : Prop where
  consistent : g.Consistent
  plain : g.plainProductions = rules
  kinds : g.KindsFollow startsUppercase
  named : g.EachNamed fun symbol name => symbol.nonterminal?.isSome = true →
    ∃ rule ∈ rules, name = rule.1 ∨ (name ∈ rule.2 ∧ startsUppercase name = true)

/-- A rule that is added joins the rules that the grammar is made of, if it is not a second empty
one of its left-hand side. -/
theorem MadeOf.withRule {rules : List (String × List String)} {names : List String}
    (madeOf : MadeOf rules g) (fresh : (lhs, names) ∉ rules ∨ names ≠ [])
    (added : g.withRule (lhs, names) = .ok h) : MadeOf (rules ++ [(lhs, names)]) h := by
  have consistent := madeOf.consistent
  have persists := (Persists.kept g).withRule (.refl g) added
  obtain ⟨id, symbols, named, denotes, produced⟩ := consistent.withRule added
  have pushed : h.productions = g.productions.push ⟨g.productions.size, id, symbols⟩ := by
    -- a second empty production would be that of a rule that is there already
    refine produced.resolve_right ?_
    rintro ⟨rfl, rule, found⟩
    obtain rfl := List.forall₂_nil_right_iff.1 denotes
    have inside := Array.mem_toList_iff.2 (Array.mem_of_getElem? found)
    have owned := persists.nameOf (consistent.knows_lhs found)
    rw [nameOf, named, Option.getD_some] at owned
    have listed : (lhs, []) ∈ g.plainProductions := List.mem_map.2 ⟨_, inside, by rw [← owned]; rfl⟩
    rw [madeOf.plain] at listed
    exact fresh.elim (fun absent => absent listed) fun nonempty => nonempty rfl
  exact {
    consistent := Consistent.invariant.withRule consistent added
    plain := by
      rw [consistent.plainProductions_push persists pushed named denotes, madeOf.plain]
    kinds := madeOf.kinds.push consistent persists pushed denotes
    named := by
      have before := madeOf.named.imp fun symbol name allowed isNonterminal =>
        (allowed isNonterminal).imp fun rule listed =>
          And.intro (List.mem_append_left [(lhs, names)] listed.1) listed.2
      have listed : (lhs, names) ∈ rules ++ [(lhs, names)] := by simp
      refine before.withRule added (fun _ _ => ⟨_, listed, Or.inl rfl⟩) ?_
      intro name inside symbol kind isNonterminal
      exact ⟨_, listed, Or.inr ⟨inside, kind ▸ isNonterminal⟩⟩ }

/-- No rule with an empty right-hand side is there twice. -/
def OnceEmptyRules (rules : List (String × List String)) : Prop :=
  rules.Pairwise fun first second => first = second → second.2 ≠ []

/-- The grammar of no rules has no productions. -/
theorem MadeOf.start : MadeOf [] empty where
  consistent := .empty
  plain := by simp [plainProductions, empty]
  kinds := fun _ inside => by simp [empty] at inside
  named := fun symbol _ named => by cases symbol <;> simp [symbolName?, empty] at named

/-- Rules make a grammar of these rules, if no empty one is there twice. -/
theorem madeOf_ofRules {rules : List (String × List String)} (once : OnceEmptyRules rules)
    (made : ofRules rules = .ok g) : MadeOf rules g := by
  -- by induction on the rules that are left, whatever the rules before
  suffices run : ∀ (before : List (String × List String)) (first : Grammar), MadeOf before first →
      OnceEmptyRules (before ++ rules) → rules.foldlM Grammar.withRule first = .ok g →
        MadeOf (before ++ rules) g from run [] empty .start once made
  clear once made
  induction rules with
  | nil =>
    intro before first madeOf _ made
    obtain rfl := Except.ok.inj made
    rwa [List.append_nil]
  | cons rule rules ih =>
    intro before first madeOf once made
    rw [List.foldlM_cons, bind_eq_ok] at made
    obtain ⟨next, added, rest⟩ := made
    have fresh : rule ∉ before ∨ rule.2 ≠ [] := by
      by_cases inside : rule ∈ before
      · have apart := (List.pairwise_append.1 once).2.2
        exact Or.inr (apart rule inside rule List.mem_cons_self rfl)
      · exact Or.inl inside
    rw [List.append_cons] at once ⊢
    exact ih _ next (madeOf.withRule fresh added) once rest

/-! ## Nonterminals that are defined -/

/-- Whether the nonterminal is known and has been defined. -/
def isDefined (g : Grammar) (id : NonterminalId) : Bool :=
  (g.nonterminals[id]?.map (·.defined)).getD false

/-- A nonterminal that is only entered is not defined. -/
theorem isDefined_nonterminalId (g : Grammar) (name : String) (id : NonterminalId) :
    (g.nonterminalId name).2.isDefined id = g.isDefined id := by
  unfold nonterminalId
  split
  · rfl
  unfold isDefined
  rw [map_getElem?_push]
  by_cases last : id = g.nonterminals.size
  · simp [last, Nonterminal.mentioned]
  · rw [if_neg last]

/-- Defining a nonterminal defines no other one. -/
theorem isDefined_defineAt (other : id ≠ (g.defineAt name place).1) :
    (g.defineAt name place).2.isDefined id = g.isDefined id := by
  rw [← isDefined_nonterminalId g name]
  have untouched : (g.defineAt name place).2.nonterminals[id]? =
      (g.nonterminalId name).2.nonterminals[id]? :=
    Array.getElem?_modify.trans (if_neg (Ne.symm other))
  unfold isDefined
  rw [untouched]

/-- Entering a symbol defines no nonterminal. -/
theorem isDefined_symbol {symbol : Symbol} (entered : g.symbol name = (.ok symbol, h))
    (id : NonterminalId) : h.isDefined id = g.isDefined id := by
  rcases symbol_eq_ok entered with ⟨-, -, rfl⟩ | ⟨-, terminal, found, -⟩
  · exact isDefined_nonterminalId g name id
  · rcases terminalId_eq_ok found with ⟨-, rfl⟩ | ⟨_, -, -, -, rfl⟩
    · rfl
    · rfl

/-- Entering symbols defines no nonterminal. -/
theorem isDefined_symbols {names : List String} {symbols : List Symbol}
    (entered : g.symbols names = (.ok symbols, h)) (id : NonterminalId) :
    h.isDefined id = g.isDefined id := by
  induction names generalizing g symbols with
  | nil =>
    obtain ⟨-, rfl⟩ := Prod.mk.inj entered
    rfl
  | cons name names ih =>
    obtain ⟨first, middle, rest, read, others, -⟩ := symbols_cons_eq_ok entered
    exact (ih others).trans (isDefined_symbol read id)

/-- Adding a production defines no nonterminal. -/
theorem isDefined_addProduction {lhs : NonterminalId} {symbols : List Symbol} {rule : ProductionId}
    (added : g.addProduction lhs symbols = (.ok rule, h)) (id : NonterminalId) :
    h.isDefined id = g.isDefined id := by
  obtain ⟨-, -, ⟨-, -, rfl⟩ | ⟨-, -, rfl⟩⟩ := addProduction_eq_ok added
  · rfl
  have same : ((g.reference symbols).nonterminals[id]?).map Nonterminal.defined = _ :=
    map_getElem?_reference g symbols (fun _ => rfl) id
  exact congrArg (Option.getD · false) same

/-- A nonterminal that is defined has a name. -/
theorem exists_name_of_isDefined (defined : g.isDefined id = true) :
    ∃ name, g.symbolName? (.nonterminal id) = some name := by
  unfold isDefined at defined
  show ∃ name, (g.nonterminals[id]?).map (·.name) = some name
  cases found : g.nonterminals[id]? with
  | none =>
    rw [found] at defined
    cases defined
  | some nonterminal => exact ⟨nonterminal.name, rfl⟩

/-- All nonterminals that are defined are among these names. -/
def DefinesOnly (g : Grammar) (names : List String) : Prop :=
  ∀ (id : NonterminalId) (name : String), g.isDefined id = true →
    g.symbolName? (.nonterminal id) = some name → name ∈ names

namespace DefinesOnly

variable {names : List String}

/-- Only the same nonterminals are defined later on, unless further ones are. -/
theorem of_persists (only : g.DefinesOnly names) (persists : g.Persists h)
    (same : ∀ id, h.isDefined id = true → g.isDefined id = true) : h.DefinesOnly names := by
  intro id name defined named
  have before := same id defined
  obtain ⟨old, namedOld⟩ := exists_name_of_isDefined before
  rw [persists.symbolName? namedOld] at named
  obtain rfl := Option.some.inj named
  exact only id old before namedOld

/-- One more nonterminal is defined. -/
theorem defineAt (only : g.DefinesOnly names) (consistent : g.Consistent) (name : String)
    (place : Location) : (g.defineAt name place).2.DefinesOnly (name :: names) := by
  intro id other defined named
  by_cases same : id = (g.defineAt name place).1
  · rw [same, consistent.symbolName?_defineAt] at named
    exact List.mem_cons.2 (Or.inl (Option.some.inj named).symm)
  · rw [isDefined_defineAt same] at defined
    obtain ⟨old, namedOld⟩ := exists_name_of_isDefined defined
    rw [(Persists.defineAt g name place).symbolName? namedOld] at named
    obtain rfl := Option.some.inj named
    exact List.mem_cons_of_mem _ (only id old defined namedOld)

end DefinesOnly

/-- The nonterminal of that name is defined, and so there is a root. -/
structure Defines (g : Grammar) (name : String) (id : NonterminalId) : Prop where
  named : g.symbolName? (.nonterminal id) = some name
  defined : g.isDefined id = true
  rooted : g.root?.isSome = true

namespace Defines

/-- A nonterminal that is defined is so later on. -/
theorem of_persists (defines : g.Defines name id) (persists : g.Persists h) :
    h.Defines name id where
  named := persists.symbolName? defines.named
  defined := by
    have before := defines.defined
    unfold isDefined at before ⊢
    cases found : g.nonterminals[id]? with
    | none =>
      rw [found] at before
      cases before
    | some nonterminal =>
      obtain ⟨later, foundLater, grows⟩ := persists.nonterminal found
      rw [found] at before
      rw [foundLater]
      exact (grows.defined before).1
  rooted := by
    obtain ⟨root, known⟩ := Option.isSome_iff_exists.1 defines.rooted
    rw [persists.root known]
    rfl

/-- A nonterminal is defined once it has been. -/
theorem defineAt (consistent : g.Consistent) (name : String) (place : Location) :
    (g.defineAt name place).2.Defines name (g.defineAt name place).1 where
  named := consistent.symbolName?_defineAt name place
  defined := by
    obtain ⟨nonterminal, found, -⟩ :=
      Option.map_eq_some_iff.1 (consistent.symbolName?_nonterminalId name)
    have marked : (g.defineAt name place).2.nonterminals[(g.defineAt name place).1]? =
        some (markDefined place nonterminal) := by
      refine (Array.getElem?_modify.trans (if_pos rfl)).trans ?_
      exact congrArg (Option.map (markDefined place)) found
    unfold isDefined
    rw [marked, Option.map_some, Option.getD_some, markDefined]
    split
    · assumption
    · rfl
  rooted := rfl

/-- Defining a nonterminal again changes nothing. -/
theorem defineAt_eq (defines : g.Defines name id) (consistent : g.Consistent) (place : Location) :
    g.defineAt name place = (id, g) := by
  have found := consistent.findNonterminal?_eq_some.2 defines.named
  have entered : g.nonterminalId name = (id, g) := by
    unfold nonterminalId
    rw [found]
  obtain ⟨root, known⟩ := Option.isSome_iff_exists.1 defines.rooted
  have unchanged : g.nonterminals.modify id (markDefined place) = g.nonterminals := by
    refine Array.ext_getElem? fun other => ?_
    rw [Array.getElem?_modify]
    split
    · rename_i same
      subst same
      cases here : g.nonterminals[id]? with
      | none => rfl
      | some nonterminal =>
        have defined := defines.defined
        unfold isDefined at defined
        rw [here] at defined
        exact congrArg some (if_pos defined)
    · rfl
  unfold Grammar.defineAt
  rw [entered]
  dsimp only
  rw [unchanged, known, Option.getD_some, ← known]

end Defines

end ChartParser.Grammar
