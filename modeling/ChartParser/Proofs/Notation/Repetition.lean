import ChartParser.Proofs.Grammar.Language
import ChartParser.Proofs.Grammar.Symbols
import ChartParser.Proofs.Notation.Statements

/-!
# Repeated symbols

A repeated symbol stands for a nonterminal of its own. Its name ends in the sign of repetition, and
no name of the notation does, so that the rules of a text can neither add to it nor collide with it
(`IsWritten.ne_repeatedName`). It has the two productions that it was made with and no others,
whatever is entered later (`Grammar.Repeating`), and from these it derives what the sign says
(`Grammar.Repeats.language_eq`).
-/

namespace ChartParser

open Notation
open scoped Computability

namespace Notation

/-- The words of a language, repeated: the empty word added, words of the language one behind the
other in any number, or at least one of them. -/
def Repetition.language {α : Type} (repetition : Repetition) (base : Language α) : Language α :=
  match repetition with
  | .atMostOnce => 1 + base
  | .anyNumber => base∗
  | .atLeastOnce => base * base∗

/-- The name of a repeated symbol ends in the sign of its repetition. -/
theorem getLast?_repeatedName (name : String) (repetition : Repetition) :
    (repeatedName name repetition).toList.getLast? = some repetition.sign := by
  rw [repeatedName, String.toList_push, List.getLast?_append, List.getLast?_singleton]
  rfl

/-- A repeated symbol is known by its name: it tells the base and the repetition. -/
theorem repeatedName_inj {name other : String} {repetition repetitionToo : Repetition}
    (same : repeatedName name repetition = repeatedName other repetitionToo) :
    name = other ∧ repetition = repetitionToo := by
  have signs := getLast?_repeatedName name repetition
  rw [same, getLast?_repeatedName, Option.some.injEq] at signs
  have whole := congrArg String.toList same
  rw [repeatedName, repeatedName, String.toList_push, String.toList_push] at whole
  have read := Repetition.ofSign?_sign repetition
  rw [← signs, Repetition.ofSign?_sign, Option.some.injEq] at read
  exact ⟨String.toList_injective (List.append_inj_left' whole rfl), read.symm⟩

/-- A written name is not that of a repeated symbol. -/
theorem IsWritten.ne_repeatedName {name : String} (written : IsWritten name.toList) (base : String)
    (repetition : Repetition) : name ≠ repeatedName base repetition := by
  rintro rfl
  exact written.getLast?_ne_sign repetition (getLast?_repeatedName base repetition)

end Notation

namespace Grammar

variable {g h : Grammar} {name : String} {repetition : Repetition} {whole : NonterminalId}
  {base : Symbol}

/-! ## Nonterminals that repeat a symbol -/

/-- The nonterminal has exactly the two productions by which it repeats the symbol of that name. -/
structure Repeats (g : Grammar) (name : String) (repetition : Repetition) (whole : NonterminalId)
    (base : Symbol) : Prop where
  denotes : g.Denotes name base
  exactly : ∃ first second, g.productionsOf whole = [first, second] ∧
    g.productions[first]? =
      some ⟨first, whole, (repeatedSides repetition (.nonterminal whole) base).1⟩ ∧
    g.productions[second]? =
      some ⟨second, whole, (repeatedSides repetition (.nonterminal whole) base).2⟩

/-- Every nonterminal with the name of a repeated symbol repeats it. -/
def Repeating (g : Grammar) : Prop :=
  ∀ (name : String) (repetition : Repetition) (whole : NonterminalId),
    g.symbolName? (.nonterminal whole) = some (repeatedName name repetition) →
      ∃ base, g.Repeats name repetition whole base

/-- A nonterminal repeats a symbol as long as it gets no other productions. -/
theorem Repeats.of_persists (repeats : g.Repeats name repetition whole base)
    (persists : g.Persists h) (same : h.productionsOf whole = g.productionsOf whole) :
    h.Repeats name repetition whole base := by
  obtain ⟨first, second, lists, foundFirst, foundSecond⟩ := repeats.exactly
  exact ⟨repeats.denotes.of_persists persists, first, second, same.trans lists,
    persists.production foundFirst, persists.production foundSecond⟩

/-- Two languages that add up, for a nonterminal with two productions. -/
theorem Repeats.language_eq (repeats : g.Repeats name repetition whole base)
    (consistent : g.Consistent) :
    g.language [.nonterminal whole] = repetition.language (g.language [base]) := by
  obtain ⟨first, second, lists, foundFirst, foundSecond⟩ := repeats.exactly
  have sides : ∀ {rule : ProductionId} {production : Production},
      g.productions[rule]? = some production → production.lhs = whole →
        production.symbols = (repeatedSides repetition (.nonterminal whole) base).1 ∨
          production.symbols = (repeatedSides repetition (.nonterminal whole) base).2 := by
    intro rule production found isWhole
    have listed : rule ∈ g.productionsOf whole :=
      consistent.mem_productionsOf.2 ⟨production, found, isWhole⟩
    rw [lists, List.mem_pair] at listed
    rcases listed with rfl | rfl
    · rw [foundFirst, Option.some.injEq] at found
      exact Or.inl (found ▸ rfl)
    · rw [foundSecond, Option.some.injEq] at found
      exact Or.inr (found ▸ rfl)
  cases repetition with
  | atMostOnce =>
    apply le_antisymm
    · intro word derived
      obtain ⟨rule, production, found, isWhole, body⟩ := exists_of_mem_language derived
      rcases sides found isWhole with isBase | isEmpty
      · rw [isBase] at body
        exact Or.inr body
      · rw [isEmpty] at body
        exact Or.inl (g.language_nil ▸ body)
    · have empty := language_le foundSecond
      rw [show (repeatedSides .atMostOnce (.nonterminal whole) base).2 = [] from rfl,
        language_nil] at empty
      exact sup_le empty (language_le foundFirst)
  | anyNumber =>
    have recursive := language_of_leftRecursive sides foundFirst foundSecond
    rw [show (repeatedSides .anyNumber (.nonterminal whole) base).2 = [] from rfl, language_nil,
      one_mul] at recursive
    exact recursive
  | atLeastOnce => exact language_of_leftRecursive sides foundFirst foundSecond

/-! ## What one entry keeps -/

/-- Repeated symbols are kept where they get no name and no production. -/
theorem Repeating.of_persists (repeating : g.Repeating) (persists : g.Persists h)
    (old : ∀ {name : String} {repetition : Repetition} {whole : NonterminalId},
      h.symbolName? (.nonterminal whole) = some (repeatedName name repetition) →
        g.symbolName? (.nonterminal whole) = some (repeatedName name repetition) ∧
          h.productionsOf whole = g.productionsOf whole) : h.Repeating := by
  intro name repetition whole named
  obtain ⟨before, same⟩ := old named
  obtain ⟨base, repeats⟩ := repeating name repetition whole before
  exact ⟨base, repeats.of_persists persists same⟩

/-- A nonterminal that is entered by another name repeats nothing and leaves what repeats. -/
theorem Repeating.nonterminalId (repeating : g.Repeating) (written : IsWritten name.toList) :
    (g.nonterminalId name).2.Repeating := by
  refine repeating.of_persists (.nonterminalId g name) fun named => ?_
  rcases symbolName?_nonterminalId_eq_some named with before | same
  · exact ⟨before, productionsOf_nonterminalId g name _⟩
  · exact absurd same.symm (written.ne_repeatedName _ _)

/-- Defining a nonterminal by another name leaves what repeats. -/
theorem Repeating.defineAt (repeating : g.Repeating) (written : IsWritten name.toList)
    (place : Location) : (g.defineAt name place).2.Repeating := by
  refine repeating.of_persists (.defineAt g name place) fun named => ?_
  rw [symbolName?_defineAt_eq] at named
  rcases symbolName?_nonterminalId_eq_some named with before | same
  · exact ⟨before, productionsOf_defineAt g name place _⟩
  · exact absurd same.symm (written.ne_repeatedName _ _)

/-- Entering a symbol by another name leaves what repeats. -/
theorem Repeating.symbol (repeating : g.Repeating) (written : IsWritten name.toList)
    {symbol : Symbol} (entered : g.symbol name = (.ok symbol, h)) : h.Repeating := by
  rcases symbol_eq_ok entered with ⟨-, -, rfl⟩ | ⟨-, id, found, -⟩
  · exact repeating.nonterminalId written
  · refine repeating.of_persists (.terminalId found) fun named => ?_
    rcases terminalId_eq_ok found with ⟨-, rfl⟩ | ⟨_, -, -, -, rfl⟩ <;> exact ⟨named, rfl⟩

/-- A production changes the list of its own nonterminal only. -/
theorem Consistent.productionsOf_addProduction (consistent : g.Consistent)
    {lhs other : NonterminalId} {symbols : List Symbol} {rule : ProductionId}
    (added : g.addProduction lhs symbols = (.ok rule, h)) (differs : lhs ≠ other) :
    h.productionsOf other = g.productionsOf other := by
  obtain ⟨inside, -, ⟨-, -, rfl⟩ | ⟨-, -, rfl⟩⟩ := addProduction_eq_ok added
  · rfl
  · rw [consistent.productionsOf_withProduction inside, if_neg differs, List.append_nil]

/-- Adding a production to a nonterminal of another name leaves what repeats. -/
theorem Repeating.addProduction (repeating : g.Repeating) (consistent : g.Consistent)
    {lhs : NonterminalId} {symbols : List Symbol} {rule : ProductionId}
    (added : g.addProduction lhs symbols = (.ok rule, h))
    (named : g.symbolName? (.nonterminal lhs) = some name) (written : IsWritten name.toList) :
    h.Repeating := by
  refine repeating.of_persists (.addProduction added) fun {base repetition whole} called => ?_
  rw [symbolName?_addProduction added] at called
  refine ⟨called, consistent.productionsOf_addProduction added ?_⟩
  rintro rfl
  exact written.ne_repeatedName base repetition (Option.some.inj (named.symm.trans called))

/-- A nonterminal that has just been entered has no productions. -/
theorem Consistent.productionsOf_of_findNonterminal?_eq_none (consistent : g.Consistent)
    (missed : g.findNonterminal? name = none) (place : Location) :
    (g.defineAt name place).2.productionsOf (g.defineAt name place).1 = [] := by
  rw [productionsOf_defineAt]
  have last : (g.defineAt name place).1 = g.nonterminals.size := by
    show (g.nonterminalId name).1 = _
    rw [Grammar.nonterminalId, missed]
  rw [last, ← consistent.size_byLhs, productionsOf, Array.getElem?_eq_none (Nat.le_refl _)]
  rfl

/-- A production that is not a second empty one is added behind the others of its nonterminal. -/
theorem Consistent.productionsOf_addProduction_self (consistent : g.Consistent)
    {lhs : NonterminalId} {symbols : List Symbol} {rule : ProductionId}
    (added : g.addProduction lhs symbols = (.ok rule, h))
    (fresh : symbols = [] → g.emptyAmong? (g.productionsOf lhs) = none) :
    h.productionsOf lhs = g.productionsOf lhs ++ [rule] ∧
      h.productions[rule]? = some ⟨rule, lhs, symbols⟩ := by
  obtain ⟨inside, -, ⟨isEmpty, present, rfl⟩ | ⟨-, rfl, rfl⟩⟩ := addProduction_eq_ok added
  · have absent := fresh isEmpty
    rw [present] at absent
    cases absent
  · constructor
    · rw [consistent.productionsOf_withProduction inside, if_pos rfl]
    · exact getElem?_withProduction g lhs symbols

/-- Entering a symbol by another name does not enter a nonterminal of this name. -/
theorem findNonterminal?_symbol_eq_none {other : String} {symbol : Symbol}
    (missed : g.findNonterminal? other = none) (differs : other ≠ name)
    (entered : g.symbol name = (.ok symbol, h)) : h.findNonterminal? other = none := by
  rcases symbol_eq_ok entered with ⟨-, -, rfl⟩ | ⟨-, id, found, -⟩
  · unfold nonterminalId
    split
    · exact missed
    · exact (lookup_cons_eq _ _ _ _).trans ((if_neg differs).trans missed)
  · rcases terminalId_eq_ok found with ⟨-, rfl⟩ | ⟨_, -, -, -, rfl⟩ <;> exact missed

/-- A nonterminal without productions repeats a symbol once its two productions are added. -/
theorem Repeats.of_addProduction {once : Grammar} {first second : ProductionId}
    (consistent : g.Consistent) (denotes : g.Denotes name base) (none : g.productionsOf whole = [])
    (addedFirst : g.addProduction whole (repeatedSides repetition (.nonterminal whole) base).1 =
      (.ok first, once))
    (addedSecond : once.addProduction whole
      (repeatedSides repetition (.nonterminal whole) base).2 = (.ok second, h)) :
    h.Repeats name repetition whole base := by
  have nonempty : (repeatedSides repetition (.nonterminal whole) base).1 ≠ [] := by
    cases repetition <;> exact List.cons_ne_nil _ _
  obtain ⟨lists, found⟩ :=
    consistent.productionsOf_addProduction_self addedFirst fun empty => absurd empty nonempty
  rw [none, List.nil_append] at lists
  have next := consistent.addProduction addedFirst
  obtain ⟨listsToo, foundToo⟩ := next.productionsOf_addProduction_self addedSecond fun _ => by
    rw [lists, emptyAmong?, List.find?_cons_of_neg, List.find?_nil]
    simpa [found, Production.isEmpty] using nonempty
  rw [lists] at listsToo
  have persists := Persists.addProduction addedSecond
  have both := (Persists.addProduction addedFirst).trans persists
  exact ⟨denotes.of_persists both, first, second, listsToo, persists.production found, foundToo⟩

/-- A repeated symbol is found or made as a nonterminal that repeats its base, and what repeats
already is left. -/
theorem Repeating.repeated (repeating : g.Repeating) (consistent : g.Consistent)
    (written : IsWritten name.toList) {place : Location}
    (entered : Notation.repeated place g name repetition = .ok (whole, h)) :
    h.Repeating ∧ h.symbolName? (.nonterminal whole) = some (repeatedName name repetition) := by
  rcases repeated_eq_ok entered with ⟨found, rfl⟩ | ⟨missed, base, middle, first, once, second,
    based, isWhole, addedFirst, addedSecond⟩
  · exact ⟨repeating, consistent.findNonterminal?_eq_some.1 found⟩
  have consistentToo : middle.Consistent := Consistent.invariant.symbol consistent based
  have next := consistentToo.defineAt (repeatedName name repetition) place
  let defined := (middle.defineAt (repeatedName name repetition) place).2
  have names : ∀ symbol, h.symbolName? symbol = defined.symbolName? symbol := fun symbol =>
    (symbolName?_addProduction addedSecond symbol).trans
      (symbolName?_addProduction addedFirst symbol)
  have isNew := written.ne_repeatedName name repetition
  have stillMissed := findNonterminal?_symbol_eq_none missed isNew.symm based
  have named : defined.symbolName? (.nonterminal whole) = some (repeatedName name repetition) := by
    rw [isWhole]
    exact consistentToo.symbolName?_defineAt _ place
  refine ⟨fun other repetitionToo wholeToo called => ?_, (names _).trans named⟩
  rw [names] at called
  by_cases same : wholeToo = whole
  · -- the nonterminal that has just been made
    subst same
    obtain ⟨rfl, rfl⟩ := repeatedName_inj (Option.some.inj (called.symm.trans named))
    have none : defined.productionsOf wholeToo = [] := by
      rw [isWhole]
      exact consistentToo.productionsOf_of_findNonterminal?_eq_none stillMissed place
    have denotes := (consistent.denotes_symbol based).of_persists
      (.defineAt middle (repeatedName other repetitionToo) place)
    exact ⟨base, .of_addProduction next denotes none addedFirst addedSecond⟩
  · -- one that was there before, and gets no further production
    have afterBase : middle.Repeating := repeating.symbol written based
    have before : middle.symbolName? (.nonterminal wholeToo) =
        some (repeatedName other repetitionToo) := by
      have calledToo := called
      rw [symbolName?_defineAt_eq] at calledToo
      rcases symbolName?_nonterminalId_eq_some calledToo with old | new
      · exact old
      · rw [new] at called
        exact absurd (next.nonterminal_unique called named) same
    obtain ⟨otherBase, repeats⟩ := afterBase other repetitionToo wholeToo before
    have persists := (Persists.defineAt middle (repeatedName name repetition) place).trans
      ((Persists.addProduction addedFirst).trans (.addProduction addedSecond))
    refine ⟨otherBase, repeats.of_persists persists ?_⟩
    rw [(next.addProduction addedFirst).productionsOf_addProduction addedSecond (Ne.symm same),
      next.productionsOf_addProduction addedFirst (Ne.symm same), productionsOf_defineAt]

end Grammar

end ChartParser
