import ChartParser.Proofs.Grammar.Carrying
import ChartParser.Proofs.Grammar.Sides

/-!
# Grammars made again from their listed rules

The rules of a checked grammar, listed nonterminal by nonterminal, make a grammar once more. Ids may
differ, because the symbols come in another order, but by names it is the same grammar, and so it
passes the check as well (`Built.exists_relisted`).
-/

namespace ChartParser.Grammar

variable {g h : Grammar} {name : String}

/-! ## Empty right-hand sides -/

/-- No production of a grammar is an empty one that is there twice. -/
theorem Built.onceEmptyRules (built : g.Built) : OnceEmptyRules g.plainProductions := by
  have once : g.OnceEmpty := OnceEmpty.maintained.of_built built
  have consistent := built.consistent
  refine List.pairwise_map.2 (List.pairwise_iff_getElem.2 ?_)
  intro left right inside insideToo before same empty
  have found : g.productions[left]? = some g.productions.toList[left] := by
    rw [← Array.getElem?_toList, List.getElem?_eq_getElem inside]
  have foundToo : g.productions[right]? = some g.productions.toList[right] := by
    rw [← Array.getElem?_toList, List.getElem?_eq_getElem insideToo]
  obtain ⟨sameLhs, sameNames⟩ := Prod.mk.inj same
  have lhs := consistent.nameOf_nonterminal_inj (consistent.knows_lhs found)
    (consistent.knows_lhs foundToo) sameLhs
  have none := List.map_eq_nil_iff.1 (sameNames.trans empty)
  exact absurd (once found foundToo lhs none (List.map_eq_nil_iff.1 empty)) (Nat.ne_of_lt before)

/-- Rules in another order have no empty one twice, either. -/
theorem OnceEmptyRules.of_perm {left right : List (String × List String)}
    (once : OnceEmptyRules left) (perm : left.Perm right) : OnceEmptyRules right :=
  (perm.pairwise_iff fun differ same => same ▸ differ same.symm).1 once

/-! ## The same nonterminals -/

/-- A checked grammar has a production for every name of a nonterminal. -/
theorem Consistent.exists_plain (consistent : g.Consistent) (checked : g.check = .ok ())
    (listed : name ∈ g.nonterminalNames) : ∃ names, (name, names) ∈ g.plainProductions := by
  obtain ⟨id, named⟩ := mem_nonterminalNames.1 listed
  have inside : id < g.nonterminals.size := by simpa [knows] using knows_iff.2 ⟨name, named⟩
  obtain ⟨rule, mine⟩ := List.exists_mem_of_ne_nil _ (check_eq_ok checked inside).1
  obtain ⟨production, found, rfl⟩ := consistent.mem_productionsOf.1 mine
  refine ⟨production.symbols.map g.nameOf, List.mem_map.2 ⟨production, ?_, ?_⟩⟩
  · exact Array.mem_toList_iff.2 (Array.mem_of_getElem? found)
  · rw [nameOf, named, Option.getD_some]

/-- The grammar that is made of the productions of a checked grammar has the same nonterminals. -/
theorem MadeOf.mem_nonterminalNames_iff {rules : List (String × List String)}
    (madeOf : MadeOf rules h) (perm : rules.Perm g.plainProductions) (consistent : g.Consistent)
    (checked : g.check = .ok ()) (kinds : g.KindsFollow startsUppercase) :
    name ∈ h.nonterminalNames ↔ name ∈ g.nonterminalNames := by
  constructor
  · intro listed
    obtain ⟨id, named⟩ := mem_nonterminalNames.1 listed
    obtain ⟨rule, among, isLhs | ⟨mentioned, upper⟩⟩ := madeOf.named _ _ named rfl
    · rw [isLhs]
      exact consistent.mem_nonterminalNames_of_plain rule (perm.mem_iff.1 among)
    · obtain ⟨production, inside, rfl⟩ := List.mem_map.1 (perm.mem_iff.1 among)
      obtain ⟨symbol, within, rfl⟩ := List.mem_map.1 mentioned
      obtain ⟨ruleId, found⟩ := exists_getElem?_of_mem inside
      have kind := kinds production inside symbol within
      rw [upper] at kind
      cases symbol with
      | terminal _ => cases kind
      | nonterminal other =>
        exact mem_nonterminalNames.2 ⟨other, symbolName?_eq_some (consistent.known found _ within)⟩
  · intro listed
    obtain ⟨names, among⟩ := consistent.exists_plain checked listed
    rw [← perm.mem_iff, ← madeOf.plain] at among
    exact madeOf.consistent.mem_nonterminalNames_of_plain _ among

/-- Every nonterminal of a checked grammar is listed with a right-hand side. -/
theorem Built.listedRules_nonempty (built : g.Built) (checked : g.check = .ok ()) :
    ∀ rule ∈ g.listedRules, rule.2 ≠ [] := by
  intro rule inside
  rw [built.listedRules_eq] at inside
  obtain ⟨name, listed, rfl⟩ := List.mem_map.1 inside
  obtain ⟨names, among⟩ := built.consistent.exists_plain checked listed
  have mine : names ∈ valuesOf name g.plainProductions :=
    List.mem_map.2 ⟨(name, names), List.mem_filter.2 ⟨among, by simp⟩, rfl⟩
  exact List.ne_nil_of_mem mine

/-! ## The same root -/

/-- The first alternative belongs to the first rule, if every rule has one. -/
theorem head?_alternativesOf {rules : List (String × List (List String))}
    (nonempty : ∀ rule ∈ rules, rule.2 ≠ []) :
    (alternativesOf rules).head?.map Prod.fst = rules.head?.map Prod.fst := by
  cases rules with
  | nil => rfl
  | cons rule rules =>
    obtain ⟨lhs, listed⟩ := rule
    obtain ⟨names, others, rfl⟩ :=
      List.exists_cons_of_ne_nil (nonempty _ List.mem_cons_self)
    rfl

/-- A renaming carries roots of the same name to each other. -/
theorem root?_of_carries {change : Renaming} (carries : change.Carries g h)
    (consistentToo : h.Consistent) (known : g.RootKnown) {root : NonterminalId}
    (isRoot : g.root? = some root) (same : h.rootName? = g.rootName?) :
    h.root? = g.root?.map change.nonterminal := by
  obtain ⟨name, named⟩ := knows_iff.1 (known isRoot)
  have rootNamed : g.rootName? = some name := by
    rw [rootName?, isRoot, Option.bind_some, named]
  rw [rootNamed] at same
  obtain ⟨other, isRootToo, namedToo⟩ := Option.bind_eq_some_iff.1 same
  have moved := carries.nonterminal root
  rw [named] at moved
  rw [isRootToo, isRoot, Option.map_some, consistentToo.nonterminal_unique namedToo moved]

/-! ## The grammar made again -/

/-- The rules that a checked grammar lists make a grammar with the same root and the same right-hand
sides by names, which passes the check as well, if the names can be entered and the first
nonterminal is the root. -/
theorem Built.exists_relisted (built : g.Built) (checked : g.check = .ok ())
    (first : g.root? = some 0) (kinds : g.KindsFollow startsUppercase)
    (enterable : ∀ rule ∈ g.plainProductions, ∀ name ∈ rule.2, IsEnterable name) :
    ∃ h, ofRules (alternativesOf g.listedRules) = .ok h ∧ h.check = .ok () ∧
      h.rootName? = g.rootName? ∧ ∀ name, h.sidesOf? name = g.sidesOf? name := by
  have consistent := built.consistent
  have once := consistent.nodup_nonterminalNames
  have perm : (alternativesOf g.listedRules).Perm g.plainProductions := by
    rw [built.alternativesOf_listedRules]
    exact groupedBy_perm once consistent.mem_nonterminalNames_of_plain
  obtain ⟨h, made⟩ := exists_ofRules fun rule inside => enterable rule (perm.mem_iff.1 inside)
  have madeOf := madeOf_ofRules (built.onceEmptyRules.of_perm perm.symm) made
  have builtToo := built_of_ofRules made
  have names : ∀ name, name ∈ h.nonterminalNames ↔ name ∈ g.nonterminalNames :=
    fun name => madeOf.mem_nonterminalNames_iff perm consistent checked kinds
  have root : h.rootName? = g.rootName? := by
    rw [rootName?_ofRules made, head?_alternativesOf (built.listedRules_nonempty checked),
      rootName?, first, Option.bind_some, built.listedRules_eq, nonterminalNames, List.map_map,
      List.head?_map, Option.map_map]
    show _ = (g.nonterminals[0]?).map _
    rw [← Array.getElem?_toList, ← List.head?_eq_getElem?]
    rfl
  refine ⟨h, made, ?_, root, fun name => ?_⟩
  · -- the productions are the same by names, so a renaming of ids carries the grammar to the other
    have same : g.namedProductions.Perm h.namedProductions := by
      refine namedProductions_perm kinds madeOf.kinds ?_
      rw [madeOf.plain]
      exact perm.symm
    obtain ⟨change, carries⟩ := exists_carries_of_names built builtToo (fun name => by
      rw [← mem_nonterminalNames, ← mem_nonterminalNames, names]) same
    have known : g.RootKnown := RootKnown.maintained.of_built built
    exact check_of_carries built builtToo carries
      (root?_of_carries carries madeOf.consistent known first root) checked
  · rw [built.sidesOf?_eq, builtToo.sidesOf?_eq, madeOf.plain, built.alternativesOf_listedRules]
    by_cases listed : name ∈ g.nonterminalNames
    · rw [if_pos listed, if_pos ((names name).2 listed), valuesOf_groupedBy once listed]
    · rw [if_neg listed, if_neg fun inside => listed ((names name).1 inside)]

end ChartParser.Grammar
