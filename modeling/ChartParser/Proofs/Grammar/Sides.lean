import ChartParser.Proofs.Grammar.Places
import ChartParser.Proofs.Grammar.Rules

/-!
# Right-hand sides by name

A grammar is listed nonterminal by nonterminal, each with its right-hand sides by names. This puts
the productions in groups, but leaves the order within each group, so that the list has the same
productions as the grammar and the same right-hand sides for every name.
-/

namespace ChartParser

/-! ## Groups of pairs -/

section Groups

variable {α β : Type} [DecidableEq α] {key : α} {keys : List α} {pairs : List (α × β)}

/-- What goes with the key, in the order listed. -/
def valuesOf (key : α) (pairs : List (α × β)) : List β :=
  (pairs.filter fun pair => pair.1 = key).map Prod.snd

/-- The pairs, first those with the first key, then those with the second, and so on. -/
def groupedBy (keys : List α) (pairs : List (α × β)) : List (α × β) :=
  keys.flatMap fun key => pairs.filter fun pair => pair.1 = key

/-- What goes with a key makes pairs with it. -/
theorem map_valuesOf (key : α) (pairs : List (α × β)) :
    (valuesOf key pairs).map (key, ·) = pairs.filter fun pair => pair.1 = key := by
  rw [valuesOf, List.map_map]
  refine (List.map_congr_left fun pair inside => ?_).trans (List.map_id _)
  have same := (List.mem_filter.1 inside).2
  rw [decide_eq_true_eq] at same
  exact Prod.ext same.symm rfl

/-- Grouping leaves the pairs what they are, if their keys are listed once each. -/
theorem groupedBy_perm (once : keys.Nodup) (covers : ∀ pair ∈ pairs, pair.1 ∈ keys) :
    (groupedBy keys pairs).Perm pairs := by
  induction keys generalizing pairs with
  | nil =>
    obtain rfl : pairs = [] := List.eq_nil_iff_forall_not_mem.2 fun pair inside => by
      simpa using covers pair inside
    exact .nil
  | cons first rest ih =>
    obtain ⟨fresh, onceRest⟩ := List.nodup_cons.1 once
    -- pairs with the first key are in no later group
    have others : groupedBy rest pairs =
        groupedBy rest (pairs.filter fun pair => !decide (pair.1 = first)) := by
      refine List.flatMap_congr fun key inside => ?_
      rw [List.filter_filter]
      refine List.filter_congr fun pair _ => ?_
      by_cases same : pair.1 = key
      · have differs : key ≠ first := fun isFirst => fresh (isFirst ▸ inside)
        simp [same, differs]
      · simp [same]
    have grouped : (groupedBy rest (pairs.filter fun pair => !decide (pair.1 = first))).Perm
        (pairs.filter fun pair => !decide (pair.1 = first)) := by
      refine ih onceRest fun pair inside => ?_
      obtain ⟨listed, differs⟩ := List.mem_filter.1 inside
      have among := covers pair listed
      simpa [show pair.1 ≠ first by simpa using differs] using among
    rw [← others] at grouped
    exact (List.Perm.append_left _ grouped).trans (List.filter_append_perm _ pairs)

/-- Grouping by other keys leaves nothing with the key. -/
theorem filter_groupedBy_of_not_mem (absent : key ∉ keys) :
    (groupedBy keys pairs).filter (fun pair => pair.1 = key) = [] := by
  refine List.filter_eq_nil_iff.2 fun pair inside => ?_
  obtain ⟨other, listed, among⟩ := List.mem_flatMap.1 inside
  have same := (List.mem_filter.1 among).2
  rw [decide_eq_true_eq] at same ⊢
  rintro rfl
  exact absent (same ▸ listed)

/-- Grouping leaves what goes with each key, and its order. -/
theorem valuesOf_groupedBy (once : keys.Nodup) (listed : key ∈ keys) :
    valuesOf key (groupedBy keys pairs) = valuesOf key pairs := by
  unfold valuesOf
  congr 1
  induction keys with
  | nil => cases listed
  | cons first rest ih =>
    obtain ⟨fresh, onceRest⟩ := List.nodup_cons.1 once
    rw [groupedBy, List.flatMap_cons, List.filter_append]
    by_cases same : key = first
    · subst same
      have none := @filter_groupedBy_of_not_mem α β _ key rest pairs fresh
      rw [groupedBy] at none
      rw [none, List.append_nil, List.filter_filter]
      simp
    · have later := ih onceRest ((List.mem_cons.1 listed).resolve_left same)
      rw [groupedBy] at later
      rw [later, List.filter_filter]
      have none : (pairs.filter fun pair => decide (pair.1 = key) && decide (pair.1 = first)) =
          [] := by
        refine List.filter_eq_nil_iff.2 fun pair _ => ?_
        simp only [Bool.and_eq_true, decide_eq_true_eq]
        rintro ⟨isKey, isFirst⟩
        exact same (isKey.symm.trans isFirst)
      rw [none, List.nil_append]

end Groups

/-- Going through the places of a list is going through the list. -/
theorem filterMap_range {α β : Type} (entries : List α) (pick : α → Option β) :
    (List.range entries.length).filterMap (fun place => entries[place]?.bind pick) =
      entries.filterMap pick := by
  induction entries with
  | nil => rfl
  | cons first rest ih =>
    rw [List.length_cons, List.range_succ_eq_map, List.filterMap_cons, List.filterMap_map,
      List.filterMap_cons]
    simp only [List.getElem?_cons_zero, Option.bind_some, Function.comp_def,
      List.getElem?_cons_succ, ih]

namespace Grammar

variable {g : Grammar} {name : String} {id : NonterminalId}

/-! ## Right-hand sides -/

/-- The names on the right-hand side of a production, if there is the production. -/
def sideOf? (g : Grammar) (rule : ProductionId) : Option (List String) :=
  (g.productions[rule]?).map fun production => production.symbols.map g.nameOf

/-- The right-hand sides of the nonterminal of that name, in the order entered, if there is the
nonterminal. -/
def sidesOf? (g : Grammar) (name : String) : Option (List (List String)) :=
  (g.findNonterminal? name).map fun id => (g.productionsOf id).filterMap g.sideOf?

/-- The names of the nonterminals, in the order entered. -/
def nonterminalNames (g : Grammar) : List String := g.nonterminals.toList.map (·.name)

/-- The nonterminals with their right-hand sides, in the order entered. -/
def listedRules (g : Grammar) : List (String × List (List String)) :=
  g.nonterminals.toList.zipIdx.map fun entry =>
    (entry.1.name, (g.productionsOf entry.2).filterMap g.sideOf?)

/-- Right-hand sides are the same without places. -/
theorem sidesOf?_withoutPlaces (g : Grammar) (name : String) :
    g.withoutPlaces.sidesOf? name = g.sidesOf? name := by
  have names : g.withoutPlaces.sideOf? = g.sideOf? := by
    unfold sideOf? nameOf
    simp only [symbolName?_withoutPlaces]
    rfl
  unfold sidesOf?
  rw [findNonterminal?_withoutPlaces, names, funext g.productionsOf_withoutPlaces]

/-- No two nonterminals have the same name. -/
theorem Consistent.nodup_nonterminalNames (consistent : g.Consistent) :
    g.nonterminalNames.Nodup :=
  nodup_keys g.nonterminals Nonterminal.name consistent.nonterminal_unique

/-- The names listed are those of nonterminals. -/
theorem mem_nonterminalNames :
    name ∈ g.nonterminalNames ↔ ∃ id, g.symbolName? (.nonterminal id) = some name := by
  unfold nonterminalNames
  rw [List.mem_iff_getElem?]
  refine exists_congr fun id => ?_
  rw [List.getElem?_map, Array.getElem?_toList]
  rfl

/-- The right-hand sides of a nonterminal are those of the productions named after it. -/
theorem Built.filterMap_sideOf? (built : g.Built)
    (named : g.symbolName? (.nonterminal id) = some name) :
    (g.productionsOf id).filterMap g.sideOf? = valuesOf name g.plainProductions := by
  have consistent := built.consistent
  -- both sides go through the productions and pick those of the nonterminal
  let pick (production : Production) : Option (List String) :=
    if production.lhs = id then some (production.symbols.map g.nameOf) else none
  have left : (g.productionsOf id).filterMap g.sideOf? = g.productions.toList.filterMap pick := by
    rw [Listed.maintained.of_built built id, rulesWith, List.filterMap_filter,
      ← filterMap_range g.productions.toList, Array.length_toList]
    refine List.filterMap_congr fun rule _ => ?_
    rw [isRuleOf, sideOf?, Array.getElem?_toList]
    cases g.productions[rule]? with
    | none => rfl
    | some production =>
      simp only [Option.any_some, beq_iff_eq, Option.map_some, Option.bind_some]
      rfl
  have right : valuesOf name g.plainProductions = g.productions.toList.filterMap pick := by
    rw [valuesOf, plainProductions, ← List.filterMap_eq_map, List.filterMap_filter,
      List.filterMap_map]
    refine List.filterMap_congr fun production inside => ?_
    obtain ⟨rule, found⟩ := exists_getElem?_of_mem inside
    have owned := symbolName?_eq_some (consistent.knows_lhs found)
    have same : g.nameOf (.nonterminal production.lhs) = name ↔ production.lhs = id := by
      constructor
      · rintro rfl
        exact consistent.nonterminal_unique owned named
      · rintro rfl
        rw [nameOf, named, Option.getD_some]
    simp [pick, same]
  rw [left, right]

/-- The right-hand sides of the nonterminal of a name are those of the productions of that name. -/
theorem Built.sidesOf?_eq (built : g.Built) (name : String) :
    g.sidesOf? name =
      if name ∈ g.nonterminalNames then some (valuesOf name g.plainProductions) else none := by
  have consistent := built.consistent
  unfold sidesOf?
  cases found : g.findNonterminal? name with
  | none =>
    have absent : name ∉ g.nonterminalNames := by
      intro listed
      obtain ⟨id, named⟩ := mem_nonterminalNames.1 listed
      rw [consistent.findNonterminal?_eq_some.2 named] at found
      cases found
    rw [if_neg absent]
    rfl
  | some id =>
    have named := consistent.findNonterminal?_eq_some.1 found
    rw [if_pos (mem_nonterminalNames.2 ⟨id, named⟩), Option.map_some,
      built.filterMap_sideOf? named]

/-- The rules are listed in the order of their names. -/
theorem map_fst_listedRules (g : Grammar) : g.listedRules.map Prod.fst = g.nonterminalNames := by
  have entries := List.zipIdx_map_fst 0 g.nonterminals.toList
  rw [listedRules, List.map_map, nonterminalNames,
    ← congrArg (List.map Nonterminal.name) entries, List.map_map]
  rfl

/-- The rules are listed with the productions of each name. -/
theorem Built.listedRules_eq (built : g.Built) :
    g.listedRules =
      g.nonterminalNames.map fun name => (name, valuesOf name g.plainProductions) := by
  rw [← g.map_fst_listedRules, List.map_map]
  refine (List.map_id _).symm.trans (List.map_congr_left fun rule inside => ?_)
  obtain ⟨⟨nonterminal, id⟩, listed, rfl⟩ := List.mem_map.1 inside
  have found := List.mem_zipIdx_iff_getElem?.1 listed
  rw [Array.getElem?_toList] at found
  have named : g.symbolName? (.nonterminal id) = some nonterminal.name :=
    congrArg (Option.map Nonterminal.name) found
  exact congrArg (Prod.mk nonterminal.name) (built.filterMap_sideOf? named)

/-- The rules, listed alternative by alternative, are the productions in groups. -/
theorem Built.alternativesOf_listedRules (built : g.Built) :
    alternativesOf g.listedRules = groupedBy g.nonterminalNames g.plainProductions := by
  rw [built.listedRules_eq, alternativesOf, List.flatMap_map]
  refine List.flatMap_congr fun name _ => ?_
  exact map_valuesOf name g.plainProductions

/-- Every production is named after a nonterminal. -/
theorem Consistent.mem_nonterminalNames_of_plain (consistent : g.Consistent) :
    ∀ rule ∈ g.plainProductions, rule.1 ∈ g.nonterminalNames := by
  intro rule inside
  obtain ⟨production, listed, rfl⟩ := List.mem_map.1 inside
  obtain ⟨id, found⟩ := exists_getElem?_of_mem listed
  exact mem_nonterminalNames.2 ⟨_, symbolName?_eq_some (consistent.knows_lhs found)⟩

end Grammar

end ChartParser
