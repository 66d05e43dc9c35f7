import ChartParser.Proofs.Grammar.Productive

/-!
# What the rounds over the productions find

The rounds for productive nonterminals end with a set that no production adds to. Such a set has
every nonterminal that derives a word, by induction on the derivation. So the check finds exactly
the nonterminals that derive some word (`Consistent.mem_productive_iff`).
-/

namespace ChartParser.Grammar

variable {g : Grammar} {set : List NonterminalId} {id : NonterminalId}

/-- A production adds its left-hand side in front, or nothing. -/
theorem suffix_addProductive (set : List NonterminalId) (production : Production) :
    set <:+ addProductive set production := by
  unfold addProductive
  split
  · exact suffix_insertNew set production.lhs
  · exact List.suffix_refl set

/-- A production that adds nothing has its left-hand side in the set, or has a symbol that is not
within. -/
theorem lhs_mem_of_addProductive_eq {production : Production}
    (same : addProductive set production = set) (within : withinSet set production = true) :
    production.lhs ∈ set := by
  unfold addProductive at same
  rw [if_pos within] at same
  rw [← same]
  exact mem_insertNew.2 (Or.inl rfl)

/-- A production with an id is in the table. -/
theorem mem_productions_of_getElem? {rule : ProductionId} {production : Production}
    (found : g.productions[rule]? = some production) : production ∈ g.productions.toList :=
  Array.mem_toList_iff.2 (Array.mem_of_getElem? found)

/-- The rounds for productive nonterminals end with a set that no production adds to. -/
theorem Consistent.productive_closed (consistent : g.Consistent) {rule : ProductionId}
    {production : Production} (found : g.productions[rule]? = some production)
    (within : withinSet g.productive production = true) : production.lhs ∈ g.productive := by
  let places := List.range g.nonterminals.size
  have kept : ∀ production ∈ g.productions.toList, ∀ set, Distinct places set →
      Distinct places (addProductive set production) := by
    intro production inside set distinct
    obtain ⟨rule, found⟩ := exists_getElem?_of_mem inside
    unfold addProductive
    split
    · exact distinct.insertNew (List.mem_range.2 (consistent.lhs_lt found))
    · exact distinct
  have start : Distinct places [] := ⟨List.nodup_nil, List.nil_subset _⟩
  have enough : places.length < ([] : List Nat).length + (g.nonterminals.size + 1) := by
    rw [List.length_range, List.length_nil]
    omega
  have fixed := (saturate_foldl_fixed suffix_addProductive kept start enough).2
  have nothing := fixed production (mem_productions_of_getElem? found)
  exact lhs_mem_of_addProductive_eq nothing within

/-- Whatever derives a word has only productive nonterminals. -/
theorem Consistent.mem_productive_of_derives (consistent : g.Consistent) {symbols : List Symbol}
    {word : List TerminalId} (derived : g.Derives symbols word) :
    ∀ id, Symbol.nonterminal id ∈ symbols → id ∈ g.productive := by
  induction derived with
  | nil => simp
  | terminal _ ih =>
    intro id mentioned
    have later : Symbol.nonterminal id ∈ _ := (List.mem_cons.1 mentioned).resolve_left (by simp)
    exact ih id later
  | @nonterminal rule production symbols first word found _ _ ihBody ihRest =>
    intro id mentioned
    rcases List.mem_cons.1 mentioned with same | later
    · obtain rfl := Symbol.nonterminal.inj same
      have within : withinSet g.productive production = true := by
        rw [withinSet, List.all_eq_true]
        intro symbol inside
        cases symbol with
        | terminal _ => rfl
        | nonterminal other => simpa using ihBody other inside
      exact consistent.productive_closed found within
    · exact ihRest id later

/-- The nonterminals found to be productive are exactly those that derive some word. -/
theorem Consistent.mem_productive_iff (consistent : g.Consistent) :
    id ∈ g.productive ↔ g.Productive id := by
  constructor
  · exact productive_of_mem
  · rintro ⟨word, derived⟩
    exact consistent.mem_productive_of_derives derived id List.mem_cons_self

end ChartParser.Grammar
