import ChartParser.Proofs.Grammar.Derivation
import ChartParser.Proofs.Grammar.Entries
import ChartParser.Proofs.Grammar.Rounds

/-!
# What a checked grammar promises

A grammar that passes the check has a production for every nonterminal, and every nonterminal
derives some word of terminals. The second is what lets a parse that has not failed yet be completed
to a sentence.
-/

namespace ChartParser.Grammar

variable {g : Grammar}

/-- The nonterminal derives some word of terminals. -/
def Productive (g : Grammar) (id : NonterminalId) : Prop :=
  ∃ word, g.Derives [.nonterminal id] word

/-- A production whose nonterminals are all productive derives a word. -/
theorem Productive.of_withinSet {set : List NonterminalId} {id : ProductionId}
    {production : Production} (found : g.productions[id]? = some production)
    (members : ∀ id ∈ set, g.Productive id) (within : withinSet set production = true) :
    g.Productive production.lhs := by
  rw [withinSet, List.all_eq_true] at within
  have each : ∀ symbol ∈ production.symbols, ∃ word, g.Derives [symbol] word := by
    intro symbol mentioned
    have inside := within symbol mentioned
    cases symbol with
    | terminal id => exact ⟨[id], Derives.nil.terminal⟩
    | nonterminal id => exact members id (by simpa using inside)
  obtain ⟨word, body⟩ := Derives.exists_of_forall each
  exact ⟨word, .of_production found body⟩

/-- Every production in the table has an id. -/
theorem exists_getElem?_of_mem {production : Production}
    (inside : production ∈ g.productions.toList) :
    ∃ rule : ProductionId, g.productions[rule]? = some production := by
  obtain ⟨rule, found⟩ := List.getElem?_of_mem inside
  exact ⟨rule, by simpa using found⟩

/-- What one production adds to the productive nonterminals. -/
def addProductive (set : List NonterminalId) (production : Production) : List NonterminalId :=
  if withinSet set production then insertNew set production.lhs else set

/-- A round adds what each production adds. -/
theorem productiveRound_eq (g : Grammar) (set : List NonterminalId) :
    g.productiveRound set = g.productions.toList.foldl addProductive set := rfl

/-- One round over the productions adds productive nonterminals only. -/
theorem productive_round {set : List NonterminalId} (members : ∀ id ∈ set, g.Productive id) :
    ∀ id ∈ g.productiveRound set, g.Productive id := by
  rw [productiveRound_eq]
  refine foldl_keeps (motive := fun set => ∀ id ∈ set, g.Productive id)
    (fun production inside set members => ?_) members
  obtain ⟨rule, found⟩ := exists_getElem?_of_mem inside
  unfold addProductive
  split
  · rename_i within
    intro member added
    rcases mem_insertNew.1 added with rfl | old
    · exact .of_withinSet found members within
    · exact members member old
  · exact members

/-- The nonterminals found to be productive are. -/
theorem productive_of_mem {id : NonterminalId} (inside : id ∈ g.productive) : g.Productive id :=
  saturate_induction (motive := fun set => ∀ id ∈ set, g.Productive id)
    (fun _ members => productive_round members) _ (by simp) id inside

/-- A requirement that is met holds of every nonterminal. -/
theorem require_eq_ok {property : NonterminalId → Nonterminal → Bool} {fault : String → Fault}
    (met : g.require property fault = .ok ()) {id : NonterminalId} {nonterminal : Nonterminal}
    (found : g.nonterminals[id]? = some nonterminal) : property id nonterminal = true := by
  rw [require] at met
  split at met
  · simp at met
  rename_i none
  rw [List.find?_eq_none] at none
  have listed : (nonterminal, id) ∈ g.nonterminals.toList.zipIdx := by
    rw [List.mem_zipIdx_iff_getElem?]
    simpa using found
  simpa using none (nonterminal, id) listed

/-- What the check of a grammar establishes, condition by condition. -/
theorem check_eq_ok (checked : g.check = .ok ()) {id : NonterminalId}
    (inside : id < g.nonterminals.size) : g.productionsOf id ≠ [] ∧ g.Productive id := by
  have found := Array.getElem?_eq_getElem inside
  rw [check] at checked
  split at checked
  · simp at checked
  obtain ⟨_, -, checked⟩ := bind_eq_ok.1 checked
  obtain ⟨_, productions, checked⟩ := bind_eq_ok.1 checked
  obtain ⟨_, -, checked⟩ := bind_eq_ok.1 checked
  obtain ⟨_, productive, -⟩ := bind_eq_ok.1 checked
  constructor
  · have nonempty := require_eq_ok productions found
    simpa using nonempty
  · have member := require_eq_ok productive found
    exact productive_of_mem (by simpa using member)

/-- In a checked grammar every known symbol derives some word. -/
theorem Consistent.exists_derives (consistent : g.Consistent) (checked : g.check = .ok ())
    {id : ProductionId} {production : Production} (found : g.productions[id]? = some production)
    {symbols : List Symbol} (mentioned : symbols ⊆ production.symbols) :
    ∃ word, g.Derives symbols word := by
  refine Derives.exists_of_forall fun symbol inside => ?_
  have known := consistent.known found symbol (mentioned inside)
  cases symbol with
  | terminal id => exact ⟨[id], Derives.nil.terminal⟩
  | nonterminal id => exact (check_eq_ok checked (by simpa [knows] using known)).2

end ChartParser.Grammar
