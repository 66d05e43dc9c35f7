import ChartParser.Proofs.Grammar.Reachability
import ChartParser.Proofs.Grammar.Saturation
import ChartParser.Proofs.Grammar.Store

/-!
# What the check of a grammar decides

A grammar is well formed if a parse can make use of all of it: every nonterminal but the root is
mentioned, has productions, derives a word and can be reached, and no nonterminal is a production of
itself. The check goes through these requirements one after another and through the nonterminals
in the order of their ids, so it fails with the first nonterminal that violates the first
requirement violated at all. That every single test says what its requirement says is
`Built.decides_requirements`; from it follows what the check accepts and which error it gives
(`Built.check_spec`).
-/

namespace ChartParser.Grammar

variable {g : Grammar} {id root : NonterminalId}

/-- A condition on nonterminals, and the fault of one that violates it. -/
structure Requirement where
  holds : NonterminalId → Prop
  fault : String → Fault

/-- Every nonterminal of the grammar meets the requirement. -/
def Meets (g : Grammar) (requirement : Requirement) : Prop :=
  ∀ id < g.nonterminals.size, requirement.holds id

/-- The error names the nonterminal of least id that violates the requirement, and the place
recorded for it. -/
def LeastFault (g : Grammar) (requirement : Requirement) (error : GrammarError) : Prop :=
  ∃ (id : NonterminalId) (nonterminal : Nonterminal), g.nonterminals[id]? = some nonterminal ∧
    ¬ requirement.holds id ∧ (∀ earlier < id, requirement.holds earlier) ∧
    error = ⟨requirement.fault nonterminal.name, nonterminal.place⟩

/-- The error is that of the first requirement that some nonterminal violates. -/
inductive FirstFault (g : Grammar) : List Requirement → GrammarError → Prop
  | here {requirement : Requirement} {later : List Requirement} {error : GrammarError}
      (violated : g.LeastFault requirement error) : FirstFault g (requirement :: later) error
  | later {requirement : Requirement} {later : List Requirement} {error : GrammarError}
      (met : g.Meets requirement) (fault : FirstFault g later error) :
      FirstFault g (requirement :: later) error

namespace Requirement

/-- Every nonterminal other than the root occurs in some right-hand side. -/
def mentioned (g : Grammar) (root : NonterminalId) : Requirement where
  holds id := id = root ∨ g.Mentions id
  fault := .neverReferenced

/-- Every nonterminal has a production. -/
def populated (g : Grammar) : Requirement where
  holds id := ∃ (rule : ProductionId) (production : Production),
    g.productions[rule]? = some production ∧ production.lhs = id
  fault := .noProductions

/-- No nonterminal has itself as a production. -/
def loopless (g : Grammar) : Requirement where
  holds id := ∀ (rule : ProductionId) (production : Production),
    g.productions[rule]? = some production → production.lhs = id →
      production.symbols ≠ [.nonterminal id]
  fault := .derivesItself

/-- Every nonterminal derives some word of terminals. -/
def productive (g : Grammar) : Requirement where
  holds := g.Productive
  fault := .unproductive

/-- The root leads to every nonterminal. -/
def reachable (g : Grammar) (root : NonterminalId) : Requirement where
  holds := g.Reaches root
  fault name := .unreachable name (g.nonterminalName root)

end Requirement

/-- What is required of the nonterminals of a grammar with that root, in the order of the check. -/
def requirements (g : Grammar) (root : NonterminalId) : List Requirement :=
  [.mentioned g root, .populated g, .loopless g, .productive g, .reachable g root]

/-- The grammar makes sense as a whole when it is read from that root. -/
structure WellFormed (g : Grammar) (root : NonterminalId) : Prop where
  /-- Every nonterminal other than the root occurs in some right-hand side. -/
  mentioned : ∀ id < g.nonterminals.size, id ≠ root → g.Mentions id
  /-- Every nonterminal has a production. -/
  populated : ∀ id < g.nonterminals.size, ∃ (rule : ProductionId) (production : Production),
    g.productions[rule]? = some production ∧ production.lhs = id
  /-- No production has its left-hand side as its whole right-hand side. -/
  loopless : ∀ {rule : ProductionId} {production : Production},
    g.productions[rule]? = some production → production.symbols ≠ [.nonterminal production.lhs]
  /-- Every nonterminal derives some word of terminals. -/
  productive : ∀ id < g.nonterminals.size, g.Productive id
  /-- The root leads to every nonterminal. -/
  reachable : ∀ id < g.nonterminals.size, g.Reaches root id

/-- A consistent grammar is well formed exactly if its nonterminals meet all requirements. -/
theorem Consistent.wellFormed_iff (consistent : g.Consistent) :
    g.WellFormed root ↔ ∀ requirement ∈ g.requirements root, g.Meets requirement := by
  simp only [requirements, List.forall_mem_cons, List.not_mem_nil, false_implies, implies_true,
    and_true]
  constructor
  · intro formed
    refine ⟨fun id inside => ?_, formed.populated, ?_, formed.productive, formed.reachable⟩
    · by_cases same : id = root
      · exact Or.inl same
      · exact Or.inr (formed.mentioned id inside same)
    · rintro id inside rule production found rfl
      exact formed.loopless found
  · rintro ⟨mentioned, populated, loopless, productive, reachable⟩
    exact {
      mentioned := fun id inside other => (mentioned id inside).resolve_left other
      populated := populated
      loopless := fun found => loopless _ (consistent.lhs_lt found) _ _ found rfl
      productive := productive
      reachable := reachable }

/-- A requirement that some nonterminal violates is not met. -/
theorem LeastFault.not_meets {requirement : Requirement} {error : GrammarError}
    (violated : g.LeastFault requirement error) : ¬ g.Meets requirement := by
  obtain ⟨id, nonterminal, found, violates, -⟩ := violated
  intro met
  exact violates (met id (Array.getElem?_eq_some_iff.1 found).1)

/-- Two nonterminals of least id that violate a requirement are one. -/
theorem LeastFault.unique {requirement : Requirement} {left right : GrammarError}
    (first : g.LeastFault requirement left) (second : g.LeastFault requirement right) :
    left = right := by
  obtain ⟨id, nonterminal, found, violates, before, rfl⟩ := first
  obtain ⟨other, nonterminalToo, foundToo, violatesToo, beforeToo, rfl⟩ := second
  have notBelow : ¬ other < id := fun below => violatesToo (before other below)
  have notAbove : ¬ id < other := fun above => violates (beforeToo id above)
  obtain rfl : id = other := Nat.le_antisymm (Nat.le_of_not_lt notBelow) (Nat.le_of_not_lt notAbove)
  rw [Option.some.inj (found.symm.trans foundToo)]

/-! ## Tests that decide requirements -/

/-- The outcome of a test says whether the requirements are met, and which is violated first. -/
structure Decides (g : Grammar) (test : Except GrammarError Unit)
    (requirements : List Requirement) : Prop where
  passes : test = .ok () ↔ ∀ requirement ∈ requirements, g.Meets requirement
  fails : ∀ error, test = .error error ↔ g.FirstFault requirements error

/-- A test of the property of a requirement passes if the requirement is met, and otherwise gives
the error of the nonterminal of least id that violates it. -/
theorem require_cases {property : NonterminalId → Nonterminal → Bool} {requirement : Requirement}
    (agrees : ∀ {id : NonterminalId} {nonterminal : Nonterminal},
      g.nonterminals[id]? = some nonterminal →
        (property id nonterminal = true ↔ requirement.holds id)) :
    (g.require property requirement.fault = .ok () ∧ g.Meets requirement) ∨
      ∃ error, g.require property requirement.fault = .error error ∧
        g.LeastFault requirement error := by
  cases outcome : g.require property requirement.fault with
  | ok =>
    left
    refine ⟨rfl, fun id inside => ?_⟩
    have found := Array.getElem?_eq_getElem inside
    exact (agrees found).1 (require_eq_ok outcome found)
  | error error =>
    right
    refine ⟨error, rfl, ?_⟩
    unfold require at outcome
    split at outcome
    case h_2 => simp at outcome
    rename_i nonterminal id violator
    obtain rfl := Except.error.inj outcome
    obtain ⟨violates, place, inside, here, before⟩ := List.find?_eq_some_iff_getElem.1 violator
    rw [List.getElem_zipIdx, Nat.zero_add, Prod.mk.injEq] at here
    obtain ⟨here, rfl⟩ := here
    rw [List.length_zipIdx] at inside
    have found : g.nonterminals[place]? = some nonterminal := by
      rw [← here]
      exact Array.getElem?_eq_getElem inside
    refine ⟨place, nonterminal, found, ?_, fun earlier below => ?_, rfl⟩
    · rw [← agrees found]
      simpa using violates
    · have earlierInside : earlier < g.nonterminals.size := Nat.lt_trans below inside
      have passed := before earlier below
      rw [← agrees (Array.getElem?_eq_getElem earlierInside)]
      simpa using passed

/-- A test of the property of a requirement decides that requirement. -/
theorem Decides.of_agrees {property : NonterminalId → Nonterminal → Bool}
    (requirement : Requirement)
    (agrees : ∀ {id : NonterminalId} {nonterminal : Nonterminal},
      g.nonterminals[id]? = some nonterminal →
        (property id nonterminal = true ↔ requirement.holds id)) :
    g.Decides (g.require property requirement.fault) [requirement] := by
  rcases require_cases agrees with ⟨passed, met⟩ | ⟨error, failed, violated⟩
  · rw [passed]
    constructor
    · simpa using met
    · intro other
      constructor
      · simp
      · rintro (violated | ⟨-, ⟨⟩⟩)
        exact absurd met violated.not_meets
  · rw [failed]
    constructor
    · simpa using violated.not_meets
    · intro other
      constructor
      · intro same
        obtain rfl := Except.error.inj same
        exact .here violated
      · rintro (first | ⟨-, ⟨⟩⟩)
        rw [violated.unique first]

/-- A test of one requirement followed by a test of others decides them all. -/
theorem Decides.bind {first rest : Except GrammarError Unit} {requirement : Requirement}
    {later : List Requirement} (decided : g.Decides first [requirement])
    (others : g.Decides rest later) :
    g.Decides (first >>= fun _ => rest) (requirement :: later) := by
  cases first with
  | ok =>
    have met : g.Meets requirement := by simpa using decided.passes.1 rfl
    constructor
    · rw [List.forall_mem_cons, and_iff_right met]
      exact others.passes
    · intro error
      refine (others.fails error).trans ⟨FirstFault.later met, ?_⟩
      rintro (violated | ⟨-, fault⟩)
      · exact absurd met violated.not_meets
      · exact fault
  | error fault =>
    have violated : g.LeastFault requirement fault := by
      rcases (decided.fails fault).1 rfl with violated | ⟨-, ⟨⟩⟩
      exact violated
    constructor
    · rw [List.forall_mem_cons]
      constructor
      · simp [Bind.bind, Except.bind]
      · rintro ⟨met, -⟩
        exact absurd met violated.not_meets
    · intro error
      constructor
      · intro same
        obtain rfl := Except.error.inj same
        exact .here violated
      · rintro (first | ⟨met, -⟩)
        · rw [violated.unique first]
          rfl
        · exact absurd met violated.not_meets

/-- A nonterminal of a consistent grammar has a loop exactly if it has itself as a production. -/
theorem Consistent.hasLoop_iff (consistent : g.Consistent) :
    g.hasLoop id = true ↔ ∃ (rule : ProductionId) (production : Production),
      g.productions[rule]? = some production ∧ production.lhs = id ∧
        production.symbols = [.nonterminal id] := by
  unfold hasLoop
  rw [List.any_eq_true]
  constructor
  · rintro ⟨rule, inside, loop⟩
    obtain ⟨production, at_rule, rfl⟩ := consistent.mem_productionsOf.1 inside
    refine ⟨rule, production, at_rule, rfl, ?_⟩
    simpa [at_rule, Production.isLoop] using loop
  · rintro ⟨rule, production, at_rule, rfl, loop⟩
    refine ⟨rule, consistent.mem_productionsOf.2 ⟨production, at_rule, rfl⟩, ?_⟩
    simpa [at_rule, Production.isLoop] using loop

/-- The check of a grammar built by entries decides all that is required. -/
theorem Built.decides_requirements (built : g.Built) (known : g.root? = some root) :
    g.Decides g.check (g.requirements root) := by
  have consistent := built.consistent
  have inside : root < g.nonterminals.size :=
    of_decide_eq_true (RootKnown.maintained.of_built built known)
  have mentioned : g.Decides
      (g.require (fun id nonterminal => nonterminal.referenced || id == root) .neverReferenced)
      [.mentioned g root] := .of_agrees (.mentioned g root) fun {id _} found => by
    rw [Bool.or_eq_true, built.referenced_iff found, beq_iff_eq]
    exact or_comm
  have populated : g.Decides
      (g.require (fun id _ => !(g.productionsOf id).isEmpty) .noProductions)
      [.populated g] := .of_agrees (.populated g) fun _ => by
    rw [Bool.not_eq_true', List.isEmpty_eq_false_iff_exists_mem]
    exact exists_congr fun _ => consistent.mem_productionsOf
  have loopless : g.Decides
      (g.require (fun id _ => !g.hasLoop id) .derivesItself)
      [.loopless g] := .of_agrees (.loopless g) fun _ => by
    rw [Bool.not_eq_true', ← Bool.not_eq_true, consistent.hasLoop_iff]
    simp [Requirement.loopless]
  have productive : g.Decides
      (g.require (fun id _ => id ∈ g.productive) .unproductive) [.productive g] :=
    .of_agrees (.productive g) fun _ => by
      rw [decide_eq_true_eq]
      exact consistent.mem_productive_iff
  have reachable : g.Decides
      (g.require (fun id _ => id ∈ g.reachable root) (.unreachable · (g.nonterminalName root)))
      [.reachable g root] := .of_agrees (.reachable g root) fun _ => by
    rw [decide_eq_true_eq]
    exact consistent.mem_reachable_iff inside
  unfold check
  rw [known]
  exact mentioned.bind (populated.bind (loopless.bind (productive.bind reachable)))

/-- The check of a grammar built by entries accepts exactly the well-formed ones. Where there is a
root, it fails with the nonterminal of least id that violates the first requirement violated at
all, and with the place recorded for that nonterminal. -/
theorem Built.check_spec (built : g.Built) :
    (g.check = .ok () ↔ ∃ root, g.root? = some root ∧ g.WellFormed root) ∧
      ∀ root, g.root? = some root → ∀ error,
        g.check = .error error ↔ g.FirstFault (g.requirements root) error := by
  refine ⟨?_, fun root known => (built.decides_requirements known).fails⟩
  cases known : g.root? with
  | none =>
    have failed : g.check = .error (.ofFault .noNonterminals) := by
      unfold check
      rw [known]
    simp [failed]
  | some root =>
    simp only [Option.some.injEq, exists_eq_left']
    rw [built.consistent.wellFormed_iff]
    exact (built.decides_requirements known).passes

/-- The grammar of `S -> T` and `T -> T`, defined on the first two lines. -/
def selfDerived : Grammar := .ofEntries
  [.definition "S" (.ofLine 1), .definition "T" (.ofLine 2), .production 0 [.nonterminal 1],
    .production 1 [.nonterminal 1]]

/-- No nonterminal of this grammar derives a word, but that `T` derives itself comes first. -/
theorem check_selfDerived :
    selfDerived.check = .error ⟨.derivesItself "T", .ofLine 2⟩ ∧
      selfDerived.FirstFault (selfDerived.requirements 0) ⟨.derivesItself "T", .ofLine 2⟩ ∧
      ¬ selfDerived.WellFormed 0 := by
  have built : selfDerived.Built := ⟨_, rfl⟩
  have known : selfDerived.root? = some 0 := by decide +kernel
  have failed : selfDerived.check = .error ⟨.derivesItself "T", .ofLine 2⟩ := by decide +kernel
  obtain ⟨accepted, faults⟩ := Built.check_spec built
  refine ⟨failed, (faults 0 known _).1 failed, fun formed => ?_⟩
  have passed := accepted.2 ⟨0, known, formed⟩
  rw [failed] at passed
  cases passed

end ChartParser.Grammar
