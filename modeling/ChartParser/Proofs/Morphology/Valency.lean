import ChartParser.Morphology.VerbAgreement
import ChartParser.Proofs.Morphology.Additions

/-!
# How many objects a verb takes

A terminal that starts with a count asks for a verb with that many objects, and the cases behind the
count are those asked for, as far as they go. What a verb takes is known from the patterns that were
added for it. One that was added with the right number of objects must have a pattern that begins
with the cases asked for; one that was only added with more of them, or not at all, is taken to fit
(`objectsFit_ofAdditions_iff`).
-/

namespace ChartParser

namespace Terminal

open Lexicon (ofAdditions patternsAdded)

variable {terminal : Terminal} {count : Fin 3} {headword : String} {lexicon : Lexicon}

/-- The cases that the terminal asks for behind a count of objects: the longest run of cases that
starts there and has at most that many elements. -/
structure IsObjectRun (terminal : Terminal) (count : Fin 3) (cases : List Case) : Prop where
  run : cases.map Variant.case <+: terminal.variants.drop 1
  few : cases.length ≤ count
  longest : ∀ other : List Case, other.map Variant.case <+: terminal.variants.drop 1 →
    other.length ≤ count → other.length ≤ cases.length

/-! ## Runs of cases -/

/-- The cases at the front of the variants are among them. -/
theorem map_leadingCases_prefix (variants : List Variant) :
    (leadingCases variants).map Variant.case <+: variants := by
  induction variants with
  | nil => exact List.nil_prefix
  | cons variant variants ih =>
    cases variant with
    | case case => exact (List.prefix_cons_inj _).2 ih
    | gender _ => exact List.nil_prefix
    | feature _ => exact List.nil_prefix
    | other _ => exact List.nil_prefix

/-- Cases at the front of the variants are at the front of all that stand there. -/
theorem prefix_leadingCases {cases : List Case} {variants : List Variant}
    (front : cases.map Variant.case <+: variants) : cases <+: leadingCases variants := by
  obtain ⟨rest, rfl⟩ := front
  induction cases with
  | nil => exact List.nil_prefix
  | cons case cases ih => exact (List.prefix_cons_inj case).2 ih

/-- The cases asked for are the only run of this kind. -/
theorem isObjectRun_iff {cases : List Case} :
    terminal.IsObjectRun count cases ↔ cases = terminal.objectCases count := by
  have asked : terminal.IsObjectRun count (terminal.objectCases count) := by
    have front := map_leadingCases_prefix ((terminal.variants.drop 1).take count)
    refine ⟨front.trans (List.take_prefix _ _), ?_, fun other run few => ?_⟩
    · have short := front.length_le
      rw [List.length_map] at short
      exact Nat.le_trans short (List.length_take_le _ _)
    · refine (prefix_leadingCases (List.prefix_take_iff.2 ⟨run, ?_⟩)).length_le
      rwa [List.length_map]
  constructor
  · intro run
    have few : (cases.map Variant.case).length ≤ count := by
      rw [List.length_map]
      exact run.few
    have front : cases <+: terminal.objectCases count :=
      prefix_leadingCases (List.prefix_take_iff.2 ⟨run.run, few⟩)
    exact front.eq_of_length (Nat.le_antisymm front.length_le (run.longest _ asked.run asked.few))
  · rintro rfl
    exact asked

/-! ## What is known of a verb -/

/-- A verb is known with some number of objects if a pattern with so many was added. -/
theorem mem_patternsAdded {additions : List Lexicon.Addition} {pattern : List Case}
    {number : Nat} (few : number ≤ 2) :
    pattern ∈ patternsAdded additions headword number ↔
      .verb headword pattern ∈ additions ∧ pattern.length = number := by
  rw [patternsAdded, List.mem_flatMap]
  constructor
  · rintro ⟨addition, made, inside⟩
    cases addition with
    | verb verb objects =>
      rw [Lexicon.Addition.patterns] at inside
      split at inside
      · rename_i same
        obtain rfl := List.mem_singleton.1 inside
        exact ⟨same.1 ▸ made, same.2.1⟩
      · cases inside
    | subject _ _ => cases inside
    | preposition _ _ => cases inside
  · rintro ⟨made, length⟩
    refine ⟨_, made, ?_⟩
    rw [Lexicon.Addition.patterns, if_pos ⟨rfl, length, few⟩]
    exact List.mem_singleton_self pattern

/-- A verb is not known with some number of objects if no pattern with so many was added. -/
theorem objectsOf?_ofAdditions_eq_none_iff {additions : List Lexicon.Addition} {number : Nat}
    (few : number ≤ 2) :
    (ofAdditions additions).objectsOf? headword number = none ↔
      ∀ pattern, .verb headword pattern ∈ additions → pattern.length ≠ number := by
  rw [Lexicon.objectsOf?_ofAdditions, Lexicon.listed?, ite_eq_left_iff]
  simp only [reduceCtorEq, imp_false, not_not, List.eq_nil_iff_forall_not_mem,
    mem_patternsAdded few, not_and, ne_eq]

/-- A verb that is known with some number of objects is known with every pattern of so many that was
added. -/
theorem mem_of_objectsOf?_ofAdditions {additions : List Lexicon.Addition} {number : Nat}
    (few : number ≤ 2) {patterns : List (List Case)}
    (known : (ofAdditions additions).objectsOf? headword number = some patterns)
    {pattern : List Case} :
    pattern ∈ patterns ↔ .verb headword pattern ∈ additions ∧ pattern.length = number := by
  rw [Lexicon.objectsOf?_ofAdditions, Lexicon.listed?] at known
  split at known
  · cases known
  · rw [← Option.some.inj known, List.mem_eraseDups, mem_patternsAdded few]

/-- A verb that is known with some number of objects is known with a pattern. -/
theorem ne_nil_of_objectsOf?_ofAdditions {additions : List Lexicon.Addition} {number : Nat}
    {patterns : List (List Case)}
    (known : (ofAdditions additions).objectsOf? headword number = some patterns) :
    patterns ≠ [] := by
  rw [Lexicon.objectsOf?_ofAdditions, Lexicon.listed?] at known
  split at known
  · cases known
  · rename_i some
    obtain ⟨pattern, added⟩ := List.exists_mem_of_ne_nil _ some
    rw [← Option.some.inj known]
    exact List.ne_nil_of_mem (List.mem_eraseDups.2 added)

/-! ## What fits -/

/-- The cases asked for agree with a pattern that is no shorter if it begins with them. -/
theorem casesAgree_iff_prefix {asked pattern : List Case} (short : asked.length ≤ pattern.length) :
    casesAgree asked pattern = true ↔ asked <+: pattern := by
  induction asked generalizing pattern with
  | nil => exact iff_of_true rfl List.nil_prefix
  | cons first asked ih =>
    cases pattern with
    | nil => simp at short
    | cons other pattern =>
      have rest := ih (Nat.le_of_succ_le_succ short)
      rw [casesAgree] at rest ⊢
      rw [List.zip_cons_cons, List.all_cons, Bool.and_eq_true, rest, List.cons_prefix_cons,
        beq_iff_eq]

/-- The objects asked for fit a verb with patterns of so many if one of these begins with the cases
asked for. -/
theorem objectsFit_of_known {patterns : List (List Case)}
    (first : terminal.variants.head? = some (.feature (.objects count)))
    (known : lexicon.objectsOf? headword count = some patterns) (some : patterns ≠ [])
    (sized : ∀ pattern ∈ patterns, pattern.length = (count : Nat)) :
    terminal.objectsFit lexicon headword = true ↔
      ∃ pattern ∈ patterns, terminal.objectCases count <+: pattern := by
  have short := (isObjectRun_iff.2 rfl : terminal.IsObjectRun count _).few
  have agrees : ∀ pattern ∈ patterns, casesAgree (terminal.objectCases count) pattern = true ↔
      terminal.objectCases count <+: pattern := fun pattern inside =>
    casesAgree_iff_prefix (sized pattern inside ▸ short)
  have bare : terminal.objectCases count = [] →
      ∃ pattern ∈ patterns, terminal.objectCases count <+: pattern := by
    intro none
    obtain ⟨pattern, inside⟩ := List.exists_mem_of_ne_nil _ some
    exact ⟨pattern, inside, none ▸ List.nil_prefix⟩
  rw [objectsFit, first]
  dsimp only
  rw [known]
  dsimp only
  split
  · rename_i zero
    have none : (terminal.objectCases count).length ≤ 0 := by simpa [zero] using short
    exact iff_of_true rfl (bare (List.eq_nil_of_length_eq_zero (Nat.le_zero.1 none)))
  split
  · rename_i none
    exact iff_of_true rfl (bare (List.isEmpty_iff.1 none))
  · rw [List.any_eq_true]
    exact exists_congr fun pattern => and_congr_right fun inside => agrees pattern inside

/-- The objects asked for fit a verb without patterns of so many if it has none of fewer. -/
theorem objectsFit_of_unknown
    (first : terminal.variants.head? = some (.feature (.objects count)))
    (unknown : lexicon.objectsOf? headword count = none) :
    terminal.objectsFit lexicon headword = true ↔
      ∀ fewer < (count : Nat), lexicon.objectsOf? headword fewer = none := by
  rw [objectsFit, first]
  dsimp only
  rw [unknown]
  simp only [Bool.not_eq_true', List.any_eq_false, List.mem_range, Bool.not_eq_true,
    Option.isSome_eq_false_iff, Option.isNone_iff_eq_none]

/-- A verb with a nominative subject is held to the lexicon for its objects only. -/
theorem fitsVerb_eq_and_objectsFit (nominative : terminal.hasFeature .obliqueSubject = false)
    (lexicon : Lexicon) (headword tag : String) :
    terminal.fitsVerb lexicon headword tag =
      (terminal.fitsVerb .empty headword tag && terminal.objectsFit lexicon headword) := by
  have unknown : ∀ count, Lexicon.empty.objectsOf? headword count = none := by
    intro count
    exact Lexicon.objectsOf?_ofAdditions [] headword count
  have permissive : terminal.objectsFit .empty headword = true := by
    unfold objectsFit
    split
    · simp [unknown]
    · rfl
  rw [fitsVerb, fitsVerb, nominative, if_neg Bool.false_ne_true, if_neg Bool.false_ne_true,
    fitsPlainVerb, fitsPlainVerb, permissive, Bool.and_true]

/-- Whatever has been added to a lexicon, with repetitions and refusals, the objects that a terminal
with a nominative subject asks for fit a verb in two cases. Either the verb was added with so many
objects, and none or no cases are asked for or those asked for begin one of these patterns; or it
was never added with so many objects or fewer. The cases asked for are the longest run of cases
behind the count with at most so many elements, and apart from its objects a verb is not held to the
lexicon. -/
theorem objectsFit_ofAdditions_iff (additions : List Lexicon.Addition) (headword : String)
    (first : terminal.variants.head? = some (.feature (.objects count)))
    (nominative : terminal.hasFeature .obliqueSubject = false) :
    ∃ cases, (∀ run, terminal.IsObjectRun count run ↔ run = cases) ∧
      (terminal.objectsFit (ofAdditions additions) headword = true ↔
        ((∃ pattern, .verb headword pattern ∈ additions ∧ pattern.length = (count : Nat)) ∧
          (count = 0 ∨ cases = [] ∨ ∃ pattern, .verb headword pattern ∈ additions ∧
            pattern.length = (count : Nat) ∧ cases <+: pattern)) ∨
        ∀ pattern, .verb headword pattern ∈ additions → (count : Nat) < pattern.length) ∧
      ∀ tag, terminal.fitsVerb (ofAdditions additions) headword tag =
        (terminal.fitsVerb .empty headword tag &&
          terminal.objectsFit (ofAdditions additions) headword) := by
  refine ⟨terminal.objectCases count, fun _ => isObjectRun_iff, ?_,
    fitsVerb_eq_and_objectsFit nominative _ headword⟩
  have few : (count : Nat) ≤ 2 := Nat.le_of_lt_succ count.isLt
  have bare : count = 0 → terminal.objectCases count = [] := by
    rintro rfl
    exact List.eq_nil_of_length_eq_zero (Nat.le_zero.1 (isObjectRun_iff.2 rfl).few)
  cases known : (ofAdditions additions).objectsOf? headword count with
  | none =>
    have never := (objectsOf?_ofAdditions_eq_none_iff few).1 known
    rw [objectsFit_of_unknown first known]
    constructor
    · intro none
      refine Or.inr fun pattern added => ?_
      by_contra within
      have fewer : pattern.length < count :=
        Nat.lt_of_le_of_ne (Nat.not_lt.1 within) (never pattern added)
      exact (objectsOf?_ofAdditions_eq_none_iff (by omega)).1 (none _ fewer) pattern added rfl
    · rintro (⟨⟨pattern, added, length⟩, -⟩ | more) fewer less
      · exact absurd length (never pattern added)
      · refine (objectsOf?_ofAdditions_eq_none_iff (by omega)).2 fun pattern added length => ?_
        have longer := more pattern added
        omega
  | some patterns =>
    have listed : ∀ {pattern}, pattern ∈ patterns ↔
        .verb headword pattern ∈ additions ∧ pattern.length = (count : Nat) :=
      mem_of_objectsOf?_ofAdditions few known
    have sized : ∀ pattern ∈ patterns, pattern.length = (count : Nat) :=
      fun _ inside => (listed.1 inside).2
    rw [objectsFit_of_known first known (ne_nil_of_objectsOf?_ofAdditions known) sized]
    constructor
    · rintro ⟨pattern, inside, begins⟩
      obtain ⟨added, length⟩ := listed.1 inside
      exact Or.inl ⟨⟨pattern, added, length⟩, Or.inr (Or.inr ⟨pattern, added, length, begins⟩)⟩
    · rintro (⟨⟨pattern, added, length⟩, asked⟩ | more)
      · rcases asked with rfl | none | ⟨other, addedToo, lengthToo, begins⟩
        · exact ⟨pattern, listed.2 ⟨added, length⟩, bare rfl ▸ List.nil_prefix⟩
        · exact ⟨pattern, listed.2 ⟨added, length⟩, none ▸ List.nil_prefix⟩
        · exact ⟨other, listed.2 ⟨addedToo, lengthToo⟩, begins⟩
      · -- a known verb has a pattern of so many objects, so it is not known with more only
        obtain ⟨pattern, others, shape⟩ :=
          List.exists_cons_of_ne_nil (ne_nil_of_objectsOf?_ofAdditions known)
        obtain ⟨added, length⟩ := listed.1 (shape ▸ List.mem_cons_self)
        exact absurd length (Nat.ne_of_gt (more pattern added))

/-- Verbs added with a dative and an accusative, with an accusative alone, and with three objects,
which are too many. -/
def additionsOfGefa : List Lexicon.Addition :=
  [.verb "gefa" [.accusative], .verb "gefa" [.dative, .accusative],
    .verb "gefa" [.dative, .dative, .dative]]

/-- A terminal that asks for two objects, of which the first is a dative, and for the singular. -/
def datives : Terminal :=
  ⟨"so_2_þgf_et", .category .verb (["2", "þgf", "et"].map Variant.ofName)⟩

/-- The verb fits, by the pattern that begins with a dative. -/
theorem objectsFit_ofAdditions_gefa : ofSpec "so_2_þgf_et" = .ok datives ∧
    datives.variants.head? = some (.feature (.objects 2)) ∧
    datives.hasFeature .obliqueSubject = false ∧
    datives.objectsFit (ofAdditions additionsOfGefa) "gefa" = true := by
  refine ⟨rfl, rfl, by decide, ?_⟩
  obtain ⟨cases, asked, fits, -⟩ :=
    @objectsFit_ofAdditions_iff datives 2 additionsOfGefa "gefa" rfl (by decide)
  obtain rfl : [Case.dative] = cases := (asked _).1 (isObjectRun_iff.2 rfl)
  have added : .verb "gefa" [.dative, .accusative] ∈ additionsOfGefa := by decide
  exact fits.2 (Or.inl ⟨⟨_, added, rfl⟩, Or.inr (Or.inr ⟨_, added, rfl, by decide⟩)⟩)

end Terminal

end ChartParser
