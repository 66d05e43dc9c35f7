import ChartParser.Morphology.LexicalToken
import ChartParser.Proofs.Morphology.Specs
import ChartParser.Proofs.Text.Lines

/-!
# Variants narrow a terminal

A variant at the end of a category terminal asks for more, so that whatever fits the longer terminal
fits the shorter one. Every kind of token reads the variants in its own way: the first case and the
first gender, the first variant of all, the cases that follow an object count, or all of them. A
variant behind the others never changes what such a reading finds among them, and only adds to what
it asks for (`Terminal.Narrows`).

Four variants are different. An abbreviation is held to other rules than a noun, a verb with an
oblique subject to other rules than one with a nominative subject, and the supine and the past
participle do not fit a terminal unless it asks for them.
-/

namespace ChartParser

namespace Terminal

/-- The terminals have the same category, and the first has the variant at the end besides those of
the second. -/
def Narrows (narrower wider : Terminal) (variant : Variant) : Prop :=
  ∃ category variants, wider.demand = .category category variants ∧
    narrower.demand = .category category (variants ++ [variant])

/-- The features that change by which rules a terminal is held to. -/
def turningFeatures : List Feature := restrictiveForms ++ [.obliqueSubject, .abbreviation]

/-! ## Reading a longer spec -/

/-- A category spec with one more variant is read as the same category with that variant at the
end. -/
theorem exists_narrows {spec : String} {wider : Terminal} (read : ofSpec spec = .ok wider)
    (category : wider.category?.isSome = true) {variant : String}
    (whole : '_' ∉ variant.toList) :
    ∃ narrower, ofSpec (spec ++ "_" ++ variant) = .ok narrower ∧
      narrower.Narrows wider (Variant.ofName variant) := by
  obtain ⟨name, demand⟩ := wider
  obtain ⟨rfl, described⟩ := ofSpec_eq_ok_iff.1 read
  cases described with
  | literal => simp [category?] at category
  | @category c rest head others shape unquoted parts nonempty =>
    have longer : (name ++ "_" ++ variant).toList = c :: (rest ++ '_' :: variant.toList) := by
      simp [shape]
    have pieces : Text.splitAt '_' (name ++ "_" ++ variant) =
        Text.splitAt '_' name ++ [variant] :=
      Text.splitAt_append (by simp) whole
    rw [parts, List.cons_append] at pieces
    refine ⟨_, ofSpec_of_specifies (.category longer unquoted pieces nonempty), _, _, rfl, ?_⟩
    rw [List.map_append, List.map_singleton]

/-! ## What is found among the variants -/

namespace Narrows

variable {narrower wider : Terminal} {variant : Variant} {feature : Feature} {tag : String}

/-- The category stays. -/
theorem category?_eq (narrows : narrower.Narrows wider variant) :
    narrower.category? = wider.category? := by
  obtain ⟨category, variants, demand, demandToo⟩ := narrows
  rw [category?, category?, demand, demandToo]

/-- The category is the same for every question about it. -/
theorem hasCategory_eq (narrows : narrower.Narrows wider variant) (category : Category) :
    narrower.hasCategory category = wider.hasCategory category := by
  rw [hasCategory, hasCategory, narrows.category?_eq]

/-- The variants are those of the shorter terminal and one more. -/
theorem variants_eq (narrows : narrower.Narrows wider variant) :
    narrower.variants = wider.variants ++ [variant] := by
  obtain ⟨category, listed, demand, demandToo⟩ := narrows
  rw [variants, variants, demand, demandToo]

/-- What is true of all variants of the longer terminal is true of all those of the shorter one. -/
theorem all (narrows : narrower.Narrows wider variant) {test : Variant → Bool}
    (each : narrower.variants.all test = true) : wider.variants.all test = true := by
  rw [narrows.variants_eq, List.all_append, Bool.and_eq_true] at each
  exact each.1

/-- A feature that is asked for is still asked for. -/
theorem hasFeature (narrows : narrower.Narrows wider variant)
    (has : wider.hasFeature feature = true) : narrower.hasFeature feature = true := by
  rw [Terminal.hasFeature, List.contains_iff_mem] at has ⊢
  rw [narrows.variants_eq]
  exact List.mem_append_left _ has

/-- A feature that is not asked for was not asked for before. -/
theorem hasFeature_eq_false (narrows : narrower.Narrows wider variant)
    (absent : narrower.hasFeature feature = false) : wider.hasFeature feature = false := by
  refine Bool.eq_false_iff.2 fun has => ?_
  rw [narrows.hasFeature has] at absent
  cases absent

/-- No feature is asked for besides the variant that is added. -/
theorem hasFeature_eq (narrows : narrower.Narrows wider variant)
    (other : variant ≠ .feature feature) :
    narrower.hasFeature feature = wider.hasFeature feature := by
  rw [Bool.eq_iff_iff, Terminal.hasFeature, Terminal.hasFeature, List.contains_iff_mem,
    List.contains_iff_mem, narrows.variants_eq, List.mem_append, List.mem_singleton]
  exact or_iff_left (Ne.symm other)

/-- The first case stays. -/
theorem case?_eq_some (narrows : narrower.Narrows wider variant) {case : Case}
    (first : wider.case? = some case) : narrower.case? = some case := by
  rw [case?] at first ⊢
  rw [narrows.variants_eq, List.findSome?_append, first, Option.some_or]

/-- The first gender stays. -/
theorem gender?_eq_some (narrows : narrower.Narrows wider variant) {gender : Gender}
    (first : wider.gender? = some gender) : narrower.gender? = some gender := by
  rw [gender?] at first ⊢
  rw [narrows.variants_eq, List.findSome?_append, first, Option.some_or]

/-! ## Names, amounts and numbers -/

/-- Cases that agree with the longer terminal agree with the shorter one. -/
theorem caseAgrees (narrows : narrower.Narrows wider variant) {cases : Option (List Case)}
    (agrees : narrower.caseAgrees cases = true) : wider.caseAgrees cases = true := by
  unfold Terminal.caseAgrees at agrees ⊢
  cases first : wider.case? with
  | none => cases cases <;> rfl
  | some case => rwa [narrows.case?_eq_some first] at agrees

/-- A gender that agrees with the longer terminal agrees with the shorter one. -/
theorem genderAgrees (narrows : narrower.Narrows wider variant) {gender : Option Gender}
    (agrees : narrower.genderAgrees gender = true) : wider.genderAgrees gender = true := by
  unfold Terminal.genderAgrees at agrees ⊢
  cases first : wider.gender? with
  | none => cases gender <;> rfl
  | some wanted => rwa [narrows.gender?_eq_some first] at agrees

/-- A refusal that depends on a feature is dropped with the feature. -/
theorem not_hasFeature_and (narrows : narrower.Narrows wider variant) {refuses : Bool}
    (passes : (!(narrower.hasFeature feature && refuses)) = true) :
    (!(wider.hasFeature feature && refuses)) = true := by
  cases has : wider.hasFeature feature with
  | false => rfl
  | true => rwa [narrows.hasFeature has] at passes

/-- A quantity that agrees with the longer terminal agrees with the shorter one. -/
theorem numberAgrees (narrows : narrower.Narrows wider variant) {isOne : Bool}
    (agrees : narrower.numberAgrees isOne = true) : wider.numberAgrees isOne = true := by
  rw [Terminal.numberAgrees, Bool.and_eq_true] at agrees ⊢
  exact agrees.imp narrows.not_hasFeature_and narrows.not_hasFeature_and

/-- A person's name that fits the longer terminal fits the shorter one. -/
theorem fitsPerson (narrows : narrower.Narrows wider variant) {names : List PersonName}
    (fits : narrower.fitsPerson names = true) : wider.fitsPerson names = true := by
  rw [Terminal.fitsPerson, Bool.and_eq_true, narrows.hasCategory_eq] at fits
  rw [Terminal.fitsPerson, Bool.and_eq_true]
  refine fits.imp id fun some => ?_
  obtain ⟨name, inside, fitsName⟩ := List.any_eq_true.1 some
  rw [Terminal.fitsName, Bool.and_eq_true] at fitsName
  refine List.any_eq_true.2 ⟨name, inside, ?_⟩
  rw [Terminal.fitsName, Bool.and_eq_true]
  exact fitsName.imp narrows.caseAgrees narrows.genderAgrees

/-- A currency that fits the longer terminal fits the shorter one. -/
theorem fitsCurrency (narrows : narrower.Narrows wider variant) {cases : Option (List Case)}
    (fits : narrower.fitsCurrency cases = true) : wider.fitsCurrency cases = true := by
  simp only [Terminal.fitsCurrency, Bool.and_eq_true, Bool.not_eq_true'] at fits ⊢
  rw [narrows.hasCategory_eq] at fits
  exact fits.imp (And.imp id narrows.hasFeature_eq_false) narrows.caseAgrees

/-- An amount that fits the longer terminal fits the shorter one. -/
theorem fitsAmount (narrows : narrower.Narrows wider variant) {isOne : Bool}
    {cases : Option (List Case)} {gender : Option Gender}
    (fits : narrower.fitsAmount isOne cases gender = true) :
    wider.fitsAmount isOne cases gender = true := by
  simp only [Terminal.fitsAmount, Bool.and_eq_true] at fits ⊢
  exact fits.imp (And.imp narrows.fitsCurrency narrows.numberAgrees) narrows.genderAgrees

/-- A number that fits the longer terminal fits the shorter one. -/
theorem fitsNumber (narrows : narrower.Narrows wider variant) {isOne : Bool}
    {cases : Option (List Case)} {gender : Option Gender}
    (fits : narrower.fitsNumber isOne cases gender = true) :
    wider.fitsNumber isOne cases gender = true := by
  rw [Terminal.fitsNumber, narrows.category?_eq] at fits
  rw [Terminal.fitsNumber]
  split at fits
  · exact narrows.genderAgrees fits
  · rfl
  · exact narrows.fitsAmount fits

/-- A percentage that fits the longer terminal fits the shorter one. -/
theorem fitsPercent (narrows : narrower.Narrows wider variant) {isOne : Bool}
    {cases : Option (List Case)} (fits : narrower.fitsPercent isOne cases = true) :
    wider.fitsPercent isOne cases = true := by
  rw [Terminal.fitsPercent, narrows.category?_eq] at fits
  rw [Terminal.fitsPercent]
  split at fits
  · rfl
  · simp only [Bool.and_eq_true, Bool.not_eq_true', Option.isNone_iff_eq_none] at fits ⊢
    obtain ⟨⟨⟨spelledOut, number⟩, noGender⟩, agrees⟩ := fits
    refine ⟨⟨⟨narrows.hasFeature_eq_false spelledOut, narrows.numberAgrees number⟩, ?_⟩,
      narrows.caseAgrees agrees⟩
    rw [Option.eq_none_iff_forall_ne_some] at noGender ⊢
    exact fun gender first => noGender gender (narrows.gender?_eq_some first)
  · cases fits

/-- Whether punctuation fits depends on the category alone. -/
theorem fitsPunctuation_eq (narrows : narrower.Narrows wider variant) (lowered : String) :
    narrower.fitsPunctuation lowered = wider.fitsPunctuation lowered := by
  obtain ⟨category, listed, demand, demandToo⟩ := narrows
  rw [fitsPunctuation, fitsPunctuation, demand, demandToo]

/-! ## Verbs -/

/-- A verb form whose number agrees with the longer terminal agrees with the shorter one. -/
theorem verbNumberAgrees (narrows : narrower.Narrows wider variant)
    (agrees : narrower.verbNumberAgrees tag = true) : wider.verbNumberAgrees tag = true := by
  rw [Terminal.verbNumberAgrees, Bool.and_eq_true] at agrees ⊢
  exact agrees.imp narrows.not_hasFeature_and narrows.not_hasFeature_and

/-- A variant that is no restrictive form does not make up for one. -/
theorem restrictiveFormsAsked (narrows : narrower.Narrows wider variant)
    (other : ∀ form ∈ restrictiveForms, variant ≠ .feature form)
    (asked : narrower.restrictiveFormsAsked tag = true) :
    wider.restrictiveFormsAsked tag = true := by
  rw [Terminal.restrictiveFormsAsked, List.all_eq_true] at asked ⊢
  intro form inside
  rw [← narrows.hasFeature_eq (other form inside)]
  exact asked form inside

end Narrows

/-- Cases at the front stay there when variants are put behind. -/
theorem leadingCases_prefix (before after : List Variant) :
    leadingCases before <+: leadingCases (before ++ after) := by
  induction before with
  | nil => exact List.nil_prefix
  | cons first before ih =>
    cases first with
    | case case => exact (List.prefix_cons_inj case).2 ih
    | gender _ => exact List.nil_prefix
    | feature _ => exact List.nil_prefix
    | other _ => exact List.nil_prefix

/-- The first of the cases that agree with a pattern agree with it, too. -/
theorem casesAgree_of_prefix {fewer asked pattern : List Case} (begins : fewer <+: asked)
    (agrees : casesAgree asked pattern = true) : casesAgree fewer pattern = true := by
  obtain ⟨rest, rfl⟩ := begins
  induction fewer generalizing pattern with
  | nil => rfl
  | cons first fewer ih =>
    cases pattern with
    | nil => rfl
    | cons other pattern =>
      rw [casesAgree, List.cons_append, List.zip_cons_cons, List.all_cons, Bool.and_eq_true]
        at agrees
      rw [casesAgree, List.zip_cons_cons, List.all_cons, Bool.and_eq_true]
      exact ⟨agrees.1, ih agrees.2⟩

namespace Narrows

variable {narrower wider : Terminal} {variant : Variant} {tag headword : String} {lexicon : Lexicon}

/-- A verb that takes the objects that the longer terminal asks for takes those of the shorter one:
the first variant stays, and the cases asked for may go on but do not change. -/
theorem objectsFit (narrows : narrower.Narrows wider variant)
    (fits : narrower.objectsFit lexicon headword = true) :
    wider.objectsFit lexicon headword = true := by
  have longer := narrows.variants_eq
  unfold Terminal.objectsFit at fits ⊢
  cases shape : wider.variants with
  | nil => rfl
  | cons first rest =>
    rw [shape, List.cons_append] at longer
    rw [longer, List.head?_cons] at fits
    rw [List.head?_cons]
    have cases : ∀ count,
        wider.objectCases count <+: narrower.objectCases count := by
      intro count
      rw [objectCases, objectCases, shape, longer, List.drop_succ_cons, List.drop_succ_cons,
        List.drop_zero, List.drop_zero, List.take_append]
      exact leadingCases_prefix _ _
    split at fits
    · rename_i count same
      obtain rfl := Option.some.inj same
      split at fits
      · by_cases zero : count.val = 0
        · rw [if_pos zero]
        by_cases none : (wider.objectCases count).isEmpty = true
        · rw [if_neg zero, if_pos none]
        have some : ¬ (narrower.objectCases count).isEmpty = true := by
          rw [List.isEmpty_iff] at none ⊢
          exact fun empty => none (List.prefix_nil.1 (empty ▸ cases count))
        rw [if_neg zero, if_neg some] at fits
        rw [if_neg zero, if_neg none]
        obtain ⟨pattern, inside, agrees⟩ := List.any_eq_true.1 fits
        exact List.any_eq_true.2 ⟨pattern, inside, casesAgree_of_prefix (cases count) agrees⟩
      · exact fits
    · exact fits

/-- A verb that fits the longer terminal fits the shorter one, if neither asks for an oblique
subject and the variant is no restrictive form. -/
theorem fitsVerb (narrows : narrower.Narrows wider variant)
    (nominative : wider.hasFeature .obliqueSubject = false)
    (staysNominative : variant ≠ .feature .obliqueSubject)
    (unrestrictive : ∀ form ∈ restrictiveForms, variant ≠ .feature form)
    (fits : narrower.fitsVerb lexicon headword tag = true) :
    wider.fitsVerb lexicon headword tag = true := by
  have nominativeToo := (narrows.hasFeature_eq staysNominative).trans nominative
  simp only [Terminal.fitsVerb, nominative, nominativeToo, Bool.false_eq_true, if_false,
    fitsPlainVerb, Bool.and_eq_true] at fits ⊢
  obtain ⟨⟨⟨⟨number, forms⟩, restrictive⟩, strong⟩, objects⟩ := fits
  exact ⟨⟨⟨⟨narrows.verbNumberAgrees number, narrows.all forms⟩,
    narrows.restrictiveFormsAsked unrestrictive restrictive⟩,
    narrows.not_hasFeature_and strong⟩, narrows.objectsFit objects⟩

/-! ## Words -/

/-- Whether a meaning belongs to the category stays as it is. -/
theorem fitsMeaning_eq (narrows : narrower.Narrows wider variant)
    (wordClass headword form : String) :
    narrower.fitsMeaning wordClass headword form = wider.fitsMeaning wordClass headword form := by
  obtain ⟨category, listed, demand, demandToo⟩ := narrows
  rw [fitsMeaning, fitsMeaning, demand, demandToo]

/-- A word of a class without rules of its own that fits the longer terminal fits the shorter
one. -/
theorem fitsOther (narrows : narrower.Narrows wider variant) {lowered : String} {meaning : Meaning}
    (fits : narrower.fitsOther lowered meaning = true) :
    wider.fitsOther lowered meaning = true := by
  rw [Terminal.fitsOther, Bool.and_eq_true, Bool.or_eq_true, narrows.fitsMeaning_eq] at fits
  rw [Terminal.fitsOther, Bool.and_eq_true, Bool.or_eq_true]
  exact fits.imp (Or.imp id narrows.all) id

/-- A noun that fits the longer terminal fits the shorter one, if neither asks for an abbreviation.
-/
theorem fitsNoun (narrows : narrower.Narrows wider variant)
    (spelledOut : wider.hasFeature .abbreviation = false)
    (staysSpelledOut : variant ≠ .feature .abbreviation) {meaning : Meaning}
    (fits : narrower.fitsNoun meaning = true) : wider.fitsNoun meaning = true := by
  have spelledOutToo := (narrows.hasFeature_eq staysSpelledOut).trans spelledOut
  simp only [Terminal.fitsNoun, spelledOut, spelledOutToo, Bool.false_eq_true, if_false,
    Bool.and_eq_true] at fits ⊢
  exact fits.imp id narrows.all

/-- A preposition is a word of its class, whatever its case. -/
theorem fitsOther_of_preposition {terminal : Terminal} {lowered : String} {meaning : Meaning}
    (category : terminal.category? = some .preposition) (bare : terminal.variants = [])
    (wordClass : meaning.wordClass = Category.preposition.name) :
    terminal.fitsOther lowered meaning = true := by
  have normal : meaning.normalClass = Category.preposition.name := by
    rw [Meaning.normalClass, Meaning.gender?, wordClass]
    rfl
  have demand : terminal.demand = .category .preposition [] := by
    unfold category? at category
    unfold variants at bare
    cases demand : terminal.demand with
    | literal _ => simp [demand] at category
    | category _ _ => simp_all
  rw [Terminal.fitsOther, bare, fitsMeaning, demand, normal]
  simp

/-- A preposition that fits the longer terminal fits the shorter one. If that has no variants, it is
for prepositions of all cases. -/
theorem fitsPreposition (narrows : narrower.Narrows wider variant) {lowered : String}
    {meaning : Meaning} (category : wider.category? = some .preposition)
    (fits : narrower.fitsPreposition lexicon lowered meaning = true) :
    (if wider.variants.isEmpty then wider.fitsOther lowered meaning
      else wider.fitsPreposition lexicon lowered meaning) = true := by
  unfold Terminal.fitsPreposition at fits ⊢
  rw [narrows.variants_eq] at fits
  cases shape : wider.variants with
  | nil =>
    rw [Bool.and_eq_true, beq_iff_eq] at fits
    exact fitsOther_of_preposition category shape fits.1
  | cons first rest =>
    rw [shape] at fits
    exact fits

/-- A meaning that fits the longer terminal fits the shorter one. -/
theorem fitsReading (narrows : narrower.Narrows wider variant)
    (nominative : wider.hasFeature .obliqueSubject = false)
    (spelledOut : wider.hasFeature .abbreviation = false)
    (plain : ∀ feature ∈ turningFeatures, variant ≠ .feature feature) {lowered : String}
    {meaning : Meaning} (fits : narrower.fitsReading lexicon lowered meaning = true) :
    wider.fitsReading lexicon lowered meaning = true := by
  unfold Terminal.fitsReading at fits ⊢
  rw [narrows.category?_eq] at fits
  split at fits
  · rw [Bool.and_eq_true] at fits ⊢
    have unrestrictive : ∀ form ∈ restrictiveForms, variant ≠ .feature form :=
      fun form inside => plain form (List.mem_append_left _ inside)
    exact fits.imp id (narrows.fitsVerb nominative (plain _ (by decide)) unrestrictive)
  · rename_i category
    have longer : narrower.variants.isEmpty = false := by simp [narrows.variants_eq]
    rw [longer] at fits
    exact narrows.fitsPreposition category fits
  · exact narrows.fitsNoun spelledOut (plain _ (by decide)) fits
  · exact narrows.fitsOther fits

/-- A word that fits the longer terminal fits the shorter one. -/
theorem fitsWord (narrows : narrower.Narrows wider variant)
    (nominative : wider.hasFeature .obliqueSubject = false)
    (spelledOut : wider.hasFeature .abbreviation = false)
    (plain : ∀ feature ∈ turningFeatures, variant ≠ .feature feature) {lowered : String}
    {meanings : List Meaning} (fits : narrower.fitsWord lexicon lowered meanings = true) :
    wider.fitsWord lexicon lowered meanings = true := by
  obtain ⟨_, _, demand, demandToo⟩ := id narrows
  rw [Terminal.fitsWord, demandToo] at fits
  rw [Terminal.fitsWord, demand]
  obtain ⟨meaning, inside, reading⟩ := List.any_eq_true.1 fits
  exact List.any_eq_true.2
    ⟨meaning, inside, narrows.fitsReading nominative spelledOut plain reading⟩

end Narrows

end Terminal

/-! ## Tokens -/

/-- A token of any kind that fits the longer terminal fits the shorter one. -/
theorem LexicalToken.fits_of_narrows {narrower wider : Terminal} {variant : Variant}
    (narrows : narrower.Narrows wider variant)
    (nominative : wider.hasFeature .obliqueSubject = false)
    (spelledOut : wider.hasFeature .abbreviation = false)
    (plain : ∀ feature ∈ Terminal.turningFeatures, variant ≠ .feature feature)
    {token : LexicalToken} (fits : token.fits narrower = true) : token.fits wider = true := by
  unfold LexicalToken.fits at fits ⊢
  cases finding : token.token.finding <;> rw [finding] at fits
  case punctuation => exact narrows.fitsPunctuation_eq _ ▸ fits
  case person => exact narrows.fitsPerson fits
  case currency => exact narrows.fitsCurrency fits
  case amount => exact narrows.fitsAmount fits
  case number => exact narrows.fitsNumber fits
  case percent => exact narrows.fitsPercent fits
  case date => exact (narrows.hasCategory_eq .date).symm.trans fits
  case ordinal => exact (narrows.hasCategory_eq .ordinal).symm.trans fits
  case word => exact narrows.fitsWord nominative spelledOut plain fits

/-- A variant that is not the name of a turning feature is none. -/
theorem Variant.ofName_ne_turning {text : String}
    (plain : text ∉ ["abbrev", "subj", "sagnb", "lhþt"]) :
    ∀ feature ∈ Terminal.turningFeatures, ofName text ≠ .feature feature := by
  intro feature inside same
  have named : feature.name = text := by
    rw [← name_ofName text, same]
    rfl
  have listed : ∀ feature ∈ Terminal.turningFeatures,
      feature.name ∈ ["abbrev", "subj", "sagnb", "lhþt"] := by decide
  exact plain (named ▸ listed feature inside)

/-- Variants only narrow a category terminal: where a spec has a variant more, in whatever lexicon,
a token of any kind that fits the longer terminal fits the shorter one. The shorter one asks for
neither an oblique subject nor an abbreviation, and the variant is neither of these, nor the supine
or the past participle. -/
theorem Terminal.fits_of_fits_variant {spec variant : String} {wider : Terminal}
    (read : ofSpec spec = .ok wider) (category : wider.category?.isSome = true)
    (nominative : wider.hasFeature .obliqueSubject = false)
    (spelledOut : wider.hasFeature .abbreviation = false) (whole : '_' ∉ variant.toList)
    (plain : variant ∉ ["abbrev", "subj", "sagnb", "lhþt"]) :
    ∃ narrower, ofSpec (spec ++ "_" ++ variant) = .ok narrower ∧
      ∀ token : LexicalToken, token.fits narrower = true → token.fits wider = true := by
  obtain ⟨narrower, readToo, narrows⟩ := exists_narrows read category whole
  have turning := Variant.ofName_ne_turning plain
  exact ⟨narrower, readToo, fun _ fits =>
    LexicalToken.fits_of_narrows narrows nominative spelledOut turning fits⟩

/-- A form of a verb that takes a dative and an accusative, with a lexicon that knows this. -/
def tokenGefur : LexicalToken where
  token := ⟨"gefur", .word [.of "gefa" "so" "gefur" "GM-FH-NT-3P-ET"]⟩
  lexicon := (Lexicon.empty.addVerb "gefa" [.dative, .accusative]).2

/-- A form that fits with both of its objects fits with the first of them. -/
theorem Terminal.fits_of_fits_variant_gefur : ∃ narrower wider,
    ofSpec "so_2_þgf" = .ok wider ∧ ofSpec ("so_2_þgf" ++ "_" ++ "þf") = .ok narrower ∧
      tokenGefur.fits narrower = true ∧ tokenGefur.fits wider = true := by
  have read : ofSpec "so_2_þgf" =
      .ok ⟨"so_2_þgf", .category .verb [.feature (.objects 2), .case .dative]⟩ := rfl
  obtain ⟨narrower, readToo, narrows⟩ := fits_of_fits_variant read rfl (by decide) (by decide)
    (show '_' ∉ "þf".toList by decide) (by decide)
  have shown : (ofSpec ("so_2_þgf" ++ "_" ++ "þf")).toOption.any tokenGefur.fits = true := by
    decide +kernel
  rw [readToo] at shown
  have fits : tokenGefur.fits narrower = true := shown
  exact ⟨narrower, _, read, readToo, fits, narrows tokenGefur fits⟩

end ChartParser
