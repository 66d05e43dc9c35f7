import ChartParser.Morphology.LexiconSource
import ChartParser.Morphology.VerbAgreement

/-!
# Restrictive verb forms

The supine and the past participle are for terminals that ask for them. A terminal with a nominative
subject holds every verb form to this. One with an oblique subject does not look at restrictive
forms at all: it goes by the case that the lexicon gives to the subject, or by the mark of the
mediopassive. So a restrictive form fits without being asked for wherever such a terminal lets any
verb fit, and nowhere else (`fitsVerb_asks_restrictive_iff`).
-/

namespace ChartParser

namespace Terminal

variable {terminal : Terminal} {lexicon : Lexicon} {headword tag : String}

/-- A verb with a nominative subject fits in a restrictive form only if the form is asked for. -/
theorem hasFeature_of_fitsPlainVerb (fits : terminal.fitsPlainVerb lexicon headword tag = true)
    {form : Feature} (restrictive : form ∈ restrictiveForms) (shown : form.shownBy tag = true) :
    terminal.hasFeature form = true := by
  simp only [fitsPlainVerb, Bool.and_eq_true] at fits
  have asked := List.all_eq_true.1 fits.1.1.2 form restrictive
  simpa [shown] using asked

/-- No verb has an oblique subject that fits if the last variant is no case. -/
theorem subjectFits_eq_false (noCase : terminal.variants.getLast?.bind Variant.case? = none) :
    terminal.subjectFits lexicon headword = false := by
  rw [subjectFits, noCase]
  cases lexicon.subjectCase? headword <;> rfl

/-- A tag with the marks of every form that a verb with an oblique subject may have to show, with
those of both restrictive forms, and without a mark of number. -/
def restrictiveTag : String := "MM-NH-LHÞT-SAGNB"

/-- The tag is no obstacle to a verb with an oblique subject. -/
theorem fitsObliqueVerb_restrictiveTag {case : Case}
    (subject : terminal.hasFeature .mediopassive = true ∨
      terminal.variants.getLast?.bind Variant.case? = some case) :
    terminal.fitsObliqueVerb (Lexicon.empty.addSubject headword case) headword restrictiveTag =
      true := by
  have infinitive : Feature.infinitive.shownBy restrictiveTag = true := by decide
  have mediopassive : Feature.mediopassive.shownBy restrictiveTag = true := by decide
  have singular : Feature.singular.shownBy restrictiveTag = false := by decide
  have plural : Feature.plural.shownBy restrictiveTag = false := by decide
  rw [fitsObliqueVerb, infinitive, mediopassive, Bool.or_true, Bool.true_and]
  split
  · rfl
  · rename_i active
    have last := subject.resolve_left active
    have known : (Lexicon.empty.addSubject headword case).subjectCase? headword = some case := by
      simp [Lexicon.addSubject, Lexicon.subjectCase?, Lexicon.empty, WordTable.alter]
    rw [verbNumberAgrees, singular, plural, Bool.and_false, Bool.and_false, subjectFits, known,
      last]
    simp

/-- A terminal lets a verb fit in a restrictive form only where it asks for the form, in every
lexicon, for every verb and every tag, exactly if its subject is nominative, it asks for both
restrictive forms, or it lets no verb fit at all because it neither asks for the mediopassive nor
ends with a case for the subject. -/
theorem fitsVerb_asks_restrictive_iff (terminal : Terminal) :
    (∀ lexicon headword tag, terminal.fitsVerb lexicon headword tag = true →
      (Text.contains tag "SAGNB" = true → terminal.hasFeature .supine = true) ∧
        (Text.contains tag "LHÞT" = true → terminal.hasFeature .pastParticiple = true)) ↔
      terminal.hasFeature .obliqueSubject = false ∨
        (terminal.hasFeature .supine = true ∧ terminal.hasFeature .pastParticiple = true) ∨
        (terminal.hasFeature .mediopassive = false ∧
          terminal.variants.getLast?.bind Variant.case? = none) := by
  constructor
  · intro asks
    cases oblique : terminal.hasFeature .obliqueSubject with
    | false => exact Or.inl rfl
    | true =>
      have both : ∀ case, (terminal.hasFeature .mediopassive = true ∨
          terminal.variants.getLast?.bind Variant.case? = some case) →
          terminal.hasFeature .supine = true ∧ terminal.hasFeature .pastParticiple = true := by
        intro case subject
        have fits : terminal.fitsVerb (Lexicon.empty.addSubject "" case) "" restrictiveTag =
            true := by
          rw [fitsVerb, if_pos oblique, fitsObliqueVerb_restrictiveTag subject]
        have asked := asks _ _ _ fits
        exact ⟨asked.1 (by decide), asked.2 (by decide)⟩
      refine Or.inr ?_
      cases active : terminal.hasFeature .mediopassive with
      | true => exact Or.inl (both .nominative (Or.inl active))
      | false =>
        cases last : terminal.variants.getLast?.bind Variant.case? with
        | none => exact Or.inr ⟨rfl, rfl⟩
        | some case => exact Or.inl (both case (Or.inr last))
  · intro exempt lexicon headword tag fits
    cases oblique : terminal.hasFeature .obliqueSubject with
    | false =>
      rw [fitsVerb, oblique, if_neg Bool.false_ne_true] at fits
      exact ⟨fun shown => hasFeature_of_fitsPlainVerb fits (by decide) shown,
        fun shown => hasFeature_of_fitsPlainVerb fits (by decide) shown⟩
    | true =>
      rcases exempt with nominative | both | ⟨active, noCase⟩
      · rw [oblique] at nominative
        cases nominative
      · exact ⟨fun _ => both.1, fun _ => both.2⟩
      · rw [fitsVerb, if_pos oblique, fitsObliqueVerb, active, if_neg Bool.false_ne_true,
          subjectFits_eq_false noCase, Bool.and_false, Bool.and_false] at fits
        cases fits

/-- A verb with an accusative subject fits in the supine a terminal that only asks for such a
subject. -/
theorem fitsVerb_supine_unasked : ∃ lexicon terminal,
    Lexicon.ofSource "[subjects]\nlanga þf\n" = .ok lexicon ∧
      ofSpec "so_subj_þf" = .ok terminal ∧ terminal.hasCategory .verb = true ∧
      terminal.fitsVerb lexicon "langa" "GM-SAGNB" = true ∧
      Text.contains "GM-SAGNB" "SAGNB" = true ∧ terminal.hasFeature .supine = false :=
  ⟨Lexicon.empty.addSubject "langa" .accusative,
    ⟨"so_subj_þf", .category .verb [.feature .obliqueSubject, .case .accusative]⟩,
    rfl, rfl, by decide⟩

end Terminal

end ChartParser
