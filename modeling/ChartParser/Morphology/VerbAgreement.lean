import ChartParser.Morphology.Lexicon
import ChartParser.Morphology.Token

/-!
# Agreement of verbs

A verb form agrees with a terminal through its inflection tag and through the lexicon. The tag must
carry every verb form asked for and must not carry a restrictive form that is not. The lexicon says
which objects the verb takes, and for a terminal with an oblique subject which case that is.
-/

namespace ChartParser

/-- Whether an inflection tag carries the mark of the variant; a variant without a mark is carried
by every tag. -/
def Variant.shownBy (variant : Variant) (tag : String) : Bool :=
  match variant.mark? with
  | some mark => Text.contains tag mark
  | none => true

/-- Whether an inflection tag carries the mark of the feature. -/
def Feature.shownBy (feature : Feature) (tag : String) : Bool :=
  (Variant.feature feature).shownBy tag

/-- Whether a verb form must carry the feature wherever a terminal asks for it. -/
def Feature.bindsVerb : Feature → Bool
  | person _ | infinitive | subjunctive | indicative | imperative | presentParticiple
  | pastParticiple | supine | present | past | strong | weak | active | mediopassive => true
  | singular | plural | objects _ | article | abbreviation | obliqueSubject => false

/-- Whether a verb form must carry the variant wherever a terminal asks for it. -/
def Variant.bindsVerb : Variant → Bool
  | gender _ => true
  | feature f => f.bindsVerb
  | case _ => false
  | other _ => false

/-- The verb forms that fit only terminals that ask for them. -/
def restrictiveForms : List Feature := [.supine, .pastParticiple]

namespace Terminal

/-- Whether the tag carries no grammatical number other than the one asked for. -/
def verbNumberAgrees (terminal : Terminal) (tag : String) : Bool :=
  !(terminal.hasFeature .singular && Feature.plural.shownBy tag) &&
    !(terminal.hasFeature .plural && Feature.singular.shownBy tag)

/-- Whether the tag carries every verb form asked for. -/
def verbFormsShown (terminal : Terminal) (tag : String) : Bool :=
  terminal.variants.all fun variant => !variant.bindsVerb || variant.shownBy tag

/-- Whether every restrictive form in the tag is asked for. -/
def restrictiveFormsAsked (terminal : Terminal) (tag : String) : Bool :=
  restrictiveForms.all fun form => !form.shownBy tag || terminal.hasFeature form

/-- The cases at the front of a list of variants. -/
def leadingCases : List Variant → List Case
  | .case case :: rest => case :: leadingCases rest
  | _ => []

/-- The cases asked for the objects of a verb: those that follow the object count, at most as many
as it says. -/
def objectCases (terminal : Terminal) (count : Nat) : List Case :=
  leadingCases ((terminal.variants.drop 1).take count)

/-- Whether the cases asked for are those of the pattern, as far as both of them go. -/
def casesAgree (asked pattern : List Case) : Bool :=
  (asked.zip pattern).all fun pair => pair.1 == pair.2

/-- Whether the verb takes the objects asked for. A verb known with the right number of objects fits
if none or no cases are asked for, or if those asked for are those of one of its patterns as far as
they go; any other verb fits unless it is known to take fewer objects. -/
def objectsFit (terminal : Terminal) (lexicon : Lexicon) (headword : String) : Bool :=
  match terminal.variants.head? with
  | some (.feature (.objects count)) =>
    match lexicon.objectsOf? headword count with
    | some patterns =>
      if count.val = 0 then true
      else if (terminal.objectCases count).isEmpty then true
      else patterns.any (casesAgree (terminal.objectCases count))
    | none => !(List.range count).any fun fewer => (lexicon.objectsOf? headword fewer).isSome
  | _ => true

/-- Whether the last variant is the case that the lexicon gives to the verb's subject. -/
def subjectFits (terminal : Terminal) (lexicon : Lexicon) (headword : String) : Bool :=
  match lexicon.subjectCase? headword, terminal.variants.getLast?.bind Variant.case? with
  | some actual, some wanted => actual == wanted
  | _, _ => false

/-- Whether a verb with an oblique subject fits. A terminal that asks for the mediopassive looks at
nothing after that. -/
def fitsObliqueVerb (terminal : Terminal) (lexicon : Lexicon) (headword tag : String) : Bool :=
  (!terminal.hasFeature .infinitive || Feature.infinitive.shownBy tag) &&
    if terminal.hasFeature .mediopassive then Feature.mediopassive.shownBy tag
    else terminal.verbNumberAgrees tag && terminal.subjectFits lexicon headword

/-- Whether a verb with a nominative subject fits. -/
def fitsPlainVerb (terminal : Terminal) (lexicon : Lexicon) (headword tag : String) : Bool :=
  terminal.verbNumberAgrees tag && terminal.verbFormsShown tag &&
    terminal.restrictiveFormsAsked tag &&
    !(terminal.hasFeature .pastParticiple && Feature.weak.shownBy tag) &&
    terminal.objectsFit lexicon headword

/-- Whether the form of a verb that the tag describes fits. -/
def fitsVerb (terminal : Terminal) (lexicon : Lexicon) (headword tag : String) : Bool :=
  if terminal.hasFeature .obliqueSubject then terminal.fitsObliqueVerb lexicon headword tag
  else terminal.fitsPlainVerb lexicon headword tag

end Terminal

end ChartParser
