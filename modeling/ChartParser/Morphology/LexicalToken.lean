import ChartParser.Morphology.Agreement
import ChartParser.Morphology.VerbAgreement

/-!
# Tokens with a lexicon

A classified token together with the lexicon it is looked up in. A word fits a terminal if one of
its meanings does; a meaning is held to the rules of verbs, prepositions, nouns or all other
classes, as the terminal's category says. Nothing that the lexicon leaves out is an error.
-/

namespace ChartParser

/-- A classified token and the lexicon it is looked up in. -/
structure LexicalToken where
  token : Token
  lexicon : Lexicon

namespace Terminal

/-- Whether a noun fits. Its gender is its word class; its other marks are in the tag, and an
uninflected noun has all of them. An abbreviation is a noun without inflection. -/
def fitsNoun (terminal : Terminal) (meaning : Meaning) : Bool :=
  meaning.normalClass == Category.noun.name &&
    if terminal.hasFeature .abbreviation then meaning.isUninflected
    else
      terminal.variants.all fun
        | .gender gender => meaning.gender? == some gender
        | variant => variant.shownBy meaning.tag || meaning.isUninflected

/-- Whether a preposition with this form fits: the first variant must be a case it governs. -/
def fitsPreposition (terminal : Terminal) (lexicon : Lexicon) (lowered : String)
    (meaning : Meaning) : Bool :=
  meaning.wordClass == Category.preposition.name &&
    match terminal.variants.head?.bind Variant.case? with
    | some case => (lexicon.governedBy lowered).contains case
    | none => false

/-- Whether a word of any other class fits: an inflected form must carry all marks asked for. -/
def fitsOther (terminal : Terminal) (lowered : String) (meaning : Meaning) : Bool :=
  (meaning.isUninflected || terminal.variants.all (·.shownBy meaning.tag)) &&
    terminal.fitsMeaning meaning.normalClass meaning.headword lowered

/-- Whether one meaning of a word with this form, in lower case, fits. -/
def fitsReading (terminal : Terminal) (lexicon : Lexicon) (lowered : String)
    (meaning : Meaning) : Bool :=
  match terminal.category? with
  | some .verb =>
    meaning.wordClass == Category.verb.name &&
      terminal.fitsVerb lexicon meaning.headword meaning.tag
  | some .preposition =>
    if terminal.variants.isEmpty then terminal.fitsOther lowered meaning
    else terminal.fitsPreposition lexicon lowered meaning
  | some .noun => terminal.fitsNoun meaning
  | _ => terminal.fitsOther lowered meaning

/-- Whether a word fits. A literal that asks for a form alone also takes words without a meaning. -/
def fitsWord (terminal : Terminal) (lexicon : Lexicon) (lowered : String)
    (meanings : List Meaning) : Bool :=
  match terminal.demand with
  | .literal literal =>
    if !literal.byHeadword && literal.wordClass.isNone then literal.text == lowered
    else meanings.any fun meaning =>
      terminal.fitsMeaning meaning.normalClass meaning.headword lowered
  | .category _ _ => meanings.any (terminal.fitsReading lexicon lowered)

end Terminal

namespace LexicalToken

/-- The text of the token in lower case. -/
def lowered (token : LexicalToken) : String := Text.lowercase token.token.text

/-- Whether the token fits the terminal. -/
def fits (token : LexicalToken) (terminal : Terminal) : Bool :=
  match token.token.finding with
  | .punctuation => terminal.fitsPunctuation token.lowered
  | .person names => terminal.fitsPerson names
  | .currency _ cases => terminal.fitsCurrency cases
  | .amount quantity _ cases gender => terminal.fitsAmount (quantity == 1.0) cases gender
  | .number quantity cases gender => terminal.fitsNumber (quantity == 1.0) cases gender
  | .percent quantity cases => terminal.fitsPercent (quantity == 1.0) cases
  | .date => terminal.hasCategory .date
  | .ordinal _ => terminal.hasCategory .ordinal
  | .word meanings => terminal.fitsWord token.lexicon token.lowered meanings

end LexicalToken

instance : Scannable LexicalToken where
  fits := LexicalToken.fits
  text token := token.token.text

end ChartParser
