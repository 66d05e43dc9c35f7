import ChartParser.Morphology.Terminal

/-!
# Tokens

A sentence is a sequence of tokens. A plain token has only a kind and a text. A classified token
says what was found in the text: a word with its possible meanings, a name, an amount, a date, or
punctuation. All that parsing needs of a token is whether it fits a terminal, and its text.
-/

namespace ChartParser

/-- Tokens that a parse can scan. -/
class Scannable (τ : Type) where
  /-- Whether the token fits the terminal. -/
  fits : τ → Terminal → Bool
  /-- The text of the token. -/
  text : τ → String

/-- One reading of a word form: its headword, its word class and its inflection tag. -/
structure Meaning where
  headword : String
  entry : Nat
  wordClass : String
  subclass : String
  form : String
  tag : String
deriving DecidableEq, Repr

namespace Meaning

/-- A meaning without an entry number or a subclass. -/
def of (headword wordClass form tag : String) : Meaning := ⟨headword, 0, wordClass, "", form, tag⟩

/-- The gender of a noun, which stands as its word class. -/
def gender? (meaning : Meaning) : Option Gender := Gender.ofName? meaning.wordClass

/-- The word class with the three genders of nouns taken together. -/
def normalClass (meaning : Meaning) : String :=
  if meaning.gender?.isSome then Category.noun.name else meaning.wordClass

/-- Whether the form has no inflection. -/
def isUninflected (meaning : Meaning) : Bool := meaning.tag == "-"

/-- Whether the inflection tag carries a mark. -/
def carries (meaning : Meaning) (mark : String) : Bool := Text.contains meaning.tag mark

end Meaning

/-- One reading of a person's name. -/
structure PersonName where
  name : String
  gender : Option Gender
  case : Option Case
deriving DecidableEq, Repr

/-- What was found in the text of a token. Absent cases mean that any case is possible. -/
inductive Finding where
  | word (meanings : List Meaning)
  | punctuation
  | person (names : List PersonName)
  | currency (iso : String) (cases : Option (List Case))
  | amount (quantity : Float) (iso : String) (cases : Option (List Case)) (gender : Option Gender)
  | number (quantity : Float) (cases : Option (List Case)) (gender : Option Gender)
  | percent (quantity : Float) (cases : Option (List Case))
  | date
  | ordinal (position : Nat)

/-- The name of the kind of finding. -/
def Finding.kind : Finding → String
  | word _ => "word"
  | punctuation => "punctuation"
  | person _ => "person"
  | currency _ _ => "currency"
  | amount _ _ _ _ => "amount"
  | number _ _ _ => "number"
  | percent _ _ => "percent"
  | date => "date"
  | ordinal _ => "ordinal"

/-- A text and what was found in it. -/
structure Token where
  text : String
  finding : Finding

/-- A token that only has a kind and a text. -/
structure PlainToken where
  kind : String
  text : String
deriving DecidableEq, Repr

namespace PlainToken

/-- The text before and after the first colon. -/
def splitFirst : List Char → Option (List Char × List Char)
  | [] => none
  | c :: rest =>
    if c = ':' then some ([], rest)
    else (splitFirst rest).map fun (before, after) => (c :: before, after)

/-- The token written as a word: `kind:text`, or a text that is its own kind. -/
def ofWord (word : String) : PlainToken :=
  match splitFirst word.toList with
  | some (kind, text) =>
    if kind.isEmpty || text.isEmpty then ⟨word, word⟩
    else ⟨String.ofList kind, String.ofList text⟩
  | none => ⟨word, word⟩

/-- The tokens of a sentence, one for each of its words. -/
def ofSentence (sentence : String) : List PlainToken := (Text.words sentence).map ofWord

end PlainToken

instance : Scannable PlainToken where
  fits token terminal := terminal.fitsBase token.kind token.text
  text token := token.text

end ChartParser
