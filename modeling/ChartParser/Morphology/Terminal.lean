import ChartParser.Morphology.Category
import ChartParser.Morphology.Variant
import ChartParser.Text.Pieces
import ChartParser.Text.Uppercase

/-!
# Terminals

A terminal is written as a category with variants, `no_et_kk_nf`, or as a quoted literal. In double
quotes a literal asks for a form of a word and in single quotes for the headword; after a colon it
may ask for a word class as well, `'vera:so'`.
-/

namespace ChartParser

/-- A quoted terminal: a text in lower case, the word class it asks for, and whether the text is a
headword rather than a form. -/
structure Literal where
  text : String
  wordClass : Option String
  byHeadword : Bool
deriving DecidableEq, Repr

/-- What a terminal asks for. -/
inductive Demand where
  | category (category : Category) (variants : List Variant)
  | literal (literal : Literal)
deriving DecidableEq, Repr

/-- A terminal: what it asks for, and the text it was written as. -/
structure Terminal where
  name : String
  demand : Demand
deriving DecidableEq, Repr

namespace Literal

/-- The text before and after the last separator. -/
def splitLast (separator : Char) : List Char → Option (List Char × List Char)
  | [] => none
  | c :: rest =>
    match splitLast separator rest with
    | some (before, after) => some (c :: before, after)
    | none => if c = separator then some ([], rest) else none

/-- The text and the word class of a literal, as written between its quotes. A colon at either end
is part of the text. -/
def textAndClass (inner : List Char) : List Char × Option (List Char) :=
  match splitLast ':' inner with
  | some (before, after) =>
    if before.isEmpty || after.isEmpty then (inner, none) else (before, some after)
  | none => (inner, none)

/-- The literal written as `inner` between quotes. -/
def ofInner (quote : Char) (inner : List Char) : Literal where
  text := Text.lowercase (String.ofList (textAndClass inner).1)
  wordClass := (textAndClass inner).2.map String.ofList
  byHeadword := quote == '\x27'

/-- Whether a text is the literal's, letter case apart. A text without uppercase characters is taken
as it is. -/
def textEq (lowered text : String) : Bool :=
  lowered == text || (text.toList.any Text.isUppercase && lowered == Text.lowercase text)

/-- Whether the literal asks for no word class or for this one. -/
def allowsClass (literal : Literal) (wordClass : String) : Bool :=
  match literal.wordClass with
  | none => true
  | some wanted => wanted == wordClass

end Literal

namespace Demand

/-- What a category spec asks for: the category before the first underscore and the variants after
it. -/
def ofParts : List String → Option Demand
  | [] => none
  | head :: rest =>
    if head.isEmpty then none else some (.category (Category.ofName head) (rest.map Variant.ofName))

end Demand

namespace Terminal

/-- The terminal that a spec describes. A spec that starts with a quote is a literal: the quote must
also end it, with something in between. -/
def ofSpec (spec : String) : Except Fault Terminal :=
  match spec.toList with
  | c :: rest =>
    if c = '"' || c = '\x27' then
      if rest.length < 2 || rest.getLast? != some c then .error (.malformedLiteral spec)
      else .ok ⟨spec, .literal (Literal.ofInner c rest.dropLast)⟩
    else
      match Demand.ofParts (Text.splitAt '_' spec) with
      | some demand => .ok ⟨spec, demand⟩
      | none => .error (.malformedTerminal spec)
  | [] => .error (.malformedTerminal spec)

/-- The category asked for, unless the terminal is a literal. -/
def category? (terminal : Terminal) : Option Category :=
  match terminal.demand with
  | .category category _ => some category
  | .literal _ => none

/-- The literal asked for, unless the terminal has a category. -/
def literal? (terminal : Terminal) : Option Literal :=
  match terminal.demand with
  | .category _ _ => none
  | .literal literal => some literal

/-- The variants asked for, in the order written. -/
def variants (terminal : Terminal) : List Variant :=
  match terminal.demand with
  | .category _ variants => variants
  | .literal _ => []

/-- Whether the terminal has this category. -/
def hasCategory (terminal : Terminal) (category : Category) : Bool :=
  terminal.category? == some category

/-- Whether the terminal asks for this feature. -/
def hasFeature (terminal : Terminal) (feature : Feature) : Bool :=
  terminal.variants.contains (.feature feature)

/-- The first case asked for. -/
def case? (terminal : Terminal) : Option Case := terminal.variants.findSome? Variant.case?

/-- The first gender asked for. -/
def gender? (terminal : Terminal) : Option Gender := terminal.variants.findSome? Variant.gender?

/-- Whether a token of this kind and text fits: a category goes by the kind, a literal by the text
and, if it names a class, by the kind too. -/
def fitsBase (terminal : Terminal) (kind text : String) : Bool :=
  match terminal.demand with
  | .category category _ => category.name == kind
  | .literal literal => Literal.textEq literal.text text && literal.allowsClass kind

/-- Whether one meaning of a word fits, given by its word class, its headword and the form it has in
the sentence. -/
def fitsMeaning (terminal : Terminal) (wordClass headword form : String) : Bool :=
  match terminal.demand with
  | .category category _ => category.name == wordClass
  | .literal literal =>
    Literal.textEq literal.text (if literal.byHeadword then headword else form) &&
      literal.allowsClass wordClass

end Terminal

end ChartParser
