import ChartParser.Morphology.Token

/-!
# Agreement of names, amounts and numbers

Tokens that are not words agree with a terminal through what they carry: cases, a gender, a
quantity. Whatever a token leaves open agrees with everything. The singular is for a quantity of
exactly one and the plural for every other.
-/

namespace ChartParser

namespace Terminal

/-- Whether the first case asked for is among the cases a token may have. -/
def caseAgrees (terminal : Terminal) (cases : Option (List Case)) : Bool :=
  match cases, terminal.case? with
  | some cases, some case => cases.contains case
  | _, _ => true

/-- Whether the first gender asked for is the gender of a token. -/
def genderAgrees (terminal : Terminal) (gender : Option Gender) : Bool :=
  match gender, terminal.gender? with
  | some gender, some wanted => gender == wanted
  | _, _ => true

/-- Whether the grammatical number asked for suits a quantity, given by whether it is one. -/
def numberAgrees (terminal : Terminal) (isOne : Bool) : Bool :=
  !(terminal.hasFeature .singular && !isOne) && !(terminal.hasFeature .plural && isOne)

/-- Whether a name fits that has this case and gender, as far as they are known. -/
def fitsName (terminal : Terminal) (name : PersonName) : Bool :=
  terminal.caseAgrees (name.case.map ([·])) && terminal.genderAgrees name.gender

/-- Whether some reading of a person's name fits. -/
def fitsPerson (terminal : Terminal) (names : List PersonName) : Bool :=
  terminal.hasCategory .person && names.any terminal.fitsName

/-- Whether a currency fits: it stands for a noun that is not abbreviated. -/
def fitsCurrency (terminal : Terminal) (cases : Option (List Case)) : Bool :=
  terminal.hasCategory .noun && !terminal.hasFeature .abbreviation && terminal.caseAgrees cases

/-- Whether an amount of a currency fits. -/
def fitsAmount (terminal : Terminal) (isOne : Bool) (cases : Option (List Case))
    (gender : Option Gender) : Bool :=
  terminal.fitsCurrency cases && terminal.numberAgrees isOne && terminal.genderAgrees gender

/-- Whether a number fits: as a numeral, as a number of any form, or as an amount. -/
def fitsNumber (terminal : Terminal) (isOne : Bool) (cases : Option (List Case))
    (gender : Option Gender) : Bool :=
  match terminal.category? with
  | some .numeralWord => terminal.genderAgrees gender
  | some .number => true
  | _ => terminal.fitsAmount isOne cases gender

/-- Whether a percentage fits: as a numeral, or as a noun for which no gender is asked. -/
def fitsPercent (terminal : Terminal) (isOne : Bool) (cases : Option (List Case)) : Bool :=
  match terminal.category? with
  | some .numeralWord => true
  | some .noun =>
    !terminal.hasFeature .abbreviation && terminal.numberAgrees isOne &&
      terminal.gender?.isNone && terminal.caseAgrees cases
  | _ => false

/-- Whether punctuation fits, given in lower case. -/
def fitsPunctuation (terminal : Terminal) (lowered : String) : Bool :=
  match terminal.demand with
  | .literal literal =>
    literal.text == lowered && literal.allowsClass Category.punctuation.name
  | .category category _ => category == .punctuation

end Terminal

end ChartParser
