import ChartParser.Text.Cased
import ChartParser.Text.LowercaseMap
import ChartParser.Text.UppercaseMap

/-!
# Lower and upper case of a text

Characters are mapped one by one, with one exception: a capital sigma becomes a final sigma where it
ends a word. It does so when a cased character stands before it and none after it, case-ignorable
characters being passed over on both sides.
-/

namespace ChartParser.Text

/-- Whether the first character that is not case-ignorable is cased. -/
def meetsCased (cs : List Char) : Bool :=
  match cs.dropWhile isCaseIgnorable with
  | [] => false
  | c :: _ => isCased c

/-- The lower case of a capital sigma between the characters `before`, nearest first, and `after`.
-/
def lowercaseSigma (before after : List Char) : Char :=
  if meetsCased before && !meetsCased after then 'ς' else 'σ'

/-- The lower case of a text that follows the characters `before`, nearest first. -/
def lowercaseAfter : List Char → List Char → List Char
  | _, [] => []
  | before, c :: rest =>
    (if c = 'Σ' then [lowercaseSigma before rest] else lowercaseChar c) ++
      lowercaseAfter (c :: before) rest

/-- The lower case of a text. -/
def lowercase (text : String) : String := String.ofList (lowercaseAfter [] text.toList)

/-- The upper case of a text. -/
def uppercase (text : String) : String := String.ofList (text.toList.flatMap uppercaseChar)

end ChartParser.Text
