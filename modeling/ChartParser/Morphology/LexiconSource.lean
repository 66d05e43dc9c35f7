import ChartParser.Morphology.Lexicon
import ChartParser.Text.Pieces

/-!
# Lexicons as text

A lexicon is written line by line. A header in brackets opens a section; below it every line is an
entry, a word followed by the names of cases. A number sign starts a comment. The first line that
cannot be read ends the reading with its number.
-/

namespace ChartParser

/-- The sections of a lexicon. -/
inductive LexiconSection where
  | verbs
  | subjects
  | prepositions
deriving DecidableEq, Repr

namespace LexiconSection

/-- The section of that name. -/
def ofName? : String → Option LexiconSection
  | "verbs" => some verbs
  | "subjects" => some subjects
  | "prepositions" => some prepositions
  | _ => none

end LexiconSection

namespace Lexicon

/-- What a line says once its comment and outer white space are gone. -/
def lineContent (line : String) : List Char :=
  Text.trim (line.toList.takeWhile (· ≠ '#'))

/-- Whether the character is one of the letters a section name is made of. -/
def isSectionLetter (c : Char) : Bool := 'a' ≤ c && c ≤ 'z'

/-- The name in a header: one or more small ASCII letters between brackets, with white space allowed
around them. Anything else is no header. -/
def headerName? (content : List Char) : Option String :=
  match content with
  | '[' :: rest =>
    if rest.getLast? = some ']' then
      let name := Text.trim rest.dropLast
      if !name.isEmpty && name.all isSectionLetter then some (String.ofList name) else none
    else none
  | _ => none

/-- The lexicon with one entry of a section added. -/
def addEntry (lexicon : Lexicon) (part : LexiconSection) (word : String) (caseNames : List String) :
    Except Fault Lexicon := do
  let cases ← caseNames.mapM Case.ofName
  match part with
  | .verbs =>
    let (result, lexicon) := lexicon.addVerb word cases
    result.map fun _ => lexicon
  | .subjects =>
    match cases with
    | [case] => .ok (lexicon.addSubject word case)
    | _ => .error (.subjectCaseCount word)
  | .prepositions =>
    if cases.isEmpty then .error (.prepositionWithoutCase word)
    else .ok (lexicon.addPreposition word cases)

/-- How far a reading has come: what is known, and the section that is open. -/
structure Reading where
  lexicon : Lexicon
  part : Option LexiconSection
deriving DecidableEq, Repr

namespace Reading

/-- The reading before the first line. -/
def start : Reading := ⟨Lexicon.empty, none⟩

/-- The reading after a line with this content. -/
def readContent (reading : Reading) (content : List Char) : Except Fault Reading :=
  if content.isEmpty then .ok reading
  else
    match headerName? content with
    | some name =>
      match LexiconSection.ofName? name with
      | some part => .ok { reading with part := some part }
      | none => .error (.unknownSection name)
    | none =>
      match reading.part, Text.words (String.ofList content) with
      | none, _ => .error .entryOutsideSection
      | some _, [] => .ok reading
      | some part, word :: caseNames =>
        (reading.lexicon.addEntry part word caseNames).map fun lexicon => { reading with lexicon }

/-- The reading after one more line. -/
def readLine (reading : Reading) (line : String × Nat) : Except GrammarError Reading :=
  match reading.readContent (lineContent line.1) with
  | .ok next => .ok next
  | .error fault => .error ⟨fault, Location.ofLine line.2⟩

end Reading

/-- The lexicon that a source text describes. -/
def ofSource (source : String) : Except GrammarError Lexicon :=
  ((Text.numberedLines source).foldlM Reading.readLine Reading.start).map (·.lexicon)

end Lexicon

end ChartParser
