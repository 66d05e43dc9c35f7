import ChartParser.Morphology.Inflection
import ChartParser.Text.Casing

/-!
# Lexicons

A lexicon knows three things: which objects a verb takes, which case the subject of a verb has
where it is not the nominative, and which cases a preposition governs. What is known is kept by
words, for verbs in one table for each number of objects. A pattern of objects or a governed case
is listed once; of two cases for the subject of one verb the later holds.
-/

namespace ChartParser

/-- What is known of words, with one entry for each word that is known. -/
abbrev WordTable (α : Type) := List (String × α)

namespace WordTable

variable {α : Type}

/-- The table in which the word has the entry that is made from what it had before, if anything. -/
def alter (table : WordTable α) (word : String) (change : Option α → α) : WordTable α :=
  match table with
  | [] => [(word, change none)]
  | (known, entry) :: rest =>
    if known = word then (known, change (some entry)) :: rest
    else (known, entry) :: alter rest word change

end WordTable

/-- The most objects that a verb can take. -/
def maxObjects : Nat := 2

/-- What is known of verbs and prepositions. -/
structure Lexicon where
  /-- For each number of objects, the verbs that take so many, with the cases these may have. -/
  verbs : Vector (WordTable (List (List Case))) (maxObjects + 1)
  /-- Verbs with the case of their subject. -/
  subjects : WordTable Case
  /-- Prepositions, in lower case, with the cases they govern. -/
  prepositions : WordTable (List Case)
deriving DecidableEq, Repr

namespace Lexicon

/-- The lexicon that knows nothing. -/
def empty : Lexicon := ⟨.replicate _ [], [], []⟩

/-- A list with one more element at its end, unless it is there already. -/
def enter {α : Type} [DecidableEq α] (facts : List α) (fact : α) : List α :=
  if fact ∈ facts then facts else facts ++ [fact]

/-- Whether the verb may take objects in these cases, which is refused if there are too many, and
the lexicon after that. -/
def addVerb (lexicon : Lexicon) (headword : String) (objects : List Case) :
    Except Fault Unit × Lexicon :=
  if few : objects.length ≤ maxObjects then
    let table := lexicon.verbs[objects.length].alter headword fun patterns =>
      enter (patterns.getD []) objects
    (.ok (), { lexicon with verbs := lexicon.verbs.set objects.length table })
  else (.error (.tooManyObjects headword objects.length maxObjects), lexicon)

/-- The lexicon in which the subject of the verb has this case. -/
def addSubject (lexicon : Lexicon) (headword : String) (case : Case) : Lexicon :=
  { lexicon with subjects := lexicon.subjects.alter headword fun _ => case }

/-- The lexicon in which the preposition also governs these cases. -/
def addPreposition (lexicon : Lexicon) (word : String) (cases : List Case) : Lexicon :=
  { lexicon with
    prepositions := lexicon.prepositions.alter (Text.lowercase word) fun governed =>
      cases.foldl enter (governed.getD []) }

/-- The objects that the verb may take, if it is known with that many of them, in the order in which
they were entered. -/
def objectsOf? (lexicon : Lexicon) (headword : String) (count : Nat) :
    Option (List (List Case)) :=
  lexicon.verbs[count]?.bind fun table => table.lookup headword

/-- The case of the verb's subject, if it is known to be other than the nominative. -/
def subjectCase? (lexicon : Lexicon) (headword : String) : Option Case :=
  lexicon.subjects.lookup headword

/-- The cases that the preposition governs; it is looked up as given, so in lower case. -/
def governedBy (lexicon : Lexicon) (word : String) : List Case :=
  (lexicon.prepositions.lookup word).getD []

end Lexicon

end ChartParser
