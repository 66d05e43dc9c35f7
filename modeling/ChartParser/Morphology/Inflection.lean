import ChartParser.Fault

/-!
# Cases and genders

The four cases and three genders of Icelandic. Each has a name, as terminals and lexicons write it,
and a mark, as inflection tags carry it.
-/

namespace ChartParser

/-- Grammatical case. -/
inductive Case where
  | nominative
  | accusative
  | dative
  | genitive
deriving DecidableEq, Repr

namespace Case

/-- All cases. -/
def all : List Case := [nominative, accusative, dative, genitive]

/-- The case as terminals and lexicons write it. -/
def name : Case → String
  | nominative => "nf"
  | accusative => "þf"
  | dative => "þgf"
  | genitive => "ef"

/-- The mark of the case in an inflection tag. -/
def mark : Case → String
  | nominative => "NF"
  | accusative => "ÞF"
  | dative => "ÞGF"
  | genitive => "EF"

/-- The case of that name. -/
def ofName? (text : String) : Option Case := all.find? (·.name == text)

/-- Only the name of a case stands for it. -/
theorem ofName?_eq_some_iff {text : String} {case : Case} :
    ofName? text = some case ↔ text = case.name := by
  constructor
  · intro found
    have same := List.find?_some found
    exact (eq_of_beq same).symm
  · rintro rfl
    cases case <;> rfl

/-- The case of that name, or the fault of naming none. -/
def ofName (text : String) : Except Fault Case :=
  match ofName? text with
  | some case => .ok case
  | none => .error (.unknownCase text)

end Case

/-- Grammatical gender. -/
inductive Gender where
  | masculine
  | feminine
  | neuter
deriving DecidableEq, Repr

namespace Gender

/-- All genders. -/
def all : List Gender := [masculine, feminine, neuter]

/-- The gender as terminals write it; a noun carries it as its word class. -/
def name : Gender → String
  | masculine => "kk"
  | feminine => "kvk"
  | neuter => "hk"

/-- The mark of the gender in an inflection tag. -/
def mark : Gender → String
  | masculine => "KK"
  | feminine => "KVK"
  | neuter => "HK"

/-- The gender of that name. -/
def ofName? (text : String) : Option Gender := all.find? (·.name == text)

/-- Only the name of a gender stands for it. -/
theorem ofName?_eq_some_iff {text : String} {gender : Gender} :
    ofName? text = some gender ↔ text = gender.name := by
  constructor
  · intro found
    have same := List.find?_some found
    exact (eq_of_beq same).symm
  · rintro rfl
    cases gender <;> rfl

end Gender

end ChartParser
