/-!
# Categories of terminals

The base category of a terminal says which kind of token it is for. The categories with rules of
their own are named here; every other one (adjectives, pronouns, adverbs) is known by its word class
alone.
-/

namespace ChartParser

/-- The base category of a category terminal. -/
inductive Category where
  | noun
  | verb
  | preposition
  | person
  | numeralWord
  | number
  | percent
  | date
  | ordinal
  | punctuation
  | other (name : String)
deriving DecidableEq, Repr

namespace Category

/-- The category as terminals write it. -/
def name : Category → String
  | noun => "no"
  | verb => "so"
  | preposition => "fs"
  | person => "person"
  | numeralWord => "töl"
  | number => "tala"
  | percent => "prósenta"
  | date => "dags"
  | ordinal => "raðnr"
  | punctuation => "grm"
  | other text => text

/-- The category that a text stands for. -/
def ofName : String → Category
  | "no" => noun
  | "so" => verb
  | "fs" => preposition
  | "person" => person
  | "töl" => numeralWord
  | "tala" => number
  | "prósenta" => percent
  | "dags" => date
  | "raðnr" => ordinal
  | "grm" => punctuation
  | text => other text

/-- Reading a category loses nothing of its text. -/
theorem name_ofName (text : String) : (ofName text).name = text := by
  unfold ofName
  split <;> rfl

end Category

end ChartParser
