import ChartParser.Morphology.Lexicon
import ChartParser.Proofs.Tables
import Mathlib.Data.List.Induction

/-!
# What a lexicon holds

A lexicon is filled by additions, and each of its tables has its own way of taking them up. The
patterns of a verb and the cases of a preposition are listed once each, in the order in which they
were first added; of the cases of a subject the last holds. An addition that is refused leaves no
trace. What one addition does to an answer is said once for each kind of table, and what the lexicon
answers after a history of additions follows along the history (`holds_ofAdditions`).
-/

namespace ChartParser

/-- Only the entry of the word itself is changed. -/
theorem WordTable.lookup_alter {α : Type} (table : WordTable α) (word : String)
    (change : Option α → α) (other : String) :
    List.lookup other (table.alter word change) =
      if other = word then some (change (table.lookup other)) else table.lookup other := by
  induction table with
  | nil =>
    rw [alter, lookup_cons_eq]
    rfl
  | cons entry rest ih =>
    obtain ⟨known, held⟩ := entry
    rw [alter]
    by_cases here : known = word
    · rw [if_pos here, here, lookup_cons_eq, lookup_cons_eq]
      split <;> rfl
    · rw [if_neg here, lookup_cons_eq, lookup_cons_eq, ih]
      by_cases asked : other = known
      · rw [if_pos asked, if_pos asked, if_neg (asked ▸ here)]
      · rw [if_neg asked, if_neg asked]

namespace Lexicon

/-- One addition to a lexicon. -/
inductive Addition where
  | verb (headword : String) (objects : List Case)
  | subject (headword : String) (case : Case)
  | preposition (word : String) (cases : List Case)
deriving DecidableEq, Repr

/-- The lexicon after one addition, whether that was accepted or refused. -/
def take (lexicon : Lexicon) : Addition → Lexicon
  | .verb headword objects => (lexicon.addVerb headword objects).2
  | .subject headword case => lexicon.addSubject headword case
  | .preposition word cases => lexicon.addPreposition word cases

/-- The lexicon after these additions, made one after the other. -/
def ofAdditions (additions : List Addition) : Lexicon := additions.foldl take empty

/-! ## What has been added -/

namespace Addition

/-- What the addition says about the objects of the verb where it takes `count` of them. A pattern
of more than two objects is never added. -/
def patterns (headword : String) (count : Nat) : Addition → List (List Case)
  | verb added objects =>
    if added = headword ∧ objects.length = count ∧ count ≤ 2 then [objects] else []
  | subject _ _ => []
  | preposition _ _ => []

/-- What the addition says about the subject of the verb. -/
def subjectCases (headword : String) : Addition → List Case
  | verb _ _ => []
  | subject added case => if added = headword then [case] else []
  | preposition _ _ => []

/-- What the addition says about prepositions with this lower case. -/
def governed (word : String) : Addition → List Case
  | verb _ _ => []
  | subject _ _ => []
  | preposition added cases => if Text.lowercase added = word then cases else []

end Addition

/-- The patterns with `count` objects that were added for the verb, with repetitions. -/
def patternsAdded (additions : List Addition) (headword : String) (count : Nat) :
    List (List Case) :=
  additions.flatMap (Addition.patterns headword count)

/-- The cases that were given for the subject of the verb. -/
def subjectCasesGiven (additions : List Addition) (headword : String) : List Case :=
  additions.flatMap (Addition.subjectCases headword)

/-- The cases that were given for prepositions with this lower case, with repetitions. -/
def casesGiven (additions : List Addition) (word : String) : List Case :=
  additions.flatMap (Addition.governed word)

/-- Patterns, each where it was added first, unless there are none. -/
def listed? (patterns : List (List Case)) : Option (List (List Case)) :=
  if patterns = [] then none else some patterns.eraseDups

/-- The lexicon answers every question by what was added. The patterns of a verb with some number of
objects are those added, each where it was added first, and there is no answer without any; the
case of a subject is the one given last; the cases of a preposition are all those given, each where
it was given first. -/
structure Holds (lexicon : Lexicon) (additions : List Addition) : Prop where
  objectsOf?_eq : ∀ headword count, lexicon.objectsOf? headword count =
    listed? (patternsAdded additions headword count)
  subjectCase?_eq : ∀ headword,
    lexicon.subjectCase? headword = (subjectCasesGiven additions headword).getLast?
  governedBy_eq : ∀ word, lexicon.governedBy word = (casesGiven additions word).eraseDups

/-! ## Facts entered once -/

section Facts

variable {α : Type} [DecidableEq α]

/-- A fact is entered in a list of distinct facts where it occurs for the first time. -/
theorem enter_eraseDups [BEq α] [LawfulBEq α] (facts : List α) (fact : α) :
    enter facts.eraseDups fact = (facts ++ [fact]).eraseDups := by
  rw [enter, List.eraseDups_append, List.removeAll]
  by_cases known : fact ∈ facts
  · rw [if_pos (List.mem_eraseDups.2 known)]
    simp [known]
  · rw [if_neg fun old => known (List.mem_eraseDups.1 old)]
    simp [known, List.eraseDups_cons]

/-- Facts entered one after the other are listed where they occur for the first time. -/
theorem foldl_enter_eraseDups [BEq α] [LawfulBEq α] (facts more : List α) :
    more.foldl enter facts.eraseDups = (facts ++ more).eraseDups := by
  induction more generalizing facts with
  | nil => rw [List.foldl_nil, List.append_nil]
  | cons fact more ih =>
    rw [List.foldl_cons, enter_eraseDups, ih, List.append_assoc, List.singleton_append]

end Facts

/-! ## What one addition does -/

variable {lexicon : Lexicon} {headword : String}

/-- A verb with more than two objects is refused and changes nothing. -/
theorem addVerb_of_lt {objects : List Case} (many : 2 < objects.length) :
    lexicon.addVerb headword objects =
      (.error (.tooManyObjects headword objects.length 2), lexicon) :=
  dif_neg (Nat.not_le.2 many)

/-- A verb with at most two objects is accepted. -/
theorem addVerb_of_le {objects : List Case} (few : objects.length ≤ 2) :
    (lexicon.addVerb headword objects).1 = .ok () := by
  rw [addVerb, dif_pos (show objects.length ≤ maxObjects from few)]

/-- A verb that is added changes neither subjects nor prepositions. -/
theorem addVerb_keeps (lexicon : Lexicon) (headword : String) (objects : List Case) :
    (lexicon.addVerb headword objects).2.subjects = lexicon.subjects ∧
      (lexicon.addVerb headword objects).2.prepositions = lexicon.prepositions := by
  unfold addVerb
  split <;> exact ⟨rfl, rfl⟩

/-- A verb that is added has one pattern more with its number of objects, unless it had it before.
-/
theorem objectsOf?_addVerb (verb : String) {objects : List Case} (few : objects.length ≤ 2)
    (count : Nat) :
    (lexicon.addVerb verb objects).2.objectsOf? headword count =
      if headword = verb ∧ objects.length = count then
        some (enter ((lexicon.objectsOf? headword count).getD []) objects)
      else lexicon.objectsOf? headword count := by
  have within : objects.length ≤ maxObjects := few
  rw [addVerb, dif_pos within, objectsOf?, objectsOf?, Vector.getElem?_set]
  by_cases same : objects.length = count
  · subst same
    have there : lexicon.verbs[objects.length]? = some lexicon.verbs[objects.length] :=
      Vector.getElem?_eq_getElem _
    rw [if_pos rfl, there, Option.bind_some, Option.bind_some, WordTable.lookup_alter]
    simp only [and_true]
  · rw [if_neg same, if_neg fun asked => same asked.2]

/-- The case that is given last for the subject of a verb holds. -/
theorem subjectCase?_addSubject (verb : String) (case : Case) :
    (lexicon.addSubject verb case).subjectCase? headword =
      if headword = verb then some case else lexicon.subjectCase? headword :=
  WordTable.lookup_alter ..

/-- A preposition that is added governs its cases besides those it governed before. -/
theorem governedBy_addPreposition (given word : String) (cases : List Case) :
    (lexicon.addPreposition given cases).governedBy word =
      if word = Text.lowercase given then cases.foldl enter (lexicon.governedBy word)
      else lexicon.governedBy word := by
  rw [governedBy, addPreposition, WordTable.lookup_alter]
  split <;> rfl

/-! ## What a history of additions does -/

/-- An answer that every addition extends by its own part is made of the parts of all additions. -/
theorem answer_ofAdditions {α γ : Type} (answer : Lexicon → γ) (part : Addition → List α)
    (made : List α → γ) (first : answer empty = made [])
    (step : ∀ lexicon addition parts, answer lexicon = made parts →
      answer (lexicon.take addition) = made (parts ++ part addition))
    (additions : List Addition) :
    answer (ofAdditions additions) = made (additions.flatMap part) := by
  induction additions using List.reverseRecOn with
  | nil => exact first
  | append_singleton additions addition ih =>
    rw [ofAdditions, List.foldl_append, ← ofAdditions, List.flatMap_append, List.flatMap_singleton]
    exact step _ addition _ ih

/-- One pattern more is listed behind the others, unless it is among them. -/
theorem some_enter_listed? (patterns : List (List Case)) (pattern : List Case) :
    some (enter ((listed? patterns).getD []) pattern) = listed? (patterns ++ [pattern]) := by
  have before : (listed? patterns).getD [] = patterns.eraseDups := by
    rw [listed?]
    split
    · rename_i none
      rw [none]
      rfl
    · rfl
  rw [before, enter_eraseDups, listed?, if_neg (List.append_ne_nil_of_right_ne_nil _ (by simp))]

/-- The patterns of a verb are those added, each where it was added first; it is not known with some
number of objects exactly if none with so many was added. -/
theorem objectsOf?_ofAdditions (additions : List Addition) (headword : String) (count : Nat) :
    (ofAdditions additions).objectsOf? headword count =
      listed? (patternsAdded additions headword count) := by
  have nothing : empty.objectsOf? headword count = listed? [] := by
    rw [objectsOf?, empty, Vector.getElem?_replicate]
    split <;> rfl
  refine answer_ofAdditions (·.objectsOf? headword count) (Addition.patterns headword count)
    listed? nothing ?_ additions
  intro lexicon addition patterns answered
  cases addition with
  | verb verb objects =>
    rw [take, Addition.patterns]
    by_cases few : objects.length ≤ 2
    · rw [objectsOf?_addVerb verb few, answered]
      by_cases asked : headword = verb ∧ objects.length = count
      · rw [if_pos asked, if_pos ⟨asked.1.symm, asked.2, asked.2 ▸ few⟩, some_enter_listed?]
      · rw [if_neg asked, if_neg fun given => asked ⟨given.1.symm, given.2.1⟩, List.append_nil]
    · rw [addVerb_of_lt (Nat.not_le.1 few), if_neg (by omega), List.append_nil]
      exact answered
  | subject verb case => exact answered.trans (by rw [Addition.patterns, List.append_nil])
  | preposition word cases => exact answered.trans (by rw [Addition.patterns, List.append_nil])

/-- The case of a subject is the one given last. -/
theorem subjectCase?_ofAdditions (additions : List Addition) (headword : String) :
    (ofAdditions additions).subjectCase? headword =
      (subjectCasesGiven additions headword).getLast? := by
  refine answer_ofAdditions (·.subjectCase? headword) (Addition.subjectCases headword)
    List.getLast? rfl ?_ additions
  intro lexicon addition cases answered
  cases addition with
  | verb verb objects =>
    rw [take, Addition.subjectCases, List.append_nil, subjectCase?, (addVerb_keeps _ _ _).1]
    exact answered
  | subject verb case =>
    rw [take, Addition.subjectCases, subjectCase?_addSubject, answered]
    by_cases asked : headword = verb
    · rw [if_pos asked, if_pos asked.symm, List.getLast?_concat]
    · rw [if_neg asked, if_neg (Ne.symm asked), List.append_nil]
  | preposition word cases =>
    rw [Addition.subjectCases, List.append_nil]
    exact answered

/-- The cases of a preposition are those given, each where it was given first. -/
theorem governedBy_ofAdditions (additions : List Addition) (word : String) :
    (ofAdditions additions).governedBy word = (casesGiven additions word).eraseDups := by
  refine answer_ofAdditions (·.governedBy word) (Addition.governed word) List.eraseDups rfl ?_
    additions
  intro lexicon addition cases answered
  cases addition with
  | verb verb objects =>
    rw [take, Addition.governed, List.append_nil, governedBy, (addVerb_keeps _ _ _).2]
    exact answered
  | subject verb case =>
    rw [Addition.governed, List.append_nil]
    exact answered
  | preposition added governed =>
    rw [take, Addition.governed, governedBy_addPreposition, answered]
    by_cases asked : word = Text.lowercase added
    · rw [if_pos asked, if_pos asked.symm, foldl_enter_eraseDups]
    · rw [if_neg asked, if_neg (Ne.symm asked), List.append_nil]

/-- A lexicon answers by its additions. -/
theorem holds_ofAdditions (additions : List Addition) : (ofAdditions additions).Holds additions :=
  ⟨objectsOf?_ofAdditions additions, subjectCase?_ofAdditions additions,
    governedBy_ofAdditions additions⟩

end Lexicon

end ChartParser
