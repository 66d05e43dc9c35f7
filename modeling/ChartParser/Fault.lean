import ChartParser.Text.Quoted

/-!
# Faults of grammars and lexicons

What can be wrong with a grammar, a terminal or a lexicon is a closed list of causes, and the
wording of each stands in one place. A cause is reported together with the place it was found at,
as far as the place is known.
-/

namespace ChartParser

/-- A place in a source text; either part may be unknown. -/
structure Location where
  file : Option String
  line : Option Nat
deriving DecidableEq, Repr

namespace Location

/-- No place at all. -/
def unknown : Location := ⟨none, none⟩

/-- A line of a text whose file is not known. -/
def ofLine (line : Nat) : Location := ⟨none, some line⟩

/-- The place with its file filled in, unless it names one already. -/
def inFile (place : Location) (file : String) : Location :=
  { place with file := some (place.file.getD file) }

/-- A message with the place before it. -/
def describe (place : Location) (message : String) : String :=
  match place.file, place.line with
  | some file, some line => file ++ ":" ++ toString line ++ ": " ++ message
  | some file, none => file ++ ": " ++ message
  | none, some line => "line " ++ toString line ++ ": " ++ message
  | none, none => message

end Location

/-- Why the text of a file could not be had. -/
inductive ReadFailure where
  | missing
  | isDirectory
  | notDirectory
  | nameTooLong
  | invalidText
  | other (reason : String)
deriving DecidableEq, Repr

/-- The reason as the operating system words it. -/
def ReadFailure.message : ReadFailure → String
  | missing => "No such file or directory (os error 2)"
  | isDirectory => "Is a directory (os error 21)"
  | notDirectory => "Not a directory (os error 20)"
  | nameTooLong => "File name too long (os error 36)"
  | invalidText => "stream did not contain valid UTF-8"
  | other reason => reason

/-- The cause of an error in a grammar, a terminal or a lexicon. -/
inductive Fault where
  | unknownCase (name : String)
  | malformedLiteral (spec : String)
  | malformedTerminal (spec : String)
  | tooManyObjects (headword : String) (count limit : Nat)
  | unknownSection (name : String)
  | entryOutsideSection
  | subjectCaseCount (headword : String)
  | prepositionWithoutCase (word : String)
  | emptySymbolName
  | unknownNonterminal (id : Nat)
  | unregisteredSymbol (nonterminal : String)
  | noNonterminals
  | neverReferenced (nonterminal : String)
  | noProductions (nonterminal : String)
  | derivesItself (nonterminal : String)
  | unproductive (nonterminal : String)
  | unreachable (nonterminal root : String)
  | continuationOutsideRule
  | alreadyDefined (nonterminal : String) (line : Option Nat)
  | expectedRule (found : String)
  | expectedSymbol (found : String)
  | emptyAlternative
  | emptyMarkNotAlone
  | unreadableGrammar (reason : ReadFailure)
  | unreadableLexicon (reason : ReadFailure)
deriving DecidableEq, Repr

namespace Fault

/-- The wording of a cause. -/
def message : Fault → String
  | unknownCase name => "unknown case " ++ Text.quoted name
  | malformedLiteral spec => "malformed literal terminal " ++ spec
  | malformedTerminal spec => "malformed terminal " ++ Text.quoted spec
  | tooManyObjects headword count limit =>
    "verb " ++ headword ++ " takes " ++ toString count ++ " objects, at most " ++ toString limit ++
      " are supported"
  | unknownSection name => "unknown lexicon section [" ++ name ++ "]"
  | entryOutsideSection => "lexicon entry before any section header"
  | subjectCaseCount headword => "subject entry for " ++ headword ++ " needs exactly one case"
  | prepositionWithoutCase word => "preposition " ++ word ++ " governs no case"
  | emptySymbolName => "empty symbol name"
  | unknownNonterminal id => "unknown nonterminal id " ++ toString id
  | unregisteredSymbol name => "production for " ++ name ++ " uses an unregistered symbol"
  | noNonterminals => "grammar defines no nonterminals"
  | neverReferenced name => "nonterminal " ++ name ++ " is never referenced"
  | noProductions name => "nonterminal " ++ name ++ " has no productions"
  | derivesItself name => "nonterminal " ++ name ++ " derives itself"
  | unproductive name => "nonterminal " ++ name ++ " cannot derive any terminal string"
  | unreachable name root => "nonterminal " ++ name ++ " is unreachable from " ++ root
  | continuationOutsideRule => "continuation line outside of a rule"
  | alreadyDefined name (some line) =>
    "nonterminal " ++ name ++ " is already defined on line " ++ toString line
  | alreadyDefined name none => "nonterminal " ++ name ++ " is already defined"
  | expectedRule found => "expected `Name ->` or `|` at " ++ Text.quoted found
  | expectedSymbol found => "expected a symbol at " ++ Text.quoted found
  | emptyAlternative => "empty alternative, write 0 for an empty production"
  | emptyMarkNotAlone => "0 marks an empty production and must stand alone"
  | unreadableGrammar reason => "couldn't read grammar: " ++ reason.message
  | unreadableLexicon reason => "couldn't read lexicon: " ++ reason.message

end Fault

/-- A cause and the place it was found at. -/
structure GrammarError where
  fault : Fault
  place : Location
deriving DecidableEq, Repr

namespace GrammarError

/-- An error without a place. -/
def ofFault (fault : Fault) : GrammarError := ⟨fault, Location.unknown⟩

/-- The error with its file filled in, unless it names one already. -/
def inFile (error : GrammarError) (file : String) : GrammarError :=
  { error with place := error.place.inFile file }

/-- The same cause at another place. -/
def movedTo (error : GrammarError) (place : Location) : GrammarError := { error with place }

/-- The wording of the cause. -/
def message (error : GrammarError) : String := error.fault.message

/-- The wording of the cause with the place before it. -/
def text (error : GrammarError) : String := error.place.describe error.message

end GrammarError

end ChartParser
