/-!
# Options of a session

The command line names a grammar file and says what to print. Arguments are read from left to right;
asking for help ends the reading at once, and so does the first argument that is wrong.
-/

namespace ChartParser

/-- What a session reads and prints. -/
structure Options where
  grammarFile : String
  lexiconFile : Option String
  showForest : Bool
  showTrees : Bool
deriving DecidableEq, Repr

/-- What is wrong with a command line. -/
inductive UsageFault where
  | lexiconWithoutFile
  | tooManyArguments
  | noGrammarFile
deriving DecidableEq, Repr

/-- The wording of a fault in the command line. -/
def UsageFault.message : UsageFault → String
  | lexiconWithoutFile => "--lexicon needs a file"
  | tooManyArguments => "invalid arguments"
  | noGrammarFile => "missing grammar file"

/-- What a command line asks for. -/
inductive Request where
  | help
  | session (options : Options)
deriving DecidableEq, Repr

/-- The explanation of the command line, for a program of this name. -/
def usage (program : String) : String :=
  "Usage: " ++ program ++ " GRAMMAR [options]

Reads one sentence per line from stdin and parses it.

Options:
  -h, --help            Print this message
  -l, --lexicon FILE    Match Icelandic tokens against this lexicon
  -f, --forest          Print the packed forest
  -t, --trees           Print every tree (defaults to only counting them)

Without a lexicon, tokens are `kind:text`, or a bare `text` of its own kind.
With one, tokens are `form/lemma/class/TAG,TAG...` words, `form/person/GENDER/CASE,CASE...`
names, or bare punctuation. Set RUST_LOG=thicket=trace to watch the parser."

/-- A fault in the command line, with the explanation below it. -/
def UsageFault.text (fault : UsageFault) (program : String) : String :=
  "argument error: " ++ fault.message ++ ".\n\n" ++ usage program

namespace Request

/-- The arguments read so far. -/
structure Draft where
  grammarFile : Option String
  lexiconFile : Option String
  showForest : Bool
  showTrees : Bool
deriving DecidableEq, Repr

/-- What the arguments ask for, after those in the draft. -/
def ofArgumentsAfter (draft : Draft) : List String → Except UsageFault Request
  | [] =>
    match draft.grammarFile with
    | some file => .ok (.session ⟨file, draft.lexiconFile, draft.showForest, draft.showTrees⟩)
    | none => .error .noGrammarFile
  | argument :: rest =>
    if argument = "-h" ∨ argument = "--help" then .ok .help
    else if argument = "-f" ∨ argument = "--forest" then
      ofArgumentsAfter { draft with showForest := true } rest
    else if argument = "-t" ∨ argument = "--trees" then
      ofArgumentsAfter { draft with showTrees := true } rest
    else if argument = "-l" ∨ argument = "--lexicon" then
      match rest with
      | file :: rest => ofArgumentsAfter { draft with lexiconFile := some file } rest
      | [] => .error .lexiconWithoutFile
    else if draft.grammarFile.isNone then
      ofArgumentsAfter { draft with grammarFile := some argument } rest
    else .error .tooManyArguments

/-- What the arguments ask for. -/
def ofArguments (arguments : List String) : Except UsageFault Request :=
  ofArgumentsAfter ⟨none, none, false, false⟩ arguments

end Request

end ChartParser
