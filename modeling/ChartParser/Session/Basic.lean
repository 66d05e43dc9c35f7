import ChartParser.Chart.Parse
import ChartParser.Forest.Count
import ChartParser.Forest.Printer
import ChartParser.Forest.Trees
import ChartParser.Morphology.LexicalToken
import ChartParser.Morphology.LexiconSource
import ChartParser.Notation.Loader
import ChartParser.Session.Directory
import ChartParser.Session.Options
import ChartParser.Session.WordSyntax

/-!
# Sessions

A session knows a grammar and perhaps a lexicon. It answers a sentence with the number of its trees,
and with the forest and the trees if they were asked for. A sentence that cannot be read or parsed
is answered with the reason.
-/

namespace ChartParser

/-- A parser with the lexicon and the options of a session. -/
structure Session where
  parser : Parser
  lexicon : Option Lexicon
  options : Options

/-- An optional value as error reports write it. -/
def optionText (value : Option String) : String :=
  match value with
  | some text => "Some(" ++ text ++ ")"
  | none => "None"

/-- The cause and the place of an error, field by field. -/
def GrammarError.report (error : GrammarError) : String :=
  "Error: GrammarError \x7b message: " ++ Text.quoted error.message ++
    ", file: " ++ optionText (error.place.file.map Text.quoted) ++
    ", line: " ++ optionText (error.place.line.map toString) ++ " \x7d\n"

namespace Session

/-- The grammar in a file. -/
def readGrammar (read : String → Except ReadFailure String) (file : String) :
    Except GrammarError Grammar :=
  match read file with
  | .ok source => Grammar.ofSource (some file) source
  | .error reason => .error ⟨.unreadableGrammar reason, ⟨some file, none⟩⟩

/-- The lexicon in a file. -/
def readLexicon (read : String → Except ReadFailure String) (file : String) :
    Except GrammarError Lexicon :=
  match read file with
  | .ok source =>
    match Lexicon.ofSource source with
    | .ok lexicon => .ok lexicon
    | .error error => .error (error.inFile file)
  | .error reason => .error ⟨.unreadableLexicon reason, ⟨some file, none⟩⟩

/-- The session with these options. The grammar is read before the lexicon. -/
def start (read : String → Except ReadFailure String) (options : Options) :
    Except GrammarError Session := do
  let grammar ← readGrammar read options.grammarFile
  let lexicon ←
    match options.lexiconFile with
    | some file => (readLexicon read file).map some
    | none => pure none
  let parser ← Parser.ofGrammar grammar
  return ⟨parser, lexicon, options⟩

/-- The number of trees of a sentence, in words. -/
def countLine (count : Nat) : String :=
  "Parsed " ++ toString count ++ " tree" ++ (if count = 1 then "" else "s") ++ "\n"

/-- The trees, one to a line, and an empty line. -/
def treeLines (trees : List Tree) : String :=
  String.join (trees.map fun tree => tree.bracketed ++ "\n") ++ "\n"

/-- The report on a forest, if all nodes and names in it exist. -/
def forestReport? (options : Options) (forest : Forest) : Option String := do
  let count ← forest.count?
  let forestText ← if options.showForest then forest.render?.map (· ++ "\n") else some ""
  let treeText ← if options.showTrees then forest.trees?.map treeLines else some ""
  return countLine count ++ forestText ++ treeText

/-- The report on a sentence. In a forest that a parse has built, all nodes and names exist. -/
def report (options : Options) : Except ParseError Forest → String
  | .ok forest => (forestReport? options forest).getD ""
  | .error error => error.message ++ "\n"

/-- The answer to a sentence. -/
def answer (session : Session) (sentence : String) : String :=
  match session.lexicon with
  | none => report session.options (session.parser.parse (PlainToken.ofSentence sentence))
  | some lexicon =>
    match (Text.words sentence).mapM Token.ofTyped with
    | .ok tokens =>
      report session.options
        (session.parser.parse (tokens.map fun token => LexicalToken.mk token lexicon))
    | .error fault => fault.message ++ "\n"

end Session

end ChartParser
