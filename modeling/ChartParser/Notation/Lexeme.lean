import ChartParser.Fault
import ChartParser.Notation.NameChar
import ChartParser.Text.Pieces

/-!
# Lexemes of the grammar notation

A line of the notation is cut at its comment and then read as symbols and bars. A symbol is a quoted
literal or a bare name, as long as possible, and may be followed by a sign of repetition. Reading
stops at the first place where no symbol starts.
-/

namespace ChartParser.Notation

/-- How often a symbol may be repeated. -/
inductive Repetition where
  | atMostOnce
  | anyNumber
  | atLeastOnce
deriving DecidableEq, Repr

namespace Repetition

/-- The sign that follows the symbol. -/
def sign : Repetition → Char
  | atMostOnce => '?'
  | anyNumber => '*'
  | atLeastOnce => '+'

/-- The repetition of that sign. -/
def ofSign? : Char → Option Repetition
  | '?' => some atMostOnce
  | '*' => some anyNumber
  | '+' => some atLeastOnce
  | _ => none

/-- A repetition is read back from its sign. -/
theorem ofSign?_sign (repetition : Repetition) : ofSign? repetition.sign = some repetition := by
  cases repetition <;> rfl

end Repetition

/-- A symbol as written: its name, quotes included, and its repetition. -/
structure WrittenSymbol where
  name : String
  repetition : Option Repetition
deriving DecidableEq, Repr

/-- A piece of a right-hand side. -/
inductive Lexeme where
  | symbol (symbol : WrittenSymbol)
  | bar
  | unreadable (text : String)
deriving DecidableEq, Repr

/-- Whether the character opens and closes a quoted literal. -/
def isQuote (c : Char) : Bool := c == '"' || c == '\x27'

/-- The text before the first number sign outside quotes, where `quote` is the quote that is open.
-/
def beforeComment (quote : Option Char) : List Char → List Char
  | [] => []
  | c :: rest =>
    match quote with
    | none =>
      if c = '#' then []
      else c :: beforeComment (if isQuote c then some c else none) rest
    | some opened => c :: beforeComment (if c = opened then none else some opened) rest

/-- The quoted literal at the front of a text, and the text after it. There must be something
between the quotes. -/
def quotedFront? : List Char → Option (List Char × List Char)
  | [] => none
  | quote :: rest =>
    if isQuote quote then
      match rest.takeWhile (· ≠ quote), rest.dropWhile (· ≠ quote) with
      | [], _ => none
      | _, [] => none
      | inner, _ :: after => some (quote :: inner ++ [quote], after)
    else none

/-- The bare name at the front of a text, and the text after it. -/
def nameFront? (cs : List Char) : Option (List Char × List Char) :=
  match cs.takeWhile isNameChar with
  | [] => none
  | name => some (name, cs.dropWhile isNameChar)

/-- The repetition at the front of a text, and the text after it. -/
def repetitionFront : List Char → Option Repetition × List Char
  | [] => (none, [])
  | c :: rest =>
    match Repetition.ofSign? c with
    | some repetition => (some repetition, rest)
    | none => (none, c :: rest)

/-- The symbol at the front of a text, and the text after it. -/
def symbolFront? (cs : List Char) : Option (WrittenSymbol × List Char) :=
  ((quotedFront? cs).or (nameFront? cs)).map fun (name, after) =>
    let (repetition, rest) := repetitionFront after
    (⟨String.ofList name, repetition⟩, rest)

/-- The first lexemes of a text, at most `limit` of them. -/
def firstLexemes : Nat → List Char → List Lexeme
  | 0, _ => []
  | limit + 1, cs =>
    match Text.trimStart cs with
    | [] => []
    | '|' :: rest => .bar :: firstLexemes limit rest
    | front =>
      match symbolFront? front with
      | some (symbol, rest) => .symbol symbol :: firstLexemes limit rest
      | none => [.unreadable (String.ofList front)]

/-- The lexemes of a text. Each takes at least one character, so there are no more of them than
characters. -/
def lexemes (cs : List Char) : List Lexeme := firstLexemes cs.length cs

/-- The alternatives that the lexemes spell, where `current` are the symbols of the first that have
been read already. No alternative may be left empty. -/
def alternativesFrom (current : List WrittenSymbol) :
    List Lexeme → Except Fault (List (List WrittenSymbol))
  | [] => if current.isEmpty then .error .emptyAlternative else .ok [current]
  | .symbol symbol :: rest => alternativesFrom (current ++ [symbol]) rest
  | .bar :: rest =>
    if current.isEmpty then .error .emptyAlternative
    else (alternativesFrom [] rest).map (current :: ·)
  | .unreadable text :: _ => .error (.expectedSymbol text)

/-- The alternatives of a right-hand side. -/
def alternatives (rhs : List Char) : Except Fault (List (List WrittenSymbol)) :=
  alternativesFrom [] (lexemes rhs)

/-- The text after an arrow, with white space allowed before it. -/
def afterArrow? (cs : List Char) : Option (List Char) :=
  match Text.trimStart cs with
  | '-' :: '>' :: rest => some rest
  | _ => none

/-- The name and the right-hand side of a line that starts a rule. The name starts with an uppercase
letter. Since a hyphen may stand in a name, the one before `>` may have been taken for its end; it
then belongs to the arrow. -/
def ruleFront? (line : List Char) : Option (List Char × List Char) :=
  if line.head?.any isHeadChar then
    let name := line.takeWhile isNameChar
    let after := line.dropWhile isNameChar
    match afterArrow? after with
    | some rhs => some (name, rhs)
    | none =>
      match name.getLast?, after with
      | some '-', '>' :: rhs => some (name.dropLast, rhs)
      | _, _ => none
  else none

end ChartParser.Notation
