import ChartParser.Text.Pieces

/-!
# Trees

A syntax tree has words at its leaves and constituents above them, each with a name and the span of
the sentence it covers. A tree is printed in brackets on one line, or indented over several.
-/

namespace ChartParser

/-- A stretch of a sentence, from the first token it covers to the first that it does not. -/
structure Span where
  start : Nat
  stop : Nat
deriving DecidableEq, Inhabited, Repr

/-- A name and the span it covers. -/
structure Spanned where
  name : String
  span : Span
deriving DecidableEq, Inhabited, Repr

/-- The span and the name. -/
def Spanned.text (spanned : Spanned) : String :=
  toString spanned.span.start ++ ".." ++ toString spanned.span.stop ++ ": " ++ spanned.name

/-- A syntax tree. -/
inductive Tree where
  | leaf (word : Spanned)
  | branch (constituent : Spanned) (children : List Tree)
deriving Inhabited, Repr

namespace Tree

/-- Whether the tree is a single word. -/
def isLeaf : Tree → Bool
  | leaf _ => true
  | branch _ _ => false

/-- The word or constituent at the top. -/
def head : Tree → Spanned
  | leaf word => word
  | branch constituent _ => constituent

/-- The span that the tree covers. -/
def span (tree : Tree) : Span := tree.head.span

mutual

/-- The words of the tree from left to right. -/
def leaves : Tree → List Spanned
  | leaf word => [word]
  | branch _ children => leavesOfAll children

/-- The words of several trees from left to right. -/
def leavesOfAll : List Tree → List Spanned
  | [] => []
  | tree :: trees => leaves tree ++ leavesOfAll trees

end

mutual

/-- The tree on one line: a word is its name, and a constituent is its name and its children in
brackets. -/
def bracketed : Tree → String
  | leaf word => word.name
  | branch constituent children => "(" ++ constituent.name ++ bracketedAll children ++ ")"

/-- Several trees on one line, each with a space before it. -/
def bracketedAll : List Tree → String
  | [] => ""
  | tree :: trees => " " ++ bracketed tree ++ bracketedAll trees

end

/-- A text as lines of their own, each indented by two spaces. -/
def indented (text : String) : String :=
  String.join ((Text.lines text).map ("\n  " ++ ·))

mutual

/-- The tree over several lines. A constituent whose only child is a word stays on one line. -/
def render : Tree → String
  | leaf word => word.text
  | branch constituent [leaf word] => "(" ++ constituent.text ++ " (" ++ word.text ++ "))"
  | branch constituent children => "(" ++ constituent.text ++ renderAll children ++ ")"

/-- Several trees, each on indented lines of its own. -/
def renderAll : List Tree → String
  | [] => ""
  | tree :: trees => indented (render tree) ++ renderAll trees

end

end Tree

end ChartParser
