import ChartParser.Text.WhiteSpace

/-!
# Cutting a text into pieces

Lines, words and separated parts. Everything is done on lists of characters by recursion on the
list; the versions on strings only convert.
-/

namespace ChartParser.Text

/-- The pieces of a sequence between the elements that satisfy `cut`; there is always at least
one. -/
def splitBy {α : Type} (cut : α → Bool) : List α → List (List α)
  | [] => [[]]
  | c :: rest =>
    if cut c then [] :: splitBy cut rest
    else
      match splitBy cut rest with
      | [] => [[c]]
      | piece :: pieces => (c :: piece) :: pieces

/-- There is always at least one piece. -/
theorem splitBy_ne_nil {α : Type} (cut : α → Bool) (cs : List α) : splitBy cut cs ≠ [] := by
  cases cs with
  | nil => simp [splitBy]
  | cons c rest =>
    rw [splitBy]
    split
    · simp
    · split <;> simp

/-- Pieces put together again with the separator between them are the whole. -/
theorem intercalate_splitBy {α : Type} [BEq α] [LawfulBEq α] (separator : α) (cs : List α) :
    [separator].intercalate (splitBy (· == separator) cs) = cs := by
  induction cs with
  | nil => simp [splitBy]
  | cons c rest ih =>
    have some_piece := splitBy_ne_nil (· == separator) rest
    rw [splitBy]
    split
    · rename_i cut
      obtain ⟨piece, pieces, shape⟩ := List.exists_cons_of_ne_nil some_piece
      rw [shape] at ih ⊢
      rw [List.intercalate_cons_cons, ih, eq_of_beq cut]
      rfl
    · split
      · contradiction
      · rename_i piece pieces shape
        rw [shape] at ih
        cases pieces <;> simp_all [List.intercalate_cons_cons]

/-- The text without the white space at its front. -/
def trimStart (cs : List Char) : List Char := cs.dropWhile isWhiteSpace

/-- The text without the white space at its end. -/
def trimEnd (cs : List Char) : List Char := (cs.reverse.dropWhile isWhiteSpace).reverse

/-- The text without the white space at its two ends. -/
def trim (cs : List Char) : List Char := trimEnd (trimStart cs)

/-- The text without one carriage return at its end. -/
def dropReturn (cs : List Char) : List Char :=
  if cs.getLast? = some '\r' then cs.dropLast else cs

/-- The lines among the pieces between line feeds. Every piece but the last was ended by a line
feed, and loses a carriage return before it; the last piece is a line only if there is something
in it. -/
def linesOfPieces : List (List Char) → List (List Char)
  | [] => []
  | [last] => if last.isEmpty then [] else [last]
  | piece :: pieces => dropReturn piece :: linesOfPieces pieces

/-- The lines of a text. -/
def lines (text : String) : List String :=
  (linesOfPieces (splitBy (· == '\n') text.toList)).map String.ofList

/-- The lines of a text with their numbers, which count from one. -/
def numberedLines (text : String) : List (String × Nat) := (lines text).zipIdx 1

/-- The words of a text: its longest runs without white space. -/
def words (text : String) : List String :=
  ((splitBy isWhiteSpace text.toList).filter (!·.isEmpty)).map String.ofList

/-- The parts of a text between the separators. -/
def splitAt (separator : Char) (text : String) : List String :=
  (splitBy (· == separator) text.toList).map String.ofList

/-- The text without the white space at its two ends. -/
def trimmed (text : String) : String := String.ofList (trim text.toList)

/-- Whether `part` occurs in a text as a run of adjacent characters. -/
def occursIn (part : List Char) : List Char → Bool
  | [] => part.isEmpty
  | c :: rest => part.isPrefixOf (c :: rest) || occursIn part rest

/-- Whether the text `whole` contains the text `part`. -/
def contains (whole part : String) : Bool := occursIn part.toList whole.toList

end ChartParser.Text
