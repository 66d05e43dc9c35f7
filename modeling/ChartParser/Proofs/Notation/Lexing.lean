import ChartParser.Proofs.Notation.Names

/-!
# Where lexemes end

Three scans have to agree on where a name or a literal ends: the one for comments, the one for
symbols and the one for the front of a rule. Each of them is followed here over a text that is put
together from parts: white space is passed over, a text that leaves no quote open is not cut
(`Closed`), and a name that is followed by white space, by a bar or by nothing is read as one symbol
(`lexemes_written`).
-/

namespace ChartParser

namespace Text

variable {cs before after : List Char} {c : Char}

/-! ## White space around a text -/

/-- The text is white space, or empty. -/
def IsSpace (cs : List Char) : Prop := ∀ c ∈ cs, isWhiteSpace c = true

instance (cs : List Char) : Decidable (IsSpace cs) :=
  decidable_of_iff (cs.all isWhiteSpace = true) List.all_eq_true

/-- White space in front of a text is trimmed. -/
theorem trimStart_append (space : IsSpace before) (cs : List Char) :
    trimStart (before ++ cs) = trimStart cs :=
  List.dropWhile_append_of_pos space

/-- A text that does not start with white space has nothing to be trimmed in front. -/
theorem trimStart_of_head? (first : cs.head? = some c) (visible : isWhiteSpace c = false) :
    trimStart cs = cs := by
  obtain ⟨rest, rfl⟩ := List.head?_eq_some_iff.1 first
  exact List.dropWhile_cons_of_neg (by simp [visible])

/-- White space at the end of a text is trimmed. -/
theorem trimEnd_append (space : IsSpace after) (cs : List Char) :
    trimEnd (cs ++ after) = trimEnd cs := by
  have spaceToo : IsSpace after.reverse := fun c inside => space c (List.mem_reverse.1 inside)
  unfold trimEnd
  rw [List.reverse_append, List.dropWhile_append_of_pos spaceToo]

/-- A text that does not end with white space has nothing to be trimmed at its end. -/
theorem trimEnd_of_getLast? (last : cs.getLast? = some c) (visible : isWhiteSpace c = false) :
    trimEnd cs = cs := by
  rw [List.getLast?_eq_head?_reverse] at last
  have kept : cs.reverse.dropWhile isWhiteSpace = cs.reverse := trimStart_of_head? last visible
  rw [trimEnd, kept, List.reverse_reverse]

/-- A text that neither starts nor ends with white space is what is left when the white space around
it is trimmed. -/
theorem trim_between {d : Char} (first : cs.head? = some c) (visible : isWhiteSpace c = false)
    (last : cs.getLast? = some d) (visibleToo : isWhiteSpace d = false) (space : IsSpace before)
    (spaceToo : IsSpace after) : trim (before ++ (cs ++ after)) = cs := by
  have begins : (cs ++ after).head? = some c := by rw [List.head?_append, first, Option.some_or]
  rw [trim, trimStart_append space, trimStart_of_head? begins visible, trimEnd_append spaceToo,
    trimEnd_of_getLast? last visibleToo]

/-- White space is trimmed as a whole. -/
theorem trim_of_isSpace (space : IsSpace cs) : trim cs = [] := by
  have none := trimStart_append space []
  rw [List.append_nil] at none
  rw [trim, none]
  rfl

/-- A trimmed text is the same with one more white space at its end. -/
theorem trim_append_singleton (white : isWhiteSpace c = true) (cs : List Char) :
    trim (cs ++ [c]) = trim cs := by
  have single : IsSpace [c] := List.forall_mem_singleton.2 white
  unfold trim trimStart
  rw [List.dropWhile_append]
  by_cases none : (cs.dropWhile isWhiteSpace).isEmpty = true
  · rw [if_pos none, List.isEmpty_iff.1 none, List.dropWhile_cons_of_pos white]
    rfl
  · rw [if_neg none]
    exact trimEnd_append single _

end Text

namespace Notation

open Text (IsSpace isWhiteSpace)

variable {cs name rest gap left right : List Char} {c : Char}

/-! ## Comments -/

/-- The text leaves no quote open and has no number sign outside of quotes. -/
def Closed (cs : List Char) : Prop :=
  ∀ rest, beforeComment none (cs ++ rest) = cs ++ beforeComment none rest

namespace Closed

/-- Texts that are closed are closed side by side. -/
theorem append (closed : Closed left) (closedToo : Closed right) : Closed (left ++ right) := by
  intro rest
  rw [List.append_assoc, closed, closedToo, List.append_assoc]

/-- A text without quotes and number signs is closed. -/
theorem of_forall (plain : ∀ c ∈ cs, c ≠ '#' ∧ isQuote c = false) : Closed cs := by
  intro rest
  induction cs with
  | nil => rfl
  | cons c cs ih =>
    obtain ⟨⟨noComment, noQuote⟩, later⟩ := List.forall_mem_cons.1 plain
    rw [List.cons_append, beforeComment, if_neg noComment, noQuote, if_neg Bool.false_ne_true,
      ih later, List.cons_append]

/-- White space is closed. -/
theorem of_isSpace (space : IsSpace cs) : Closed cs := by
  refine of_forall fun c inside => ⟨?_, Bool.eq_false_iff.2 fun quote => ?_⟩
  · rintro rfl
    exact absurd (space _ inside) (by decide)
  · have visible := isWhiteSpace_of_mem_marks c (mem_marks_of_isQuote quote)
    rw [space c inside] at visible
    cases visible

/-- Up to the quote that closes it, the inside of a literal is not cut. -/
theorem beforeComment_quoted {quote : Char} (inner : List Char) (between : quote ∉ inner)
    (rest : List Char) :
    beforeComment (some quote) (inner ++ quote :: rest) =
      inner ++ quote :: beforeComment none rest := by
  induction inner with
  | nil =>
    rw [List.nil_append, beforeComment, if_pos rfl, List.nil_append]
  | cons c inner ih =>
    rw [List.mem_cons, not_or] at between
    rw [List.cons_append, beforeComment, if_neg (Ne.symm between.1), ih between.2,
      List.cons_append]

/-- A written symbol is closed. -/
theorem of_isWritten (written : IsWritten name) : Closed name := by
  cases written with
  | bare _ each =>
    refine of_forall fun c inside => ⟨?_, Bool.eq_false_iff.2 fun quote => ?_⟩
    · rintro rfl
      exact absurd (each _ inside) (by decide +kernel)
    · have unnamed := isNameChar_of_mem_marks c (mem_marks_of_isQuote quote)
      rw [each c inside] at unnamed
      cases unnamed
  | @quoted quote inner opens _ between =>
    intro rest
    have noComment : quote ≠ '#' := by
      rintro rfl
      exact absurd opens (by decide)
    rw [List.append_assoc, List.cons_append, beforeComment, if_neg noComment, opens, if_pos rfl,
      List.singleton_append, beforeComment_quoted inner between]
    simp

end Closed

/-- A comment is cut off. -/
theorem beforeComment_of_head? {comment : List Char} (starts : ∀ c ∈ comment.head?, c = '#') :
    beforeComment none comment = [] := by
  cases comment with
  | nil => rfl
  | cons c comment =>
    obtain rfl := starts c rfl
    rfl

/-- A carriage return at the end of a line makes no difference to its content. -/
theorem trim_beforeComment_dropReturn (line : List Char) :
    Text.trim (beforeComment none (Text.dropReturn line)) =
      Text.trim (beforeComment none line) := by
  -- the last character is cut off with a comment, or it is white space at the end
  have cut : ∀ (quote : Option Char) (front : List Char),
      beforeComment quote (front ++ ['\r']) = beforeComment quote front ∨
        beforeComment quote (front ++ ['\r']) = beforeComment quote front ++ ['\r'] := by
    intro quote front
    induction front generalizing quote with
    | nil => right; cases quote <;> rfl
    | cons c front ih =>
      cases quote with
      | none =>
        rw [List.cons_append, beforeComment, beforeComment]
        split
        · exact Or.inl rfl
        · exact (ih _).imp (congrArg (c :: ·)) (congrArg (c :: ·))
      | some opened =>
        rw [List.cons_append, beforeComment, beforeComment]
        exact (ih _).imp (congrArg (c :: ·)) (congrArg (c :: ·))
  unfold Text.dropReturn
  split
  · rename_i returns
    obtain ⟨front, rfl⟩ := List.getLast?_eq_some_iff.1 returns
    rw [List.dropLast_concat]
    rcases cut none front with same | longer
    · rw [same]
    · rw [longer, Text.trim_append_singleton (by decide)]
  · rfl

/-! ## Solid texts -/

/-- The text begins and ends with something other than white space, and is closed. -/
structure Solid (cs : List Char) : Prop where
  first : ∃ c, cs.head? = some c ∧ isWhiteSpace c = false
  last : ∃ c, cs.getLast? = some c ∧ isWhiteSpace c = false
  closed : Closed cs

namespace Solid

/-- Solid texts are solid side by side, whatever closed text is between them. -/
theorem join (solid : Solid left) (closed : Closed gap) (solidToo : Solid right) :
    Solid (left ++ (gap ++ right)) where
  first := by
    obtain ⟨c, first, visible⟩ := solid.first
    refine ⟨c, ?_, visible⟩
    rw [List.head?_append, first, Option.some_or]
  last := by
    obtain ⟨c, last, visible⟩ := solidToo.last
    refine ⟨c, ?_, visible⟩
    rw [List.getLast?_append, List.getLast?_append, last, Option.some_or, Option.some_or]
  closed := solid.closed.append (closed.append solidToo.closed)

/-- A character of a name is not white space. -/
theorem isWhiteSpace_of_isNameChar (named : isNameChar c = true) : isWhiteSpace c = false := by
  refine Bool.eq_false_iff.2 fun white => ?_
  rw [isNameChar_of_isWhiteSpace white] at named
  cases named

/-- A quote is not white space. -/
theorem isWhiteSpace_of_isQuote (quote : isQuote c = true) : isWhiteSpace c = false :=
  isWhiteSpace_of_mem_marks c (mem_marks_of_isQuote quote)

/-- A written symbol is solid. -/
theorem of_isWritten (written : IsWritten name) : Solid name where
  first := by
    cases written with
    | bare nonempty each =>
      obtain ⟨c, rest, rfl⟩ := List.exists_cons_of_ne_nil nonempty
      exact ⟨c, rfl, isWhiteSpace_of_isNameChar (each c List.mem_cons_self)⟩
    | @quoted quote _ opens _ _ => exact ⟨quote, rfl, isWhiteSpace_of_isQuote opens⟩
  last := by
    cases written with
    | bare nonempty each =>
      have last := List.getLast?_eq_some_getLast nonempty
      exact ⟨_, last, isWhiteSpace_of_isNameChar (each _ (List.getLast_mem nonempty))⟩
    | @quoted quote inner opens _ _ =>
      refine ⟨quote, ?_, isWhiteSpace_of_isQuote opens⟩
      rw [List.getLast?_append, List.getLast?_singleton, Option.some_or]
  closed := .of_isWritten written

/-- A solid text is what is left when the white space around it is trimmed. -/
theorem trim_eq (solid : Solid cs) {before after : List Char} (space : IsSpace before)
    (spaceToo : IsSpace after) : Text.trim (before ++ (cs ++ after)) = cs := by
  obtain ⟨first, isFirst, visible⟩ := solid.first
  obtain ⟨last, isLast, visibleToo⟩ := solid.last
  exact Text.trim_between isFirst visible isLast visibleToo space spaceToo

/-- A solid text is not empty. -/
theorem ne_nil (solid : Solid cs) : cs ≠ [] := by
  rintro rfl
  obtain ⟨c, none, -⟩ := solid.first
  cases none

end Solid

/-! ## Lexemes -/

/-- The lexemes of a text are not more than its characters, so a higher limit makes no difference.
-/
theorem firstLexemes_eq {limit : Nat} (enough : cs.length ≤ limit) :
    firstLexemes limit cs = lexemes cs := by
  suffices same : ∀ limitToo, cs.length ≤ limitToo →
      firstLexemes limit cs = firstLexemes limitToo cs from same cs.length (Nat.le_refl _)
  induction limit generalizing cs with
  | zero =>
    intro limitToo _
    obtain rfl := List.length_eq_zero_iff.1 (Nat.le_zero.1 enough)
    cases limitToo <;> rfl
  | succ limit ih =>
    intro limitToo enoughToo
    have shorter : (Text.trimStart cs).length ≤ cs.length :=
      (List.dropWhile_sublist _).length_le
    cases limitToo with
    | zero =>
      obtain rfl := List.length_eq_zero_iff.1 (Nat.le_zero.1 enoughToo)
      rfl
    | succ limitToo =>
      rw [firstLexemes, firstLexemes]
      split
      · rfl
      · rename_i rest shape
        rw [shape, List.length_cons] at shorter
        rw [ih (by omega) limitToo (by omega)]
      · split
        · rename_i symbol rest found
          obtain ⟨-, -, -, less⟩ := symbolFront?_eq_some found
          rw [ih (by omega) limitToo (by omega)]
        · rfl

/-- White space in front of lexemes is passed over. -/
theorem lexemes_append (space : IsSpace gap) (cs : List Char) :
    lexemes (gap ++ cs) = lexemes cs := by
  have same := Text.trimStart_append space cs
  have both : ∀ limit, firstLexemes (limit + 1) (gap ++ cs) = firstLexemes (limit + 1) cs := by
    intro limit
    rw [firstLexemes, firstLexemes, same]
  rw [← firstLexemes_eq (Nat.le_succ (gap ++ cs).length), both, firstLexemes_eq]
  rw [List.length_append]
  omega

/-- An empty text has no lexemes. -/
theorem lexemes_nil : lexemes [] = [] := rfl

/-- A bar is a lexeme. -/
theorem lexemes_bar (rest : List Char) : lexemes ('|' :: rest) = .bar :: lexemes rest := by
  have visible : Text.trimStart ('|' :: rest) = '|' :: rest :=
    Text.trimStart_of_head? rfl (by decide)
  rw [lexemes, List.length_cons, firstLexemes, visible]
  rfl

/-- What follows a symbol: white space, a bar or nothing. -/
def Ends (rest : List Char) : Prop := ∀ c ∈ rest.head?, isWhiteSpace c = true ∨ c = '|'

/-- What follows a symbol is not part of a name. -/
theorem Ends.takeWhile_eq (ends : Ends rest) : rest.takeWhile isNameChar = [] := by
  cases rest with
  | nil => rfl
  | cons c rest =>
    refine List.takeWhile_cons_of_neg ?_
    rcases ends c rfl with white | rfl
    · simp [isNameChar_of_isWhiteSpace white]
    · decide +kernel

/-- What follows a symbol is no sign of repetition. -/
theorem Ends.repetitionFront_eq (ends : Ends rest) : repetitionFront rest = (none, rest) := by
  cases rest with
  | nil => rfl
  | cons c rest =>
    have unsigned : Repetition.ofSign? c = none := by
      rcases ends c rfl with white | rfl
      · unfold Repetition.ofSign?
        split
        · exact absurd white (by decide)
        · exact absurd white (by decide)
        · exact absurd white (by decide)
        · rfl
      · rfl
    rw [repetitionFront, unsigned]

/-- A name in front of a text that does not go on with it is read as a whole. -/
theorem takeWhile_isNameChar (each : ∀ c ∈ name, isNameChar c = true)
    (stops : rest.takeWhile isNameChar = []) :
    (name ++ rest).takeWhile isNameChar = name ∧ (name ++ rest).dropWhile isNameChar = rest := by
  have kept := List.takeWhile_append_dropWhile (p := isNameChar) (l := rest)
  rw [stops, List.nil_append] at kept
  rw [List.takeWhile_append_of_pos each, List.dropWhile_append_of_pos each, stops,
    List.append_nil]
  exact ⟨rfl, kept⟩

/-- A written symbol is taken off the front of a text that does not go on with a name. -/
theorem front_append (written : IsWritten name) (stops : rest.takeWhile isNameChar = []) :
    (quotedFront? (name ++ rest)).or (nameFront? (name ++ rest)) = some (name, rest) := by
  cases written with
  | bare nonempty each =>
    obtain ⟨c, more, rfl⟩ := List.exists_cons_of_ne_nil nonempty
    have unquoted : isQuote c = false := by
      refine Bool.eq_false_iff.2 fun quote => ?_
      have unnamed := isNameChar_of_mem_marks c (mem_marks_of_isQuote quote)
      rw [each c List.mem_cons_self] at unnamed
      cases unnamed
    obtain ⟨taken, left⟩ := takeWhile_isNameChar each stops
    have none : quotedFront? (c :: more ++ rest) = none := by
      rw [List.cons_append, quotedFront?, unquoted]
      rfl
    rw [none, Option.none_or, nameFront?, taken, left]
  | @quoted quote inner opens nonempty between =>
    have differs : ∀ c ∈ inner, decide (c ≠ quote) = true := by
      intro c inside
      refine decide_eq_true ?_
      rintro rfl
      exact between inside
    have taken : (inner ++ quote :: rest).takeWhile (· ≠ quote) = inner := by
      rw [List.takeWhile_append_of_pos differs, List.takeWhile_cons_of_neg (by simp),
        List.append_nil]
    have left : (inner ++ quote :: rest).dropWhile (· ≠ quote) = quote :: rest := by
      rw [List.dropWhile_append_of_pos differs, List.dropWhile_cons_of_neg (by simp)]
    obtain ⟨c, more, rfl⟩ := List.exists_cons_of_ne_nil nonempty
    rw [List.append_assoc, List.singleton_append, List.cons_append, quotedFront?, if_pos opens,
      taken, left]
    rfl

/-- A written symbol is read up to its end. -/
theorem symbolFront?_append (written : IsWritten name) (ends : Ends rest) :
    symbolFront? (name ++ rest) = some (⟨String.ofList name, none⟩, rest) := by
  rw [symbolFront?, front_append written ends.takeWhile_eq, Option.map_some]
  dsimp only
  rw [ends.repetitionFront_eq]

/-- A written symbol that is followed by white space, a bar or nothing is one lexeme. -/
theorem lexemes_written (written : IsWritten name) (ends : Ends rest) :
    lexemes (name ++ rest) = .symbol ⟨String.ofList name, none⟩ :: lexemes rest := by
  obtain ⟨c, more, rfl⟩ := List.exists_cons_of_ne_nil written.ne_nil
  have front := symbolFront?_append written ends
  obtain ⟨first, isFirst, visible⟩ := (Solid.of_isWritten written).first
  obtain rfl : c = first := Option.some.inj isFirst
  have untrimmed : Text.trimStart (c :: more ++ rest) = c :: more ++ rest :=
    Text.trimStart_of_head? rfl visible
  have noBar : c ≠ '|' := by
    rintro rfl
    cases written with
    | bare _ each => exact absurd (each _ List.mem_cons_self) (by decide +kernel)
    | quoted opens _ _ => exact absurd opens (by decide)
  rw [List.cons_append] at untrimmed front ⊢
  rw [lexemes, List.length_cons, firstLexemes, untrimmed]
  split
  · rename_i none
    cases none
  · rename_i bar
    exact absurd (List.cons.inj bar).1 noBar
  · rw [front]
    dsimp only
    rw [firstLexemes_eq]
    simp

end Notation

end ChartParser
