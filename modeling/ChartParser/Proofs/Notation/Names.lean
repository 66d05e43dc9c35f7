import ChartParser.Notation.Lexeme
import ChartParser.Proofs.Tables
import ChartParser.Proofs.Text.Ranges

/-!
# Names in the notation

A symbol is written as a bare name or as a quoted literal, a rule starts with a bare name in upper
case. Characters of names are neither white space nor any of the marks of the notation, so it is
always clear where a name ends. Whatever is read as a name is one of these (`symbolFront?_eq_some`,
`ruleFront?_eq_some`).
-/

namespace ChartParser.Notation

/-! ## Characters -/

/-- An uppercase letter may stand in a name. -/
theorem isNameChar_of_isHeadChar {c : Char} (head : isHeadChar c = true) : isNameChar c = true := by
  have covered : Text.covers Text.uppercaseLetterRanges Text.letterRanges = true := by
    decide +kernel
  rw [isHeadChar, Bool.and_eq_true] at head
  have letter : Text.isLetter c = true := Text.rangesContain_of_covers covered head.1
  rw [isNameChar, letter, head.2]
  rfl

/-- White space does not stand in a name. -/
theorem isNameChar_of_isWhiteSpace {c : Char} (white : Text.isWhiteSpace c = true) :
    isNameChar c = false := by
  have letters : Text.apart Text.whiteSpaceRanges Text.letterRanges = true := by decide +kernel
  have numbers : Text.apart Text.whiteSpaceRanges Text.numberRanges = true := by decide +kernel
  have letter : Text.isLetter c = false := Text.rangesContain_eq_false_of_apart letters white
  have number : Text.isNumber c = false := Text.rangesContain_eq_false_of_apart numbers white
  have low : c ≠ '_' := by
    rintro rfl
    exact absurd white (by decide)
  have hyphen : c ≠ '-' := by
    rintro rfl
    exact absurd white (by decide)
  rw [isNameChar, letter, number, beq_eq_false_iff_ne.2 low, beq_eq_false_iff_ne.2 hyphen]
  rfl

/-- The characters with a meaning of their own. -/
def marks : List Char := ['"', '\x27', '#', '|', '>', '?', '*', '+']

/-- A mark does not stand in a name. -/
theorem isNameChar_of_mem_marks : ∀ c ∈ marks, isNameChar c = false := by
  have none : (marks.all fun c => !isNameChar c) = true := by decide +kernel
  simpa using none

/-- A mark is not white space. -/
theorem isWhiteSpace_of_mem_marks : ∀ c ∈ marks, Text.isWhiteSpace c = false := by
  have none : (marks.all fun c => !Text.isWhiteSpace c) = true := by decide
  simpa using none

/-- A quote is a mark. -/
theorem mem_marks_of_isQuote {c : Char} (quote : isQuote c = true) : c ∈ marks := by
  simp only [isQuote, Bool.or_eq_true, beq_iff_eq] at quote
  rcases quote with rfl | rfl <;> decide

/-! ## Names as they are written -/

/-- The text of a symbol without its repetition: a bare name, or a quoted literal. -/
inductive IsWritten : List Char → Prop
  | bare {name : List Char} (nonempty : name ≠ []) (each : ∀ c ∈ name, isNameChar c = true) :
      IsWritten name
  | quoted {quote : Char} {inner : List Char} (opens : isQuote quote = true)
      (nonempty : inner ≠ []) (between : quote ∉ inner) : IsWritten (quote :: inner ++ [quote])

/-- The name of a nonterminal that a rule may start with. -/
structure IsHead (name : List Char) : Prop where
  first : name.head?.any isHeadChar = true
  each : ∀ c ∈ name, isNameChar c = true

namespace IsWritten

variable {name : List Char}

/-- A written symbol has at least one character. -/
theorem ne_nil (written : IsWritten name) : name ≠ [] := by
  cases written with
  | bare nonempty _ => exact nonempty
  | quoted _ _ _ => exact List.cons_ne_nil _ _

/-- A written symbol does not end in a sign of repetition. -/
theorem getLast?_ne_sign (written : IsWritten name) (repetition : Repetition) :
    name.getLast? ≠ some repetition.sign := by
  intro last
  cases written with
  | bare _ each =>
    have inside := each _ (List.mem_of_getLast? last)
    have marked : repetition.sign ∈ marks := by cases repetition <;> decide
    rw [isNameChar_of_mem_marks _ marked] at inside
    cases inside
  | @quoted quote inner opens _ _ =>
    rw [List.getLast?_append, List.getLast?_singleton, Option.some_or, Option.some.injEq] at last
    rw [last] at opens
    cases repetition <;> exact absurd opens (by decide)

end IsWritten

namespace IsHead

variable {name : List Char}

/-- The head of a rule may be written as a symbol. -/
theorem isWritten (head : IsHead name) : IsWritten name := by
  refine .bare ?_ head.each
  rintro rfl
  exact absurd head.first (by decide)

/-- The head of a rule starts in upper case. -/
theorem isUppercase (head : IsHead name) : name.head?.any Text.isUppercase = true := by
  obtain ⟨c, first, headChar⟩ := (Option.any_eq_true _ _).1 head.first
  rw [isHeadChar, Bool.and_eq_true] at headChar
  rw [first, Option.any_some, Text.isUppercase, headChar.1, Bool.true_or]

/-- The head of a rule is written in one line. -/
theorem whole (head : IsHead name) : '\n' ∉ name := by
  intro inside
  have named := head.each '\n' inside
  rw [isNameChar_of_isWhiteSpace (by decide)] at named
  cases named

end IsHead

/-! ## What is read as a name -/

variable {cs name after rest : List Char}

/-- What is read as a quoted literal is one. -/
theorem quotedFront?_eq_some (read : quotedFront? cs = some (name, after)) :
    IsWritten name ∧ cs = name ++ after := by
  cases cs with
  | nil => simp [quotedFront?] at read
  | cons quote rest =>
    rw [quotedFront?] at read
    split at read
    · rename_i opens
      have parts := List.takeWhile_append_dropWhile (p := (· ≠ quote)) (l := rest)
      split at read
      · simp at read
      · simp at read
      · rename_i closing behind shape nonempty
        simp only [Option.some.injEq, Prod.mk.injEq] at read
        obtain ⟨rfl, rfl⟩ := read
        have closes : closing = quote := by
          have ends := List.head?_dropWhile_not (· ≠ quote) rest
          rw [shape] at ends
          simpa using ends
        have between : quote ∉ rest.takeWhile (· ≠ quote) := by
          intro inside
          have differs := List.all_eq_true.1 List.all_takeWhile quote inside
          simp at differs
        rw [shape, closes] at parts
        refine ⟨.quoted opens nonempty between, ?_⟩
        rw [List.append_assoc, List.singleton_append, List.cons_append, parts]
    · simp at read

/-- What is read as a bare name is one. -/
theorem nameFront?_eq_some (read : nameFront? cs = some (name, after)) :
    IsWritten name ∧ cs = name ++ after := by
  rw [nameFront?] at read
  split at read
  · simp at read
  · rename_i nonempty
    simp only [Option.some.injEq, Prod.mk.injEq] at read
    obtain ⟨rfl, rfl⟩ := read
    refine ⟨.bare (fun none => nonempty none) ?_, List.takeWhile_append_dropWhile.symm⟩
    exact List.all_eq_true.1 List.all_takeWhile

/-- What is read as a symbol has a name that may be written, and is read from the front. -/
theorem symbolFront?_eq_some {symbol : WrittenSymbol}
    (read : symbolFront? cs = some (symbol, rest)) :
    IsWritten symbol.name.toList ∧ symbol.name.toList <+: cs ∧ rest <:+ cs ∧
      rest.length < cs.length := by
  obtain ⟨⟨name, after⟩, found, same⟩ := Option.map_eq_some_iff.1 read
  obtain ⟨rfl, rfl⟩ := Prod.mk.inj same
  have front : IsWritten name ∧ cs = name ++ after := by
    rcases Option.or_eq_some_iff.1 found with quoted | ⟨-, bare⟩
    · exact quotedFront?_eq_some quoted
    · exact nameFront?_eq_some bare
  obtain ⟨written, rfl⟩ := front
  have suffix : (repetitionFront after).2 <:+ after := by
    cases after with
    | nil => exact List.suffix_refl _
    | cons c after =>
      rw [repetitionFront]
      split
      · exact List.suffix_cons c after
      · exact List.suffix_refl _
  rw [String.toList_ofList]
  refine ⟨written, List.prefix_append name after, suffix.trans (List.suffix_append name after), ?_⟩
  have taken : 0 < name.length := List.length_pos_iff.2 written.ne_nil
  have shorter := suffix.length_le
  show (repetitionFront after).2.length < (name ++ after).length
  rw [List.length_append]
  omega

/-- Every symbol among the lexemes of a text has a name that may be written, and stands in the text.
-/
theorem isWritten_of_mem_firstLexemes {limit : Nat} {symbol : WrittenSymbol}
    (read : .symbol symbol ∈ firstLexemes limit cs) :
    IsWritten symbol.name.toList ∧ symbol.name.toList ⊆ cs := by
  induction limit generalizing cs with
  | zero => simp [firstLexemes] at read
  | succ limit ih =>
    have behind : Text.trimStart cs <:+ cs := List.dropWhile_suffix _
    rw [firstLexemes] at read
    split at read
    · simp at read
    · rename_i rest shape
      rcases List.mem_cons.1 read with same | later
      · cases same
      · obtain ⟨written, within⟩ := ih later
        have onward : rest ⊆ '|' :: rest := List.subset_cons_self _ _
        exact ⟨written, List.Subset.trans within (List.Subset.trans onward (shape ▸ behind.subset))⟩
    · split at read
      · rename_i first rest found
        obtain ⟨written, front, suffix, -⟩ := symbolFront?_eq_some found
        rcases List.mem_cons.1 read with same | later
        · cases same
          exact ⟨written, List.Subset.trans front.subset behind.subset⟩
        · obtain ⟨writtenToo, within⟩ := ih later
          exact ⟨writtenToo, List.Subset.trans within (suffix.trans behind).subset⟩
      · simp at read

/-- No alternative is empty, and its symbols are among the lexemes or had been read before. -/
theorem of_alternativesFrom_eq_ok {current : List WrittenSymbol} {lexemes : List Lexeme}
    {listed : List (List WrittenSymbol)} (read : alternativesFrom current lexemes = .ok listed) :
    ∀ alternative ∈ listed, alternative ≠ [] ∧
      ∀ symbol ∈ alternative, symbol ∈ current ∨ .symbol symbol ∈ lexemes := by
  induction lexemes generalizing current listed with
  | nil =>
    rw [alternativesFrom] at read
    split at read
    · simp at read
    · rename_i nonempty
      obtain rfl := Except.ok.inj read
      intro alternative inside
      rw [List.mem_singleton.1 inside]
      exact ⟨by simpa using nonempty, fun _ => Or.inl⟩
  | cons lexeme lexemes ih =>
    cases lexeme with
    | symbol first =>
      rw [alternativesFrom] at read
      intro alternative inside
      refine ⟨(ih read alternative inside).1, fun symbol mentioned => ?_⟩
      rcases (ih read alternative inside).2 symbol mentioned with before | later
      · rcases List.mem_append.1 before with old | new
        · exact Or.inl old
        · rw [List.mem_singleton.1 new]
          exact Or.inr List.mem_cons_self
      · exact Or.inr (List.mem_cons_of_mem _ later)
    | bar =>
      rw [alternativesFrom] at read
      split at read
      · simp at read
      · rename_i nonempty
        obtain ⟨others, rest, rfl⟩ := map_eq_ok.1 read
        intro alternative inside
        rcases List.mem_cons.1 inside with rfl | later
        · exact ⟨by simpa using nonempty, fun _ => Or.inl⟩
        · refine ⟨(ih rest alternative later).1, fun symbol mentioned => ?_⟩
          rcases (ih rest alternative later).2 symbol mentioned with none | among
          · simp at none
          · exact Or.inr (List.mem_cons_of_mem _ among)
    | unreadable text => simp [alternativesFrom] at read

/-- The text after an arrow is at the end of the text. -/
theorem afterArrow?_eq_some (read : afterArrow? cs = some rest) : rest <:+ cs := by
  rw [afterArrow?] at read
  split at read
  · rename_i after shape
    obtain rfl := Option.some.inj read
    have behind : Text.trimStart cs <:+ cs := List.dropWhile_suffix _
    rw [shape] at behind
    exact (List.suffix_append ['-', '>'] after).trans behind
  · simp at read

/-- What is read as the front of a rule starts with a name that rules may start with. -/
theorem ruleFront?_eq_some (read : ruleFront? cs = some (name, rest)) :
    IsHead name ∧ rest <:+ cs := by
  rw [ruleFront?] at read
  split at read
  · rename_i first
    have each : ∀ c ∈ cs.takeWhile isNameChar, isNameChar c = true :=
      List.all_eq_true.1 List.all_takeWhile
    obtain ⟨c, front, headChar⟩ := (Option.any_eq_true _ _).1 first
    have begins : (cs.takeWhile isNameChar).head? = some c := by
      rw [List.head?_takeWhile, front, Option.filter_some,
        if_pos (isNameChar_of_isHeadChar headChar)]
    dsimp only at read
    split at read
    · rename_i side found
      obtain ⟨rfl, rfl⟩ := Prod.mk.inj (Option.some.inj read)
      have behind : cs.dropWhile isNameChar <:+ cs := List.dropWhile_suffix _
      refine ⟨⟨?_, each⟩, (afterArrow?_eq_some found).trans behind⟩
      rw [begins]
      exact headChar
    · split at read
      · rename_i side hyphen shape
        obtain ⟨rfl, rfl⟩ := Prod.mk.inj (Option.some.inj read)
        have behind : cs.dropWhile isNameChar <:+ cs := List.dropWhile_suffix _
        rw [shape] at behind
        refine ⟨⟨?_, fun c inside => each c (List.dropLast_subset _ inside)⟩,
          (List.suffix_cons '>' _).trans behind⟩
        have long : 1 < (cs.takeWhile isNameChar).length := by
          -- a single character would be a letter in upper case and a hyphen
          refine Nat.lt_of_not_le fun short => ?_
          match whole : cs.takeWhile isNameChar with
          | [] => simp [whole] at begins
          | [only] =>
            rw [whole] at begins hyphen
            obtain rfl : only = c := by simpa using begins
            obtain rfl : only = '-' := by simpa using hyphen
            exact absurd headChar (by decide)
          | _ :: _ :: _ => simp [whole] at short
        rw [List.head?_dropLast, if_pos long, begins]
        exact headChar
      · simp at read
  · simp at read

end ChartParser.Notation
