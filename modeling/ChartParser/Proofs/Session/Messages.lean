import ChartParser.Proofs.Forest.Printing
import ChartParser.Proofs.Notation.Statements
import ChartParser.Session.Basic

/-!
# Messages in one line

A sentence that cannot be read or parsed is answered with one line. The messages quote what they
show of the sentence, and quoting leaves no line feed. The one message that shows a word as it is
shows a word of a line, which has no white space at all.
-/

namespace ChartParser

open Text

namespace Text

variable {before after : String}

/-- Texts without line feeds have none one behind the other. -/
theorem lineFeed_notMem_append (whole : '\n' ∉ before.toList) (wholeToo : '\n' ∉ after.toList) :
    '\n' ∉ (before ++ after).toList := by
  rw [String.toList_append]
  exact fun inside => (List.mem_append.1 inside).elim whole wholeToo

/-- A digit is no line feed. -/
theorem lineFeed_ne_digitChar (digit : Nat) : '\n' ≠ digit.digitChar := by
  by_cases small : digit < 16
  · exact (by decide : ∀ digit < 16, '\n' ≠ Nat.digitChar digit) digit small
  · have star : digit.digitChar = '*' := by
      rw [Nat.digitChar]
      repeat' rw [if_neg (by omega)]
    rw [star]
    decide

/-- The digits of a number are no line feeds, in whatever base. -/
theorem lineFeed_notMem_toDigits (base number : Nat) : '\n' ∉ Nat.toDigits base number := by
  -- the digits come one by one, each in front of those that have been found
  have core : ∀ (fuel number : Nat) (digits : List Char), '\n' ∉ digits →
      '\n' ∉ Nat.toDigitsCore base fuel number digits := by
    intro fuel
    induction fuel with
    | zero => exact fun _ _ whole => whole
    | succ fuel ih =>
      intro number digits whole
      have next : '\n' ∉ (number % base).digitChar :: digits :=
        List.not_mem_cons_of_ne_of_not_mem (lineFeed_ne_digitChar _) whole
      rw [Nat.toDigitsCore]
      split
      · exact next
      · exact ih _ _ next
  exact core _ _ _ List.not_mem_nil

/-- A character is quoted without line feeds. -/
theorem lineFeed_notMem_escapeChar (c : Char) : '\n' ∉ escapeChar c := by
  unfold escapeChar
  split
  · decide
  · decide
  · decide
  · decide
  · decide
  · decide
  · rename_i feedless _ _ _
    split
    · simpa [codePointEscape] using lineFeed_notMem_toDigits 16 c.toNat
    · exact fun inside => feedless (List.mem_singleton.1 inside).symm

/-- Quoted texts have no line feeds. -/
theorem lineFeed_notMem_quoted (text : String) : '\n' ∉ (quoted text).toList := by
  rw [quoted, String.toList_ofList]
  have escaped : '\n' ∉ text.toList.flatMap escapeChar := by
    intro inside
    obtain ⟨c, -, among⟩ := List.mem_flatMap.1 inside
    exact lineFeed_notMem_escapeChar c among
  simpa using escaped

/-- Words have no line feeds. -/
theorem lineFeed_notMem_of_mem_words {text word : String} (listed : word ∈ words text) :
    '\n' ∉ word.toList := by
  obtain ⟨piece, among, rfl⟩ := List.mem_map.1 listed
  rw [String.toList_ofList]
  intro inside
  have visible := cut_of_mem_splitBy (List.mem_filter.1 among).1 '\n' inside
  exact absurd visible (by decide)

end Text

/-- Why a sentence has no forest is told in one line. -/
theorem ParseError.lineFeed_notMem_message (error : ParseError) : '\n' ∉ error.message.toList := by
  cases error with
  | deadEnd number text =>
    have told : '\n' ∉ ("no parse available at token " ++ toString number ++ " (").toList :=
      lineFeed_notMem_append (lineFeed_notMem_append (by decide)
        (Forest.lineFeed_notMem_toString number)) (by decide)
    exact lineFeed_notMem_append (lineFeed_notMem_append told (lineFeed_notMem_quoted text))
      (by decide)
  | noParse => decide
  | tooComplex passed items =>
    have told : '\n' ∉ ("parse abandoned at token " ++ toString passed ++ ": ").toList :=
      lineFeed_notMem_append (lineFeed_notMem_append (by decide)
        (Forest.lineFeed_notMem_toString passed)) (by decide)
    exact lineFeed_notMem_append
      (lineFeed_notMem_append told (Forest.lineFeed_notMem_toString items)) (by decide)

namespace Token

variable {word : String} {fault : WordFault}

/-- What is wrong with a typed name is its gender, which is shown as the word, or one of its
cases. -/
theorem typedName_eq_error {form gender cases : String}
    (unread : typedName word form gender cases = .error fault) :
    fault = .unknownGender word ∨ ∃ name, fault = .unknownCase name := by
  unfold typedName at unread
  split at unread
  · exact .inl (Except.error.inj unread).symm
  · obtain ⟨name, -, unknown⟩ := exists_of_mapM_eq_error (map_eq_error.1 unread)
    unfold typedCase at unknown
    split at unknown
    · cases unknown
    · exact .inr ⟨name, (Except.error.inj unknown).symm⟩

/-- What is wrong with a typed word. -/
theorem ofTyped_eq_error (unread : ofTyped word = .error fault) :
    fault = .unreadable word ∨ fault = .unknownGender word ∨ ∃ name, fault = .unknownCase name := by
  unfold ofTyped at unread
  split at unread
  · cases unread
  · split at unread
    · exact .inr (typedName_eq_error unread)
    · cases unread
  · exact .inl (Except.error.inj unread).symm

/-- Why a word is no token is told in one line, if the word stands in one. -/
theorem lineFeed_notMem_message (whole : '\n' ∉ word.toList)
    (unread : ofTyped word = .error fault) : '\n' ∉ fault.message.toList := by
  rcases ofTyped_eq_error unread with rfl | rfl | ⟨name, rfl⟩
  · exact lineFeed_notMem_append (by decide) (lineFeed_notMem_quoted word)
  · exact lineFeed_notMem_append (by decide) whole
  · exact lineFeed_notMem_append (by decide) (lineFeed_notMem_quoted name)

end Token

end ChartParser
