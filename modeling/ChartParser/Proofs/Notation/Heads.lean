import ChartParser.Proofs.Grammar.Rules
import ChartParser.Proofs.Notation.Layout

/-!
# Heads of rules and symbols of that name

A name that stands for a nonterminal where it is mentioned should be one that a rule can start with.
Where it is mentioned, its first character has to have the property Uppercase; where a rule starts,
it has to be a letter of category Lu. Among the characters of names the two differ in the capital
Roman numerals only (`isUppercase_eq_of_isNameChar`): those are numbers, and a nonterminal whose
name starts with one can be mentioned but never defined (`symbol_agrees_readLine_iff`).
-/

namespace ChartParser

namespace Text

variable {front cs : List Char} {c : Char}

/-- Behind something visible only the rest is trimmed. -/
theorem trimEnd_append_of_getLast? (last : front.getLast? = some c)
    (visible : isWhiteSpace c = false) (cs : List Char) :
    trimEnd (front ++ cs) = front ++ trimEnd cs := by
  have kept := trimEnd_of_getLast? last visible
  unfold trimEnd at kept ⊢
  rw [List.reverse_append, List.dropWhile_append]
  split
  · rename_i none
    rw [kept, List.isEmpty_iff.1 none, List.reverse_nil, List.append_nil]
  · rw [List.reverse_append, List.reverse_reverse]

end Text

namespace Notation

open Text (IsSpace)

variable {name line : String} {rhs : List Char} {place : Location} {loading opened next : Loading}
  {lhs : NonterminalId} {c : Char}

/-! ## Upper case among the characters of names -/

/-- Whether the character is a capital Roman numeral: a number, but with the property Uppercase. -/
def isCapitalNumeral (c : Char) : Bool := Text.inRanges [⟨0x2160, 0x216F⟩] c

/-- A rule does not start with a capital Roman numeral. -/
theorem isHeadChar_of_isCapitalNumeral (numeral : isCapitalNumeral c = true) :
    isHeadChar c = false := by
  have separate : Text.apart [⟨0x2160, 0x216F⟩] Text.uppercaseLetterRanges = true := by
    decide +kernel
  have letter : Text.isUppercaseLetter c = false :=
    Text.rangesContain_eq_false_of_apart separate numeral
  rw [isHeadChar, letter, Bool.false_and]

/-- An uppercase letter in a name is one that a rule may start with. -/
theorem isHeadChar_of_isNameChar (named : isNameChar c = true)
    (letter : Text.isUppercaseLetter c = true) : isHeadChar c = true := by
  rw [isHeadChar, letter, Bool.true_and]
  simp only [isNameChar, Bool.or_eq_true, Bool.and_eq_true, beq_iff_eq] at named
  rcases named with (⟨-, known⟩ | rfl) | rfl
  · exact known
  · exact absurd letter (by decide)
  · exact absurd letter (by decide)

/-- The only uppercase characters in names that are not letters are capital Roman numerals: the
circled and squared capitals are neither letters nor numbers. -/
theorem isCapitalNumeral_of_isNameChar (named : isNameChar c = true)
    (other : Text.inRanges Text.otherUppercaseRanges c = true) : isCapitalNumeral c = true := by
  by_contra numeral
  have circled : Text.inRanges (Text.otherUppercaseRanges.drop 1) c = true := by
    unfold isCapitalNumeral Text.inRanges at numeral
    unfold Text.inRanges Text.otherUppercaseRanges at other
    rw [Text.rangesContain] at numeral other
    split at other
    · cases other
    · rename_i reached
      rw [if_neg reached] at numeral
      split at other
      · rename_i within
        rw [if_pos within] at numeral
        exact absurd rfl numeral
      · exact other
  have letters : Text.apart (Text.otherUppercaseRanges.drop 1) Text.letterRanges = true := by
    decide +kernel
  have numbers : Text.apart (Text.otherUppercaseRanges.drop 1) Text.numberRanges = true := by
    decide +kernel
  have letter : Text.isLetter c = false := Text.rangesContain_eq_false_of_apart letters circled
  have number : Text.isNumber c = false := Text.rangesContain_eq_false_of_apart numbers circled
  simp only [isNameChar, letter, number, Bool.or_self, Bool.false_and, Bool.false_or,
    Bool.or_eq_true, beq_iff_eq] at named
  rcases named with rfl | rfl
  · exact absurd circled (by decide)
  · exact absurd circled (by decide)

/-- A character of a name is uppercase if a rule may start with it, or it is a capital Roman
numeral. -/
theorem isUppercase_eq_of_isNameChar (named : isNameChar c = true) :
    Text.isUppercase c = (isHeadChar c || isCapitalNumeral c) := by
  rw [Bool.eq_iff_iff, Text.isUppercase, Bool.or_eq_true, Bool.or_eq_true]
  constructor
  · rintro (letter | other)
    · exact Or.inl (isHeadChar_of_isNameChar named letter)
    · exact Or.inr (isCapitalNumeral_of_isNameChar named other)
  · rintro (head | numeral)
    · rw [isHeadChar, Bool.and_eq_true] at head
      exact Or.inl head.1
    · have covered : Text.covers [⟨0x2160, 0x216F⟩] Text.otherUppercaseRanges = true := by decide
      exact Or.inr (Text.rangesContain_of_covers covered numeral)

/-! ## Lines that start a rule -/

/-- The text is a bare name. -/
structure IsBare (name : List Char) : Prop where
  nonempty : name ≠ []
  each : ∀ c ∈ name, isNameChar c = true

/-- The line has the name before an arrow, with white space allowed on both sides of it, and this
right-hand side behind the arrow, where a comment and white space at the end are gone. -/
def IsRuleLine (name : String) (rhs : List Char) (line : String) : Prop :=
  ∃ before gap tail, line.toList = before ++ (name.toList ++ (gap ++ '-' :: '>' :: tail)) ∧
    IsSpace before ∧ IsSpace gap ∧ rhs = Text.trimEnd (beforeComment none tail)

/-- What such a line says once its comment and outer white space are gone. -/
theorem IsRuleLine.exists_content (front : IsRuleLine name rhs line) (bare : IsBare name.toList) :
    ∃ gap, IsSpace gap ∧ Text.trim (beforeComment none line.toList) =
      name.toList ++ (gap ++ '-' :: '>' :: rhs) := by
  obtain ⟨before, gap, tail, whole, space, spaceToo, rfl⟩ := front
  have written : IsWritten name.toList := .bare bare.nonempty bare.each
  have arrow : Closed ['-', '>'] :=
    .of_forall (List.forall_mem_cons.2 ⟨by decide, List.forall_mem_singleton.2 (by decide)⟩)
  have solid : Solid (name.toList ++ (gap ++ ['-', '>'])) :=
    (Solid.of_isWritten written).join (.of_isSpace spaceToo)
      ⟨⟨'-', rfl, by decide⟩, ⟨'>', rfl, by decide⟩, arrow⟩
  have cut : beforeComment none line.toList =
      before ++ ((name.toList ++ (gap ++ ['-', '>'])) ++ beforeComment none tail) := by
    have regrouped : line.toList = before ++ ((name.toList ++ (gap ++ ['-', '>'])) ++ tail) := by
      rw [whole]
      simp
    rw [regrouped, Closed.of_isSpace space, solid.closed]
  obtain ⟨first, isFirst, visible⟩ := solid.first
  obtain ⟨last, isLast, visibleToo⟩ := solid.last
  have begins : ((name.toList ++ (gap ++ ['-', '>'])) ++ beforeComment none tail).head? =
      some first := by rw [List.head?_append, isFirst, Option.some_or]
  refine ⟨gap, spaceToo, ?_⟩
  rw [cut, Text.trim, Text.trimStart_append space, Text.trimStart_of_head? begins visible,
    Text.trimEnd_append_of_getLast? isLast visibleToo]
  simp

/-- A line that starts with the name of something that no rule starts with is reported. -/
theorem readContent_of_ruleFront?_eq_none {content : List Char} (nonempty : content ≠ [])
    (noBar : content.head? ≠ some '|') (none : ruleFront? content = none) :
    readContent place loading content = .error ⟨.expectedRule (String.ofList content), place⟩ := by
  have other : ∀ rhs, content = '|' :: rhs → False := by
    rintro rhs rfl
    exact noBar rfl
  rewrite [readContent.eq_3 _ _ _ nonempty other, none]
  rfl

/-- A rule whose name starts with something else is reported. -/
theorem IsRuleLine.readLine_eq_error (front : IsRuleLine name rhs line)
    (bare : IsBare name.toList) (other : name.toList.head?.any isHeadChar = false)
    (loading : Loading) (file : Option String) (number : Nat) :
    readLine file loading (line, number) =
      .error ⟨.expectedRule (Text.trimmed (String.ofList (beforeComment none line.toList))),
        ⟨file, some number⟩⟩ := by
  obtain ⟨gap, space, content⟩ := front.exists_content bare
  obtain ⟨c, rest, shape⟩ := List.exists_cons_of_ne_nil bare.nonempty
  have none : ruleFront? (name.toList ++ (gap ++ '-' :: '>' :: rhs)) = none := by
    rw [shape, List.head?_cons] at other
    rw [ruleFront?, shape, List.cons_append, List.head?_cons, other]
    rfl
  have noBar : (name.toList ++ (gap ++ '-' :: '>' :: rhs)).head? ≠ some '|' := by
    rw [shape, List.cons_append, List.head?_cons]
    rintro ⟨⟩
    exact absurd (bare.each '|' (by rw [shape]; exact List.mem_cons_self)) (by decide +kernel)
  have nonempty : name.toList ++ (gap ++ '-' :: '>' :: rhs) ≠ [] := by simp
  rw [readLine, Text.trimmed, String.toList_ofList]
  dsimp only
  rw [content]
  exact readContent_of_ruleFront?_eq_none nonempty noBar none

/-- What is read from a right-hand side adds to the grammar, and the rule goes on. -/
theorem readAlternatives_persists (current : loading.current = some lhs)
    (read : readAlternatives place loading lhs rhs = .ok next) :
    next.current = some lhs ∧ loading.grammar.Persists next.grammar := by
  unfold readAlternatives at read
  split at read
  · obtain rfl := Except.ok.inj read
    exact ⟨current, .refl _⟩
  · split at read
    · cases read
    · obtain ⟨grammar, run, rfl⟩ := map_eq_ok.1 read
      have kept := Grammar.Persists.kept loading.grammar
      exact ⟨current, foldlM_induction loading.grammar.Persists
        (fun before added => kept.addAlternative before added) (.refl _) run⟩

/-- A rule whose name is one that rules start with is read, and its nonterminal is defined. -/
theorem IsRuleLine.readLine_eq_ok (front : IsRuleLine name rhs line)
    (head : IsHead name.toList) (built : loading.grammar.Built) {file : Option String}
    {number : Nat}
    (taken : loading.take (⟨file, some number⟩, .head name) = .ok opened)
    (current : opened.current = some lhs)
    (readable : readAlternatives ⟨file, some number⟩ opened lhs rhs = .ok next) :
    readLine file loading (line, number) = .ok next ∧ next.current = some lhs ∧
      next.grammar.Defines name lhs := by
  have bare : IsBare name.toList := ⟨head.isWritten.ne_nil, head.each⟩
  obtain ⟨gap, space, content⟩ := front.exists_content bare
  obtain ⟨fresh, rfl⟩ := take_head_eq_ok taken
  obtain rfl := Option.some.inj current
  obtain ⟨stays, persists⟩ := readAlternatives_persists current readable
  have defines := Grammar.Defines.defineAt built.consistent name ⟨file, some number⟩
  refine ⟨?_, stays, defines.of_persists persists⟩
  have found := ruleFront?_append head space rhs
  rw [readLine]
  dsimp only
  rw [content, readContent_of_ruleFront? found, String.ofList_toList, fresh]
  exact readable

/-! ## Symbols of that name -/

/-- A name stands for a nonterminal if it starts in upper case. -/
theorem exists_symbol_eq_nonterminal_iff (g : Grammar) (nonempty : name.toList ≠ []) :
    (∃ id h, g.symbol name = (.ok (.nonterminal id), h)) ↔
      name.toList.head?.any Text.isUppercase = true := by
  obtain ⟨c, rest, shape⟩ := List.exists_cons_of_ne_nil nonempty
  rw [Grammar.symbol, shape, List.head?_cons, Option.any_some]
  dsimp only
  by_cases upper : Text.isUppercase c = true
  · rw [if_pos upper]
    exact ⟨fun _ => upper, fun _ => ⟨_, _, rfl⟩⟩
  · rw [if_neg upper]
    constructor
    · rintro ⟨id, h, entered⟩
      obtain ⟨found, -, same⟩ := map_eq_ok.1 (Prod.mk.inj entered).1
      cases same
    · exact fun upperToo => absurd upperToo upper

/-- Mention and definition agree on what is a nonterminal, except for names that start with a
capital Roman numeral. A bare name stands for a nonterminal where it is mentioned if and only if a
line with the name before an arrow, whose nonterminal is not defined yet and whose right-hand side
can be read, is read as the rule that defines it; this holds of a name exactly if it does not start
with a capital Roman numeral. A name that does is mentioned as a nonterminal, and the line is
refused. -/
theorem symbol_agrees_readLine_iff (bare : IsBare name.toList) (g : Grammar)
    (built : loading.grammar.Built) (front : IsRuleLine name rhs line) {file : Option String}
    {number : Nat}
    (taken : loading.take (⟨file, some number⟩, .head name) = .ok opened)
    (current : opened.current = some lhs)
    (readable : readAlternatives ⟨file, some number⟩ opened lhs rhs = .ok next) :
    (((∃ id h, g.symbol name = (.ok (.nonterminal id), h)) ↔
        ∃ next lhs, readLine file loading (line, number) = .ok next ∧ next.current = some lhs ∧
          next.grammar.Defines name lhs) ↔
      name.toList.head?.any isCapitalNumeral = false) ∧
    (name.toList.head?.any isCapitalNumeral = true →
      (∃ id h, g.symbol name = (.ok (.nonterminal id), h)) ∧
        readLine file loading (line, number) =
          .error ⟨.expectedRule (Text.trimmed (String.ofList (beforeComment none line.toList))),
            ⟨file, some number⟩⟩) := by
  obtain ⟨c, rest, shape⟩ := List.exists_cons_of_ne_nil bare.nonempty
  have named : isNameChar c = true := bare.each c (by rw [shape]; exact List.mem_cons_self)
  have first : ∀ holds : Char → Bool, name.toList.head?.any holds = holds c := by
    intro holds
    rw [shape, List.head?_cons, Option.any_some]
  rw [exists_symbol_eq_nonterminal_iff g bare.nonempty, first, first,
    isUppercase_eq_of_isNameChar named]
  by_cases head : isHeadChar c = true
  · have plain : isCapitalNumeral c = false := by
      refine Bool.eq_false_iff.2 fun numeral => ?_
      rw [isHeadChar_of_isCapitalNumeral numeral] at head
      cases head
    have starts : IsHead name.toList := ⟨by rw [first]; exact head, bare.each⟩
    have read := front.readLine_eq_ok starts built taken current readable
    rw [head, plain]
    exact ⟨⟨fun _ => rfl, fun _ => ⟨fun _ => ⟨_, _, read⟩, fun _ => rfl⟩⟩, by simp⟩
  · have other : isHeadChar c = false := Bool.eq_false_iff.2 head
    have read := front.readLine_eq_error bare (by rw [first]; exact other) loading file number
    have unread : ¬ ∃ next lhs, readLine file loading (line, number) = .ok next ∧
        next.current = some lhs ∧ next.grammar.Defines name lhs := by
      rintro ⟨next, lhs, ok, -⟩
      rw [read] at ok
      cases ok
    rw [other, Bool.false_or]
    refine ⟨⟨fun agree => ?_, fun plain => ?_⟩, fun numeral => ⟨numeral, read⟩⟩
    · exact Bool.eq_false_iff.2 fun numeral => unread (agree.1 numeral)
    · rw [plain]
      exact ⟨fun numeral => absurd numeral Bool.false_ne_true, fun found => absurd found unread⟩

/-- A rule for `VP` is read, and `VP` is a nonterminal where it is mentioned. -/
theorem symbol_agrees_readLine_VP :
    IsBare "VP".toList ∧ IsRuleLine "VP" " so".toList " VP -> so # intransitive" ∧
      (readAlternatives ⟨none, some 1⟩ ⟨(Grammar.empty.defineAt "VP" ⟨none, some 1⟩).2, some 0⟩ 0
        " so".toList).isOk = true ∧
      ((∃ id h, Grammar.empty.symbol "VP" = (.ok (.nonterminal id), h)) ↔
        ∃ next lhs, readLine none Loading.start (" VP -> so # intransitive", 1) = .ok next ∧
          next.current = some lhs ∧ next.grammar.Defines "VP" lhs) := by
  have bare : IsBare "VP".toList := ⟨by decide, List.all_eq_true.1 (by decide +kernel)⟩
  have front : IsRuleLine "VP" " so".toList " VP -> so # intransitive" :=
    ⟨[' '], [' '], " so # intransitive".toList, by decide, by decide, by decide, by decide⟩
  have succeeds : (readAlternatives ⟨none, some 1⟩
      ⟨(Grammar.empty.defineAt "VP" ⟨none, some 1⟩).2, some 0⟩ 0 " so".toList).isOk = true := by
    decide +kernel
  have taken : Loading.start.take (⟨none, some 1⟩, .head "VP") =
      .ok ⟨(Grammar.empty.defineAt "VP" ⟨none, some 1⟩).2, some 0⟩ := by with_unfolding_all rfl
  obtain ⟨next, readable⟩ := exists_eq_ok succeeds
  exact ⟨bare, front, succeeds,
    (symbol_agrees_readLine_iff bare Grammar.empty ⟨[], rfl⟩ front taken rfl readable).1.2
      (by decide)⟩

/-- The capital Roman numeral eight is a nonterminal where it is mentioned, but no rule can start
with it. -/
theorem symbol_disagrees_readLine_numeral :
    IsBare ['Ⅷ'] ∧ (∃ id h, Grammar.empty.symbol "Ⅷ" = (.ok (.nonterminal id), h)) ∧
      readLine none Loading.start ("Ⅷ -> a", 1) =
        .error ⟨.expectedRule "Ⅷ -> a", ⟨none, some 1⟩⟩ := by
  have bare : IsBare "Ⅷ".toList := ⟨by decide, List.all_eq_true.1 (by decide +kernel)⟩
  have mentioned := exists_symbol_eq_nonterminal_iff Grammar.empty bare.nonempty
  have front : IsRuleLine "Ⅷ" " a".toList "Ⅷ -> a" :=
    ⟨[], [' '], " a".toList, by decide, by decide, by decide, by decide⟩
  have refused := front.readLine_eq_error bare (by decide +kernel) Loading.start none 1
  have content : Text.trimmed (String.ofList (beforeComment none "Ⅷ -> a".toList)) = "Ⅷ -> a" := by
    decide
  rw [content] at refused
  exact ⟨bare, mentioned.2 (by decide +kernel), refused⟩

end Notation

end ChartParser
