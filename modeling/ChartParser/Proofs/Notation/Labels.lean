import ChartParser.Proofs.Grammar.Symbols
import ChartParser.Proofs.Notation.Lexing
import ChartParser.Proofs.Notation.Loading
import ChartParser.Proofs.Notation.Statements

/-!
# Names of symbols in a grammar that has been read

Reading a text gives a symbol the name under which it is written, quotes included, and puts the sign
of repetition behind the name of a nonterminal that repeats a symbol. Such a label may contain
spaces and brackets, but only between quotes. It therefore shows where it ends, if a space or a
closing bracket follows (`IsLabel.append_inj`). It stands in one line, because no symbol is written
over two (`Grammar.legible_of_ofSource`).
-/

namespace ChartParser

namespace Notation

/-- The name of a symbol: a written symbol, or one with a sign of repetition behind it. -/
inductive IsLabel : List Char → Prop
  | plain {name : List Char} (written : IsWritten name) : IsLabel name
  | repeated {name : List Char} (written : IsWritten name) (repetition : Repetition) :
      IsLabel (name ++ [repetition.sign])

/-- A bracket does not stand in a name. -/
theorem isNameChar_of_mem_brackets : ∀ c ∈ ['(', ')'], isNameChar c = false := by
  have none : (['(', ')'].all fun c => !isNameChar c) = true := by decide +kernel
  simpa using none

/-- The text goes on with a space or a closing bracket. -/
def Stops (rest : List Char) : Prop := ∃ c ∈ rest.head?, c = ' ' ∨ c = ')'

variable {name other rest more : List Char}

/-- A space stops a label. -/
theorem stops_space : Stops (' ' :: rest) := ⟨' ', rfl, Or.inl rfl⟩

/-- A closing bracket stops a label. -/
theorem stops_bracket : Stops (')' :: rest) := ⟨')', rfl, Or.inr rfl⟩

/-- What stops a label is not part of a name. -/
theorem Stops.takeWhile_eq (stops : Stops rest) : rest.takeWhile isNameChar = [] := by
  obtain ⟨c, first, same⟩ := stops
  obtain ⟨more, rfl⟩ := List.head?_eq_some_iff.1 first
  have outside : isNameChar c = false := by
    rcases same with rfl | rfl
    · exact isNameChar_of_isWhiteSpace (by decide)
    · exact isNameChar_of_mem_brackets _ (by decide)
  exact List.takeWhile_cons_of_neg (Bool.eq_false_iff.1 outside)

/-- A sign of repetition does not stop a label. -/
theorem not_stops_sign (repetition : Repetition) : ¬ Stops (repetition.sign :: rest) := by
  rintro ⟨c, first, same⟩
  obtain rfl := Option.some.inj first
  cases repetition <;> simp [Repetition.sign] at same

/-- A sign of repetition is not part of a name. -/
theorem takeWhile_sign (repetition : Repetition) :
    (repetition.sign :: rest).takeWhile isNameChar = [] := by
  have mark : repetition.sign ∈ marks := by cases repetition <;> decide
  exact List.takeWhile_cons_of_neg (Bool.eq_false_iff.1 (isNameChar_of_mem_marks _ mark))

namespace IsWritten

/-- A written symbol shows where it ends, unless the text goes on with a name. -/
theorem append_inj (written : IsWritten name) (writtenToo : IsWritten other)
    (stops : rest.takeWhile isNameChar = []) (stopsToo : more.takeWhile isNameChar = [])
    (same : name ++ rest = other ++ more) : name = other ∧ rest = more := by
  have front := front_append written stops
  rw [same, front_append writtenToo stopsToo] at front
  obtain ⟨rfl, rfl⟩ := Prod.mk.inj (Option.some.inj front)
  exact ⟨rfl, rfl⟩

/-- A written symbol does not begin with a bracket. -/
theorem ne_bracket_cons (written : IsWritten name) : name ++ rest ≠ '(' :: more := by
  intro same
  cases written with
  | bare nonempty each =>
    obtain ⟨c, left, rfl⟩ := List.exists_cons_of_ne_nil nonempty
    obtain ⟨rfl, -⟩ := List.cons.inj same
    have unnamed := isNameChar_of_mem_brackets '(' (by decide)
    rw [each '(' List.mem_cons_self] at unnamed
    cases unnamed
  | quoted opens _ _ =>
    obtain ⟨rfl, -⟩ := List.cons.inj same
    exact absurd opens (by decide)

end IsWritten

namespace IsLabel

/-- A label does not begin with a bracket. -/
theorem ne_bracket_cons (label : IsLabel name) : name ++ rest ≠ '(' :: more := by
  cases label with
  | plain written => exact written.ne_bracket_cons
  | repeated written _ =>
    rw [List.append_assoc]
    exact written.ne_bracket_cons

/-- A label shows where it ends, if something follows that stops it. -/
theorem append_inj (label : IsLabel name) (labelToo : IsLabel other) (stops : Stops rest)
    (stopsToo : Stops more) (same : name ++ rest = other ++ more) : name = other ∧ rest = more := by
  cases label with
  | plain written =>
    cases labelToo with
    | plain writtenToo =>
      exact written.append_inj writtenToo stops.takeWhile_eq stopsToo.takeWhile_eq same
    | repeated writtenToo repetition =>
      rw [List.append_assoc, List.singleton_append] at same
      obtain ⟨-, rfl⟩ :=
        written.append_inj writtenToo stops.takeWhile_eq (takeWhile_sign repetition) same
      exact absurd stops (not_stops_sign repetition)
  | repeated written repetition =>
    rw [List.append_assoc, List.singleton_append] at same
    cases labelToo with
    | plain writtenToo =>
      obtain ⟨-, rfl⟩ :=
        written.append_inj writtenToo (takeWhile_sign repetition) stopsToo.takeWhile_eq same
      exact absurd stopsToo (not_stops_sign repetition)
    | repeated writtenToo repetitionToo =>
      rw [List.append_assoc, List.singleton_append] at same
      obtain ⟨rfl, rests⟩ := written.append_inj writtenToo (takeWhile_sign repetition)
        (takeWhile_sign repetitionToo) same
      obtain ⟨sign, rfl⟩ := List.cons.inj rests
      exact ⟨by rw [sign], rfl⟩

end IsLabel

end Notation

/-! ## Grammars whose symbols are labelled -/

open Notation

namespace Grammar

variable {g h : Grammar} {place : Location}

/-- Every symbol of the grammar has a label for its name. -/
def Labelled (g : Grammar) : Prop := g.EachNamed fun _ name => IsLabel name.toList

/-- Every symbol of the grammar has a label in one line for its name. -/
def Legible (g : Grammar) : Prop :=
  g.EachNamed fun _ name => IsLabel name.toList ∧ '\n' ∉ name.toList

namespace Legible

/-- The names of such a grammar are labels. -/
theorem labelled (legible : g.Legible) : g.Labelled := legible.imp fun _ _ => And.left

/-- An empty grammar has no symbols. -/
theorem empty : Grammar.empty.Legible := by
  intro symbol name named
  cases symbol <;> simp [symbolName?, Grammar.empty] at named

/-- The nonterminal that repeats a symbol written in one line has a label in one line. -/
theorem repeated (legible : g.Legible) {name : String} (written : IsWritten name.toList)
    (whole : '\n' ∉ name.toList) {repetition : Repetition} {id : NonterminalId}
    (entered : Notation.repeated place g name repetition = .ok (id, h)) : h.Legible := by
  rcases repeated_eq_ok entered with ⟨-, rfl⟩ | ⟨-, _, _, _, _, _, based, -, first, second⟩
  · exact legible
  · have label : IsLabel (repeatedName name repetition).toList ∧
        '\n' ∉ (repeatedName name repetition).toList := by
      rw [repeatedName, String.toList_push]
      refine ⟨.repeated written repetition, fun feed => ?_⟩
      rcases List.mem_append.1 feed with inside | sign
      · exact whole inside
      · cases repetition <;> simp [Repetition.sign] at sign
    have defined := (legible.symbol based fun _ _ => ⟨.plain written, whole⟩).defineAt
      (fun _ => label) place
    exact (defined.addProduction first).addProduction second

/-- A symbol written in one line is entered under a label in one line. -/
theorem resolveWritten (legible : g.Legible) {written : WrittenSymbol} {symbol : Symbol}
    (proper : IsWritten written.name.toList ∧ '\n' ∉ written.name.toList)
    (resolved : Notation.resolveWritten place g written = .ok (symbol, h)) : h.Legible := by
  rcases resolveWritten_eq_ok resolved with ⟨-, entered⟩ | ⟨_, _, -, entered, -⟩
  · exact legible.symbol entered fun _ _ => ⟨.plain proper.1, proper.2⟩
  · exact legible.repeated proper.1 proper.2 entered

/-- Symbols written in one line are entered under labels in one line. -/
theorem resolveAll (legible : g.Legible) {written : List WrittenSymbol} {symbols : List Symbol}
    (proper : ∀ symbol ∈ written, IsWritten symbol.name.toList ∧ '\n' ∉ symbol.name.toList)
    (resolved : Notation.resolveAll place g written = .ok (symbols, h)) : h.Legible := by
  induction written generalizing g symbols with
  | nil =>
    obtain ⟨-, rfl⟩ := Prod.mk.inj (Except.ok.inj resolved)
    exact legible
  | cons first rest ih =>
    obtain ⟨_, _, _, entered, later, -⟩ := resolveAll_cons_eq_ok resolved
    obtain ⟨properFirst, properRest⟩ := List.forall_mem_cons.1 proper
    exact ih (legible.resolveWritten properFirst entered) properRest later

/-- An alternative enters its symbols under labels in one line. -/
theorem addAlternative (legible : g.Legible) {lhs : NonterminalId}
    {alternative : List WrittenSymbol}
    (proper : ∀ symbol ∈ alternative, IsWritten symbol.name.toList ∧ '\n' ∉ symbol.name.toList)
    (added : Notation.addAlternative place lhs g alternative = .ok h) : h.Legible := by
  obtain ⟨symbols, middle, rule, resolved, accepted⟩ := addAlternative_eq_ok.1 added
  refine EachNamed.addProduction ?_ accepted
  rw [resolveAlternative] at resolved
  split at resolved
  · obtain ⟨-, rfl⟩ := Prod.mk.inj (Except.ok.inj resolved)
    exact legible
  · exact legible.resolveAll proper resolved

/-- A statement that is proper enters labels in one line only. -/
theorem take {loading next : Loading} {made : Location × Statement}
    (legible : loading.grammar.Legible) (proper : made.2.Proper)
    (taken : loading.take made = .ok next) : next.grammar.Legible := by
  obtain ⟨place, name | symbols⟩ := made
  · obtain ⟨-, rfl⟩ := take_head_eq_ok taken
    exact legible.defineAt (fun _ => ⟨.plain (IsHead.isWritten proper), IsHead.whole proper⟩) place
  · obtain ⟨lhs, -, -, added⟩ := take_alternative_eq_ok taken
    exact legible.addAlternative proper.2 added

/-- Statements that are proper enter labels in one line only. -/
theorem run {loading last : Loading} {made : List (Location × Statement)}
    (legible : loading.grammar.Legible)
    (proper : ∀ statement ∈ made.map Prod.snd, statement.Proper)
    (taken : made.foldlM Loading.take loading = .ok last) : last.grammar.Legible := by
  induction made generalizing loading with
  | nil =>
    obtain rfl := Except.ok.inj taken
    exact legible
  | cons first rest ih =>
    rw [List.foldlM_cons, bind_eq_ok] at taken
    obtain ⟨next, here, later⟩ := taken
    rw [List.map_cons, List.forall_mem_cons] at proper
    exact ih (legible.take proper.1 here) proper.2 later

end Legible

/-- Every symbol of a grammar that has been read has a label in one line for its name. -/
theorem legible_of_ofSource {file : Option String} {source : String}
    (read : ofSource file source = .ok g) : g.Legible := by
  obtain ⟨unchecked, -⟩ := ofSource_eq_ok_iff.1 read
  obtain ⟨made, current, same, taken⟩ := ofSourceUnchecked_eq_ok unchecked
  refine Legible.run .empty ?_ taken
  rw [same]
  exact fun statement inside => proper_of_mem_stated inside

/-- Every symbol of a grammar that has been read has a label for its name. -/
theorem labelled_of_ofSource {file : Option String} {source : String}
    (read : ofSource file source = .ok g) : g.Labelled := (legible_of_ofSource read).labelled

end Grammar

end ChartParser
