import ChartParser.Proofs.Morphology.Sections
import ChartParser.Proofs.Text.Lines

/-!
# Mistyped headers

A header names a section in small ASCII letters. What else stands in brackets is an entry, and its
words decide what becomes of it. With white space between the brackets the last word ends in a
bracket, which no name of a case does, so that every section refuses it; without white space it is a
single word, which is a verb without objects below the header for verbs and a fault everywhere else
(`faulty_or_swallowed`). A header with the name of no section is therefore refused except for those
that are such a word and stand among the verbs (`ofSource_refuses_mistyped_iff`).
-/

namespace ChartParser

/-! ## Words that end in a bracket -/

namespace Text

variable {α : Type} {cut : α → Bool} {c : α}

/-- The last piece goes on to the end if the last element is no cut. -/
theorem exists_splitBy_concat (uncut : cut c = false) (cs : List α) :
    ∃ pieces piece, splitBy cut (cs ++ [c]) = pieces ++ [piece ++ [c]] := by
  induction cs with
  | nil => exact ⟨[], [], by rw [List.nil_append, splitBy, uncut]; rfl⟩
  | cons d cs ih =>
    obtain ⟨pieces, piece, shape⟩ := ih
    rw [List.cons_append, splitBy, shape]
    by_cases cuts : cut d = true
    · exact ⟨[] :: pieces, piece, by rw [if_pos cuts]; rfl⟩
    · rw [if_neg cuts]
      cases pieces with
      | nil => exact ⟨[], d :: piece, rfl⟩
      | cons first pieces => exact ⟨(d :: first) :: pieces, piece, rfl⟩

/-- The words on the two sides of a white space are the words of the whole. -/
theorem words_append {space : Char} (white : isWhiteSpace space = true) (before after : List Char) :
    words (String.ofList (before ++ space :: after)) =
      words (String.ofList before) ++ words (String.ofList after) := by
  simp only [words, String.toList_ofList]
  rw [splitBy_append before white, List.filter_append, List.map_append]

/-- A text that ends with something visible has a last word, which ends the same. -/
theorem exists_words_concat {c : Char} (visible : isWhiteSpace c = false) (cs : List Char) :
    ∃ before last, words (String.ofList (cs ++ [c])) = before ++ [String.ofList (last ++ [c])] := by
  obtain ⟨pieces, piece, shape⟩ := exists_splitBy_concat visible cs
  have kept : [piece ++ [c]].filter (!·.isEmpty) = [piece ++ [c]] := by simp
  refine ⟨(pieces.filter (!·.isEmpty)).map String.ofList, piece, ?_⟩
  rw [words, String.toList_ofList, shape, List.filter_append, kept, List.map_append,
    List.map_singleton]

/-- A text without white space is its only word. -/
theorem words_of_visible {cs : List Char} (nonempty : cs ≠ [])
    (visible : ∀ c ∈ cs, isWhiteSpace c = false) :
    words (String.ofList cs) = [String.ofList cs] := by
  have kept : [cs].filter (!·.isEmpty) = [cs] := by simpa using nonempty
  rw [words, String.toList_ofList, splitBy_of_forall visible, kept, List.map_singleton]

end Text

/-- No name of a case ends in a bracket. -/
theorem Case.name_ne_bracketed (case : Case) (last : List Char) :
    String.ofList (last ++ [']']) ≠ case.name := by
  intro same
  have ends : case.name.toList.getLast? = some ']' := by
    rw [← same, String.toList_ofList, List.getLast?_concat]
  revert ends
  cases case <;> decide

/-- White space of which nothing is white space is empty. -/
theorem Text.eq_nil_of_isSpace {cs : List Char} (space : IsSpace cs)
    (visible : ∀ c ∈ cs, isWhiteSpace c = false) : cs = [] := by
  refine List.eq_nil_iff_forall_not_mem.2 fun c inside => ?_
  have white := space c inside
  rw [visible c inside] at white
  cases white

namespace Lexicon

open Text (IsSpace eq_nil_of_isSpace)

variable {part next last : Option LexiconSection} {content inner : List Char}
  {contents others : List (List Char)} {additions : List Addition} {fault : Fault}

/-! ## Lines in brackets -/

/-- A line with this content has these characters in brackets, and trimmed they are not the name of
a section. -/
structure Mistyped (content inner : List Char) : Prop where
  bracketed : content = '[' :: (inner ++ [']'])
  unknown : ∀ part : LexiconSection, Text.trim inner ≠ part.name.toList

/-- Between the brackets is neither white space nor a name as headers have it. -/
structure IsSingleWord (inner : List Char) : Prop where
  visible : ∀ c ∈ inner, Text.isWhiteSpace c = false
  unnamed : inner ≠ [] → ∃ c ∈ inner, ¬ ('a' ≤ c ∧ c ≤ 'z')

namespace Mistyped

/-- What a header has between its brackets. -/
theorem eq_of_isHeader (mistyped : Mistyped content inner) {name : String}
    (header : IsHeader content name) :
    ∃ before after, inner = before ++ (name.toList ++ after) ∧ IsSpace before ∧ IsSpace after ∧
      Text.trim inner = name.toList ∧ name.toList ≠ [] ∧ ∀ c ∈ name.toList, 'a' ≤ c ∧ c ≤ 'z' := by
  obtain ⟨before, after, whole, space, spaceToo, nonempty, letters⟩ := header
  have same : inner = before ++ (name.toList ++ after) :=
    List.append_cancel_right (List.cons.inj (mistyped.bracketed.symm.trans whole)).2
  have visible : ∀ c ∈ name.toList, Text.isWhiteSpace c = false := fun c inside =>
    isWhiteSpace_of_isSectionLetter (letters c inside).1 (letters c inside).2
  refine ⟨before, after, same, space, spaceToo, ?_, nonempty, letters⟩
  rw [same]
  exact Text.trim_between (List.head?_eq_some_head nonempty) (visible _ (List.head_mem nonempty))
    (List.getLast?_eq_some_getLast nonempty) (visible _ (List.getLast_mem nonempty)) space spaceToo

/-- If it is a header, then its name is reported as unknown. -/
theorem faulty_of_isHeader (mistyped : Mistyped content inner) {name : String}
    (header : IsHeader content name) (part : Option LexiconSection) :
    Faulty part content (.unknownSection name) := by
  refine .header header ?_
  rintro opened rfl
  obtain ⟨-, -, -, -, -, trimmed, -⟩ := mistyped.eq_of_isHeader header
  exact mistyped.unknown opened trimmed

/-- A single word in brackets is no header. -/
theorem not_isHeader (mistyped : Mistyped content inner) (single : IsSingleWord inner)
    (name : String) : ¬ IsHeader content name := by
  intro header
  obtain ⟨before, after, same, space, spaceToo, -, nonempty, letters⟩ :=
    mistyped.eq_of_isHeader header
  have visible := single.visible
  rw [same] at visible
  obtain ⟨front, visible⟩ := List.forall_mem_append.1 visible
  have none : before = [] := eq_nil_of_isSpace space front
  have noneToo : after = [] := eq_nil_of_isSpace spaceToo (List.forall_mem_append.1 visible).2
  subst none noneToo
  rw [List.nil_append, List.append_nil] at same
  rw [← same] at nonempty letters
  obtain ⟨c, inside, other⟩ := single.unnamed nonempty
  exact other (letters c inside)

/-- A single word in brackets is an entry without cases. -/
theorem isEntry_of_isSingleWord (mistyped : Mistyped content inner) (single : IsSingleWord inner) :
    IsEntry content (String.ofList content) [] := by
  have visible : ∀ c ∈ content, Text.isWhiteSpace c = false := by
    rw [mistyped.bracketed]
    refine List.forall_mem_cons.2 ⟨by decide, List.forall_mem_append.2 ⟨single.visible, ?_⟩⟩
    exact List.forall_mem_singleton.2 (by decide)
  have nonempty : content ≠ [] := by
    rw [mistyped.bracketed]
    exact List.cons_ne_nil _ _
  exact ⟨mistyped.not_isHeader single, Text.words_of_visible nonempty visible⟩

/-- With white space between the brackets there are several words, and the last ends in a bracket.
-/
theorem exists_words (mistyped : Mistyped content inner) {space : Char} (inside : space ∈ inner)
    (white : Text.isWhiteSpace space = true) :
    ∃ word caseNames last, Text.words (String.ofList content) =
      word :: (caseNames ++ [String.ofList (last ++ [']'])]) := by
  obtain ⟨before, after, rfl⟩ := List.append_of_mem inside
  have whole : content = ('[' :: before) ++ space :: (after ++ [']']) := by
    rw [mistyped.bracketed]
    simp
  have some : Text.words (String.ofList ('[' :: before)) ≠ [] :=
    Text.words_ne_nil List.mem_cons_self (by decide)
  obtain ⟨word, more, front⟩ := List.exists_cons_of_ne_nil some
  obtain ⟨middle, last, back⟩ := Text.exists_words_concat (c := ']') (by decide) after
  refine ⟨word, more ++ middle, last, ?_⟩
  rw [whole, Text.words_append white, front, back, List.cons_append, List.append_assoc]

/-- An entry with white space between the brackets is refused by every section: its last word is
not the name of a case. -/
theorem faulty_of_spaced (mistyped : Mistyped content inner)
    (other : ∀ name, ¬ IsHeader content name) {space : Char} (inside : space ∈ inner)
    (white : Text.isWhiteSpace space = true) (part : Option LexiconSection) :
    ∃ fault, Faulty part content fault := by
  obtain ⟨word, caseNames, last, worded⟩ := mistyped.exists_words inside white
  have entry : IsEntry content word (caseNames ++ [String.ofList (last ++ [']'])]) :=
    ⟨other, worded⟩
  cases part with
  | none => exact ⟨_, .outside entry⟩
  | some opened =>
    rcases Case.names_or_unknown (caseNames ++ [String.ofList (last ++ [']'])]) with
      ⟨cases, named⟩ | ⟨known, unknown, rest, shape, unnamed⟩
    · have listed : String.ofList (last ++ [']']) ∈ cases.map Case.name := by
        rw [← named]
        exact List.mem_append_right _ List.mem_cons_self
      obtain ⟨case, -, same⟩ := List.mem_map.1 listed
      exact absurd same.symm (case.name_ne_bracketed last)
    · rw [shape] at entry
      exact ⟨_, .case entry unnamed⟩

/-- A line in brackets that names no section is faulty, but for a single word among the verbs, which
is a verb without objects. -/
theorem faulty_or_swallowed (mistyped : Mistyped content inner) (part : Option LexiconSection) :
    (∃ fault, Faulty part content fault) ∨ part = some .verbs ∧ IsSingleWord inner := by
  by_cases named : ∃ name, IsHeader content name
  · obtain ⟨name, header⟩ := named
    exact Or.inl ⟨_, mistyped.faulty_of_isHeader header part⟩
  have other : ∀ name, ¬ IsHeader content name := fun name header => named ⟨name, header⟩
  by_cases visible : ∀ c ∈ inner, Text.isWhiteSpace c = false
  · have single : IsSingleWord inner := by
      refine ⟨visible, fun nonempty => ?_⟩
      by_contra letters
      push Not at letters
      refine other (String.ofList inner) ⟨[], [], ?_, by decide, by decide, ?_, ?_⟩
      · rw [mistyped.bracketed, String.toList_ofList, List.nil_append, List.append_nil]
      · rwa [String.toList_ofList]
      · rwa [String.toList_ofList]
    have entry := mistyped.isEntry_of_isSingleWord single
    match part with
    | none => exact Or.inl ⟨_, .outside entry⟩
    | some .verbs => exact Or.inr ⟨rfl, single⟩
    | some .subjects => exact Or.inl ⟨_, @Faulty.subject _ _ [] entry (by decide)⟩
    | some .prepositions => exact Or.inl ⟨_, .preposition entry⟩
  · push Not at visible
    obtain ⟨space, inside, white⟩ := visible
    exact Or.inl (mistyped.faulty_of_spaced other inside (by simpa using white) part)

/-- A single word in brackets that stands among the verbs is taken for one of them. -/
theorem adds (mistyped : Mistyped content inner) (single : IsSingleWord inner) :
    Adds (some .verbs) content [.verb (String.ofList content) []] (some .verbs) :=
  @Adds.entry _ _ _ [] _ (mistyped.isEntry_of_isSingleWord single) (.verb (by decide))

end Mistyped

/-! ## Lines one after the other -/

/-- Lines that are not faulty are not faulty as far as any of them. -/
theorem Lists.exists_split (listed : Lists part (contents ++ others) additions last) :
    ∃ first next rest, Lists part contents first next ∧ Lists next others rest last := by
  induction contents generalizing part additions with
  | nil => exact ⟨_, _, _, .nil, listed⟩
  | cons content contents ih =>
    cases listed with
    | cons adds rest =>
      obtain ⟨first, next, later, front, back⟩ := ih rest
      exact ⟨_, next, later, .cons adds front, back⟩

/-- The section that is open behind some lines is determined by them. -/
theorem Lists.part_unique {lines : List String} {more : List Addition}
    (listed : Lists part (lines.map lineContent) additions next)
    (listedToo : Lists part (lines.map lineContent) more last) : next = last := by
  have read := foldlM_readLine_of_lists listed empty 0
  rw [foldlM_readLine_of_lists listedToo] at read
  exact (Reading.mk.inj (Except.ok.inj read)).2.symm

/-- A line that adds something may follow lines that do. -/
theorem Lists.concat {more : List Addition} (listed : Lists part contents additions next)
    (adds : Adds next content more last) :
    Lists part (contents ++ [content]) (additions ++ more) last := by
  induction listed with
  | nil =>
    rw [List.nil_append, List.nil_append, ← List.append_nil more]
    exact .cons adds .nil
  | cons first _ ih =>
    rw [List.cons_append, List.append_assoc]
    exact .cons first (ih adds)

/-- Nothing is reported up to a line that adds something, and stands behind lines that do. -/
theorem lt_of_adds {source line : String} {before after : List String} {error : GrammarError}
    {number : Nat} {more : List Addition} (shape : Text.lines source = before ++ line :: after)
    (listed : Lists none (before.map lineContent) additions part)
    (adds : Adds part (lineContent line) more next) (refused : ofSource source = .error error)
    (placed : error.place.line = some number) : before.length + 1 < number := by
  obtain ⟨front, other, back, entries, opened, cut, listedToo, faulty, place⟩ :=
    ofSource_eq_error_iff.1 refused
  have counted : front.length + 1 = number := by
    rw [place] at placed
    exact Option.some.inj placed
  by_contra early
  have begins : front ++ [other] <+: Text.lines source := ⟨back, by rw [cut]; simp⟩
  have beginsToo : before ++ [line] <+: Text.lines source := ⟨after, by rw [shape]; simp⟩
  have shorter : (front ++ [other]).length ≤ (before ++ [line]).length := by
    rw [List.length_append, List.length_append, List.length_singleton, List.length_singleton]
    omega
  obtain ⟨rest, reach⟩ := List.prefix_of_prefix_length_le begins beginsToo shorter
  -- so the faulty line is among those that have added something
  have whole : (before.map lineContent) ++ [lineContent line] =
      front.map lineContent ++ lineContent other :: rest.map lineContent := by
    have mapped := congrArg (List.map lineContent) reach
    simpa using mapped.symm
  have long := listed.concat adds
  rw [whole] at long
  obtain ⟨first, middle, later, upTo, onwards⟩ := long.exists_split
  obtain rfl := upTo.part_unique listedToo
  cases onwards with
  | cons here _ => exact (exists_adds_iff middle other).1 ⟨_, _, here⟩ _ faulty

/-- A line in brackets that names no section, whatever stands there and around it, is reported, or
a line before it is, with one exception: if the lines before it leave the section for verbs open and
what stands between the brackets has no white space and is not one or more small ASCII letters, then
the line with its brackets is entered as a verb without objects, and nothing up to it is
reported. -/
theorem ofSource_refuses_mistyped_iff {source line : String} {before after : List String}
    (shape : Text.lines source = before ++ line :: after)
    (mistyped : Mistyped (lineContent line) inner) :
    ((∃ error number, ofSource source = .error error ∧ error.place.line = some number ∧
        number ≤ before.length + 1) ↔
      ¬ ((∃ additions, Lists none (before.map lineContent) additions (some .verbs)) ∧
        IsSingleWord inner)) ∧
      (IsSingleWord inner → Adds (some .verbs) (lineContent line)
        [.verb (String.ofList (lineContent line)) []] (some .verbs)) := by
  refine ⟨⟨?_, fun exempt => ?_⟩, mistyped.adds⟩
  · rintro ⟨error, number, refused, placed, early⟩ ⟨⟨additions, listed⟩, single⟩
    have late := lt_of_adds shape listed (mistyped.adds single) refused placed
    omega
  · rcases lists_or_faulty none before with ⟨additions, part, listed⟩ |
      ⟨front, other, back, additions, part, fault, rfl, listed, faulty⟩
    · rcases mistyped.faulty_or_swallowed part with ⟨fault, faulty⟩ | ⟨rfl, single⟩
      · exact ⟨_, _, ofSource_of_faulty shape listed faulty, rfl, Nat.le_refl _⟩
      · exact absurd ⟨⟨additions, listed⟩, single⟩ exempt
    · rw [List.append_assoc, List.cons_append] at shape
      refine ⟨_, _, ofSource_of_faulty shape listed faulty, rfl, ?_⟩
      rw [List.length_append]
      omega

/-- With white space between the brackets the line is reported even among the verbs. -/
theorem ofSource_refuses_mistyped_spaced :
    Text.lines "[verbs]\n[ Verbs ]" = ["[verbs]"] ++ "[ Verbs ]" :: [] ∧
      Mistyped (lineContent "[ Verbs ]") [' ', 'V', 'e', 'r', 'b', 's', ' '] ∧
      ∃ error number, ofSource "[verbs]\n[ Verbs ]" = .error error ∧
        error.place.line = some number ∧ number ≤ ["[verbs]"].length + 1 := by
  have shape : Text.lines "[verbs]\n[ Verbs ]" = ["[verbs]"] ++ "[ Verbs ]" :: [] := by decide
  have mistyped : Mistyped (lineContent "[ Verbs ]") [' ', 'V', 'e', 'r', 'b', 's', ' '] :=
    ⟨by decide, fun part => by cases part <;> decide⟩
  refine ⟨shape, mistyped, (ofSource_refuses_mistyped_iff shape mistyped).1.2 ?_⟩
  rintro ⟨-, single⟩
  exact absurd (single.visible ' ' List.mem_cons_self) (by decide)

/-- A header with a capital letter is entered as a verb if it stands among the verbs, and the text
is accepted. -/
theorem ofSource_swallows_capital_header :
    Text.lines "[verbs]\n[Verbs]\n" = ["[verbs]"] ++ "[Verbs]" :: [] ∧
      Mistyped (lineContent "[Verbs]") ['V', 'e', 'r', 'b', 's'] ∧
      ofSource "[verbs]\n[Verbs]\n" = .ok ⟨#v[[("[Verbs]", [[]])], [], []], [], []⟩ := by
  refine ⟨by decide, ⟨by decide, fun part => by cases part <;> decide⟩, by decide⟩

end Lexicon

end ChartParser
