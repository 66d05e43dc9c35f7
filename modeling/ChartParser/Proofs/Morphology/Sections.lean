import ChartParser.Morphology.LexiconSource
import ChartParser.Proofs.Morphology.Additions
import ChartParser.Proofs.Notation.Lexing

/-!
# Lexicons read from text

A line of a lexicon is blank, opens a section or is an entry of the section that is open. What each
of these adds is said by a relation on the lines (`Adds`), and what can be wrong with a line by
another (`Faulty`); between them they leave nothing out. Reading follows the first as far as it goes
and stops at the first line of the second with its number (`ofSource_eq_ok_iff`,
`ofSource_eq_error_iff`), so that a lexicon that has been read holds what its entries say and no
more.
-/

namespace ChartParser

/-! ## White space around a text -/

namespace Text

variable {cs : List Char}

/-- Around a trimmed text there was white space only. -/
theorem exists_eq_append_trim (cs : List Char) :
    ∃ before after, cs = before ++ (trim cs ++ after) ∧ IsSpace before ∧ IsSpace after := by
  have front : IsSpace (cs.takeWhile isWhiteSpace) := List.all_eq_true.1 List.all_takeWhile
  have back : IsSpace ((trimStart cs).reverse.takeWhile isWhiteSpace).reverse :=
    fun c inside => List.all_eq_true.1 List.all_takeWhile c (List.mem_reverse.1 inside)
  refine ⟨_, _, ?_, front, back⟩
  rw [trim, trimEnd, ← List.reverse_append, List.takeWhile_append_dropWhile, List.reverse_reverse,
    trimStart, List.takeWhile_append_dropWhile]

/-- What is left of a text when it is trimmed is not all white space. -/
theorem exists_visible_of_trim_ne_nil (nonempty : trim cs ≠ []) :
    ∃ c ∈ trim cs, isWhiteSpace c = false := by
  have some : (trimStart cs).reverse.dropWhile isWhiteSpace ≠ [] :=
    fun none => nonempty (by rw [trim, trimEnd, none]; rfl)
  exact ⟨_, List.mem_reverse.2 (List.head_mem some), List.head_dropWhile_not isWhiteSpace some⟩

/-- A sequence that is cut everywhere into empty pieces is made of cuts. -/
theorem cut_of_splitBy_eq_nil {α : Type} {cut : α → Bool} {cs : List α}
    (empty : ∀ piece ∈ splitBy cut cs, piece = []) : ∀ c ∈ cs, cut c = true := by
  induction cs with
  | nil => simp
  | cons c rest ih =>
    rw [splitBy] at empty
    split at empty
    · rename_i cuts
      exact List.forall_mem_cons.2 ⟨cuts, ih (List.forall_mem_cons.1 empty).2⟩
    · split at empty <;> simp at empty

/-- A text with something visible has a word. -/
theorem words_ne_nil {c : Char} (inside : c ∈ cs) (visible : isWhiteSpace c = false) :
    words (String.ofList cs) ≠ [] := by
  intro none
  rw [words, String.toList_ofList, List.map_eq_nil_iff, List.filter_eq_nil_iff] at none
  have white :=
    cut_of_splitBy_eq_nil (fun piece listed => by simpa using none piece listed) c inside
  rw [visible] at white
  cases white

end Text

/-! ## Names of cases and sections -/

namespace Case

/-- The name of a case is read as the case. -/
theorem ofName_name (case : Case) : ofName case.name = .ok case := by
  rw [ofName, ofName?_eq_some_iff.2 rfl]

/-- What is no name of a case is reported. -/
theorem ofName_of_ne {text : String} (unknown : ∀ case : Case, text ≠ case.name) :
    ofName text = .error (.unknownCase text) := by
  have none : ofName? text = none := by
    cases found : ofName? text with
    | none => rfl
    | some case => exact absurd (ofName?_eq_some_iff.1 found) (unknown case)
  rw [ofName, none]

/-- Names of cases are read as the cases. -/
theorem mapM_ofName_map_name (cases : List Case) :
    (cases.map name).mapM ofName = .ok cases := by
  induction cases with
  | nil => rfl
  | cons case cases ih =>
    rw [List.map_cons, List.mapM_cons, ofName_name, ih]
    rfl

/-- The first name that is none of a case is reported. -/
theorem mapM_ofName_of_ne (known : List Case) {unknown : String}
    (other : ∀ case : Case, unknown ≠ case.name) (rest : List String) :
    (known.map name ++ unknown :: rest).mapM ofName = .error (.unknownCase unknown) := by
  induction known with
  | nil =>
    rw [List.map_nil, List.nil_append, List.mapM_cons, ofName_of_ne other]
    rfl
  | cons case known ih =>
    rw [List.map_cons, List.cons_append, List.mapM_cons, ofName_name, ih]
    rfl

/-- Texts are names of cases, up to the first that is none. -/
theorem names_or_unknown (texts : List String) :
    (∃ cases : List Case, texts = cases.map name) ∨
      ∃ (known : List Case) (unknown : String) (rest : List String),
        texts = known.map name ++ unknown :: rest ∧ ∀ case : Case, unknown ≠ case.name := by
  induction texts with
  | nil => exact Or.inl ⟨[], rfl⟩
  | cons text texts ih =>
    by_cases named : ∃ case : Case, text = case.name
    · obtain ⟨case, rfl⟩ := named
      rcases ih with ⟨cases, rfl⟩ | ⟨known, unknown, rest, rfl, other⟩
      · exact Or.inl ⟨case :: cases, rfl⟩
      · exact Or.inr ⟨case :: known, unknown, rest, rfl, other⟩
    · exact Or.inr ⟨[], text, texts, rfl, fun case same => named ⟨case, same⟩⟩

end Case

namespace LexiconSection

/-- The section as headers write it. -/
def name : LexiconSection → String
  | verbs => "verbs"
  | subjects => "subjects"
  | prepositions => "prepositions"

/-- Only the name of a section stands for it. -/
theorem ofName?_eq_some_iff {text : String} {part : LexiconSection} :
    ofName? text = some part ↔ text = part.name := by
  constructor
  · intro found
    unfold ofName? at found
    split at found <;> simp at found <;> subst found <;> rfl
  · rintro rfl
    cases part <;> rfl

/-- What an entry of this word with these cases adds, if the section admits it. -/
inductive Admits : LexiconSection → String → List Case → Lexicon.Addition → Prop
  | verb {word : String} {objects : List Case} (few : objects.length ≤ 2) :
      Admits verbs word objects (.verb word objects)
  | subject {word : String} {case : Case} : Admits subjects word [case] (.subject word case)
  | preposition {word : String} {cases : List Case} (some : cases ≠ []) :
      Admits prepositions word cases (.preposition word cases)

end LexiconSection

namespace Lexicon

open Text (IsSpace)

variable {lexicon : Lexicon} {part next last : Option LexiconSection} {content : List Char}
  {contents : List (List Char)} {additions : List Addition} {fault : Fault} {name word : String}
  {caseNames : List String}

/-! ## Lines of a lexicon -/

/-- The content of a line is a header with this name: small ASCII letters in brackets, with white
space allowed around them. -/
def IsHeader (content : List Char) (name : String) : Prop :=
  ∃ before after, content = '[' :: (before ++ (name.toList ++ after) ++ [']']) ∧
    IsSpace before ∧ IsSpace after ∧ name.toList ≠ [] ∧ ∀ c ∈ name.toList, 'a' ≤ c ∧ c ≤ 'z'

/-- The content of a line is an entry: it has a first word, with others behind it, and is no header.
-/
def IsEntry (content : List Char) (word : String) (caseNames : List String) : Prop :=
  (∀ name, ¬ IsHeader content name) ∧ Text.words (String.ofList content) = word :: caseNames

/-- What a line with this content adds below the header of a section, and the section that is open
behind it. -/
inductive Adds : Option LexiconSection → List Char → List Addition → Option LexiconSection → Prop
  | blank {part : Option LexiconSection} : Adds part [] [] part
  | header {part : Option LexiconSection} {content : List Char} {opened : LexiconSection}
      (header : IsHeader content opened.name) : Adds part content [] (some opened)
  | entry {opened : LexiconSection} {content : List Char} {word : String} {cases : List Case}
      {addition : Addition} (entry : IsEntry content word (cases.map Case.name))
      (admits : opened.Admits word cases addition) :
      Adds (some opened) content [addition] (some opened)

/-- What the lines with these contents add, one after the other. -/
inductive Lists :
    Option LexiconSection → List (List Char) → List Addition → Option LexiconSection → Prop
  | nil {part : Option LexiconSection} : Lists part [] [] part
  | cons {part next last : Option LexiconSection} {content : List Char}
      {contents : List (List Char)} {additions others : List Addition}
      (first : Adds part content additions next) (rest : Lists next contents others last) :
      Lists part (content :: contents) (additions ++ others) last

/-- What is wrong with a line with this content below the header of a section: an entry before all
headers, a header with the name of no section, an unknown case, a verb with more than two objects, a
subject without exactly one case, or a preposition without a case. -/
inductive Faulty : Option LexiconSection → List Char → Fault → Prop
  | outside {content : List Char} {word : String} {caseNames : List String}
      (entry : IsEntry content word caseNames) : Faulty none content .entryOutsideSection
  | header {part : Option LexiconSection} {content : List Char} {name : String}
      (header : IsHeader content name) (unknown : ∀ part : LexiconSection, name ≠ part.name) :
      Faulty part content (.unknownSection name)
  | case {opened : LexiconSection} {content : List Char} {word unknown : String}
      {known : List Case} {rest : List String}
      (entry : IsEntry content word (known.map Case.name ++ unknown :: rest))
      (other : ∀ case : Case, unknown ≠ case.name) :
      Faulty (some opened) content (.unknownCase unknown)
  | objects {content : List Char} {word : String} {cases : List Case}
      (entry : IsEntry content word (cases.map Case.name)) (many : 2 < cases.length) :
      Faulty (some .verbs) content (.tooManyObjects word cases.length 2)
  | subject {content : List Char} {word : String} {cases : List Case}
      (entry : IsEntry content word (cases.map Case.name)) (number : cases.length ≠ 1) :
      Faulty (some .subjects) content (.subjectCaseCount word)
  | preposition {content : List Char} {word : String} (entry : IsEntry content word []) :
      Faulty (some .prepositions) content (.prepositionWithoutCase word)

/-- The contents of the lines of a text. -/
def lineContents (source : String) : List (List Char) := (Text.lines source).map lineContent

/-! ## Headers -/

/-- A letter of a section name is not white space. -/
theorem isWhiteSpace_of_isSectionLetter {c : Char} (lower : 'a' ≤ c) (upper : c ≤ 'z') :
    Text.isWhiteSpace c = false := by
  have letter : Text.rangesContain [⟨0x61, 0x7A⟩] c.toNat = true := by
    have above : 0x61 ≤ c.toNat := lower
    have below : c.toNat ≤ 0x7A := upper
    simp only [Text.rangesContain]
    rw [if_neg (by omega), if_pos below]
  exact Text.rangesContain_eq_false_of_apart (by decide) letter

/-- The name of a header is found, and nothing else is read as one. -/
theorem headerName?_eq_some_iff : headerName? content = some name ↔ IsHeader content name := by
  constructor
  · intro found
    unfold headerName? at found
    split at found
    · rename_i rest
      split at found
      · rename_i closes
        dsimp only at found
        split at found
        · rename_i named
          obtain rfl := Option.some.inj found
          simp only [Bool.and_eq_true, Bool.not_eq_true', List.isEmpty_eq_false_iff,
            List.all_eq_true] at named
          obtain ⟨nonempty, letters⟩ := named
          obtain ⟨inner, rfl⟩ := List.getLast?_eq_some_iff.1 closes
          rw [List.dropLast_concat] at nonempty letters ⊢
          obtain ⟨before, after, whole, space, spaceToo⟩ := Text.exists_eq_append_trim inner
          refine ⟨before, after, ?_, space, spaceToo, ?_, ?_⟩
          · rw [String.toList_ofList, ← whole]
          · rwa [String.toList_ofList]
          · rw [String.toList_ofList]
            intro c inside
            simpa [isSectionLetter] using letters c inside
        · simp at found
      · simp at found
    · simp at found
  · rintro ⟨before, after, rfl, space, spaceToo, nonempty, letters⟩
    have visible : ∀ c ∈ name.toList, Text.isWhiteSpace c = false := fun c inside =>
      isWhiteSpace_of_isSectionLetter (letters c inside).1 (letters c inside).2
    have trimmed : Text.trim (before ++ (name.toList ++ after)) = name.toList :=
      Text.trim_between (List.head?_eq_some_head nonempty) (visible _ (List.head_mem nonempty))
        (List.getLast?_eq_some_getLast nonempty) (visible _ (List.getLast_mem nonempty)) space
        spaceToo
    have small : name.toList.all isSectionLetter = true :=
      List.all_eq_true.2 fun c inside => by simpa [isSectionLetter] using letters c inside
    have some : (!name.toList.isEmpty) = true := by simpa using nonempty
    rw [headerName?]
    dsimp only
    rw [List.getLast?_concat, if_pos rfl, List.dropLast_concat, trimmed, some, small]
    exact congrArg Option.some String.ofList_toList

/-- What is no header is not read as one. -/
theorem headerName?_eq_none (other : ∀ name, ¬ IsHeader content name) :
    headerName? content = none :=
  Option.eq_none_iff_forall_ne_some.2 fun name found => other name (headerName?_eq_some_iff.1 found)

/-! ## What one line does -/

/-- An entry that the section admits is added. -/
theorem addEntry_of_admits {opened : LexiconSection} {cases : List Case} {addition : Addition}
    (admits : opened.Admits word cases addition) (lexicon : Lexicon) :
    lexicon.addEntry opened word (cases.map Case.name) = .ok (lexicon.take addition) := by
  unfold addEntry
  rw [Case.mapM_ofName_map_name]
  cases admits with
  | verb few =>
    show (lexicon.addVerb word cases).1.map _ = _
    rw [addVerb_of_le few]
    rfl
  | subject => rfl
  | preposition some => exact if_neg (by simpa using some)

/-- A line with content is read as a header or as an entry of the section that is open. -/
theorem readContent_of_isHeader (header : IsHeader content name) (reading : Reading) :
    reading.readContent content =
      match LexiconSection.ofName? name with
      | some opened => .ok { reading with part := some opened }
      | none => .error (.unknownSection name) := by
  have found := headerName?_eq_some_iff.2 header
  obtain ⟨_, _, rfl, -⟩ := header
  rw [Reading.readContent, found]
  rfl

/-- An entry is added to the section that is open, if one is. -/
theorem readContent_of_isEntry (entry : IsEntry content word caseNames) (reading : Reading) :
    reading.readContent content =
      match reading.part with
      | none => .error .entryOutsideSection
      | some opened => (reading.lexicon.addEntry opened word caseNames).map
          fun lexicon => { reading with lexicon } := by
  obtain ⟨other, worded⟩ := entry
  have nonempty : content ≠ [] := by
    rintro rfl
    cases worded
  rw [Reading.readContent, if_neg (by simpa using nonempty), headerName?_eq_none other, worded]
  cases reading.part <;> rfl

/-- A line that is not faulty is read as what it adds. -/
theorem Adds.readContent (adds : Adds part content additions next) (lexicon : Lexicon) :
    Reading.readContent ⟨lexicon, part⟩ content = .ok ⟨additions.foldl take lexicon, next⟩ := by
  cases adds with
  | blank => rfl
  | header header =>
    rw [readContent_of_isHeader header, LexiconSection.ofName?_eq_some_iff.2 rfl]
    rfl
  | entry entry admits =>
    rw [readContent_of_isEntry entry]
    dsimp only
    rw [addEntry_of_admits admits]
    rfl

/-- A faulty line is reported with its fault. -/
theorem Faulty.readContent (faulty : Faulty part content fault) (lexicon : Lexicon) :
    Reading.readContent ⟨lexicon, part⟩ content = .error fault := by
  cases faulty with
  | outside entry => rw [readContent_of_isEntry entry]
  | @header _ _ name header unknown =>
    have none : LexiconSection.ofName? name = none := by
      refine Option.eq_none_iff_forall_ne_some.2 fun part found => ?_
      exact unknown part (LexiconSection.ofName?_eq_some_iff.1 found)
    rw [readContent_of_isHeader header, none]
  | case entry other =>
    rw [readContent_of_isEntry entry]
    unfold addEntry
    dsimp only
    rw [Case.mapM_ofName_of_ne _ other]
    rfl
  | objects entry many =>
    rw [readContent_of_isEntry entry]
    unfold addEntry
    dsimp only
    rw [Case.mapM_ofName_map_name]
    show Except.map _ ((lexicon.addVerb _ _).1.map _) = _
    rw [addVerb_of_lt many]
    rfl
  | @subject _ _ cases entry number =>
    rw [readContent_of_isEntry entry]
    unfold addEntry
    dsimp only
    rw [Case.mapM_ofName_map_name]
    match cases, number with
    | [], _ => rfl
    | _ :: _ :: _, _ => rfl
  | preposition entry =>
    rw [readContent_of_isEntry entry]
    rfl

/-- An entry is admitted by the section that is open or it is faulty. -/
theorem adds_or_faulty_of_isEntry (entry : IsEntry content word caseNames)
    (part : Option LexiconSection) :
    (∃ additions next, Adds part content additions next) ∨ ∃ fault, Faulty part content fault := by
  cases part with
  | none => exact Or.inr ⟨_, .outside entry⟩
  | some opened =>
    rcases Case.names_or_unknown caseNames with ⟨cases, rfl⟩ | ⟨known, unknown, rest, rfl, other⟩
    · cases opened with
      | verbs =>
        by_cases few : cases.length ≤ 2
        · exact Or.inl ⟨_, _, .entry entry (.verb few)⟩
        · exact Or.inr ⟨_, .objects entry (Nat.not_le.1 few)⟩
      | subjects =>
        by_cases single : cases.length = 1
        · obtain ⟨case, rfl⟩ := List.length_eq_one_iff.1 single
          exact Or.inl ⟨_, _, .entry entry .subject⟩
        · exact Or.inr ⟨_, .subject entry single⟩
      | prepositions =>
        by_cases none : cases = []
        · subst none
          exact Or.inr ⟨_, .preposition entry⟩
        · exact Or.inl ⟨_, _, .entry entry (.preposition none)⟩
    · exact Or.inr ⟨_, .case entry other⟩

/-- A line is blank, opens a section or adds something, or else it is faulty. -/
theorem adds_or_faulty (part : Option LexiconSection) (line : String) :
    (∃ additions next, Adds part (lineContent line) additions next) ∨
      ∃ fault, Faulty part (lineContent line) fault := by
  by_cases blank : lineContent line = []
  · rw [blank]
    exact Or.inl ⟨_, _, .blank⟩
  by_cases header : ∃ name, IsHeader (lineContent line) name
  · obtain ⟨name, header⟩ := header
    by_cases known : ∃ opened : LexiconSection, name = opened.name
    · obtain ⟨opened, rfl⟩ := known
      exact Or.inl ⟨_, _, .header header⟩
    · exact Or.inr ⟨_, .header header fun opened same => known ⟨opened, same⟩⟩
  · obtain ⟨c, inside, visible⟩ := Text.exists_visible_of_trim_ne_nil blank
    obtain ⟨word, caseNames, worded⟩ :=
      List.exists_cons_of_ne_nil (Text.words_ne_nil inside visible)
    exact adds_or_faulty_of_isEntry ⟨fun name found => header ⟨name, found⟩, worded⟩ part

/-! ## What a text does -/

variable {lines : List String} {number : Nat}

/-- Lines that are not faulty are read as what they add. -/
theorem foldlM_readLine_of_lists (listed : Lists part (lines.map lineContent) additions last)
    (lexicon : Lexicon) (number : Nat) :
    (lines.zipIdx number).foldlM Reading.readLine ⟨lexicon, part⟩ =
      .ok ⟨additions.foldl take lexicon, last⟩ := by
  induction lines generalizing part additions lexicon number with
  | nil =>
    cases listed
    rfl
  | cons line lines ih =>
    cases listed with
    | cons first rest =>
      rw [List.zipIdx_cons, List.foldlM_cons, Reading.readLine]
      dsimp only
      rw [first.readContent, List.foldl_append]
      exact ih rest _ _

/-- The lines up to the first faulty one. -/
theorem lists_or_faulty (part : Option LexiconSection) (lines : List String) :
    (∃ additions last, Lists part (lines.map lineContent) additions last) ∨
      ∃ before line after additions next fault, lines = before ++ line :: after ∧
        Lists part (before.map lineContent) additions next ∧
        Faulty next (lineContent line) fault := by
  induction lines generalizing part with
  | nil => exact Or.inl ⟨_, _, .nil⟩
  | cons line lines ih =>
    rcases adds_or_faulty part line with ⟨additions, next, first⟩ | ⟨fault, faulty⟩
    · rcases ih next with ⟨others, last, rest⟩ | ⟨before, other, after, others, last, fault, rfl,
        rest, faulty⟩
      · exact Or.inl ⟨_, _, .cons first rest⟩
      · exact Or.inr ⟨line :: before, other, after, _, _, _, rfl, .cons first rest, faulty⟩
    · exact Or.inr ⟨[], line, lines, [], part, fault, rfl, .nil, faulty⟩

/-- A text is read as what its lines add. -/
theorem ofSource_of_lists {source : String}
    (listed : Lists none (lineContents source) additions last) :
    ofSource source = .ok (ofAdditions additions) := by
  rw [ofSource, Text.numberedLines, Reading.start, foldlM_readLine_of_lists listed]
  rfl

/-- A text with a faulty line behind others that are not is refused with the number of that line. -/
theorem ofSource_of_faulty {source line : String} {before after : List String}
    (shape : Text.lines source = before ++ line :: after)
    (listed : Lists none (before.map lineContent) additions next)
    (faulty : Faulty next (lineContent line) fault) :
    ofSource source = .error ⟨fault, .ofLine (before.length + 1)⟩ := by
  have stopped : Reading.readLine ⟨additions.foldl take empty, next⟩ (line, 1 + before.length) =
      .error ⟨fault, .ofLine (1 + before.length)⟩ := by
    rw [Reading.readLine]
    dsimp only
    rw [faulty.readContent]
  rw [ofSource, Text.numberedLines, shape, List.zipIdx_append, List.foldlM_append, Reading.start,
    foldlM_readLine_of_lists listed, List.zipIdx_cons, Nat.add_comm before.length]
  dsimp only [bind, Except.bind]
  rw [List.foldlM_cons, stopped]
  rfl

/-- A text is read if none of its lines is faulty, and then as what its lines add. -/
theorem ofSource_eq_ok_iff {source : String} :
    ofSource source = .ok lexicon ↔
      ∃ additions last, Lists none (lineContents source) additions last ∧
        lexicon = ofAdditions additions := by
  constructor
  · intro read
    rcases lists_or_faulty none (Text.lines source) with ⟨additions, last, listed⟩ |
      ⟨before, line, after, additions, next, fault, shape, listed, faulty⟩
    · rw [ofSource_of_lists listed] at read
      exact ⟨additions, last, listed, (Except.ok.inj read).symm⟩
    · rw [ofSource_of_faulty shape listed faulty] at read
      cases read
  · rintro ⟨additions, last, listed, rfl⟩
    exact ofSource_of_lists listed

/-- A text is refused for its first faulty line, with the number of that line. -/
theorem ofSource_eq_error_iff {source : String} {error : GrammarError} :
    ofSource source = .error error ↔
      ∃ before line after additions part, Text.lines source = before ++ line :: after ∧
        Lists none (before.map lineContent) additions part ∧
        Faulty part (lineContent line) error.fault ∧
        error.place = .ofLine (before.length + 1) := by
  constructor
  · intro refused
    rcases lists_or_faulty none (Text.lines source) with ⟨additions, last, listed⟩ |
      ⟨before, line, after, additions, next, fault, shape, listed, faulty⟩
    · rw [ofSource_of_lists listed] at refused
      cases refused
    · rw [ofSource_of_faulty shape listed faulty] at refused
      obtain rfl := Except.error.inj refused
      exact ⟨before, line, after, additions, next, shape, listed, faulty, rfl⟩
  · rintro ⟨before, line, after, additions, part, shape, listed, faulty, place⟩
    rw [ofSource_of_faulty shape listed faulty, ← place]

/-- A line is not faulty exactly if it is blank, opens a section or adds something. -/
theorem exists_adds_iff (part : Option LexiconSection) (line : String) :
    (∃ additions next, Adds part (lineContent line) additions next) ↔
      ∀ fault, ¬ Faulty part (lineContent line) fault := by
  constructor
  · rintro ⟨additions, next, adds⟩ fault faulty
    have read := adds.readContent empty
    rw [faulty.readContent] at read
    cases read
  · intro sound
    rcases adds_or_faulty part line with adds | ⟨fault, faulty⟩
    · exact adds
    · exact absurd faulty (sound fault)

/-- A lexicon holds exactly what was entered in it, whether by additions or as a text. It answers by
its additions; a verb with more than two objects is refused and changes nothing. A text is read as
the additions of its entries, in their order, or it is refused with the number of its first faulty
line and what is wrong with it; every line that is not faulty is blank, a header or an entry that
its section admits. -/
theorem holds_entered (additions : List Addition) (lexicon : Lexicon) (headword : String)
    (objects : List Case) (source : String) :
    (ofAdditions additions).Holds additions ∧
      (2 < objects.length →
        lexicon.addVerb headword objects =
          (.error (.tooManyObjects headword objects.length 2), lexicon)) ∧
      (ofSource source = .ok lexicon ↔
        ∃ entries last, Lists none (lineContents source) entries last ∧
          lexicon = ofAdditions entries) ∧
      (∀ error, ofSource source = .error error ↔
        ∃ before line after entries part, Text.lines source = before ++ line :: after ∧
          Lists none (before.map lineContent) entries part ∧
          Faulty part (lineContent line) error.fault ∧
          error.place = .ofLine (before.length + 1)) ∧
      ∀ part line, (∃ entries next, Adds part (lineContent line) entries next) ↔
        ∀ fault, ¬ Faulty part (lineContent line) fault := by
  exact ⟨holds_ofAdditions additions, addVerb_of_lt, ofSource_eq_ok_iff,
    fun error => ofSource_eq_error_iff, exists_adds_iff⟩

/-- A verb with three objects is refused, and so is a text with such an entry in its second line. -/
theorem holds_entered_gefa :
    2 < [Case.dative, .accusative, .dative].length ∧
      empty.addVerb "gefa" [.dative, .accusative, .dative] =
        (.error (.tooManyObjects "gefa" 3 2), empty) ∧
      ofSource "[ verbs ]\ngefa þgf þf þgf # never" =
        .error ⟨.tooManyObjects "gefa" 3 2, .ofLine 2⟩ := by
  obtain ⟨-, refused, -, error, -⟩ := holds_entered [] empty "gefa"
    [.dative, .accusative, .dative] "[ verbs ]\ngefa þgf þf þgf # never"
  have header : IsHeader (lineContent "[ verbs ]") "verbs" := headerName?_eq_some_iff.1 (by decide)
  have entry : IsEntry (lineContent "gefa þgf þf þgf # never") "gefa"
      ([Case.dative, .accusative, .dative].map Case.name) := by
    have none : headerName? (lineContent "gefa þgf þf þgf # never") = none := by decide
    refine ⟨fun name found => ?_, by decide⟩
    rw [headerName?_eq_some_iff.2 found] at none
    cases none
  refine ⟨by decide, refused (by decide), (error _).2 ⟨["[ verbs ]"], "gefa þgf þf þgf # never",
    [], [], some .verbs, by decide, .cons (@Adds.header none _ .verbs header) .nil,
    .objects entry (by decide), rfl⟩⟩

end Lexicon

end ChartParser
