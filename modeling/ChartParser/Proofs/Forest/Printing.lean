import ChartParser.Forest.Printer
import ChartParser.Proofs.Forest.Cycles
import ChartParser.Proofs.Text.Lines

/-!
# Printed forests

Printing a forest is a walk that remembers the nodes on its way, and prints a line of its own kind
where it comes back to one of them. The text of a node exists, consists of whole lines, and shows
such a line exactly if the walk comes back (`Licensed.exists_nodeText`). No other line can be taken
for one as long as names have no line feeds, because every other line has a character that a cycle
line has not.
-/

namespace ChartParser

namespace Forest

/-! ## Lines that show a cycle -/

/-- The line is `(cycle)` after its indentation. -/
def IsCycleLine (line : String) : Prop :=
  line.toList.dropWhile (· == ' ') = "(cycle)".toList

instance (line : String) : Decidable (IsCycleLine line) :=
  inferInstanceAs (Decidable (line.toList.dropWhile (· == ' ') = "(cycle)".toList))

/-- A line with a character that neither an indentation nor `(cycle)` has shows no cycle. -/
theorem not_isCycleLine {line : List Char} {c : Char} (inside : c ∈ line)
    (strange : c ∉ '\r' :: ' ' :: "(cycle)".toList) :
    ¬ IsCycleLine (String.ofList (Text.dropReturn line)) := by
  intro cycle
  obtain ⟨noReturn, noSpace, notThere⟩ : c ≠ '\r' ∧ c ≠ ' ' ∧ c ∉ "(cycle)".toList := by
    simpa only [List.mem_cons, not_or] using strange
  have kept : c ∈ Text.dropReturn line := by
    rw [Text.dropReturn]
    split
    · rename_i last
      rw [← List.dropLast_append_getLast? '\r' last] at inside
      rcases List.mem_append.1 inside with before | only
      · exact before
      · exact absurd (List.mem_singleton.1 only) noReturn
    · exact inside
  rw [IsCycleLine, String.toList_ofList] at cycle
  rw [← List.takeWhile_append_dropWhile (p := (· == ' ')) (l := Text.dropReturn line), cycle]
    at kept
  rcases List.mem_append.1 kept with space | after
  · have isSpace : (c == ' ') = true := List.all_eq_true.1 List.all_takeWhile c space
    exact noSpace (eq_of_beq isSpace)
  · exact notThere after

/-- The text consists of whole lines, and one of them shows a cycle exactly if the proposition
holds. -/
def Shows (text : String) (cyclic : Prop) : Prop :=
  ∃ lines, Text.Consists text lines ∧
    ((∃ line ∈ lines, IsCycleLine (String.ofList (Text.dropReturn line))) ↔ cyclic)

namespace Shows

variable {text other : String} {cyclic cyclicToo : Prop}

/-- What a text shows may be put in other words. -/
theorem congr (shows : Shows text cyclic) (same : cyclic ↔ cyclicToo) : Shows text cyclicToo := by
  obtain ⟨lines, consists, shown⟩ := shows
  exact ⟨lines, consists, shown.trans same⟩

/-- The text without lines shows no cycle. -/
theorem nil : Shows "" False := ⟨[], .nil, by simp⟩

/-- Two texts behind each other show what either shows. -/
theorem append (before : Shows text cyclic) (after : Shows other cyclicToo) :
    Shows (text ++ other) (cyclic ∨ cyclicToo) := by
  obtain ⟨lines, consists, shown⟩ := before
  obtain ⟨others, consistsToo, shownToo⟩ := after
  refine ⟨lines ++ others, consists.append consistsToo, ?_⟩
  rw [← shown, ← shownToo]
  simp only [List.mem_append, or_and_right, exists_or]

/-- An indented line without line feeds shows a cycle exactly if it is a cycle line. -/
theorem line {indent : Nat} (whole : '\n' ∉ text.toList) :
    Shows (indentedLine indent text) (IsCycleLine (String.ofList
      (Text.dropReturn (List.replicate indent ' ' ++ text.toList)))) := by
  have shape : (String.ofList (List.replicate indent ' ') ++ text).toList =
      List.replicate indent ' ' ++ text.toList := by simp
  have feedless : '\n' ∉ (String.ofList (List.replicate indent ' ') ++ text).toList := by
    rw [shape]
    intro inside
    rcases List.mem_append.1 inside with space | inText
    · exact absurd (List.eq_of_mem_replicate space) (by decide)
    · exact whole inText
  refine ⟨_, .single feedless, ?_⟩
  rw [shape]
  simp only [List.mem_singleton, exists_eq_left]

/-- A line with a character that a cycle line has not shows none. -/
theorem plain {indent : Nat} {c : Char} (whole : '\n' ∉ text.toList) (inside : c ∈ text.toList)
    (strange : c ∉ '\r' :: ' ' :: "(cycle)".toList) : Shows (indentedLine indent text) False := by
  refine (Shows.line whole).congr (iff_false_intro ?_)
  exact not_isCycleLine (List.mem_append_right _ inside) strange

/-- The line for a cycle shows one. -/
theorem cycle {indent : Nat} : Shows (indentedLine indent "(cycle)") True := by
  refine (Shows.line (by decide)).congr (iff_true_intro ?_)
  have kept : Text.dropReturn (List.replicate indent ' ' ++ "(cycle)".toList) =
      List.replicate indent ' ' ++ "(cycle)".toList := by
    rw [Text.dropReturn, if_neg]
    simp
  rw [kept, IsCycleLine, String.toList_ofList, List.dropWhile_append_of_pos]
  · rfl
  · intro c inside
    rw [List.eq_of_mem_replicate inside]
    rfl

/-- Texts for all elements, one behind the other, show what any of them shows. -/
theorem exists_mapM {α : Type} {printed : α → Option String} {cyclic : α → Prop}
    {elements : List α}
    (each : ∀ element ∈ elements,
      ∃ text, printed element = some text ∧ Shows text (cyclic element)) :
    ∃ texts, elements.mapM printed = some texts ∧
      Shows (String.join texts) (∃ element ∈ elements, cyclic element) := by
  induction elements with
  | nil => exact ⟨[], rfl, Shows.nil.congr (by simp)⟩
  | cons element elements ih =>
    obtain ⟨here, later⟩ := List.forall_mem_cons.1 each
    obtain ⟨text, same, shows⟩ := here
    obtain ⟨texts, rest, showsRest⟩ := ih later
    refine ⟨text :: texts, ?_, ?_⟩
    · rw [List.mapM_cons, same, rest]
      rfl
    · rw [String.join_cons]
      exact (shows.append showsRest).congr (by simp)

end Shows

/-! ## Families -/

variable {below : Nat → NodeId → Option String} {cyclic : NodeId → Prop}

/-- Decimal numbers have no line feeds. -/
theorem lineFeed_notMem_toString (number : Nat) : '\n' ∉ (toString number).toList := by
  intro inside
  rw [Nat.toString_eq_repr, Nat.toList_repr] at inside
  have digit := Nat.isDigit_of_mem_toDigits (by decide) (by decide) inside
  exact absurd digit (by decide)

/-- The line of a node shows no cycle if its name has no line feeds. -/
theorem shows_heading (indent : Nat) (span : Span) {name : String} (whole : '\n' ∉ name.toList) :
    Shows (indentedLine indent
      (name ++ " " ++ toString span.start ++ ".." ++ toString span.stop)) False := by
  have inStart := lineFeed_notMem_toString span.start
  have inStop := lineFeed_notMem_toString span.stop
  have unbroken : '\n' ∉
      (name ++ " " ++ toString span.start ++ ".." ++ toString span.stop).toList := by
    simpa using And.intro whole (And.intro inStart inStop)
  exact .plain (c := '.') unbroken (by simp) (by decide)

/-- The text of a family exists and shows what its children show. -/
theorem exists_familyText (indent : Nat) (family : Family)
    (each : ∀ child ∈ family.children.toList, ∀ indent,
      ∃ text, below indent child = some text ∧ Shows text (cyclic child)) :
    ∃ text, familyText below indent family = some text ∧
      Shows text (∃ child ∈ family.children.toList, cyclic child) := by
  rw [familyText]
  cases children : family.children with
  | empty =>
    have shows : Shows (indentedLine indent "(empty)") False :=
      .plain (c := 'm') (by decide) (by decide) (by decide)
    exact ⟨_, rfl, shows.congr (by simp [Children.toList])⟩
  | one child =>
    obtain ⟨text, same, shows⟩ := each child (by simp [children, Children.toList]) indent
    exact ⟨text, same, shows.congr (by simp [Children.toList])⟩
  | two left right =>
    obtain ⟨before, first, showsBefore⟩ := each left (by simp [children, Children.toList]) indent
    obtain ⟨after, second, showsAfter⟩ := each right (by simp [children, Children.toList]) indent
    refine ⟨before ++ after, ?_, (showsBefore.append showsAfter).congr (by simp [Children.toList])⟩
    simp only [first, second, bind, Option.bind, pure]

/-- The text of a numbered family exists and shows what its children show. -/
theorem exists_optionText (indent : Nat) (family : Family) (number : Nat)
    (each : ∀ child ∈ family.children.toList, ∀ indent,
      ∃ text, below indent child = some text ∧ Shows text (cyclic child)) :
    ∃ text, (do
        let text ← familyText below (indent + 2) family
        return indentedLine indent ("Option " ++ toString number ++ ":") ++ text) = some text ∧
      Shows text (∃ child ∈ family.children.toList, cyclic child) := by
  obtain ⟨text, same, shows⟩ := exists_familyText (indent + 2) family each
  have whole : '\n' ∉ ("Option " ++ toString number ++ ":").toList := by
    simpa using lineFeed_notMem_toString number
  have heading : Shows (indentedLine indent ("Option " ++ toString number ++ ":")) False :=
    .plain (c := ':') whole (by simp) (by decide)
  refine ⟨_, ?_, (heading.append shows).congr (iff_of_eq (false_or _))⟩
  simp only [same, bind, Option.bind, pure]

/-- The text of the families of a node exists and shows what their children show. -/
theorem exists_familiesText (indent : Nat) (families : List Family)
    (each : ∀ family ∈ families, ∀ child ∈ family.children.toList, ∀ indent,
      ∃ text, below indent child = some text ∧ Shows text (cyclic child)) :
    ∃ text, familiesText below indent families = some text ∧
      Shows text (∃ family ∈ families, ∃ child ∈ family.children.toList, cyclic child) := by
  match families with
  | [] => exact ⟨"", rfl, Shows.nil.congr (by simp)⟩
  | [family] =>
    obtain ⟨text, same, shows⟩ := exists_familyText indent family (each family (by simp))
    exact ⟨text, same, shows.congr (by simp)⟩
  | first :: second :: rest =>
    obtain ⟨texts, same, shows⟩ := Shows.exists_mapM fun option inside =>
      exists_optionText indent option.1 option.2
        (each option.1 (List.fst_mem_of_mem_zipIdx (k := 1) inside))
    refine ⟨String.join texts, ?_, shows.congr ?_⟩
    · show (List.mapM (fun option : Family × Nat => do
          let text ← familyText below (indent + 2) option.1
          return indentedLine indent ("Option " ++ toString option.2 ++ ":") ++ text)
        ((first :: second :: rest).zipIdx 1)).bind (fun texts => some (String.join texts)) = _
      rw [same]
      rfl
    · constructor
      · rintro ⟨option, inside, shown⟩
        exact ⟨option.1, List.fst_mem_of_mem_zipIdx inside, shown⟩
      · rintro ⟨family, has, shown⟩
        rw [← List.zipIdx_map_fst 1 (first :: second :: rest)] at has
        obtain ⟨option, inside, rfl⟩ := List.mem_map.1 has
        exact ⟨option, inside, shown⟩

end Forest

/-! ## Nodes -/

/-- No name of a nonterminal or a terminal has a line feed. -/
def Grammar.NamesUnbroken (g : Grammar) : Prop :=
  (∀ nonterminal ∈ g.nonterminals, '\n' ∉ nonterminal.name.toList) ∧
    ∀ terminal ∈ g.terminals, '\n' ∉ terminal.name.toList

instance (g : Grammar) : Decidable g.NamesUnbroken :=
  inferInstanceAs (Decidable ((∀ nonterminal ∈ g.nonterminals, '\n' ∉ nonterminal.name.toList) ∧
    ∀ terminal ∈ g.terminals, '\n' ∉ terminal.name.toList))

/-- The name of a symbol has no line feed if no name has one. -/
theorem Grammar.NamesUnbroken.notMem {g : Grammar} (unbroken : g.NamesUnbroken) {symbol : Symbol}
    {name : String} (named : g.symbolName? symbol = some name) : '\n' ∉ name.toList := by
  cases symbol with
  | terminal id =>
    obtain ⟨terminal, found, rfl⟩ := Option.map_eq_some_iff.1 named
    exact unbroken.2 terminal (Array.mem_of_getElem? found)
  | nonterminal id =>
    obtain ⟨nonterminal, found, rfl⟩ := Option.map_eq_some_iff.1 named
    exact unbroken.1 nonterminal (Array.mem_of_getElem? found)

/-- A label that stands for a whole symbol which has been entered is printed as the name of that
symbol. -/
theorem Label.exists_text {g : Grammar} {label : Label}
    (named : ∀ symbol ∈ label.symbols g, g.knows symbol = true)
    (whole : ∀ lhs production dot, label ≠ .progress lhs production dot) :
    ∃ symbol name, label.text? g = some name ∧ g.symbolName? symbol = some name := by
  cases label with
  | progress lhs production dot => exact absurd rfl (whole lhs production dot)
  | nonterminal id =>
    have known := named (.nonterminal id) (by simp [symbols])
    have name := Grammar.symbolName?_eq_some known
    exact ⟨.nonterminal id, _, name, name⟩
  | token terminal index =>
    have known := named (.terminal terminal) (by simp [symbols])
    have name := Grammar.symbolName?_eq_some known
    exact ⟨.terminal terminal, _, name, name⟩

namespace Arena

variable {g : Grammar} {fits : Nat → TerminalId → Bool} {arena : Arena} {stop depth : Nat}
  {path : List NodeId} {id : NodeId}

/-- A walk that has not met the node comes back exactly if it does so below one of its families. -/
theorem returns_iff_of_fresh {node : Node} (found : arena.nodes[id]? = some node)
    (fresh : id ∉ path) : arena.Returns path id ↔
      ∃ family ∈ node.families, ∃ child ∈ family.children.toList,
        arena.Returns (id :: path) child := by
  constructor
  · intro returns
    cases returns with
    | here met => exact absurd met fresh
    | down _ step returns =>
      obtain ⟨_, family, same, has, below⟩ := step
      obtain rfl := Option.some.inj (found.symm.trans same)
      exact ⟨family, has, _, below, returns⟩
  · rintro ⟨family, has, child, below, returns⟩
    exact .down fresh ⟨node, family, found, has, below⟩ returns

/-- The text of a named node exists, consists of whole lines, and shows a cycle exactly if a walk
that has come to the node on this way comes back to it. -/
theorem Licensed.exists_nodeText (licensed : arena.Licensed g fits stop)
    (consistent : g.Consistent)
    (unbroken : g.NamesUnbroken) (way : arena.Way path depth) (named : arena.Named g id)
    (indent : Nat) :
    ∃ text, Forest.nodeTextWithin g arena depth path indent id = some text ∧
      Forest.Shows text (arena.Returns path id) := by
  induction depth generalizing path id indent with
  | zero => exact absurd rfl way.depth_ne_zero
  | succ depth ih =>
    obtain ⟨node, found, known⟩ := named
    have inside := (Array.getElem?_eq_some_iff.1 found).1
    simp only [Forest.nodeTextWithin, found, bind, Option.bind]
    by_cases met : id ∈ path
    · rw [if_pos (meets_iff.2 met)]
      exact ⟨_, rfl, Forest.Shows.cycle.congr (iff_of_true trivial (.here met))⟩
    · rw [if_neg (by rwa [meets_iff])]
      have next := way.step inside met
      have families : ∀ indent, ∃ text, Forest.familiesText
          (Forest.nodeTextWithin g arena depth (id :: path)) indent node.families = some text ∧
            Forest.Shows text (arena.Returns path id) := by
        intro indent
        rw [returns_iff_of_fresh found met]
        exact Forest.exists_familiesText indent node.families fun family has child below indent =>
          ih next (licensed.named consistent found has below) indent
      by_cases progress : node.isProgress = true
      · rw [if_pos progress]
        exact families indent
      · rw [if_neg progress]
        have whole : ∀ lhs production dot, node.label ≠ .progress lhs production dot :=
          fun _ _ _ label => progress (by rw [Node.isProgress, label])
        obtain ⟨symbol, name, labelled, spelled⟩ := Label.exists_text known whole
        obtain ⟨text, same, shows⟩ := families (indent + 2)
        have heading := Forest.shows_heading indent node.span (unbroken.notMem spelled)
        simp only [labelled, same, pure]
        exact ⟨_, rfl, (heading.append shows).congr (iff_of_eq (false_or _))⟩

/-- The text of a forest whose root is the node of a known nonterminal exists, and it has a line
that is `(cycle)` after its indentation exactly if a cycle can be reached from the root. -/
theorem Licensed.exists_render (licensed : arena.Licensed g fits stop) (consistent : g.Consistent)
    (unbroken : g.NamesUnbroken) {root : NodeId} {span : Span} {nonterminal : NonterminalId}
    (key : arena.key? root = some ⟨span, .nonterminal nonterminal⟩)
    (known : nonterminal < g.nonterminals.size) :
    ∃ text, (⟨g, arena, root⟩ : Forest).render? = some text ∧
      ((∃ line ∈ Text.lines text, Forest.IsCycleLine line) ↔ arena.LeadsToCycle root) := by
  obtain ⟨node, found, owned⟩ := Option.map_eq_some_iff.1 key
  have inside := (Array.getElem?_eq_some_iff.1 found).1
  have named : arena.Named g root := by
    refine ⟨node, found, ?_⟩
    rw [Node.label, owned, Label.symbols]
    exact List.forall_mem_singleton.2 (by simpa [Grammar.knows] using known)
  obtain ⟨text, printed, lines, consists, shown⟩ :=
    licensed.exists_nodeText consistent unbroken (.start arena) named 0
  refine ⟨text, printed, ?_⟩
  rw [← Closed.returns_iff licensed.closed inside, ← shown, consists.lines_eq]
  simp only [List.mem_map, exists_exists_and_eq_and]

end Arena

end ChartParser
