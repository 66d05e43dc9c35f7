import ChartParser.Grammar.Printer
import ChartParser.Proofs.Grammar.Relisting
import ChartParser.Proofs.Notation.Agreement

/-!
# Printed grammars

A grammar is printed as a text of its own notation: after a comment, each nonterminal has its name
and its first right-hand side in one line, and every further one on a line that begins with a bar.
If the names are those of the notation, this lays out the rules of the grammar in the order of its
nonterminals (`Grammar.Printable.laysOut_render`).
-/

namespace ChartParser

open Notation

namespace Notation

variable {name front : String} {names : List String} {statements others : List Statement}
  {text other : String}

/-! ## Texts of statements -/

/-- A name that is written in one line. -/
structure InLine (name : String) : Prop where
  symbol : IsSymbol name
  whole : '\n' ∉ name.toList

/-- The text is made of whole lines, which state these statements one after the other. -/
def LinesText (statements : List Statement) (text : String) : Prop :=
  ∃ stated lines, Text.Consists text lines ∧ List.Forall₂ LineText stated lines ∧
    stated.flatten = statements

namespace LinesText

/-- The empty text states nothing. -/
theorem nil : LinesText [] "" := ⟨[], [], .nil, .nil, rfl⟩

/-- A line becomes a text when a line feed is put behind it. -/
theorem single (line : LineText statements text.toList) (whole : '\n' ∉ text.toList) :
    LinesText statements (text ++ "\n") :=
  ⟨[statements], [text.toList], .single whole, .cons line .nil, List.flatten_singleton⟩

/-- Texts behind each other state what both of them state. -/
theorem append (before : LinesText statements text) (after : LinesText others other) :
    LinesText (statements ++ others) (text ++ other) := by
  obtain ⟨stated, lines, consists, each, rfl⟩ := before
  obtain ⟨statedToo, linesToo, consistsToo, eachToo, rfl⟩ := after
  exact ⟨_, _, consists.append consistsToo, List.rel_append each eachToo, List.flatten_append⟩

/-- A text that states what rules state lays out the rules. -/
theorem laysOut {rules : List (String × List (List String))}
    (states : LinesText (rules.flatMap statementsOf) text) : LaysOut rules text := by
  obtain ⟨stated, lines, consists, each, same⟩ := states
  have none : Text.IsSpace [] := by decide
  have last : LineText [] [] := ⟨[], [], [], [], rfl, none, .blank, none, by simp⟩
  refine ⟨stated ++ [[]], ?_, ?_⟩
  · rw [consists.splitBy_eq]
    exact List.rel_append each (.cons last .nil)
  · rw [List.flatten_append, same]
    exact List.append_nil _

end LinesText

/-! ## Printed rules -/

/-- A right-hand side is printed as the text of an alternative. -/
theorem alternativeText_alternativeText (each : ∀ name ∈ names, InLine name) :
    AlternativeText names (Grammar.alternativeText names).toList ∧
      '\n' ∉ (Grammar.alternativeText names).toList := by
  unfold Grammar.alternativeText
  cases names with
  | nil => exact ⟨.empty, by decide⟩
  | cons name names =>
    rw [List.isEmpty_cons, if_neg Bool.false_ne_true]
    induction names generalizing name with
    | nil =>
      obtain ⟨symbol, whole⟩ := List.forall_mem_singleton.1 each
      rw [String.intercalate_singleton]
      exact ⟨.single symbol, whole⟩
    | cons second rest ih =>
      obtain ⟨first, others⟩ := List.forall_mem_cons.1 each
      obtain ⟨text, whole⟩ := ih second others
      rw [String.intercalate_cons_cons, String.toList_append, String.toList_append,
        List.append_assoc]
      have space : Text.IsSpace " ".toList := by decide
      refine ⟨.cons first.symbol space (by decide) (List.cons_ne_nil _ _) text, ?_⟩
      exact List.not_mem_append first.whole (List.not_mem_append (by decide) whole)

/-- The front of a line states these, and an alternative may stand behind it. -/
structure Fronts (statements : List Statement) (front : String) : Prop where
  line : ∀ names : List String, (∀ name ∈ names, InLine name) →
    LineText (statements ++ [.ofNames names])
      (front ++ (" " ++ Grammar.alternativeText names)).toList
  whole : '\n' ∉ front.toList

/-- A head with its arrow is the front of the first line of a rule. -/
theorem fronts_head (head : IsHead name.toList) : Fronts [.head name] (name ++ " ->") where
  line names each := by
    have none : Text.IsSpace [] := by decide
    have space : Text.IsSpace [' '] := by decide
    obtain ⟨text, -⟩ := alternativeText_alternativeText each
    refine ⟨[], _, [], [], ?_, none, .rule head space space (.single text), none, by simp⟩
    simp [String.toList_append]
  whole := by
    rw [String.toList_append]
    exact List.not_mem_append head.whole (by decide)

/-- An indented bar is the front of every further line. -/
theorem fronts_bar : Fronts [] "  |" where
  line names each := by
    have none : Text.IsSpace [] := by decide
    have space : Text.IsSpace [' '] := by decide
    have indent : Text.IsSpace [' ', ' '] := by decide
    obtain ⟨text, -⟩ := alternativeText_alternativeText each
    refine ⟨[' ', ' '], _, [], [], ?_, indent, .bar space (.single text), none, by simp⟩
    simp [String.toList_append]
  whole := by decide

/-- A front and an alternative make a line. -/
theorem Fronts.single (fronts : Fronts statements front) (each : ∀ name ∈ names, InLine name) :
    LinesText (statements ++ [.ofNames names])
      (front ++ (" " ++ Grammar.alternativeText names) ++ "\n") := by
  refine .single (fronts.line names each) ?_
  obtain ⟨-, whole⟩ := alternativeText_alternativeText each
  rw [String.toList_append, String.toList_append]
  exact List.not_mem_append fronts.whole (List.not_mem_append (by decide) whole)

/-- Alternatives are printed on lines of their own, of which the first has the given front and every
other one an indented bar. -/
theorem Fronts.linesText (fronts : Fronts statements front) (rest : List (List String))
    (each : ∀ listed ∈ names :: rest, ∀ name ∈ listed, InLine name) :
    LinesText (statements ++ (names :: rest).map .ofNames)
      (front ++ "\n  |".intercalate
        (((names :: rest).map Grammar.alternativeText).map (" " ++ ·)) ++ "\n") := by
  induction rest generalizing front statements names with
  | nil =>
    rw [List.map_singleton, List.map_singleton, List.map_singleton, String.intercalate_singleton]
    exact fronts.single (List.forall_mem_singleton.1 each)
  | cons second rest ih =>
    obtain ⟨eachFirst, eachRest⟩ := List.forall_mem_cons.1 each
    have both := (fronts.single eachFirst).append (ih fronts_bar eachRest)
    -- what stands between two alternatives ends a line and begins the next one
    have cut : ∀ first later : String, front ++ (first ++ "\n  |" ++ later) ++ "\n" =
        front ++ first ++ "\n" ++ ("  |" ++ later ++ "\n") := by
      intro first later
      have bar : "\n  |" = "\n" ++ "  |" := by decide
      rw [bar]
      simp only [String.append_assoc]
    have later : "\n  |".intercalate
        (((names :: second :: rest).map Grammar.alternativeText).map (" " ++ ·)) =
        " " ++ Grammar.alternativeText names ++ "\n  |" ++ "\n  |".intercalate
          (((second :: rest).map Grammar.alternativeText).map (" " ++ ·)) :=
      String.intercalate_cons_cons
    rw [List.append_assoc, List.nil_append, List.singleton_append] at both
    rw [later, cut]
    exact both

/-- A rule is printed as lines that state it. -/
theorem linesText_ruleText (head : IsHead name.toList) {listed : List (List String)}
    (nonempty : listed ≠ []) (each : ∀ names ∈ listed, ∀ name ∈ names, InLine name) :
    LinesText (statementsOf (name, listed))
      (Grammar.ruleText name (listed.map Grammar.alternativeText)) := by
  obtain ⟨names, rest, rfl⟩ := List.exists_cons_of_ne_nil nonempty
  exact (fronts_head head).linesText rest each

end Notation

/-! ## Printed grammars -/

namespace Grammar

variable {g : Grammar}

/-- The names of the grammar are those of the notation. -/
structure Printable (g : Grammar) : Prop where
  heads : ∀ name ∈ g.nonterminalNames, IsHead name.toList
  sides : ∀ rule ∈ g.plainProductions, ∀ name ∈ rule.2, InLine name

/-- Symbols that are known can be named one by one. -/
theorem mapM_symbolName? {symbols : List Symbol}
    (known : ∀ symbol ∈ symbols, g.knows symbol = true) :
    symbols.mapM g.symbolName? = some (symbols.map g.nameOf) := by
  induction symbols with
  | nil => rfl
  | cons symbol symbols ih =>
    obtain ⟨knownFirst, knownRest⟩ := List.forall_mem_cons.1 known
    rw [List.mapM_cons, symbolName?_eq_some knownFirst, ih knownRest]
    rfl

/-- A production is printed by the names on its right-hand side. -/
theorem Consistent.productionText?_eq (consistent : g.Consistent) (rule : ProductionId) :
    g.productionText? rule = (g.sideOf? rule).map alternativeText := by
  unfold productionText? sideOf?
  cases found : g.productions[rule]? with
  | none => rfl
  | some production =>
    show (production.symbols.mapM g.symbolName?).bind _ = _
    rw [mapM_symbolName? (consistent.known found)]
    rfl

namespace Printable

/-- The rules that a printable grammar lists are rules of the notation, written in one line each. -/
theorem inLine (printable : g.Printable) (built : g.Built) :
    ∀ rule ∈ g.listedRules, ∀ names ∈ rule.2, ∀ name ∈ names, InLine name := by
  intro rule listed names inside
  rw [built.listedRules_eq] at listed
  obtain ⟨lhs, -, rfl⟩ := List.mem_map.1 listed
  obtain ⟨pair, among, rfl⟩ := List.mem_map.1 inside
  exact printable.sides pair (List.mem_of_mem_filter among)

/-- The rules that a printable grammar lists are rules of the notation. -/
theorem isRule (printable : g.Printable) (built : g.Built) (checked : g.check = .ok ()) :
    ∀ rule ∈ g.listedRules, IsRule rule := by
  intro rule listed
  refine ⟨printable.heads _ ?_, built.listedRules_nonempty checked rule listed,
    fun names inside name within => (printable.inLine built rule listed names inside name within).1⟩
  rw [built.listedRules_eq] at listed
  obtain ⟨name, inside, rfl⟩ := List.mem_map.1 listed
  exact inside

/-- The comment that names the root states nothing. -/
theorem linesText_rootLine (printable : g.Printable) : LinesText [] g.rootLine := by
  unfold rootLine
  split
  · rename_i root found
    obtain ⟨id, -, entry⟩ := Option.bind_eq_some_iff.1 found
    have listed : root.name ∈ g.nonterminalNames :=
      mem_nonterminalNames.2 ⟨id, congrArg (Option.map Nonterminal.name) entry⟩
    have none : Text.IsSpace [] := by decide
    refine .single
      ⟨[], [], [], ("# root: " ++ root.name).toList, rfl, none, .blank, none, ?_⟩ ?_
    · rw [String.toList_append]
      intro c isFirst
      exact (Option.some.inj isFirst).symm
    · rw [String.toList_append]
      exact List.not_mem_append (by decide) (printable.heads _ listed).whole
  · exact .nil

/-- A printable grammar is printed as a text that lays out its rules. -/
theorem laysOut_render (printable : g.Printable) (built : g.Built) (checked : g.check = .ok ()) :
    LaysOut g.listedRules g.render := by
  have rule : ∀ entry ∈ g.nonterminals.toList.zipIdx,
      LinesText (statementsOf (entry.1.name, (g.productionsOf entry.2).filterMap g.sideOf?))
        (g.rulesOf entry.2 entry.1) := by
    intro entry inside
    have listed := List.mem_map_of_mem (f := fun entry : Nonterminal × NonterminalId =>
      (entry.1.name, (g.productionsOf entry.2).filterMap g.sideOf?)) inside
    have nonempty := built.listedRules_nonempty checked _ listed
    have texts : (g.productionsOf entry.2).filterMap g.productionText? =
        ((g.productionsOf entry.2).filterMap g.sideOf?).map alternativeText := by
      rw [List.map_filterMap, funext built.consistent.productionText?_eq]
    unfold rulesOf
    rw [if_neg, texts]
    · exact linesText_ruleText (printable.isRule built checked _ listed).head nonempty
        (printable.inLine built _ listed)
    · intro none
      exact nonempty (by rw [List.isEmpty_iff.1 none]; rfl)
  have rules : LinesText (g.listedRules.flatMap statementsOf)
      (String.join (g.nonterminals.toList.zipIdx.map fun entry => g.rulesOf entry.2 entry.1)) := by
    unfold listedRules
    generalize g.nonterminals.toList.zipIdx = entries at rule
    induction entries with
    | nil => exact .nil
    | cons first rest ih =>
      obtain ⟨ruleFirst, ruleRest⟩ := List.forall_mem_cons.1 rule
      rw [List.map_cons, List.flatMap_cons, List.map_cons, String.join_cons]
      exact ruleFirst.append (ih ruleRest)
  exact (printable.linesText_rootLine.append rules).laysOut

end Printable

end Grammar

end ChartParser
