import ChartParser.Proofs.Grammar.Carrying
import ChartParser.Proofs.Grammar.Places
import ChartParser.Proofs.Grammar.Rules
import ChartParser.Proofs.Notation.Layout

/-!
# Rules as text and rules added by name

The rules that a text lays out can also be added by name, one after the other. A text defines the
head of a rule when it comes to it and records the place, while a rule that is added defines its
left-hand side every time and knows no place. Going through both side by side, the grammars agree in
everything but the places after every alternative (`Abreast.rules`). So a text can be read exactly
if the rules can be added and make a grammar that passes the check, and it is read as this grammar
(`Grammar.ofSource_iff_ofRules`).
-/

namespace ChartParser

open Notation

namespace Notation

variable {g h : Grammar} {place : Location} {lhs : NonterminalId} {head : String}
  {names heads : List String}

/-! ## One alternative -/

/-- Names without repetitions are resolved by entering their symbols. -/
theorem resolveAll_of_names (proper : ∀ name ∈ names, name ≠ "0") :
    resolveAll place g (names.map fun name => ⟨name, none⟩) =
      match g.symbols names with
      | (.ok symbols, middle) => .ok (symbols, middle)
      | (.error fault, _) => .error ⟨fault, place⟩ := by
  induction names generalizing g with
  | nil => rfl
  | cons name names ih =>
    obtain ⟨first, rest⟩ := List.forall_mem_cons.1 proper
    rw [List.map_cons, resolveAll, resolveWritten, if_neg first, Grammar.symbols]
    dsimp only
    rw [resolve]
    rcases g.symbol name with ⟨fault | symbol, next⟩
    · rfl
    · dsimp only [bind, Except.bind]
      rw [ih rest]
      rcases next.symbols names with ⟨fault | symbols, middle⟩ <;> rfl

/-- An alternative of names is resolved by entering their symbols, also if there are none. -/
theorem resolveAlternative_written (proper : ∀ name ∈ names, name ≠ "0") :
    resolveAlternative place g (written names) =
      match g.symbols names with
      | (.ok symbols, middle) => .ok (symbols, middle)
      | (.error fault, _) => .error ⟨fault, place⟩ := by
  unfold resolveAlternative written
  cases names with
  | nil => rfl
  | cons name names =>
    rw [if_neg (List.cons_ne_nil _ _), if_neg, resolveAll_of_names proper]
    intro alone
    have same := (List.cons.inj alone).1
    exact proper name List.mem_cons_self (congrArg WrittenSymbol.name same)

/-- An alternative is added to the rule that is being read as it is added by name to a grammar that
knows no places, which at most has to define the head of the rule first. -/
theorem addAlternative_written (proper : ∀ name ∈ names, name ≠ "0")
    (defined : h.define head = (lhs, g.withoutPlaces)) :
    SucceedAlike (fun next nextToo => nextToo = next.withoutPlaces)
      (addAlternative place lhs g (written names)) (h.withRule (head, names)) := by
  rw [addAlternative_eq, resolveAlternative_written proper, Grammar.withRule_eq, defined,
    Grammar.symbols_withoutPlaces]
  rcases g.symbols names with ⟨fault | symbols, middle⟩
  · exact .failed _ _
  · dsimp only [bind, Except.bind]
    obtain ⟨alike, same⟩ := middle.addProduction_withoutPlaces lhs symbols
    generalize middle.addProduction lhs symbols = added at alike same ⊢
    generalize middle.withoutPlaces.addProduction lhs symbols = addedToo at alike same ⊢
    obtain ⟨result, next⟩ := added
    obtain ⟨resultToo, nextToo⟩ := addedToo
    cases alike with
    | failed _ _ => exact .failed _ _
    | passed _ => exact .passed same

/-- What is known of the grammar while the rule of a head is being read. -/
structure InRule (heads : List String) (head : String) (lhs : NonterminalId) (g : Grammar) :
    Prop where
  consistent : g.Consistent
  defines : g.Defines head lhs
  only : g.DefinesOnly heads

/-- An alternative leaves a grammar in the rule. -/
theorem InRule.addAlternative (inRule : InRule heads head lhs g)
    (proper : ∀ name ∈ names, name ≠ "0")
    (added : Notation.addAlternative place lhs g (written names) = .ok h) :
    InRule heads head lhs h := by
  have persists := (Grammar.Persists.kept g).addAlternative (.refl g) added
  have consistent := Grammar.Consistent.invariant.addAlternative inRule.consistent added
  obtain ⟨symbols, middle, rule, resolved, produced⟩ := addAlternative_eq_ok.1 added
  rw [resolveAlternative_written proper] at resolved
  have entered : g.symbols names = (.ok symbols, middle) := by
    split at resolved
    · rename_i read
      obtain ⟨rfl, rfl⟩ := Prod.mk.inj (Except.ok.inj resolved)
      exact read
    · cases resolved
  refine ⟨consistent, inRule.defines.of_persists persists,
    inRule.only.of_persists persists fun id defined => ?_⟩
  rwa [Grammar.isDefined_addProduction produced, Grammar.isDefined_symbols entered] at defined

/-- An alternative of the rule that is being read is taken up as it is added by name. -/
theorem InRule.alternative (inRule : InRule heads head lhs g) (proper : ∀ name ∈ names, name ≠ "0")
    (defined : h.define head = (lhs, g.withoutPlaces)) :
    SucceedAlike
      (fun next nextToo => next.current = some lhs ∧ nextToo = next.grammar.withoutPlaces ∧
        InRule heads head lhs next.grammar)
      (Loading.take ⟨g, some lhs⟩ (place, .ofNames names)) (h.withRule (head, names)) := by
  have alike : SucceedAlike _ (Notation.addAlternative place lhs g (written names)) _ :=
    addAlternative_written proper defined
  have kept := alike.imp fun next nextToo added same =>
    And.intro same (inRule.addAlternative proper added)
  exact kept.map fun next nextToo related => ⟨rfl, related⟩

/-! ## Rules -/

/-- The alternatives of the rule that is being read are taken up as they are added by name. -/
theorem InRule.alternatives {made : List (Location × Statement)} {listed : List (List String)}
    (inRule : InRule heads head lhs g) (proper : ∀ names ∈ listed, ∀ name ∈ names, name ≠ "0")
    (states : made.map Prod.snd = listed.map .ofNames) :
    SucceedAlike
      (fun next nextToo => nextToo = next.grammar.withoutPlaces ∧
        InRule heads head lhs next.grammar)
      (made.foldlM Loading.take ⟨g, some lhs⟩)
      ((listed.map (head, ·)).foldlM Grammar.withRule g.withoutPlaces) := by
  induction listed generalizing made g with
  | nil =>
    obtain rfl := List.map_eq_nil_iff.1 states
    exact .passed ⟨rfl, inRule⟩
  | cons names listed ih =>
    obtain ⟨⟨place, statement⟩, rest, rfl, rfl, statesRest⟩ := List.map_eq_cons_iff.1 states
    obtain ⟨properFirst, properRest⟩ := List.forall_mem_cons.1 proper
    -- adding the alternative by name defines the head once more, which changes nothing
    have again : g.withoutPlaces.define head = (lhs, g.withoutPlaces) := by
      rw [g.define_withoutPlaces head place,
        inRule.defines.defineAt_eq inRule.consistent place]
    rw [List.foldlM_cons, List.map_cons, List.foldlM_cons]
    refine (inRule.alternative properFirst again).bind ?_
    rintro ⟨next, current⟩ _ ⟨rfl, rfl, inRuleNext⟩
    exact ih inRuleNext properRest statesRest

/-- What is known between two rules: both grammars agree, and only the heads of the rules before are
defined. -/
structure Abreast (heads : List String) (loading : Loading) (h : Grammar) : Prop where
  same : h = loading.grammar.withoutPlaces
  consistent : loading.grammar.Consistent
  only : loading.grammar.DefinesOnly heads

/-- A head that is not among those defined starts a rule. -/
theorem definedAs?_eq_none (consistent : g.Consistent) (only : g.DefinesOnly heads)
    (fresh : head ∉ heads) : definedAs? g head = none := by
  unfold definedAs?
  rw [Option.filter_eq_none_iff]
  intro nonterminal found defined
  obtain ⟨id, named, entry⟩ := Option.bind_eq_some_iff.1 found
  have marked : g.isDefined id = true := by
    unfold Grammar.isDefined
    rw [entry]
    exact defined
  exact fresh (only id head marked (consistent.findNonterminal?_eq_some.1 named))

/-- A rule whose left-hand side is the head of the text and whose alternatives are lists of symbols,
at least one. -/
structure IsRule (rule : String × List (List String)) : Prop where
  head : IsHead rule.1.toList
  nonempty : rule.2 ≠ []
  symbols : ∀ names ∈ rule.2, ∀ name ∈ names, IsSymbol name

namespace Abreast

variable {loading : Loading} {made : List (Location × Statement)}

/-- A rule is taken up as its alternatives are added by name. -/
theorem rule (abreast : Abreast heads loading h) {listed : List (List String)}
    (proper : IsRule (head, listed)) (fresh : head ∉ heads)
    (states : made.map Prod.snd = statementsOf (head, listed)) :
    SucceedAlike (Abreast (head :: heads)) (made.foldlM Loading.take loading)
      ((listed.map (head, ·)).foldlM Grammar.withRule h) := by
  obtain ⟨grammar, current⟩ := loading
  obtain ⟨names, others, rfl⟩ := List.exists_cons_of_ne_nil proper.nonempty
  -- the text states the head and then the first alternative, which by name is a single rule
  obtain ⟨⟨place, statement⟩, rest, rfl, rfl, statesRest⟩ := List.map_eq_cons_iff.1 states
  obtain ⟨⟨placeToo, statement⟩, rest, rfl, rfl, statesOthers⟩ := List.map_eq_cons_iff.1 statesRest
  have started : Loading.take ⟨grammar, current⟩ (place, .head head) =
      .ok ⟨(grammar.defineAt head place).2, some (grammar.defineAt head place).1⟩ := by
    rw [Loading.take]
    dsimp only
    rw [definedAs?_eq_none abreast.consistent abreast.only fresh]
  have defined : h.define head =
      ((grammar.defineAt head place).1, (grammar.defineAt head place).2.withoutPlaces) := by
    rw [abreast.same]
    exact grammar.define_withoutPlaces head place
  have inRule : InRule (head :: heads) head (grammar.defineAt head place).1
      (grammar.defineAt head place).2 :=
    ⟨abreast.consistent.defineAt head place, .defineAt abreast.consistent head place,
      abreast.only.defineAt abreast.consistent head place⟩
  have proper : ∀ listed ∈ names :: others, ∀ name ∈ listed, name ≠ "0" :=
    fun listed among name inside => (proper.symbols listed among name inside).ne_zero
  obtain ⟨properFirst, properRest⟩ := List.forall_mem_cons.1 proper
  rw [List.foldlM_cons, started, List.map_cons, List.foldlM_cons]
  show SucceedAlike _ (Loading.take _ _ >>= _) _
  refine (inRule.alternative properFirst defined).bind ?_
  rintro ⟨next, current⟩ _ ⟨rfl, rfl, inRuleNext⟩
  refine (inRuleNext.alternatives properRest statesOthers).imp ?_
  rintro last _ - ⟨rfl, inRuleLast⟩
  exact ⟨rfl, inRuleLast.consistent, inRuleLast.only⟩

/-- Rules with different heads are taken up as their alternatives are added by name. -/
theorem rules {rules : List (String × List (List String))} (abreast : Abreast heads loading h)
    (proper : ∀ rule ∈ rules, IsRule rule) (distinct : (rules.map Prod.fst).Nodup)
    (fresh : ∀ rule ∈ rules, rule.1 ∉ heads)
    (states : made.map Prod.snd = rules.flatMap statementsOf) :
    SucceedAlike (fun next nextToo => nextToo = next.grammar.withoutPlaces)
      (made.foldlM Loading.take loading)
      ((Grammar.alternativesOf rules).foldlM Grammar.withRule h) := by
  induction rules generalizing made loading h heads with
  | nil =>
    obtain rfl := List.map_eq_nil_iff.1 states
    exact .passed abreast.same
  | cons rule rules ih =>
    obtain ⟨properFirst, properRest⟩ := List.forall_mem_cons.1 proper
    obtain ⟨freshFirst, freshRest⟩ := List.forall_mem_cons.1 fresh
    rw [List.map_cons, List.nodup_cons] at distinct
    rw [List.flatMap_cons] at states
    obtain ⟨here, later, rfl, statesHere, statesLater⟩ := List.map_eq_append_iff.1 states
    rw [Grammar.alternativesOf, List.flatMap_cons, List.foldlM_append, List.foldlM_append]
    refine (abreast.rule properFirst freshFirst statesHere).bind fun next nextToo abreastNext => ?_
    refine ih abreastNext properRest distinct.2 (fun other among defined => ?_) statesLater
    rcases List.mem_cons.1 defined with same | before
    · exact distinct.1 (List.mem_map.2 ⟨other, among, same⟩)
    · exact freshRest other among before

end Abreast

/-- A text that lays out rules is read, but for the check, as the grammar that the rules make. -/
theorem LaysOut.ofSourceUnchecked_alike {rules : List (String × List (List String))}
    {source : String} (laid : LaysOut rules source) (proper : ∀ rule ∈ rules, IsRule rule)
    (distinct : (rules.map Prod.fst).Nodup) (file : Option String) :
    SucceedAlike (fun g h => h = g.withoutPlaces) (Grammar.ofSourceUnchecked file source)
      (Grammar.ofRules (Grammar.alternativesOf rules)) := by
  obtain ⟨made, states, read⟩ := laid.ofSourceUnchecked_eq file
  have start : Abreast [] Loading.start Grammar.empty :=
    ⟨Grammar.withoutPlaces_empty.symm, .empty, fun id name defined => by
      simp [Loading.start, Grammar.isDefined, Grammar.empty] at defined⟩
  have alike := start.rules proper distinct (fun _ _ => List.not_mem_nil) states
  rw [read, Grammar.ofRules_eq]
  exact alike.map fun _ _ same => same

end Notation

namespace Grammar

variable {g : Grammar}

/-! ## The check -/

/-- The renaming that gives no new ids carries a grammar to the one without places. -/
theorem carries_withoutPlaces (g : Grammar) : Renaming.refl.Carries g g.withoutPlaces where
  nonterminal id := g.symbolName?_withoutPlaces (.nonterminal id)
  terminal _ _ := rfl
  production id := by
    rw [funext Renaming.rule_refl, Option.map_id']
    rfl

/-- A grammar passes the check exactly if it does without its places. -/
theorem check_withoutPlaces (built : g.Built) (builtToo : g.withoutPlaces.Built) :
    g.check = .ok () ↔ g.withoutPlaces.check = .ok () := by
  have carries := g.carries_withoutPlaces
  have root : g.root? = g.root?.map id := (congrFun Option.map_id g.root?).symm
  constructor
  · exact check_of_carries built builtToo carries root
  · exact check_of_carries builtToo built carries.symm root

section Texts

variable {rules : List (String × List (List String))} {source : String}

/-- If a text that lays out rules is read as a grammar, then the rules make this grammar, and it
passes the check. -/
theorem ofRules_of_ofSource (laid : LaysOut rules source) (proper : ∀ rule ∈ rules, IsRule rule)
    (distinct : (rules.map Prod.fst).Nodup) {file : Option String}
    (read : ofSource file source = .ok g) :
    ofRules (alternativesOf rules) = .ok g.withoutPlaces ∧ g.withoutPlaces.check = .ok () := by
  obtain ⟨unchecked, checked⟩ := ofSource_eq_ok_iff.1 read
  have alike := laid.ofSourceUnchecked_alike proper distinct file
  obtain ⟨h, made⟩ := alike.exists_iff.1 ⟨g, unchecked⟩
  obtain rfl := alike.related_of_eq_ok unchecked made
  have built := built_of_ofSourceUnchecked unchecked
  exact ⟨made, (check_withoutPlaces built (built_of_ofRules made)).1 checked⟩

/-- If rules make a grammar that passes the check, then a text that lays them out is read as this
grammar. -/
theorem ofSource_of_ofRules (laid : LaysOut rules source) (proper : ∀ rule ∈ rules, IsRule rule)
    (distinct : (rules.map Prod.fst).Nodup) (made : ofRules (alternativesOf rules) = .ok h)
    (checked : h.check = .ok ()) (file : Option String) :
    ∃ g, ofSource file source = .ok g ∧ g.withoutPlaces = h := by
  have alike := laid.ofSourceUnchecked_alike proper distinct file
  obtain ⟨g, unchecked⟩ := alike.exists_iff.2 ⟨h, made⟩
  obtain rfl := alike.related_of_eq_ok unchecked made
  have built := built_of_ofSourceUnchecked unchecked
  have passes := (check_withoutPlaces built (built_of_ofRules made)).2 checked
  exact ⟨g, ofSource_eq_ok_iff.2 ⟨unchecked, passes⟩, rfl⟩

/-- However rules with different heads are laid out as text, the text can be read exactly if adding
their alternatives one after the other makes a grammar that passes the check. Then both grammars
have the same root and the same nonterminals, terminals and productions under the same ids, with the
same flags. Only the places where nonterminals are defined are not known without the text. -/
theorem ofSource_iff_ofRules (laid : LaysOut rules source) (proper : ∀ rule ∈ rules, IsRule rule)
    (distinct : (rules.map Prod.fst).Nodup) (file : Option String) :
    ((∃ g, ofSource file source = .ok g) ↔
        ∃ h, ofRules (alternativesOf rules) = .ok h ∧ h.check = .ok ()) ∧
      ∀ g h, ofSource file source = .ok g → ofRules (alternativesOf rules) = .ok h →
        g.withoutPlaces = h := by
  refine ⟨⟨?_, ?_⟩, ?_⟩
  · rintro ⟨g, read⟩
    exact ⟨_, ofRules_of_ofSource laid proper distinct read⟩
  · rintro ⟨h, made, checked⟩
    obtain ⟨g, read, -⟩ := ofSource_of_ofRules laid proper distinct made checked file
    exact ⟨g, read⟩
  · intro g h read made
    rw [(ofRules_of_ofSource laid proper distinct read).1] at made
    exact Except.ok.inj made

end Texts

/-- A rule with an empty alternative and with marks of the notation in a literal, and a rule whose
head is not set off from its arrow. -/
def laidOutRules : List (String × List (List String)) :=
  [("S", [["A-", "'b | #'"], [], ["A-"]]), ("A-", [["'c'"]])]

/-- The rules, with alternatives in one line and on lines of their own. -/
def laidOutSource : String :=
  "# two rules\n S -> A-\t'b | #'|0 # empty\n\n| A-\r\nA-->\n |\t'c'#last"

/-- The heads of the rules are heads, and the symbols in their alternatives are symbols. -/
theorem isRule_of_mem_laidOutRules : ∀ rule ∈ laidOutRules, IsRule rule := by
  have s : IsHead "S".toList := ⟨by decide +kernel, List.all_eq_true.1 (by decide +kernel)⟩
  have a : IsHead "A-".toList := ⟨by decide +kernel, List.all_eq_true.1 (by decide +kernel)⟩
  have quoted : ∀ inner : List Char, inner ≠ [] → '\x27' ∉ inner →
      IsWritten ('\x27' :: inner ++ ['\x27']) :=
    fun _ nonempty between => .quoted (by decide) nonempty between
  have b : IsSymbol "'b | #'" := ⟨quoted "b | #".toList (by decide) (by decide), by decide⟩
  have c : IsSymbol "'c'" := ⟨quoted "c".toList (by decide) (by decide), by decide⟩
  refine List.forall_mem_cons.2 ⟨⟨s, List.cons_ne_nil _ _, ?_⟩,
    List.forall_mem_singleton.2 ⟨a, List.cons_ne_nil _ _, ?_⟩⟩
  · have one : IsSymbol "A-" := ⟨a.isWritten, by decide⟩
    simp [one, b]
  · simp [c]

/-- The rules are laid out in the text. -/
theorem laysOut_laidOutSource : LaysOut laidOutRules laidOutSource := by
  have none : Text.IsSpace [] := by decide
  have blank : Text.IsSpace [' '] := by decide
  have tab : Text.IsSpace ['\t'] := by decide
  have carriage : Text.IsSpace ['\r'] := by decide
  have hash : ∀ (rest : List Char), ∀ c ∈ ('#' :: rest).head?, c = '#' := by simp
  have first := isRule_of_mem_laidOutRules ("S", _) (List.mem_cons_self ..)
  have second := isRule_of_mem_laidOutRules ("A-", _)
    (List.mem_cons_of_mem _ (List.mem_cons_self ..))
  have a : IsSymbol "A-" := first.symbols ["A-"] (by simp) "A-" (by simp)
  have b : IsSymbol "'b | #'" := first.symbols ["A-", "'b | #'"] (by simp) _ (by simp)
  have c : IsSymbol "'c'" := second.symbols ["'c'"] (by simp) _ (by simp)
  have both : AlternativeText ["A-", "'b | #'"] _ :=
    .cons a tab (List.cons_ne_nil _ _) (List.cons_ne_nil _ _) (.single b)
  have lines : Text.splitBy (· == '\n') laidOutSource.toList =
      ["# two rules".toList, " S -> A-\t'b | #'|0 # empty".toList, [], "| A-\r".toList,
        "A-->".toList, " |\t'c'#last".toList] := by decide +kernel
  refine ⟨[[], [.head "S", .ofNames ["A-", "'b | #'"], .ofNames []], [], [.ofNames ["A-"]],
    [.head "A-"], [.ofNames ["'c'"]]], ?_, rfl⟩
  rw [lines]
  refine .cons ?_ (.cons ?_ (.cons ?_ (.cons ?_ (.cons ?_ (.cons ?_ .nil)))))
  · exact ⟨[], _, [], '#' :: " two rules".toList, rfl, none, .blank, none, hash _⟩
  · exact ⟨[' '], _, [' '], '#' :: " empty".toList, rfl, blank,
      .rule first.head blank blank (.cons both none none (.single .empty)), blank, hash _⟩
  · exact ⟨[], _, [], [], rfl, none, .blank, none, by simp⟩
  · exact ⟨[], _, ['\r'], [], rfl, none, .bar blank (.single (.single a)), carriage, by simp⟩
  · exact ⟨[], _, [], [], rfl, none, .alone second.head none, none, by simp⟩
  · exact ⟨[' '], _, [], '#' :: "last".toList, rfl, blank, .bar tab (.single (.single c)), none,
      hash _⟩

/-- The text is read as the grammar that is made of the rules. -/
theorem ofSource_laidOutSource : ∃ g, ofSource none laidOutSource = .ok g ∧
    ofRules (alternativesOf laidOutRules) = .ok g.withoutPlaces := by
  obtain ⟨_, passed⟩ := exists_eq_ok
    (show (ofRules (alternativesOf laidOutRules) >>= check).isOk = true by decide +kernel)
  obtain ⟨h, made, checked⟩ := bind_eq_ok.1 passed
  have distinct : (laidOutRules.map Prod.fst).Nodup := by decide
  have agree :=
    ofSource_iff_ofRules laysOut_laidOutSource isRule_of_mem_laidOutRules distinct none
  obtain ⟨g, read⟩ := agree.1.2 ⟨h, made, checked⟩
  obtain rfl := agree.2 g h read made
  exact ⟨g, read, made⟩

end Grammar

end ChartParser
