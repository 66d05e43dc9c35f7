import ChartParser.Proofs.Grammar.Language
import ChartParser.Proofs.Grammar.Viable
import Mathlib.Logic.Relation

/-!
# Sentential forms

A string of symbols is rewritten by putting the right-hand side of a production in the place of its
nonterminal, wherever that stands. Where a nonterminal is expected is said twice: by `Expects` along
the productions that lead to it, and here by the strings that the root can be rewritten to. The
nonterminal is expected at a position exactly if the root can be rewritten to terminals that the
tokens before the position fit, followed by the nonterminal and anything else
(`Grammar.expects_iff`).
-/

namespace ChartParser

/-- An element behind the first of two lists side by side stands in one of them. -/
theorem exists_of_append_eq_append_cons {α : Type} {left right before after : List α} {element : α}
    (same : left ++ right = before ++ element :: after) :
    (∃ more, left = before ++ element :: more ∧ after = more ++ right) ∨
      ∃ more, before = left ++ more ∧ right = more ++ element :: after := by
  rcases List.append_eq_append_iff.1 same with inRight | ⟨rest, rfl, split⟩
  · exact Or.inr inRight
  · cases rest with
    | nil => exact Or.inr ⟨[], by simp, split.symm⟩
    | cons first more =>
      obtain ⟨rfl, rfl⟩ := List.cons.inj split
      exact Or.inl ⟨more, rfl, rfl⟩

namespace Grammar

variable {g : Grammar} {fits : Nat → TerminalId → Bool} {root nonterminal : NonterminalId}
  {symbols form left right : List Symbol} {word : List TerminalId} {position : Nat}

/-- One nonterminal of the string is replaced by the right-hand side of a production for it. -/
inductive Rewrites (g : Grammar) : List Symbol → List Symbol → Prop
  | replace {rule : ProductionId} {production : Production} (before after : List Symbol)
      (found : g.productions[rule]? = some production) :
      Rewrites g (before ++ .nonterminal production.lhs :: after)
        (before ++ (production.symbols ++ after))

/-- The string is rewritten in any number of steps. -/
abbrev RewritesTo (g : Grammar) : List Symbol → List Symbol → Prop :=
  Relation.ReflTransGen g.Rewrites

/-- A string is rewritten in the same way between others. -/
theorem RewritesTo.between (rewritten : g.RewritesTo symbols form) (left right : List Symbol) :
    g.RewritesTo (left ++ (symbols ++ right)) (left ++ (form ++ right)) := by
  refine rewritten.lift (fun symbols => left ++ (symbols ++ right)) ?_
  rintro _ _ ⟨before, after, found⟩
  have replaced := Rewrites.replace (left ++ before) (after ++ right) found
  simpa [Function.onFun] using replaced

/-- A string can be rewritten to every word that it derives. -/
theorem Derives.rewritesTo (derived : g.Derives symbols word) :
    g.RewritesTo symbols (word.map .terminal) := by
  induction derived with
  | nil => exact .refl
  | @terminal id _ _ _ ih => simpa using ih.between [.terminal id] []
  | @nonterminal _ production symbols first word found _ _ ihBody ihRest =>
    have step : g.RewritesTo (.nonterminal production.lhs :: symbols)
        (production.symbols ++ symbols) := .single (.replace [] symbols found)
    have body := ihBody.between [] symbols
    have rest := ihRest.between (first.map .terminal) []
    simp only [List.nil_append, List.append_nil] at body rest
    rw [List.map_append]
    exact (step.trans body).trans rest

/-- A word of terminals derives itself. -/
theorem derives_map_terminal (word : List TerminalId) :
    g.Derives (word.map .terminal) word := by
  induction word with
  | nil => exact .nil
  | cons id word ih => exact ih.terminal

/-- The root can be rewritten so that an expected nonterminal stands behind terminals that the
tokens before it fit. -/
theorem Expects.exists_rewritesTo (expected : g.Expects fits root nonterminal position) :
    ∃ front rest, g.RewritesTo [.nonterminal root]
        (front.map .terminal ++ .nonterminal nonterminal :: rest) ∧
      front.length = position ∧ Fitting fits 0 front := by
  induction expected with
  | root => exact ⟨[], [], .refl, rfl, .nil⟩
  | @next _ production dot _ _ _ nonterminal found _ before awaited ih =>
    obtain ⟨front, rest, reached, rfl, fittingFront⟩ := ih
    obtain ⟨word, derived, length, fitting⟩ := before.derives
    have replaced := reached.tail (.replace (front.map .terminal) rest found)
    have passed := derived.rewritesTo.between (front.map .terminal)
      (.nonterminal nonterminal :: production.symbols.drop (dot + 1) ++ rest)
    rw [symbols_eq awaited, List.append_assoc] at replaced
    refine ⟨front ++ word, production.symbols.drop (dot + 1) ++ rest, ?_, ?_, ?_⟩
    · rw [List.map_append, List.append_assoc]
      exact replaced.trans passed
    · rw [List.length_append, length]
    · exact Fitting.append_iff.2 ⟨fittingFront, by rwa [Nat.zero_add]⟩

/-- A nonterminal of a string that the root can be rewritten to is expected behind any tokens that
the symbols before it derive. -/
theorem expects_of_rewritesTo (reached : g.RewritesTo [.nonterminal root] form)
    (split : form = left ++ .nonterminal nonterminal :: right) (derived : g.Derives left word)
    (fitting : Fitting fits 0 word) : g.Expects fits root nonterminal word.length := by
  induction reached generalizing left right nonterminal word with
  | refl =>
    obtain ⟨rfl, rfl⟩ : left = [] ∧ root = nonterminal := by
      cases left <;> simp_all
    cases derived
    exact .root
  | @tail middle _ _ step ih =>
    obtain @⟨rule, production, before, after, found⟩ := step
    -- The nonterminal stands before the symbols put in by the last step, among them or behind them.
    rcases exists_of_append_eq_append_cons split with ⟨more, rfl, -⟩ | ⟨inner, rfl, rest⟩
    · exact ih (List.append_assoc _ _ _) derived fitting
    obtain ⟨first, second, rfl, derivedBefore, derivedInner⟩ := derived.exists_of_append
    obtain ⟨fittingFirst, fittingSecond⟩ := Fitting.append_iff.1 fitting
    rw [Nat.zero_add] at fittingSecond
    rcases exists_of_append_eq_append_cons rest with ⟨more, shape, -⟩ | ⟨more, rfl, rfl⟩
    · have expected := ih rfl derivedBefore fittingFirst
      obtain ⟨derivations, spelled⟩ := derivedInner.spells fittingSecond
      rw [List.length_append]
      have before : production.symbols.take inner.length = inner := by rw [shape, List.take_left]
      have awaited : production.symbolAt? inner.length = some (.nonterminal nonterminal) := by
        rw [Production.symbolAt?, shape, List.getElem?_append_right (Nat.le_refl _), Nat.sub_self,
          List.getElem?_cons_zero]
      rw [← before] at spelled
      exact .next found expected spelled awaited
    · obtain ⟨body, last, rfl, derivedBody, derivedLast⟩ := derivedInner.exists_of_append
      have whole := derivedBefore.append (.nonterminal found derivedBody derivedLast)
      have shape :
          before ++ .nonterminal production.lhs :: (more ++ .nonterminal nonterminal :: right) =
            (before ++ .nonterminal production.lhs :: more) ++ .nonterminal nonterminal :: right :=
        by simp
      exact ih shape whole fitting

/-- A nonterminal is expected at a position exactly if the root can be rewritten to terminals that
the tokens before the position fit, followed by the nonterminal. -/
theorem expects_iff : g.Expects fits root nonterminal position ↔
    ∃ front rest, g.RewritesTo [.nonterminal root]
        (front.map .terminal ++ .nonterminal nonterminal :: rest) ∧
      front.length = position ∧ Fitting fits 0 front := by
  constructor
  · exact Expects.exists_rewritesTo
  · rintro ⟨front, rest, reached, rfl, fitting⟩
    exact expects_of_rewritesTo reached rfl (derives_map_terminal front) fitting

end Grammar

end ChartParser
