import ChartParser.Morphology.LexicalToken
import ChartParser.Proofs.Morphology.Specs
import ChartParser.Proofs.Text.Lowercase

/-!
# How the text of a literal is compared

A literal keeps its text in lower case. A text that has no uppercase character is compared with it
as it stands, which is right if the text is its own lower case. It is, unless it has a titlecase
letter: such a letter is not uppercase, but lower-casing changes it. So letter case is disregarded
in every text but those with titlecase letters and no uppercase characters (`textEq_iff`), and these
fit no literal.
-/

namespace ChartParser

namespace Terminal

variable {spec : String} {terminal : Terminal} {literal : Literal}

/-- The text of a literal that was read from a spec is in lower case. -/
theorem isLowered_text_of_ofSpec (read : ofSpec spec = .ok terminal)
    (quoted : terminal.literal? = some literal) :
    ∀ c ∈ literal.text.toList, Text.IsLowered c := by
  obtain ⟨name, demand⟩ := terminal
  cases (ofSpec_eq_ok_iff.1 read).2 with
  | literal =>
    obtain rfl := Option.some.inj quoted
    exact Text.lowercase_eq_self_iff.1 (Text.lowercase_lowercase _)
  | category => cases quoted

/-- The comparison of texts says that a text is the literal's exactly if the literal's text is the
lower case of it, unless it has a titlecase letter and no uppercase character. A text of this kind
is never the literal's. -/
theorem textEq_iff (read : ofSpec spec = .ok terminal)
    (quoted : terminal.literal? = some literal) (text : String) :
    Literal.textEq literal.text text = true ↔
      literal.text = Text.lowercase text ∧
        (text.toList.any Text.isTitlecase = true → text.toList.any Text.isUppercase = true) := by
  have lowered := isLowered_text_of_ofSpec read quoted
  rw [Literal.textEq, Bool.or_eq_true, Bool.and_eq_true, beq_iff_eq, beq_iff_eq]
  constructor
  · rintro (same | ⟨upper, same⟩)
    · rw [same] at lowered
      refine ⟨same.trans (Text.lowercase_eq_self_iff.2 lowered).symm, fun title => ?_⟩
      obtain ⟨c, inside, titlecase⟩ := List.any_eq_true.1 title
      exact absurd (lowered c inside) (Text.not_isLowered_of_isTitlecase titlecase)
    · exact ⟨same, fun _ => upper⟩
  · rintro ⟨same, beside⟩
    cases upper : text.toList.any Text.isUppercase with
    | true => exact Or.inr ⟨rfl, same⟩
    | false =>
      refine Or.inl (same.trans (Text.lowercase_eq_self_iff.2 fun c inside => ?_))
      by_cases changed : Text.IsLowered c
      · exact changed
      rcases Text.isUppercase_or_isTitlecase changed with capital | titlecase
      · have none := List.any_eq_false.1 upper c inside
        exact absurd capital none
      · have some := beside (List.any_eq_true.2 ⟨c, inside, titlecase⟩)
        rw [upper] at some
        cases some

/-- A literal fits the text of its spec, which begins with a titlecase letter and goes on with an
uppercase one. -/
theorem textEq_titlecase_uppercase : ∃ terminal literal, ofSpec "\"ǅA\"" = .ok terminal ∧
    terminal.literal? = some literal ∧ Literal.textEq literal.text "ǅA" = true :=
  ⟨⟨"\"ǅA\"", .literal ⟨"ǆa", none, false⟩⟩, ⟨"ǆa", none, false⟩, rfl, rfl,
    (@textEq_iff "\"ǅA\"" ⟨"\"ǅA\"", .literal ⟨"ǆa", none, false⟩⟩ _ rfl rfl "ǅA").2
      ⟨by decide, by decide⟩⟩

/-- A literal does not fit the text of its own spec, a titlecase letter, where tokens are compared
by their texts. A word with a lexicon, which is compared by its lower case, fits. -/
theorem textEq_titlecase_alone : ∃ terminal literal, ofSpec "\"ǅ\"" = .ok terminal ∧
    terminal.literal? = some literal ∧ literal.text = Text.lowercase "ǅ" ∧
    Literal.textEq literal.text "ǅ" = false ∧ terminal.fitsBase "ǅ" "ǅ" = false ∧
    LexicalToken.fits ⟨⟨"ǅ", .word []⟩, .empty⟩ terminal = true :=
  ⟨⟨"\"ǅ\"", .literal ⟨"ǆ", none, false⟩⟩, ⟨"ǆ", none, false⟩, rfl, rfl, by decide, by decide,
    by decide, by decide⟩

end Terminal

end ChartParser
