import ChartParser.Morphology.Terminal

/-!
# What a spec says

A spec in quotes says what stands between them, and any other spec names a category with variants.
These are the only specs that are read (`Terminal.ofSpec_eq_ok_iff`).
-/

namespace ChartParser

/-- A spec says what its terminal asks for: something between two equal quotes, or the parts of a
text that begins with no quote, the first of which is not empty. -/
inductive Specifies (spec : String) : Demand → Prop
  | literal {quote : Char} {inner : List Char} (quoted : quote = '"' ∨ quote = '\x27')
      (shape : spec.toList = quote :: (inner ++ [quote])) (nonempty : inner ≠ []) :
      Specifies spec (.literal (Literal.ofInner quote inner))
  | category {c : Char} {rest : List Char} {head : String} {others : List String}
      (shape : spec.toList = c :: rest) (unquoted : ¬ (c = '"' ∨ c = '\x27'))
      (parts : Text.splitAt '_' spec = head :: others) (nonempty : head ≠ "") :
      Specifies spec (.category (Category.ofName head) (others.map Variant.ofName))

namespace Terminal

variable {spec : String} {terminal : Terminal}

/-- A spec that is read is known by itself and says what is asked for. -/
theorem specifies_of_ofSpec (read : ofSpec spec = .ok terminal) :
    terminal.name = spec ∧ Specifies spec terminal.demand := by
  rw [ofSpec] at read
  split at read
  · rename_i c rest shape
    split at read
    · rename_i quoted
      split at read
      · cases read
      · rename_i closed
        obtain rfl := Except.ok.inj read
        simp only [Bool.or_eq_true, decide_eq_true_eq, bne_iff_ne, not_or] at quoted closed
        obtain ⟨long, last⟩ := closed
        have last := Decidable.not_not.1 last
        obtain ⟨inner, rfl⟩ := List.getLast?_eq_some_iff.1 last
        rw [List.dropLast_concat]
        refine ⟨rfl, .literal quoted shape ?_⟩
        rintro rfl
        exact long Nat.one_lt_two
    · rename_i unquoted
      simp only [Bool.or_eq_true, decide_eq_true_eq] at unquoted
      split at read
      · rename_i demand parts
        obtain rfl := Except.ok.inj read
        generalize listed : Text.splitAt '_' spec = pieces at parts
        cases pieces with
        | nil => cases parts
        | cons head others =>
          rw [Demand.ofParts] at parts
          split at parts
          · cases parts
          · rename_i nonempty
            obtain rfl := Option.some.inj parts
            exact ⟨rfl, .category shape unquoted listed (by simpa using nonempty)⟩
      · cases read
  · cases read

/-- A spec that says what is asked for is read. -/
theorem ofSpec_of_specifies {demand : Demand} (described : Specifies spec demand) :
    ofSpec spec = .ok ⟨spec, demand⟩ := by
  rw [ofSpec]
  cases described with
  | @literal quote inner quoted shape nonempty =>
    have long : ¬ (inner ++ [quote]).length < 2 := by
      have some := List.length_pos_iff.2 nonempty
      rw [List.length_append, List.length_singleton]
      omega
    rw [shape]
    dsimp only
    rw [if_pos (by simpa using quoted), List.getLast?_concat, List.dropLast_concat,
      if_neg (by simpa using long)]
  | category shape unquoted parts nonempty =>
    rw [shape]
    dsimp only
    rw [if_neg (by simpa using unquoted), parts, Demand.ofParts, if_neg (by simpa using nonempty)]

/-- A spec is read if it says what is asked for, and only then. -/
theorem ofSpec_eq_ok_iff :
    ofSpec spec = .ok terminal ↔ terminal.name = spec ∧ Specifies spec terminal.demand := by
  constructor
  · exact specifies_of_ofSpec
  · rintro ⟨rfl, described⟩
    exact ofSpec_of_specifies described

end Terminal

end ChartParser
