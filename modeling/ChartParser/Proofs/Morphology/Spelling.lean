import ChartParser.Proofs.Morphology.Specs

/-!
# Category specs are read without loss

A category spec is cut at its underscores. Whatever a part is read as keeps the text of the part for
its name, be it a known name, an unknown one or nothing at all, so the names put together again are
the spec (`Specifies.spelling_eq`). Only a spec with nothing before its first underscore is refused.
-/

namespace ChartParser

namespace Text

/-- The first piece goes as far as the first separator. -/
theorem head?_splitBy {α : Type} (cut : α → Bool) (cs : List α) :
    (splitBy cut cs).head? = some (cs.takeWhile fun c => !cut c) := by
  induction cs with
  | nil => rfl
  | cons c rest ih =>
    rw [splitBy, List.takeWhile_cons]
    cases separates : cut c with
    | true => rfl
    | false =>
      obtain ⟨piece, pieces, shape⟩ := List.exists_cons_of_ne_nil (splitBy_ne_nil cut rest)
      rw [shape] at ih ⊢
      obtain rfl := Option.some.inj ih
      rfl

/-- The first part of a text is what stands before the first separator. -/
theorem exists_splitAt_eq (separator : Char) (text : String) :
    ∃ others, splitAt separator text =
      String.ofList (text.toList.takeWhile (· ≠ separator)) :: others := by
  obtain ⟨piece, pieces, shape⟩ :=
    List.exists_cons_of_ne_nil (splitBy_ne_nil (· == separator) text.toList)
  have first := head?_splitBy (· == separator) text.toList
  rw [shape] at first
  obtain rfl := Option.some.inj first
  refine ⟨pieces.map String.ofList, ?_⟩
  rw [splitAt, shape, List.map_cons]
  congr 3
  funext c
  by_cases same : c = separator <;> simp [same]

/-- Parts put together again with the separator between them are the whole. -/
theorem intercalate_splitAt {between : String} {separator : Char}
    (single : between.toList = [separator]) (text : String) :
    between.intercalate (splitAt separator text) = text := by
  have pieces : (splitAt separator text).map String.toList =
      splitBy (· == separator) text.toList := by
    simp [splitAt]
  rw [← String.toList_inj, String.toList_intercalate, single, pieces, intercalate_splitBy]

end Text

/-- The text of a category with variants: their names in order, with underscores between them. -/
def spelling (category : Category) (variants : List Variant) : String :=
  "_".intercalate (category.name :: variants.map Variant.name)

/-- What is read from parts is spelled with these parts. -/
theorem spelling_ofName (head : String) (others : List String) :
    spelling (Category.ofName head) (others.map Variant.ofName) =
      "_".intercalate (head :: others) := by
  have names : (others.map Variant.ofName).map Variant.name = others := by
    rw [List.map_map]
    exact List.map_id'' Variant.name_ofName others
  rw [spelling, Category.name_ofName, names]

/-- The category and the variants that a spec asks for spell the spec. -/
theorem Specifies.spelling_eq {spec : String} {category : Category} {variants : List Variant}
    (described : Specifies spec (.category category variants)) :
    spelling category variants = spec := by
  cases described with
  | category _ _ parts _ => rw [spelling_ofName, ← parts, Text.intercalate_splitAt rfl]

namespace Terminal

variable {spec : String}

/-- A spec without quotes that has nothing before its first underscore is refused. -/
theorem ofSpec_eq_error (unquoted : ∀ c ∈ spec.toList.head?, ¬ (c = '"' ∨ c = '\x27'))
    (bare : spec.toList.takeWhile (· ≠ '_') = []) :
    ofSpec spec = .error (.malformedTerminal spec) := by
  rw [ofSpec]
  split
  · rename_i c rest shape
    have plain : ¬ (c = '"' ∨ c = '\x27') := unquoted c (by rw [shape]; rfl)
    obtain ⟨others, parts⟩ := Text.exists_splitAt_eq '_' spec
    rw [if_neg (by simpa using plain), parts, bare]
    rfl
  · rfl

/-- A spec without quotes that has something before its first underscore is a category with
variants. -/
theorem exists_specifies (unquoted : ∀ c ∈ spec.toList.head?, ¬ (c = '"' ∨ c = '\x27'))
    (named : spec.toList.takeWhile (· ≠ '_') ≠ []) :
    ∃ category variants, Specifies spec (.category category variants) := by
  obtain ⟨others, parts⟩ := Text.exists_splitAt_eq '_' spec
  cases shape : spec.toList with
  | nil => exact absurd (by rw [shape]; rfl) named
  | cons c rest =>
    refine ⟨_, _, .category shape (unquoted c (by rw [shape]; rfl)) parts fun empty => named ?_⟩
    exact String.ofList_eq_empty_iff.1 empty

/-- A terminal with a category spells the spec that it was read from. -/
theorem spelling_of_ofSpec {terminal : Terminal} {category : Category}
    (read : ofSpec spec = .ok terminal) (asked : terminal.category? = some category) :
    spelling category terminal.variants = spec := by
  obtain ⟨name, demand⟩ := terminal
  have described := (ofSpec_eq_ok_iff.1 read).2
  cases demand with
  | literal => cases asked
  | category wanted variants =>
    obtain rfl := Option.some.inj asked
    exact described.spelling_eq

/-- Category specs are read without loss. A spec that does not start with a quote is refused exactly
if nothing stands before its first underscore. Otherwise it is read as a category with variants
whose names, with underscores between them, are the spec, so that no other spec is read as the same
category with the same variants. -/
theorem ofSpec_lossless (unquoted : ∀ c ∈ spec.toList.head?, ¬ (c = '"' ∨ c = '\x27')) :
    (∀ fault, ofSpec spec = .error fault ↔
      spec.toList.takeWhile (· ≠ '_') = [] ∧ fault = .malformedTerminal spec) ∧
    (spec.toList.takeWhile (· ≠ '_') ≠ [] → ∃ terminal category, ofSpec spec = .ok terminal ∧
      terminal.category? = some category ∧ spelling category terminal.variants = spec) ∧
    ∀ other terminal otherTerminal, ofSpec spec = .ok terminal → ofSpec other = .ok otherTerminal →
      otherTerminal.category? = terminal.category? →
      otherTerminal.variants = terminal.variants → other = spec := by
  have accepts : spec.toList.takeWhile (· ≠ '_') ≠ [] → ∃ terminal category,
      ofSpec spec = .ok terminal ∧ terminal.category? = some category ∧
        spelling category terminal.variants = spec := by
    intro named
    obtain ⟨category, variants, described⟩ := exists_specifies unquoted named
    exact ⟨_, category, ofSpec_of_specifies described, rfl, described.spelling_eq⟩
  refine ⟨fun fault => ⟨fun refused => ?_, fun ⟨bare, same⟩ => ?_⟩, accepts,
    fun other terminal otherTerminal read readToo sameCategory sameVariants => ?_⟩
  · by_cases bare : spec.toList.takeWhile (· ≠ '_') = []
    · rw [ofSpec_eq_error unquoted bare] at refused
      exact ⟨bare, (Except.error.inj refused).symm⟩
    · obtain ⟨_, _, read, -⟩ := accepts bare
      rw [read] at refused
      cases refused
  · rw [same, ofSpec_eq_error unquoted bare]
  · have named : spec.toList.takeWhile (· ≠ '_') ≠ [] := by
      intro bare
      rw [ofSpec_eq_error unquoted bare] at read
      cases read
    obtain ⟨_, category, again, asked, spelled⟩ := accepts named
    obtain rfl := Except.ok.inj (read.symm.trans again)
    rw [← spelling_of_ofSpec readToo (sameCategory.trans asked), sameVariants, spelled]

/-- A noun with an empty, a repeated and an unknown variant is read without loss. -/
theorem ofSpec_repeatedVariants :
    (∀ c ∈ "no__et_xyz_et".toList.head?, ¬ (c = '"' ∨ c = '\x27')) ∧
    "no__et_xyz_et".toList.takeWhile (· ≠ '_') ≠ [] ∧
    ∃ terminal, ofSpec "no__et_xyz_et" = .ok terminal ∧
      terminal.demand = .category .noun
        [.other "", .feature .singular, .other "xyz", .feature .singular] ∧
      spelling .noun terminal.variants = "no__et_xyz_et" := by
  have unquoted : ∀ c ∈ "no__et_xyz_et".toList.head?, ¬ (c = '"' ∨ c = '\x27') := by
    intro c first
    obtain rfl : 'n' = c := Option.some.inj first
    decide
  have named : "no__et_xyz_et".toList.takeWhile (· ≠ '_') ≠ [] := by decide
  obtain ⟨-, accepts, -⟩ := ofSpec_lossless unquoted
  obtain ⟨terminal, category, read, asked, spelled⟩ := accepts named
  have known : ofSpec "no__et_xyz_et" = .ok ⟨"no__et_xyz_et", .category .noun
      [.other "", .feature .singular, .other "xyz", .feature .singular]⟩ := rfl
  obtain rfl := Except.ok.inj (known.symm.trans read)
  obtain rfl := Option.some.inj asked
  exact ⟨unquoted, named, _, read, rfl, spelled⟩

end Terminal

end ChartParser
