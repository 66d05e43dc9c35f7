import ChartParser.Proofs.Text.Ranges
import ChartParser.Text.Casing
import ChartParser.Text.Uppercase

/-!
# Lower case and upper case compared

Lower-casing changes uppercase characters and titlecase letters, and nothing else. It never leaves a
character that it would change again, so it is idempotent, and a text is its own lower case exactly
if each of its characters is. That the images of the mapping are not mapped again is seen from its
rows: the images of a row and the code points that another moves lie apart, or both go in even steps
at an odd distance.
-/

namespace ChartParser.Text

/-- The code points of the titlecase letters, category Lt, in increasing order. -/
def titlecaseRanges : List CodeRange :=
  [⟨0x1C5, 0x1C5⟩, ⟨0x1C8, 0x1C8⟩, ⟨0x1CB, 0x1CB⟩, ⟨0x1F2, 0x1F2⟩, ⟨0x1F88, 0x1F8F⟩,
   ⟨0x1F98, 0x1F9F⟩, ⟨0x1FA8, 0x1FAF⟩, ⟨0x1FBC, 0x1FBC⟩, ⟨0x1FCC, 0x1FCC⟩, ⟨0x1FFC, 0x1FFC⟩]

/-- Whether the character is a titlecase letter. -/
def isTitlecase (c : Char) : Bool := inRanges titlecaseRanges c

/-- Lower-casing leaves the character as it is. -/
def IsLowered (c : Char) : Prop := lowercaseChar c = [c]

instance (c : Char) : Decidable (IsLowered c) := inferInstanceAs (Decidable (lowercaseChar c = [c]))

variable {rows : List MapRow} {code image : Nat} {c d : Char}

/-! ## Rows of a case mapping -/

/-- The row moves the code point. -/
structure MapRow.Moves (row : MapRow) (code : Nat) : Prop where
  above : row.first ≤ code
  below : code ≤ row.last
  onStep : (code - row.first) % row.step = 0

/-- The code points that the row moves. -/
def MapRow.codes (row : MapRow) : List Nat :=
  (List.range ((row.last - row.first) / row.step + 1)).map fun i => row.first + i * row.step

/-- A code point that the row moves is listed. -/
theorem MapRow.Moves.mem_codes {row : MapRow} (moves : row.Moves code) : code ∈ row.codes := by
  obtain ⟨above, below, onStep⟩ := moves
  refine List.mem_map.2 ⟨(code - row.first) / row.step, List.mem_range.2 ?_, ?_⟩
  · exact Nat.lt_succ_of_le (Nat.div_le_div_right (Nat.sub_le_sub_right below _))
  · rw [Nat.div_mul_cancel (Nat.dvd_of_mod_eq_zero onStep)]
    omega

/-- An image comes from a row that moves the code point. -/
theorem exists_moves_of_mapRows? (found : mapRows? rows code = some image) :
    ∃ row ∈ rows, row.Moves code ∧ image = row.target + (code - row.first) := by
  induction rows with
  | nil => simp [mapRows?] at found
  | cons row rows ih =>
    rw [mapRows?] at found
    split at found
    · cases found
    rename_i above
    split at found
    · rename_i inside
      simp only [Bool.and_eq_true, decide_eq_true_eq, beq_iff_eq] at inside
      exact ⟨row, List.mem_cons_self, ⟨Nat.not_lt.1 above, inside.1, inside.2⟩,
        (Option.some.inj found).symm⟩
    · obtain ⟨other, listed, moved⟩ := ih found
      exact ⟨other, List.mem_cons_of_mem _ listed, moved⟩

/-- Whether the other row moves no image of the row: they lie apart, or both go in even steps at an
odd distance. The step of a row with one image does not matter. -/
def MapRow.misses (row other : MapRow) : Bool :=
  Nat.blt (row.target + (row.last - row.first)) other.first || Nat.blt other.last row.target ||
    ((row.first == row.last || row.step % 2 == 0) && other.step % 2 == 0 &&
      (row.target + other.first) % 2 == 1)

/-- A row that misses another has no image that the other moves. -/
theorem MapRow.not_moves_of_misses {row other : MapRow} (missed : row.misses other = true)
    (moves : row.Moves code) : ¬ other.Moves (row.target + (code - row.first)) := by
  rintro ⟨above, below, onStep⟩
  obtain ⟨first, last, step⟩ := moves
  simp only [misses, Bool.or_eq_true, Bool.and_eq_true, Nat.blt_eq, beq_iff_eq] at missed
  -- a remainder of zero modulo an even step is an even number
  have even : ∀ {n step : Nat}, step % 2 = 0 → n % step = 0 → n % 2 = 0 := fun halves none =>
    Nat.mod_eq_zero_of_dvd
      (Nat.dvd_trans (Nat.dvd_of_mod_eq_zero halves) (Nat.dvd_of_mod_eq_zero none))
  rcases missed with (before | behind) | ⟨⟨single | steps, otherSteps⟩, odd⟩
  · omega
  · omega
  · have otherEven := even otherSteps onStep
    omega
  · have rowEven := even steps step
    have otherEven := even otherSteps onStep
    omega

/-! ## The lower case of a character -/

/-- The lower case of a character is the character itself, the expansion of the capital I with dot
above, or the image under one of the rows. -/
theorem lowercaseChar_cases (c : Char) :
    IsLowered c ∨ (c.toNat = 0x130 ∧ lowercaseChar c = [Char.ofNat 0x69, Char.ofNat 0x307]) ∨
      ∃ row ∈ lowercaseRows, row.Moves c.toNat ∧
        lowercaseChar c = [Char.ofNat (row.target + (c.toNat - row.first))] := by
  by_cases dotted : c.toNat = 0x130
  · refine Or.inr (Or.inl ⟨dotted, ?_⟩)
    rw [lowercaseChar, mapThrough, dotted]
    rfl
  have single : lowercaseExpansions.lookup c.toNat = none := by
    rw [lowercaseExpansions, List.lookup_cons, beq_false_of_ne dotted]
    rfl
  cases found : mapRows? lowercaseRows c.toNat with
  | none =>
    refine Or.inl ?_
    simp only [IsLowered, lowercaseChar, mapThrough, single, found]
  | some image =>
    obtain ⟨row, listed, moves, rfl⟩ := exists_moves_of_mapRows? found
    refine Or.inr (Or.inr ⟨row, listed, moves, ?_⟩)
    simp only [lowercaseChar, mapThrough, single, found]

/-- A character that no row moves is its own lower case, the capital I with dot above apart. -/
theorem isLowered_of_not_moves (single : c.toNat ≠ 0x130)
    (unmoved : ∀ row ∈ lowercaseRows, ¬ row.Moves c.toNat) : IsLowered c := by
  rcases lowercaseChar_cases c with lowered | ⟨dotted, -⟩ | ⟨row, listed, moves, -⟩
  · exact lowered
  · exact absurd dotted single
  · exact absurd moves (unmoved row listed)

/-- The capital I with dot above, as a row that moves it alone. -/
def dottedRow : MapRow := ⟨0x130, 0x130, 1, 0x69⟩

/-- The images of every row are missed by every row, and none is the capital I with dot above. -/
theorem lowercaseRows_miss :
    (lowercaseRows.all fun row => (dottedRow :: lowercaseRows).all row.misses) = true := by
  decide +kernel

/-- The image of a code point under a row is its own lower case. -/
theorem isLowered_image {row : MapRow} (listed : row ∈ lowercaseRows) (moves : row.Moves code) :
    IsLowered (Char.ofNat (row.target + (code - row.first))) := by
  have unmoved : ∀ other ∈ dottedRow :: lowercaseRows,
      ¬ other.Moves (row.target + (code - row.first)) := fun other listedToo =>
    have missed := List.all_eq_true.1 (List.all_eq_true.1 lowercaseRows_miss row listed)
    MapRow.not_moves_of_misses (missed other listedToo) moves
  obtain ⟨undotted, still⟩ := List.forall_mem_cons.1 unmoved
  by_cases valid : (row.target + (code - row.first)).isValidChar
  · have image : (Char.ofNat (row.target + (code - row.first))).toNat =
        row.target + (code - row.first) := by
      rw [Char.ofNat, dif_pos valid]
      rfl
    rw [← image] at undotted still
    refine isLowered_of_not_moves (fun dotted => undotted ?_) still
    rw [dotted]
    exact ⟨Nat.le_refl _, Nat.le_refl _, rfl⟩
  · -- a number that is no code point stands for the null character
    have null : Char.ofNat (row.target + (code - row.first)) = Char.ofNat 0 := by
      rw [Char.ofNat, dif_neg valid]
      rfl
    rw [null]
    decide

/-- The characters of a lower case are their own lower case. -/
theorem isLowered_of_mem_lowercaseChar (image : d ∈ lowercaseChar c) : IsLowered d := by
  rcases lowercaseChar_cases c with lowered | ⟨-, expansion⟩ | ⟨row, listed, moves, single⟩
  · rw [lowered, List.mem_singleton] at image
    rw [image]
    exact lowered
  · rw [expansion] at image
    have both : IsLowered (Char.ofNat 0x69) ∧ IsLowered (Char.ofNat 0x307) := by decide
    rcases List.mem_cons.1 image with rfl | dot
    · exact both.1
    · rw [List.mem_singleton.1 dot]
      exact both.2
  · rw [single, List.mem_singleton] at image
    rw [image]
    exact isLowered_image listed moves

/-- The code points that lower-casing moves to another single code point, each as a range, without
those that are uppercase but no letters and without the titlecase letters. -/
def movedLetterRanges : List CodeRange :=
  ((lowercaseRows.flatMap MapRow.codes).filter fun code =>
    !rangesContain otherUppercaseRanges code && !rangesContain titlecaseRanges code).map
      fun code => ⟨code, code⟩

/-- These code points are in increasing order, and all of category Lu. -/
theorem movedLetterRanges_covered :
    (increasingFrom 0 movedLetterRanges && covers movedLetterRanges uppercaseLetterRanges) =
      true := by
  decide +kernel

/-- A code point that lower-casing moves is of category Lu, if it is not uppercase for another
reason and not titlecase. -/
theorem rangesContain_uppercaseLetterRanges {row : MapRow} (listed : row ∈ lowercaseRows)
    (moves : row.Moves code) (other : rangesContain otherUppercaseRanges code = false)
    (title : rangesContain titlecaseRanges code = false) :
    rangesContain uppercaseLetterRanges code = true := by
  obtain ⟨ordered, covered⟩ := Bool.and_eq_true_iff.1 movedLetterRanges_covered
  have moved : ⟨code, code⟩ ∈ movedLetterRanges := by
    refine List.mem_map_of_mem (List.mem_filter.2 ⟨?_, ?_⟩)
    · exact List.mem_flatMap.2 ⟨row, listed, moves.mem_codes⟩
    · rw [other, title]
      rfl
  exact rangesContain_of_covers covered
    (rangesContain_of_mem ordered moved (Nat.le_refl _) (Nat.le_refl _))

/-- A character that lower-casing changes is uppercase or a titlecase letter. -/
theorem isUppercase_or_isTitlecase (changed : ¬ IsLowered c) :
    isUppercase c = true ∨ isTitlecase c = true := by
  rcases lowercaseChar_cases c with lowered | ⟨dotted, -⟩ | ⟨row, listed, moves, -⟩
  · exact absurd lowered changed
  · refine Or.inl ?_
    rw [← Char.ofNat_toNat c, dotted]
    decide
  · cases other : inRanges otherUppercaseRanges c with
    | true => exact Or.inl (by rw [isUppercase, other, Bool.or_true])
    | false =>
      cases title : isTitlecase c with
      | true => exact Or.inr rfl
      | false =>
        have letter := rangesContain_uppercaseLetterRanges listed moves other title
        exact Or.inl (by rw [isUppercase, isUppercaseLetter, inRanges, letter, Bool.true_or])

/-- Lower-casing changes every titlecase letter. -/
theorem not_isLowered_of_isTitlecase (title : isTitlecase c = true) : ¬ IsLowered c := by
  obtain ⟨range, listed, above, below⟩ := exists_mem_of_rangesContain title
  have changed : ∀ range ∈ titlecaseRanges, ∀ distance ≤ range.last - range.first,
      ¬ IsLowered (Char.ofNat (range.first + distance)) := by decide
  have here := changed range listed (c.toNat - range.first) (Nat.sub_le_sub_right below _)
  rwa [Nat.add_sub_cancel' above, Char.ofNat_toNat] at here

/-! ## The lower case of a text -/

/-- Characters that are their own lower case are left as they are. -/
theorem lowercaseAfter_of_isLowered {cs : List Char} (lowered : ∀ c ∈ cs, IsLowered c)
    (before : List Char) : lowercaseAfter before cs = cs := by
  induction cs generalizing before with
  | nil => rfl
  | cons c cs ih =>
    obtain ⟨first, rest⟩ := List.forall_mem_cons.1 lowered
    have sigma : c ≠ 'Σ' := by
      rintro rfl
      exact absurd first (by decide)
    rw [lowercaseAfter, if_neg sigma, ih rest, first, List.singleton_append]

/-- The lower case of a text is made of characters that are their own lower case. -/
theorem isLowered_of_mem_lowercaseAfter {before cs : List Char} :
    ∀ c ∈ lowercaseAfter before cs, IsLowered c := by
  induction cs generalizing before with
  | nil =>
    intro c inside
    cases inside
  | cons first cs ih =>
    intro c inside
    rw [lowercaseAfter] at inside
    rcases List.mem_append.1 inside with head | rest
    · split at head
      · have sigmas : IsLowered 'ς' ∧ IsLowered 'σ' := by decide
        rw [List.mem_singleton.1 head, lowercaseSigma]
        split
        · exact sigmas.1
        · exact sigmas.2
      · exact isLowered_of_mem_lowercaseChar head
    · exact ih c rest

/-- A text is its own lower case exactly if its characters are. -/
theorem lowercase_eq_self_iff {text : String} :
    lowercase text = text ↔ ∀ c ∈ text.toList, IsLowered c := by
  constructor
  · intro own c inside
    rw [← own, lowercase, String.toList_ofList] at inside
    exact isLowered_of_mem_lowercaseAfter c inside
  · intro lowered
    rw [lowercase, lowercaseAfter_of_isLowered lowered, String.ofList_toList]

/-- Lower-casing a text twice is lower-casing it once. -/
theorem lowercase_lowercase (text : String) : lowercase (lowercase text) = lowercase text := by
  refine lowercase_eq_self_iff.2 fun c inside => ?_
  rw [lowercase, String.toList_ofList] at inside
  exact isLowered_of_mem_lowercaseAfter c inside

end ChartParser.Text
