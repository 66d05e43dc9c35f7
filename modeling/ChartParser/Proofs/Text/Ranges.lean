import ChartParser.Text.CodePoints

/-!
# Comparing code point tables

Two character properties are compared by comparing their tables, range by range: one property
implies another if every range of the first lies within a range of the second (`covers`), and
excludes it if no two ranges overlap (`apart`). Both comparisons are evaluated. A search finds every
code point that some range has as long as the table is in increasing order (`increasingFrom`).
-/

namespace ChartParser.Text

variable {inner outer left right : List CodeRange} {code first : Nat}

/-- Whether each of the ranges lies within one of the others. Both lists are in increasing order, so
what is passed in the second list is not needed again. -/
def covers : List CodeRange → List CodeRange → Bool
  | [], _ => true
  | range :: inner, outer =>
    match outer.dropWhile fun other => other.first ≤ range.first && other.last < range.first with
    | [] => false
    | other :: rest =>
      other.first ≤ range.first && range.last ≤ other.last && covers inner (other :: rest)

/-- Ranges below a code point may be passed over in a search for it. -/
theorem rangesContain_dropWhile (ranges : List CodeRange) (above : first ≤ code) :
    rangesContain (ranges.dropWhile fun range => range.first ≤ first && range.last < first) code =
      rangesContain ranges code := by
  induction ranges with
  | nil => rfl
  | cons range ranges ih =>
    rw [List.dropWhile_cons]
    split
    · rename_i below
      simp only [Bool.and_eq_true, decide_eq_true_eq] at below
      rw [ih, rangesContain, if_neg (by omega), if_neg (by omega)]
    · rfl

/-- A code point in ranges that are covered is in the ranges that cover them. -/
theorem rangesContain_of_covers (covered : covers inner outer = true)
    (inside : rangesContain inner code = true) : rangesContain outer code = true := by
  induction inner generalizing outer with
  | nil => simp [rangesContain] at inside
  | cons range inner ih =>
    rw [rangesContain] at inside
    split at inside
    · simp at inside
    rename_i reached
    rw [← rangesContain_dropWhile outer (Nat.le_of_not_lt reached)]
    rw [covers] at covered
    split at covered
    · simp at covered
    rename_i other rest shape
    simp only [Bool.and_eq_true, decide_eq_true_eq] at covered
    obtain ⟨⟨before, behind⟩, later⟩ := covered
    rw [shape]
    split at inside
    · rw [rangesContain, if_neg (by omega), if_pos (by omega)]
    · exact ih later inside

/-- A code point that is found lies in one of the ranges. -/
theorem exists_mem_of_rangesContain {ranges : List CodeRange}
    (inside : rangesContain ranges code = true) :
    ∃ range ∈ ranges, range.first ≤ code ∧ code ≤ range.last := by
  induction ranges with
  | nil => simp [rangesContain] at inside
  | cons range ranges ih =>
    rw [rangesContain] at inside
    split at inside
    · simp at inside
    split at inside
    · exact ⟨range, List.mem_cons_self, by omega, by omega⟩
    · obtain ⟨other, listed, bounds⟩ := ih inside
      exact ⟨other, List.mem_cons_of_mem _ listed, bounds⟩

/-- Whether the ranges are in increasing order, with the first of them not below this code point. -/
def increasingFrom : Nat → List CodeRange → Bool
  | _, [] => true
  | low, range :: ranges =>
    low ≤ range.first && range.first ≤ range.last && increasingFrom (range.last + 1) ranges

/-- No range of an increasing table starts below its beginning. -/
theorem le_first_of_increasingFrom {low : Nat} {range : CodeRange} {ranges : List CodeRange}
    (ordered : increasingFrom low ranges = true) (listed : range ∈ ranges) : low ≤ range.first := by
  induction ranges generalizing low with
  | nil => cases listed
  | cons other ranges ih =>
    simp only [increasingFrom, Bool.and_eq_true, decide_eq_true_eq] at ordered
    obtain ⟨⟨start, nonempty⟩, rest⟩ := ordered
    rcases List.mem_cons.1 listed with rfl | behind
    · exact start
    · have later := ih rest behind
      omega

/-- A code point in a range of an increasing table is found. -/
theorem rangesContain_of_mem {low : Nat} {range : CodeRange} {ranges : List CodeRange}
    (ordered : increasingFrom low ranges = true) (listed : range ∈ ranges)
    (above : range.first ≤ code) (below : code ≤ range.last) :
    rangesContain ranges code = true := by
  induction ranges generalizing low with
  | nil => cases listed
  | cons other ranges ih =>
    simp only [increasingFrom, Bool.and_eq_true, decide_eq_true_eq] at ordered
    obtain ⟨⟨start, nonempty⟩, rest⟩ := ordered
    rw [rangesContain]
    rcases List.mem_cons.1 listed with rfl | behind
    · rw [if_neg (Nat.not_lt.2 above), if_pos below]
    · have later := le_first_of_increasingFrom rest behind
      rw [if_neg (by omega), if_neg (by omega)]
      exact ih rest behind

/-- Whether no two ranges of the two lists overlap. -/
def apart (left right : List CodeRange) : Bool :=
  left.all fun range => right.all fun other =>
    range.last < other.first || other.last < range.first

/-- A code point in one of two lists that are apart is not in the other. -/
theorem rangesContain_eq_false_of_apart (separate : apart left right = true)
    (inside : rangesContain left code = true) : rangesContain right code = false := by
  refine Bool.eq_false_iff.2 fun both => ?_
  obtain ⟨range, listed, above, below⟩ := exists_mem_of_rangesContain inside
  obtain ⟨other, listedToo, aboveToo, belowToo⟩ := exists_mem_of_rangesContain both
  have separated := List.all_eq_true.1 (List.all_eq_true.1 separate range listed) other listedToo
  simp only [Bool.or_eq_true, decide_eq_true_eq] at separated
  omega

end ChartParser.Text
