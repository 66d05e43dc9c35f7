import ChartParser.Text.Pieces

/-!
# Texts made of whole lines

A text that is printed line by line is cut into the lines that it was made of: none of them has a
line feed of its own, and each is ended by one. Only a carriage return at the end of a line is lost.
-/

namespace ChartParser.Text

section Pieces

variable {α : Type} {cut : α → Bool} {piece : List α} {separator : α}

/-- What has no separator belongs to the first piece of what follows. -/
theorem splitBy_append_of_forall (whole : ∀ c ∈ piece, cut c = false) {after first : List α}
    {pieces : List (List α)} (same : splitBy cut after = first :: pieces) :
    splitBy cut (piece ++ after) = (piece ++ first) :: pieces := by
  induction piece with
  | nil => exact same
  | cons c piece ih =>
    obtain ⟨visible, others⟩ := List.forall_mem_cons.1 whole
    rw [List.cons_append, splitBy, visible, ih others]
    rfl

/-- What has no separator is one piece. -/
theorem splitBy_of_forall (whole : ∀ c ∈ piece, cut c = false) : splitBy cut piece = [piece] := by
  have same : splitBy cut (piece ++ []) = [piece ++ []] := splitBy_append_of_forall whole rfl
  rwa [List.append_nil] at same

/-- On the two sides of a separator are pieces of their own. -/
theorem splitBy_append (before : List α) (ends : cut separator = true) (after : List α) :
    splitBy cut (before ++ separator :: after) = splitBy cut before ++ splitBy cut after := by
  induction before with
  | nil =>
    have first : splitBy cut (separator :: after) = [] :: splitBy cut after := by
      rw [splitBy, if_pos ends]
    exact first
  | cons c before ih =>
    rw [List.cons_append, splitBy, splitBy, ih]
    split
    · rfl
    · obtain ⟨piece, pieces, shape⟩ := List.exists_cons_of_ne_nil (splitBy_ne_nil cut before)
      rw [shape]
      rfl

/-- A piece that is ended by a separator comes before the pieces of the rest. -/
theorem splitBy_append_cons (whole : ∀ c ∈ piece, cut c = false) (ends : cut separator = true)
    (rest : List α) : splitBy cut (piece ++ separator :: rest) = piece :: splitBy cut rest := by
  rw [splitBy_append piece ends, splitBy_of_forall whole]
  rfl

end Pieces

/-- A part put behind a separator is the last of the parts. -/
theorem splitAt_append {text before after : String} {separator : Char}
    (same : text.toList = before.toList ++ separator :: after.toList)
    (whole : separator ∉ after.toList) :
    splitAt separator text = splitAt separator before ++ [after] := by
  have uncut : ∀ c ∈ after.toList, (c == separator) = false := by
    intro c inside
    exact beq_eq_false_iff_ne.2 fun equal => whole (equal ▸ inside)
  have pieces : splitBy (· == separator) text.toList =
      splitBy (· == separator) before.toList ++ [after.toList] := by
    rw [same, splitBy_append _ (by simp), splitBy_of_forall uncut]
  rw [splitAt, splitAt, pieces, List.map_append, List.map_singleton, String.ofList_toList]

/-- A piece that is not the last is a line. -/
theorem linesOfPieces_cons {piece : List Char} {pieces : List (List Char)} (more : pieces ≠ []) :
    linesOfPieces (piece :: pieces) = dropReturn piece :: linesOfPieces pieces := by
  cases pieces with
  | nil => exact absurd rfl more
  | cons _ _ => rfl

/-- The text consists of these lines, each ended by a line feed. -/
structure Consists (text : String) (lines : List (List Char)) : Prop where
  toList_eq : text.toList = lines.flatMap (· ++ ['\n'])
  whole : ∀ line ∈ lines, '\n' ∉ line

namespace Consists

variable {text other : String} {lines others : List (List Char)}

/-- A text without lines is empty. -/
theorem nil : Consists "" [] := ⟨rfl, by simp⟩

/-- A line without line feeds becomes a text when one is put behind it. -/
theorem single (whole : '\n' ∉ text.toList) : Consists (text ++ "\n") [text.toList] where
  toList_eq := by simp
  whole := List.forall_mem_singleton.2 whole

/-- Texts behind each other consist of the lines of both. -/
theorem append (before : Consists text lines) (after : Consists other others) :
    Consists (text ++ other) (lines ++ others) where
  toList_eq := by
    rw [String.toList_append, before.toList_eq, after.toList_eq, List.flatMap_append]
  whole := List.forall_mem_append.2 ⟨before.whole, after.whole⟩

/-- Such a text is cut into its lines, and an empty piece behind them. -/
theorem splitBy_eq (consists : Consists text lines) :
    splitBy (· == '\n') text.toList = lines ++ [[]] := by
  obtain ⟨same, whole⟩ := consists
  rw [same]
  clear same
  induction lines with
  | nil => rfl
  | cons line lines ih =>
    obtain ⟨first, rest⟩ := List.forall_mem_cons.1 whole
    have uncut : ∀ c ∈ line, (c == '\n') = false := by
      intro c inside
      exact beq_eq_false_iff_ne.2 fun feed => first (feed ▸ inside)
    rw [List.flatMap_cons, List.append_assoc, List.singleton_append,
      splitBy_append_cons uncut (by rfl), ih rest]
    rfl

/-- The lines of such a text are its lines, without a carriage return at their ends. -/
theorem lines_eq (consists : Consists text lines) :
    Text.lines text = lines.map fun line => String.ofList (dropReturn line) := by
  rw [Text.lines, consists.splitBy_eq]
  suffices same : linesOfPieces (lines ++ [[]]) = lines.map dropReturn by
    rw [same, List.map_map]
    rfl
  clear consists
  induction lines with
  | nil => rfl
  | cons line lines ih => rw [List.cons_append, linesOfPieces_cons (by simp), ih, List.map_cons]

end Consists

end ChartParser.Text
