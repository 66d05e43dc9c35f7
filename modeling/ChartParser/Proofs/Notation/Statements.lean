import ChartParser.Proofs.Notation.Loading
import ChartParser.Proofs.Notation.Names
import ChartParser.Proofs.Text.Lines

/-!
# What grammar texts state

Whatever a text looks like, the heads and symbols in its statements are names of the notation
(`proper_of_mem_stated`), since this is all that is read as one.
-/

namespace ChartParser

/-! ## Parts of texts -/

namespace Text

/-- The pieces of a sequence hold no element that cuts it. -/
theorem cut_of_mem_splitBy {α : Type} {cut : α → Bool} {cs piece : List α}
    (listed : piece ∈ splitBy cut cs) : ∀ c ∈ piece, cut c = false := by
  induction cs generalizing piece with
  | nil =>
    rw [List.mem_singleton.1 listed]
    simp
  | cons c rest ih =>
    rw [splitBy] at listed
    split at listed
    · rcases List.mem_cons.1 listed with rfl | later
      · simp
      · exact ih later
    · rename_i whole
      rw [Bool.not_eq_true] at whole
      split at listed
      · rw [List.mem_singleton.1 listed]
        exact List.forall_mem_singleton.2 whole
      · rename_i first pieces shape
        rcases List.mem_cons.1 listed with rfl | later
        · exact List.forall_mem_cons.2 ⟨whole, ih (shape ▸ List.mem_cons_self)⟩
        · exact ih (shape ▸ List.mem_cons_of_mem _ later)

/-- A line without its carriage return is the front of the line. -/
theorem dropReturn_prefix (cs : List Char) : dropReturn cs <+: cs := by
  unfold dropReturn
  split
  · exact List.dropLast_prefix cs
  · exact List.prefix_refl cs

/-- Every line is the front of a piece between line feeds. -/
theorem exists_piece_of_mem_linesOfPieces {pieces : List (List Char)} {line : List Char}
    (listed : line ∈ linesOfPieces pieces) : ∃ piece ∈ pieces, line <+: piece := by
  induction pieces with
  | nil => simp [linesOfPieces] at listed
  | cons piece pieces ih =>
    cases pieces with
    | nil =>
      rw [linesOfPieces] at listed
      split at listed
      · simp at listed
      · rw [List.mem_singleton.1 listed]
        exact ⟨piece, List.mem_singleton_self piece, List.prefix_refl piece⟩
    | cons next pieces =>
      rw [linesOfPieces_cons (List.cons_ne_nil _ _)] at listed
      rcases List.mem_cons.1 listed with rfl | later
      · exact ⟨piece, List.mem_cons_self, dropReturn_prefix piece⟩
      · obtain ⟨other, among, front⟩ := ih later
        exact ⟨other, List.mem_cons_of_mem _ among, front⟩

/-- A line has no line feed. -/
theorem lineFeed_not_mem_of_mem_lines {text line : String} (listed : line ∈ lines text) :
    '\n' ∉ line.toList := by
  obtain ⟨cs, among, rfl⟩ := List.mem_map.1 listed
  obtain ⟨piece, cut, front⟩ := exists_piece_of_mem_linesOfPieces among
  rw [String.toList_ofList]
  intro inside
  simpa using cut_of_mem_splitBy cut _ (front.mem inside)

/-- A trimmed text is part of the text. -/
theorem trim_subset (cs : List Char) : trim cs ⊆ cs := by
  intro c inside
  have trimmed := List.dropWhile_subset _ (List.mem_reverse.1 inside)
  exact List.dropWhile_subset _ (List.mem_reverse.1 trimmed)

end Text

namespace Notation

/-- What stands before a comment is the front of the text. -/
theorem beforeComment_prefix (quote : Option Char) (cs : List Char) :
    beforeComment quote cs <+: cs := by
  induction cs generalizing quote with
  | nil => exact List.prefix_refl []
  | cons c rest ih =>
    cases quote with
    | none =>
      rw [beforeComment]
      split
      · exact List.nil_prefix
      · exact List.prefix_cons_inj c |>.2 (ih _)
    | some opened =>
      rw [beforeComment]
      exact List.prefix_cons_inj c |>.2 (ih _)

/-- The statement uses names of the notation only, each in one line, and its alternative is not
empty. -/
def Statement.Proper : Statement → Prop
  | .head name => IsHead name.toList
  | .alternative symbols => symbols ≠ [] ∧
      ∀ symbol ∈ symbols, IsWritten symbol.name.toList ∧ '\n' ∉ symbol.name.toList

/-- What a right-hand side states is proper. -/
theorem proper_of_mem_statedSide {rhs : List Char} {statement : Statement} (oneLine : '\n' ∉ rhs)
    (listed : statement ∈ statedSide rhs) : statement.Proper := by
  rw [statedSide] at listed
  split at listed
  · simp at listed
  split at listed
  · rename_i alternatives read
    obtain ⟨alternative, among, rfl⟩ := List.mem_map.1 listed
    obtain ⟨nonempty, lexed⟩ := of_alternativesFrom_eq_ok read alternative among
    refine ⟨nonempty, fun symbol inside => ?_⟩
    rcases lexed symbol inside with none | found
    · simp at none
    · obtain ⟨written, within⟩ := isWritten_of_mem_firstLexemes found
      exact ⟨written, fun feed => oneLine (within feed)⟩
  · simp at listed

/-- What the content of a line states is proper. -/
theorem proper_of_mem_statedContent {content : List Char} {statement : Statement}
    (oneLine : '\n' ∉ content) (listed : statement ∈ statedContent content) :
    statement.Proper := by
  unfold statedContent at listed
  split at listed
  · simp at listed
  · exact proper_of_mem_statedSide (fun inside => oneLine (List.mem_cons_of_mem _ inside)) listed
  · split at listed
    · simp at listed
    · rename_i name rhs front
      obtain ⟨head, behind⟩ := ruleFront?_eq_some front
      rcases List.mem_cons.1 listed with rfl | later
      · rw [Statement.Proper, String.toList_ofList]
        exact head
      · exact proper_of_mem_statedSide (fun inside => oneLine (behind.mem inside)) later

/-- What a text states is proper. -/
theorem proper_of_mem_stated {source : String} {statement : Statement}
    (listed : statement ∈ stated source) : statement.Proper := by
  obtain ⟨line, among, inside⟩ := List.mem_flatMap.1 listed
  refine proper_of_mem_statedContent (fun feed => ?_) inside
  have front := beforeComment_prefix none line.toList
  exact Text.lineFeed_not_mem_of_mem_lines among (front.mem (Text.trim_subset _ feed))

end Notation

end ChartParser
