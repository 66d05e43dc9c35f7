import ChartParser.Proofs.Notation.Lexing
import ChartParser.Proofs.Notation.Statements
import ChartParser.Proofs.Text.Lines
import ChartParser.Session.Dialogue
import Mathlib.Tactic.SplitIfs

/-!
# The input of a session

A session cuts its input into lines before it knows that the bytes are text. Nothing is lost by
that: in the encoding of a text only the byte of a line feed is a line feed, so that every line that
is cut off is the encoding of a line of the text (`Text.cutLine_encode_lineFeed`). All lines are
read into one buffer, but nothing of a line is left in it when the next one is read
(`Session.Reached.buffer_eq`). So every line is answered by itself, and the session ends well
(`Session.outcomeFrom_start`).
-/

namespace ChartParser

open Text

/-! ## Encoded lines -/

namespace Text

/-- The bytes of a text. -/
def encode (cs : List Char) : List UInt8 := cs.flatMap String.utf8EncodeChar

/-- Only a line feed is written with the byte of one. -/
theorem ne_lineFeed_of_mem_utf8EncodeChar {c : Char} (other : c ≠ '\n') {byte : UInt8}
    (inside : byte ∈ String.utf8EncodeChar c) : byte ≠ 10 := by
  have differs : c.val.toNat ≠ 10 := fun same => other (Char.ext (UInt32.toNat_inj.1 same))
  have bytes : byte.toNat ≠ 10 := by
    rw [String.utf8EncodeChar] at inside
    -- a character of one byte is its own code; in longer codes every byte is 128 or more
    split_ifs at inside <;> simp only [List.mem_cons, List.not_mem_nil, or_false] at inside
    · rw [inside, UInt8.toNat_ofNat']
      omega
    · rcases inside with rfl | rfl <;> rw [UInt8.toNat_ofNat'] <;> omega
    · rcases inside with rfl | rfl | rfl <;> rw [UInt8.toNat_ofNat'] <;> omega
    · rcases inside with rfl | rfl | rfl | rfl <;> rw [UInt8.toNat_ofNat'] <;> omega
  rintro rfl
  exact bytes rfl

/-- The bytes of two texts are those of the texts put together. -/
theorem encode_append (before after : List Char) :
    encode (before ++ after) = encode before ++ encode after := List.flatMap_append

/-- A text without line feeds is written without the byte of one. -/
theorem ne_lineFeed_of_mem_encode {cs : List Char} (whole : '\n' ∉ cs) {byte : UInt8}
    (inside : byte ∈ encode cs) : byte ≠ 10 := by
  obtain ⟨c, among, written⟩ := List.mem_flatMap.1 inside
  exact ne_lineFeed_of_mem_utf8EncodeChar (fun feed => whole (feed ▸ among)) written

/-- What has no line feed belongs to the line that is cut off. -/
theorem cutLine_encode_append {line : List Char} (whole : '\n' ∉ line) (rest : List UInt8) :
    cutLine (encode line ++ rest) = (encode line ++ (cutLine rest).1, (cutLine rest).2) := by
  have kept : ∀ byte ∈ encode line, (byte != 10) = true :=
    fun byte inside => bne_iff_ne.2 (ne_lineFeed_of_mem_encode whole inside)
  simp only [cutLine, List.takeWhile_append_of_pos kept, List.dropWhile_append_of_pos kept,
    List.append_assoc]

/-- A line is cut off with its line feed. -/
theorem cutLine_encode_lineFeed {line : List Char} (whole : '\n' ∉ line) (rest : List Char) :
    cutLine (encode (line ++ ['\n'] ++ rest)) = (encode (line ++ ['\n']), encode rest) := by
  have feed : cutLine (encode (['\n'] ++ rest)) = (encode ['\n'], encode rest) := rfl
  rw [List.append_assoc, encode_append, cutLine_encode_append whole, feed, encode_append]

/-- A last line without a line feed is cut off as a whole. -/
theorem cutLine_encode {line : List Char} (whole : '\n' ∉ line) :
    cutLine (encode line) = (encode line, []) := by
  have alone := cutLine_encode_append whole []
  rwa [List.append_nil, show cutLine [] = ([], []) from rfl, List.append_nil] at alone

/-- A carriage return at the end of a line is white space. -/
theorem trim_dropReturn (cs : List Char) : trim (dropReturn cs) = trim cs := by
  rw [dropReturn]
  split
  · rename_i last
    obtain ⟨before, rfl⟩ := List.getLast?_eq_some_iff.1 last
    rw [List.dropLast_concat, trim_append_singleton (by decide)]
  · rfl

end Text

/-- A text is what its encoding is read as. -/
theorem decodeText_encode (cs : List Char) :
    decodeText ⟨(encode cs).toArray⟩ = .ok (String.ofList cs) := by
  have bytes : (ByteArray.mk (encode cs).toArray) = cs.utf8Encode :=
    ByteArray.ext List.data_toByteArray.symm
  have valid : (ByteArray.mk (encode cs).toArray).IsValidUTF8 := .intro cs bytes
  rw [decodeText, String.fromUTF8?, dif_pos valid]
  refine congrArg Except.ok (String.toByteArray_inj.1 ?_)
  rw [String.toByteArray_ofList]
  exact bytes

/-- Bytes that are read as a text are its encoding. -/
theorem eq_encode_of_decodeText {input : List UInt8} {text : String}
    (read : decodeText ⟨input.toArray⟩ = .ok text) : input = encode text.toList := by
  by_cases valid : (ByteArray.mk input.toArray).IsValidUTF8
  · obtain ⟨cs, bytes⟩ := valid
    have same : input = encode cs := by
      have arrays := congrArg ByteArray.data bytes
      rw [List.utf8Encode, List.data_toByteArray] at arrays
      exact congrArg Array.toList arrays
    rw [same, decodeText_encode] at read
    rw [same, ← Except.ok.inj read, String.toList_ofList]
  · rw [decodeText, String.fromUTF8?, dif_neg valid] at read
    cases read

namespace Session

variable {session : Session} {dialogue next : Dialogue}

/-! ## The buffer -/

/-- The session comes to this dialogue when it is given the input. -/
inductive Reached (session : Session) (input : List UInt8) : Dialogue → Prop
  | start : Reached session input (.start input)
  | turn {dialogue next : Dialogue} (reached : Reached session input dialogue)
      (turned : session.turn dialogue = .inr next) : Reached session input next

/-- Whatever the input, the buffer is clear before every line is read. -/
theorem Reached.buffer_eq {input : List UInt8} (reached : session.Reached input dialogue) :
    dialogue.buffer = "" := by
  cases reached with
  | start => rfl
  | turn _ turned => exact buffer_of_turn turned

/-! ## Turns -/

/-- A line that is read into a clear buffer is answered without the white space around it. -/
theorem turn_of_cutLine (clear : dialogue.buffer = "") {line rest : List Char} (some : line ≠ [])
    (cut : cutLine dialogue.unread = (encode line, encode rest)) :
    session.turn dialogue = .inr ⟨encode rest, "",
      dialogue.written ++ prompt ++ session.answer (String.ofList (trim line))⟩ := by
  have heard : session.hear dialogue.buffer ⟨(encode line).toArray⟩ =
      .answered (session.answer (String.ofList (trim line))) "" := by
    have nonempty : (String.ofList line).isEmpty = false := by
      simpa using some
    rw [hear, decodeText_encode, clear]
    dsimp only
    rw [String.empty_append, nonempty, trimmed, String.toList_ofList]
    rfl
  rw [turn, cut]
  dsimp only
  rw [heard]

/-- A dialogue with a clear buffer ends where nothing is left to read. -/
theorem turn_of_unread_eq_nil (clear : dialogue.buffer = "") (nothing : dialogue.unread = []) :
    session.turn dialogue = .inl ⟨0, dialogue.written ++ prompt, ""⟩ := by
  have heard : session.hear "" ⟨(encode []).toArray⟩ = .ended := by
    rw [hear, decodeText_encode]
    rfl
  rw [turn, nothing, clear]
  dsimp only
  rw [show (cutLine []).1 = encode [] from rfl, heard]

/-- A dialogue that ends leaves behind what its last turn does. -/
theorem outcomeFrom_of_inl {outcome : Outcome} (turned : session.turn dialogue = .inl outcome) :
    session.outcomeFrom dialogue = outcome := by
  rw [outcomeFrom]
  split
  · rename_i ended
    exact Sum.inl.inj (ended.symm.trans turned)
  · rename_i onward
    cases onward.symm.trans turned

/-- A dialogue that goes on leaves behind what it does from its next turn on. -/
theorem outcomeFrom_of_inr (turned : session.turn dialogue = .inr next) :
    session.outcomeFrom dialogue = session.outcomeFrom next := by
  rw [outcomeFrom]
  split
  · rename_i ended
    cases ended.symm.trans turned
  · rename_i onward
    rw [Sum.inr.inj (onward.symm.trans turned)]

/-! ## Sessions -/

/-- The lines of a text are answered one by one, and the session ends well. -/
theorem outcomeFrom_encode (session : Session) {pieces : List (List Char)} (some : pieces ≠ [])
    (whole : ∀ piece ∈ pieces, '\n' ∉ piece) {dialogue : Dialogue} (clear : dialogue.buffer = "")
    (unread : dialogue.unread = encode (['\n'].intercalate pieces)) :
    session.outcomeFrom dialogue =
      ⟨0, dialogue.written ++ String.join ((linesOfPieces pieces).map fun line =>
        prompt ++ session.answer (String.ofList (trim line))) ++ prompt, ""⟩ := by
  induction pieces generalizing dialogue with
  | nil => exact absurd rfl some
  | cons piece pieces ih =>
    obtain ⟨wholePiece, wholePieces⟩ := List.forall_mem_cons.1 whole
    cases pieces with
    | nil =>
      rw [List.intercalate_singleton] at unread
      by_cases last : piece = []
      · subst last
        rw [outcomeFrom_of_inl (turn_of_unread_eq_nil clear unread)]
        simp [linesOfPieces]
      · have cut : cutLine dialogue.unread = (encode piece, encode []) := by
          rw [unread, cutLine_encode wholePiece]
          rfl
        have ended := @turn_of_unread_eq_nil session ⟨encode [], "", dialogue.written ++ prompt ++
          session.answer (String.ofList (trim piece))⟩ rfl rfl
        rw [outcomeFrom_of_inr (turn_of_cutLine clear last cut), outcomeFrom_of_inl ended]
        simp [linesOfPieces, last, String.append_assoc]
    | cons other pieces =>
      rw [List.intercalate_cons_cons] at unread
      have cut : cutLine dialogue.unread =
          (encode (piece ++ ['\n']), encode (['\n'].intercalate (other :: pieces))) := by
        rw [unread, cutLine_encode_lineFeed wholePiece]
      have turned := @turn_of_cutLine session dialogue clear _ _ (by simp) cut
      rw [outcomeFrom_of_inr turned, ih (List.cons_ne_nil _ _) wholePieces rfl rfl,
        linesOfPieces_cons (List.cons_ne_nil _ _), List.map_cons, String.join_cons,
        trim_dropReturn, trim_append_singleton (by decide)]
      simp only [String.append_assoc]

/-- A session that is given text answers its lines one by one and ends well. -/
theorem outcomeFrom_start (session : Session) {input : List UInt8} {text : String}
    (read : decodeText ⟨input.toArray⟩ = .ok text) :
    session.outcomeFrom (.start input) =
      ⟨0, String.join ((Text.lines text).map fun line =>
        prompt ++ session.answer (trimmed line)) ++ prompt, ""⟩ := by
  have pieces : input = encode (['\n'].intercalate (splitBy (· == '\n') text.toList)) := by
    rw [intercalate_splitBy, eq_encode_of_decodeText read]
  have whole : ∀ piece ∈ splitBy (· == '\n') text.toList, '\n' ∉ piece := by
    intro piece listed inside
    have visible := cut_of_mem_splitBy listed '\n' inside
    exact absurd visible (by decide)
  rw [session.outcomeFrom_encode (splitBy_ne_nil _ _) whole rfl pieces, Text.lines, List.map_map]
  simp only [Function.comp_def, trimmed, String.toList_ofList, Dialogue.start, String.empty_append]

end Session

end ChartParser
