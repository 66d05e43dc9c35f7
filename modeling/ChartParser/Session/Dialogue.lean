import ChartParser.Session.Basic

/-!
# Dialogues

A session reads its input line by line, always into the same buffer: a line is put behind what the
buffer holds, the buffer is answered, and then it is cleared. A session ends well when nothing is
left to read. Input that is no text ends it with a report.
-/

namespace ChartParser

/-- What a program leaves behind: its exit code, what it wrote, and what it reported as errors. Its
log, which is written to the same place as the report, is no part of it. -/
structure Outcome where
  exitCode : Nat
  output : String
  errors : String
deriving DecidableEq, Repr

/-- The report that a line of input is no text. -/
def invalidInputReport : String :=
  "Error: Error \x7b kind: InvalidData, message: " ++ Text.quoted ReadFailure.invalidText.message ++
    " \x7d\n"

/-- The bytes up to the first line feed and with it, and the bytes behind it. -/
def Text.cutLine (bytes : List UInt8) : List UInt8 × List UInt8 :=
  let rest := bytes.dropWhile (· != 10)
  (bytes.takeWhile (· != 10) ++ rest.take 1, rest.drop 1)

/-- How far a session has come: the input that is still to be read, the buffer that lines are read
into, and what has been written. -/
structure Dialogue where
  unread : List UInt8
  buffer : String
  written : String
deriving DecidableEq, Repr

/-- The dialogue before anything has been read. -/
def Dialogue.start (input : List UInt8) : Dialogue := ⟨input, "", ""⟩

/-- What comes of a line that is read into the buffer. -/
inductive Turn where
  /-- Neither the line nor the buffer had anything in it. -/
  | ended
  /-- The line is no text. -/
  | unreadable
  /-- The buffer has been answered. -/
  | answered (answer buffer : String)
deriving DecidableEq, Repr

namespace Session

/-- What is written before each line is read. -/
def prompt : String := "> "

/-- What comes of a line that is read behind what the buffer holds. The buffer is answered without
the white space around it, and is cleared. -/
def hear (session : Session) (buffer : String) (line : ByteArray) : Turn :=
  match decodeText line with
  | .error _ => .unreadable
  | .ok text =>
    let buffer := buffer ++ text
    if buffer.isEmpty then .ended
    else .answered (session.answer (Text.trimmed buffer)) ""

/-- The dialogue once the next line has been read and answered, or what the session leaves behind if
it ends instead. -/
def turn (session : Session) (dialogue : Dialogue) : Outcome ⊕ Dialogue :=
  let written := dialogue.written ++ prompt
  let (line, unread) := Text.cutLine dialogue.unread
  match session.hear dialogue.buffer ⟨line.toArray⟩ with
  | .ended => .inl ⟨0, written, ""⟩
  | .unreadable => .inl ⟨1, written, invalidInputReport⟩
  | .answered answer buffer => .inr ⟨unread, buffer, written ++ answer⟩

section Progress

variable {session : Session} {dialogue next : Dialogue}

/-- What is answered is not empty, and the buffer is empty afterwards. -/
theorem hear_eq_answered {buffer answer rest : String} {line : ByteArray}
    (heard : session.hear buffer line = .answered answer rest) :
    rest = "" ∧ ∃ text, decodeText line = .ok text ∧ buffer ++ text ≠ "" ∧
      answer = session.answer (Text.trimmed (buffer ++ text)) := by
  unfold hear at heard
  split at heard
  · cases heard
  · rename_i text read
    dsimp only at heard
    split at heard
    · cases heard
    · rename_i some
      obtain ⟨rfl, rfl⟩ := Turn.answered.inj heard
      exact ⟨rfl, text, read, fun none => some (String.isEmpty_iff.2 none), rfl⟩

/-- A dialogue goes on if the next line has been answered, which is then no longer unread. -/
theorem turn_eq_inr (turned : session.turn dialogue = .inr next) :
    ∃ answer, session.hear dialogue.buffer ⟨(Text.cutLine dialogue.unread).1.toArray⟩ =
        .answered answer next.buffer ∧
      next.unread = (Text.cutLine dialogue.unread).2 ∧
      next.written = dialogue.written ++ prompt ++ answer := by
  unfold turn at turned
  dsimp only at turned
  split at turned
  · cases turned
  · cases turned
  · rename_i answer buffer heard
    obtain rfl := Sum.inr.inj turned
    exact ⟨answer, heard, rfl, rfl⟩

/-- The buffer is clear after every turn. -/
theorem buffer_of_turn (turned : session.turn dialogue = .inr next) : next.buffer = "" := by
  obtain ⟨answer, heard, -⟩ := turn_eq_inr turned
  exact (hear_eq_answered heard).1

/-- Every turn reads something or clears the buffer. -/
theorem lt_of_turn (turned : session.turn dialogue = .inr next) :
    next.unread.length + next.buffer.length < dialogue.unread.length + dialogue.buffer.length := by
  obtain ⟨answer, heard, unread, -⟩ := turn_eq_inr turned
  obtain ⟨clear, text, read, some, -⟩ := hear_eq_answered heard
  rw [clear, unread, String.length_empty, Nat.add_zero]
  cases shape : dialogue.unread with
  | nil =>
    rw [shape] at read
    obtain rfl : text = "" := (Except.ok.inj read).symm
    rw [String.append_empty] at some
    exact Nat.lt_add_left _ (Nat.pos_of_ne_zero fun none => some (String.length_eq_zero_iff.1 none))
  | cons byte bytes =>
    have shorter := (List.dropWhile_sublist (· != 10) (l := byte :: bytes)).length_le
    rw [Text.cutLine, List.length_drop]
    simp only [List.length_cons] at shorter ⊢
    omega

end Progress

/-- What the session leaves behind when the dialogue goes on from here to its end. -/
def outcomeFrom (session : Session) (dialogue : Dialogue) : Outcome :=
  match _turned : session.turn dialogue with
  | .inl outcome => outcome
  | .inr next => outcomeFrom session next
termination_by dialogue.unread.length + dialogue.buffer.length
decreasing_by exact lt_of_turn _turned

/-- What the program leaves behind for these arguments, files and input. -/
def run (program : String) (arguments : List String)
    (read : String → Except ReadFailure String) (input : List UInt8) : Outcome :=
  match Request.ofArguments arguments with
  | .error fault => ⟨255, "", fault.text program ++ "\n"⟩
  | .ok .help => ⟨0, usage program ++ "\n", ""⟩
  | .ok (.session options) =>
    match start read options with
    | .error error => ⟨1, "", error.report⟩
    | .ok session => session.outcomeFrom (.start input)

end Session

end ChartParser
