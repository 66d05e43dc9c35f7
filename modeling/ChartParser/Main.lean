import ChartParser.Session.Dialogue

/-!
# The command line

The program itself: it reads files and lines, prints answers, and leaves everything else to
sessions.
-/

namespace ChartParser

/-- The reason why a file could not be opened or read. -/
def readFailureOf : IO.Error → ReadFailure
  | .noFileOrDirectory .. => .missing
  | .noSuchThing .. => .missing
  | .inappropriateType _ code _ => if code = 21 then .isDirectory else .notDirectory
  | error@(.invalidArgument _ code _) =>
    if code = 36 ∨ code = -36 then .nameTooLong else .other (toString error)
  | error => .other (toString error)

/-- The text of a file, or why there is none. -/
def readTextFile (path : String) : IO (Except ReadFailure String) := do
  try
    return decodeText (← IO.FS.readBinFile path)
  catch error =>
    return .error (readFailureOf error)

/-- The next line of the input with its line feed, empty at the end of the input. -/
partial def nextLine (input : IO.FS.Stream) (line : ByteArray) : IO ByteArray := do
  match (← input.read 1).toList with
  | [] => return line
  | byte :: _ => if byte = 10 then return line.push byte else nextLine input (line.push byte)

/-- Answers lines until the input ends or is no text; the result is the exit code. -/
partial def answerLines (session : Session) (buffer : String)
    (input output errors : IO.FS.Stream) : IO UInt32 := do
  output.putStr Session.prompt
  output.flush
  match session.hear buffer (← nextLine input ByteArray.empty) with
  | .ended => return 0
  | .unreadable =>
    errors.putStr invalidInputReport
    return 1
  | .answered answer buffer =>
    output.putStr answer
    answerLines session buffer input output errors

/-- The session that the options describe, with its files read from the file system. -/
def startFromFiles (options : Options) : IO (Except GrammarError Session) := do
  let grammarText ← readTextFile options.grammarFile
  let lexiconText ←
    match options.lexiconFile with
    | some file => readTextFile file
    | none => pure (.error .missing)
  let read := fun file => if file = options.grammarFile then grammarText else lexiconText
  return Session.start read options

/-- The name under which the program explains itself. -/
def programName : String := "cli"

end ChartParser

open ChartParser in
/-- Runs a session over the standard streams. -/
def main (arguments : List String) : IO UInt32 := do
  let output ← IO.getStdout
  let errors ← IO.getStderr
  match Request.ofArguments arguments with
  | .error fault =>
    errors.putStrLn (fault.text programName)
    return 255
  | .ok .help =>
    output.putStrLn (usage programName)
    return 0
  | .ok (.session options) =>
    match ← startFromFiles options with
    | .error error =>
      errors.putStr error.report
      return 1
    | .ok session => answerLines session "" (← IO.getStdin) output errors
