import ChartParser.Fault
import ChartParser.Text.Pieces

/-!
# Files of a session

A directory of files without subdirectories, as a session may be given. A path that ends in a
slash or a dot must name a directory, and only the directory itself and those above it are known as
such. A path is followed name by name, and the first name that leads nowhere tells why.
-/

namespace ChartParser

/-- The text of some bytes, if they are valid UTF-8. -/
def decodeText (bytes : ByteArray) : Except ReadFailure String :=
  match String.fromUTF8? bytes with
  | some text => .ok text
  | none => .error .invalidText

/-- Files by name. -/
structure Directory where
  files : List (String × ByteArray)

namespace Directory

/-- The most bytes that a path may have. -/
def pathLimit : Nat := 4095

/-- The most bytes that one name in a path may have. -/
def nameLimit : Nat := 255

/-- The text of the file at a path. -/
def readText (directory : Directory) (path : String) : Except ReadFailure String :=
  let parts := Text.splitAt '/' path
  let asDirectory := parts.getLast?.any fun part => part = "" || part = "."
  let names := parts.filter fun part => part ≠ "" ∧ part ≠ "."
  let outside := path.startsWith "/" || names.head? = some ".."
  if pathLimit < path.utf8ByteSize then .error .nameTooLong
  else if path = "" then .error .missing
  else
    match names.dropWhile (· = "..") with
    | [] => .error .isDirectory
    | name :: more =>
      if nameLimit < name.utf8ByteSize then .error .nameTooLong
      else if outside then .error .missing
      else
        match directory.files.lookup name with
        | none => .error .missing
        | some bytes =>
          if asDirectory || !more.isEmpty then .error .notDirectory else decodeText bytes

end Directory

end ChartParser
