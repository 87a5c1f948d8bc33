import BlockForth.Fault

/-!
# Source files

What reading a file gives is its bytes or the reason why there are none. The bytes of a source file
are UTF-8. `Directory` is a directory that holds nothing but files, and says what reading a path
gives there.

A path is walked step by step, and the first step that cannot be made is the reason that is given.
So a name that is too long matters only where it is looked up, while a path that is too long as a
whole is not walked at all. Both lengths count bytes.
-/

namespace BlockForth

/-- The bytes of a file, or the reason why they cannot be read. -/
abbrev FileRead := Except String ByteArray

/-- The reason when there is no such file. -/
def noSuchFile : String := "No such file or directory (os error 2)"

/-- The reason when a path goes on behind a file. -/
def notADirectory : String := "Not a directory (os error 20)"

/-- The reason when a path names a directory. -/
def isADirectory : String := "Is a directory (os error 21)"

/-- The reason when a name or a path is too long. -/
def nameTooLong : String := "File name too long (os error 36)"

/-- The reason when a file must not be read. -/
def notPermitted : String := "Permission denied (os error 13)"

/-- The reason when a path holds the character that ends paths. -/
def nulInPath : String := "file name contained an unexpected NUL byte"

/-- The reason when a file is not a text. -/
def notUtf8 : String := "stream did not contain valid UTF-8"

/-- The source text in a file that was read from `path`. -/
def sourceOf (path : String) (file : FileRead) : Except Cause String :=
  match file with
  | .error reason => .error (.unreadableFile path reason)
  | .ok bytes =>
    match String.fromUTF8? bytes with
    | some source => .ok source
    | none => .error (.unreadableFile path notUtf8)

/-- The files of a directory, by their names. -/
structure Directory where
  files : List (String × ByteArray) := []

namespace Directory

/-- The greatest number of bytes of a name. -/
def maxNameBytes : Nat := 255

/-- The greatest number of bytes of a path. -/
def maxPathBytes : Nat := 4095

/-- The steps of a path. A doubled slash and a `.` stay where they are, but not behind a file, where
they ask for a directory. -/
def steps (path : List Char) : List (List Char) :=
  path.splitOn '/'

/-- What looking up a name gives. -/
def find (d : Directory) (name : String) : FileRead :=
  if maxNameBytes < name.utf8ByteSize then .error nameTooLong
  else
    match d.files.lookup name with
    | some bytes => .ok bytes
    | none => .error noSuchFile

/-- What walking the steps of a path from the directory gives. A `..` leads to a directory in which
nothing is found. -/
def walk (d : Directory) : List (List Char) → FileRead
  | [] => .error isADirectory
  | step :: rest =>
    if step = [] ∨ step = ['.'] then d.walk rest
    else if step = ['.', '.'] then walk {} rest
    else
      match d.find (String.ofList step), rest with
      | .ok _, _ :: _ => .error notADirectory
      | found, _ => found

/-- What reading a path gives. One that starts with a slash is walked from a directory in which
nothing is found. -/
def read (d : Directory) (path : String) : FileRead :=
  let cs := path.toList
  if cs.contains '\x00' then .error nulInPath
  else if maxPathBytes < path.utf8ByteSize then .error nameTooLong
  else if cs.isEmpty then .error noSuchFile
  else if cs.head? = some '/' then walk {} (steps cs)
  else d.walk (steps cs)

end Directory

end BlockForth
