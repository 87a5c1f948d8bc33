import BlockForth.CommandLine.Console

/-!
# The program

Reads arguments, a script file, or lines, and shows what the console answers.
-/

namespace BlockForth

/-- Whether a failure has the given number. It may come with its sign changed. -/
def isFailure (number code : UInt32) : Bool :=
  code == number || code == 0 - number

/-- The reason why a file cannot be read. -/
def reasonOf : IO.Error → String
  | .noFileOrDirectory .. => noSuchFile
  | .inappropriateType _ code _ => if isFailure 20 code then notADirectory else isADirectory
  | .invalidArgument _ code _ => if isFailure 36 code then nameTooLong else nulInPath
  | .permissionDenied .. => notPermitted
  | e => toString e

/-- Reads a file. -/
def readFile (path : String) : IO FileRead := do
  try
    return .ok (← IO.FS.readBinFile path)
  catch e => return .error (reasonOf e)

/-- Runs the lines of an interactive session until the input or the program ends, and gives the exit
code. -/
partial def interact (debug : Bool) (m : Machine) : IO UInt32 := do
  if m.exiting then return 0
  let line ← (← IO.getStdin).getLine
  if line.isEmpty then return 0
  match Line.read? line.toList with
  | none =>
    let r := Console.abort "" Console.lineProblem
    IO.eprint r.stderr
    return r.code.toUInt32
  | some line =>
    let (m, shown) := Console.runLine debug m line
    IO.print shown
    (← IO.getStdout).flush
    interact debug m

end BlockForth

open BlockForth in
/-- Runs the program. -/
def main (arguments : List String) : IO UInt32 := do
  let request := Request.ofArguments arguments
  let file ←
    match request with
    | .run { file := some path, .. } => readFile path
    | _ => pure (.error noSuchFile)
  match Console.answer? request fun _ => file with
  | some r =>
    IO.print r.stdout
    IO.eprint r.stderr
    return r.code.toUInt32
  | none => interact (Console.debugs request) {}
