import BlockForth.CommandLine.Line
import BlockForth.CommandLine.LogFilter
import BlockForth.CommandLine.Request
import BlockForth.Machine.Session

/-!
# The console

What the program writes and the code that it ends with. A script is one call, and each line of an
interactive session is one. The output of a call is shown even if a fault stops it.
-/

namespace BlockForth

/-- What a run of the program leaves: its exit code and what it wrote. -/
structure Report where
  code : UInt8 := 0
  stdout : String := ""
  stderr : String := ""
deriving DecidableEq, Repr

namespace Console

/-- The name and the version of the program. -/
def versionText : String := "vorth 0.1.0"

/-- How the program is called. -/
def usageText : String := "Usage: vorth [OPTIONS] [FILE]"

/-- What the program does, how it is called, and its options. -/
def helpText : String :=
  "A small stack based Forth dialect.  Runs a script file, or starts an interactive session " ++
  "when no file is given\n\n" ++
  usageText ++ "\n\n" ++
  "Arguments:\n" ++
  "  [FILE]  Script file to run as a single call\n\n" ++
  "Options:\n" ++
  "      --debug                  " ++
  "Print the stack and the defined words after every call\n" ++
  "      --list-words             " ++
  "Print the built-in words with their stack signatures and exit\n" ++
  "      --log-level <LOG_LEVEL>  " ++
  "Log filter, overrides the VORTH_LOG environment variable\n" ++
  "  -h, --help                   Print help\n" ++
  "  -V, --version                Print version"

/-- The stack and the user words, as they are shown after a call. -/
def stateText (m : Machine) : String :=
  "stack: " ++ m.stack.listing ++ "\nwords: " ++ m.dictionary.listing ++ "\n"

/-- Runs a line of an interactive session, and gives the machine after it and what is shown. -/
def runLine (debug : Bool) (m : Machine) (line : String) : Machine × String :=
  let o := m.run line
  let shown :=
    match o.fault with
    | none => o.machine.output ++ " ok\n"
    | some f => o.machine.output ++ "error: " ++ f.text ++ "\n"
  (o.machine, if debug then shown ++ stateText o.machine else shown)

/-- The report of a run that has shown `shown` and cannot go on. -/
def abort (shown problem : String) : Report where
  code := 101
  stdout := shown
  stderr := "error: " ++ problem ++ "\n"

/-- What stops a session at a line that cannot be read. -/
def lineProblem : String := "a backspace would cut a character in two"

/-- What stops a run with a log filter that cannot be read. -/
def filterProblem : String := "the log filter would be cut inside a character"

/-- Runs the lines of an interactive session until the program ends, after `shown` was shown. -/
def runLines (debug : Bool) (shown : String) : Machine → List (List Char) → Report
  | _, [] => { stdout := shown }
  | m, line :: rest =>
    if m.exiting then { stdout := shown }
    else
      match Line.read? line with
      | none => abort shown lineProblem
      | some line =>
        let (m, text) := runLine debug m line
        runLines debug (shown ++ text) m rest

/-- Runs a script. -/
def runScript (debug : Bool) (path : String) (file : FileRead) : Report :=
  let o := ({} : Machine).runFile path file
  let shown := o.machine.output ++ if debug then "\n" ++ stateText o.machine else ""
  match o.fault with
  | none => { stdout := shown }
  | some f => { code := 1, stdout := shown, stderr := "Error: " ++ f.report ++ "\n" }

/-- The answer to a command line that does not ask for a session. -/
def answer? (request : Request) (read : String → FileRead) : Option Report :=
  match request with
  | .version => some { stdout := versionText ++ "\n" }
  | .help => some { stdout := helpText ++ "\n" }
  | .misuse problem =>
    some { code := 2, stderr := "error: " ++ problem ++ "\n\n" ++ usageText ++ "\n" }
  | .run o =>
    if !o.logLevel.all LogFilter.isReadable then some (abort "" filterProblem)
    else if o.listWords then some { stdout := Builtin.listing ++ "\n" }
    else o.file.map fun path => runScript o.debug path (read path)

/-- Whether a session that is asked for shows the machine's state. -/
def debugs : Request → Bool
  | .run o => o.debug
  | _ => false

/-- What the program leaves for its arguments, the text on its standard input, and the files of the
current directory. -/
def report (arguments : List String) (input : String) (files : Directory) : Report :=
  let request := Request.ofArguments arguments
  match answer? request files.read with
  | some r => r
  | none => runLines (debugs request) "" {} (Line.ofText input)

end Console

end BlockForth
