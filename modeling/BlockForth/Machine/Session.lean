import BlockForth.Machine.Run
import BlockForth.Source.Directory
import BlockForth.Token.Reader

/-!
# Sessions

A session is a machine that is given one piece of code after another. The stack, the dictionary, and
the end of the program carry over from call to call. The output, the place, and the calls start
anew. A call answers the output that the machine holds at its end. After the program has ended, a
call does nothing and answers the empty text.
-/

namespace BlockForth.Machine

/-- The source of code that is given directly. -/
def directPath : String := "<parse>"

/-- The machine at the start of a call. -/
def begin (m : Machine) : Machine :=
  { m with output := "", calls := [], location := none, depth := 0 }

/-- Runs tokens as the outermost frame. -/
def runTokens (m : Machine) (tokens : List Token) : Outcome :=
  runFrame { m with frame := { tokens := tokens } }

/-- Runs a source text as a call. If it cannot be read, then the frame of the last call stays. -/
def runSource (m : Machine) (path source : String) : Outcome :=
  if m.exiting then .done m.begin
  else
    match Token.readAll path source with
    | .error f => { machine := m.begin, fault := some f }
    | .ok tokens => m.begin.runTokens tokens

/-- Runs a piece of code as a call. -/
def run (m : Machine) (source : String) : Outcome :=
  m.runSource directPath source

/-- Runs the source text in a file as a call. -/
def runFile (m : Machine) (path : String) (file : FileRead) : Outcome :=
  if m.exiting then .done m.begin
  else
    match sourceOf path file with
    | .error cause => { machine := m.begin, fault := some (.bare cause) }
    | .ok source => m.runSource path source

/-- Runs a word as if a token at `location` had called it, within the call that ran last. -/
def execute (m : Machine) (location : Location) (spelling : String) : Outcome :=
  m.runWord nested location spelling

/-- Runs tokens as a block, within the call that ran last. -/
def executeTokens (m : Machine) (tokens : List Token) : Outcome :=
  m.runBlock nested tokens

/-- Defines a user word. -/
def defineWord (m : Machine) (name : String) (location : Location) (body : List Token) : Machine :=
  { m with dictionary := m.dictionary.insert name location body }

end BlockForth.Machine
