import BlockForth.Machine.Basic

/-!
# Handlers

What a word does is written as a handler, which goes through the machine step by step. A fault ends
the handler where it is, and nothing is undone: the machine stays as the steps before the fault have
left it. So a word that is to keep its operands when it fails looks at them first, and takes them
off when nothing can go wrong any more.

The stack and the values know no place, so their faults are bare ones. A handler that raises a fault
of its own does so at the machine's place.
-/

namespace BlockForth

/-- A run through the machine that gives a result or ends in a fault. Either way the machine keeps
what has been changed. -/
abbrev Handler := EStateM Fault Machine

namespace Handler

variable {α : Type}

/-- How a handler ends in a machine. -/
def outcome (h : Handler Unit) (m : Machine) : Outcome :=
  match EStateM.run h m with
  | .ok _ m' => .done m'
  | .error f m' => { machine := m', fault := some f }

/-- Fails at the place where the machine is. -/
def fail (cause : Cause) : Handler α := do
  throw ((← get).faultHere cause)

/-- Goes on with a result of the stack or of values. -/
def result : Except Cause α → Handler α
  | .ok a => return a
  | .error cause => throw (.bare cause)

/-- Makes sure that there are at least `count` values on the stack. -/
def require (count : Nat) : Handler Unit := do
  result ((← get).stack.require count)

/-- The value at the given depth, which stays where it is. -/
def peek (depth : Nat) : Handler Value := do
  result ((← get).stack.peek depth)

/-- Takes the top value off. -/
def pop : Handler Value := do
  let m ← get
  let (v, s) ← result m.stack.pop
  set { m with stack := s }
  return v

/-- Takes an integer off the top. A value of another kind stays. -/
def popInt : Handler Int64 := do
  let n ← result (← peek 0).asInt
  let _ ← pop
  return n

/-- Puts a value on top. -/
def push (v : Value) : Handler Unit :=
  modify fun m => { m with stack := m.stack.push v }

/-- Appends a text to the output. -/
def write (text : String) : Handler Unit :=
  modify (·.write text)

/-- Changes the flow registers of the innermost frame. -/
def setFlow (change : Flow → Flow) : Handler Unit :=
  modify fun m => m.setFlow (change m.frame.flow)

/-- Moves the innermost frame to its next token, if there is one, and gives that token. -/
def nextToken : Handler (Option Token) :=
  modifyGet Machine.nextToken

end Handler

end BlockForth
