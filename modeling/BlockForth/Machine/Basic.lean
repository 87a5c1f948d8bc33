import BlockForth.Dictionary
import BlockForth.Stack

/-!
# The machine

A machine runs frames. A frame is a list of tokens, the position of the one that is being run, and
the flow registers, which say whether the next unit is passed over and how often it is run. The
outermost frame is the code of a call, and blocks and user words are run in frames nested inside it.

A run may fail at any point, and the machine that it leaves then is as visible as after a success.
So a run has an `Outcome`, which holds that machine and the fault, if there is one.
-/

namespace BlockForth

/-- The registers that steer a frame. -/
structure Flow where
  /-- How many units are still passed over. The word that sets the register counts as one. -/
  skip : Nat := 0
  /-- Whether the last condition held. -/
  lastIf : Bool := false
  /-- How often the next unit is run. -/
  repeats : Int64 := 1
deriving DecidableEq, Repr

/-- A run over a list of tokens. -/
structure Frame where
  tokens : List Token := []
  /-- The position of the token that is being run. -/
  position : Nat := 0
  flow : Flow := {}

namespace Frame

/-- The position after the current one. Positions are 64-bit numbers, so zero comes after the
greatest of them. A position among the tokens is never that far, whatever their number. -/
def next (f : Frame) : Nat :=
  if f.position < f.tokens.length then f.position + 1 else (f.position + 1) % UInt64.size

/-- Among the tokens, the next position is one further. -/
theorem next_of_lt {f : Frame} (h : f.position < f.tokens.length) : f.next = f.position + 1 :=
  if_pos h

end Frame

/-- The state of a session. -/
structure Machine where
  stack : Stack := .empty
  dictionary : Dictionary := {}
  /-- What the current call, or else the last one, has written. -/
  output : String := ""
  /-- Where the token is that was reached last, in any frame. -/
  location : Option Location := none
  /-- The user words that are being run, innermost first. -/
  calls : List Call := []
  /-- The innermost frame. -/
  frame : Frame := {}
  /-- How many frames the innermost one is nested in. -/
  depth : Nat := 0
  /-- Whether the program has ended. -/
  exiting : Bool := false

/-- How a run ends: the machine that it leaves, and the fault that stopped it, if one did. -/
structure Outcome where
  machine : Machine
  fault : Option Fault := none

/-- The outcome of a run that ends without a fault. -/
def Outcome.done (m : Machine) : Outcome where
  machine := m

namespace Machine

/-- The fault that a cause is at the place where the machine is. -/
def faultHere (m : Machine) (cause : Cause) : Fault where
  cause := cause
  location := m.location
  calls := some m.calls

/-- The outcome of a run that a fault stops at the place where the machine is. -/
def fail (m : Machine) (cause : Cause) : Outcome where
  machine := m
  fault := some (m.faultHere cause)

/-- Appends a text to the output. -/
def write (m : Machine) (text : String) : Machine :=
  { m with output := m.output ++ text }

/-- Sets the flow registers of the innermost frame. -/
def setFlow (m : Machine) (flow : Flow) : Machine :=
  { m with frame := { m.frame with flow := flow } }

/-- Moves the innermost frame to a position. -/
def moveTo (m : Machine) (position : Nat) : Machine :=
  { m with frame := { m.frame with position := position } }

/-- Moves the innermost frame to its next token, if there is one, and gives that token. -/
def nextToken (m : Machine) : Option Token × Machine :=
  match m.frame.tokens[m.frame.next]? with
  | some t => (some t, m.moveTo m.frame.next)
  | none => (none, m)

end Machine

end BlockForth
