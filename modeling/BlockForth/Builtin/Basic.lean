import BlockForth.Value.Order

/-!
# Built-in words

The words that every program starts with. Two names may stand for one word.
-/

namespace BlockForth

/-- What a built-in word does. -/
inductive Builtin where
  | add
  | subtract
  | multiply
  | divide
  /-- The quotient without its fraction. -/
  | quotient
  | remainder
  /-- The remainder and the quotient of two integers. -/
  | divMod
  | compare (c : Comparison)
  | dup
  | drop
  | swap
  | over
  | rot
  | reverse
  | dup2
  | drop2
  | swap2
  | over2
  | depth
  /-- A character from its code. -/
  | chr
  /-- The code of a text's first character. -/
  | ord
  /-- The name of a value's kind. -/
  | kind
  | print
  | newline
  | space
  | spaces
  /-- Writes the character with a code. -/
  | emit
  | printStack
  | printWords
  /-- Ends the program. -/
  | bye
  /-- Passes over the next unit unless a condition holds. -/
  | ifTrue
  /-- Passes over the next unit if the last condition held. -/
  | otherwise
  /-- Repeats the next unit. -/
  | times
  /-- Starts a definition. -/
  | define
  /-- Ends a definition, and is a fault anywhere else. -/
  | endDefinition
  /-- Ends a block, and is a fault anywhere else. -/
  | endBlock
deriving DecidableEq, Repr

end BlockForth
