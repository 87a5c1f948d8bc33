import BlockForth.Builtin.Basic
import BlockForth.Source.Cursor

/-!
# The table of built-in words

Every built-in word under its name, with its effect on the stack and a description.
`Builtin.listing` is the help text that shows them all.
-/

namespace BlockForth

/-- A built-in word under one of its names. -/
structure BuiltinEntry where
  /-- The name in lower case. -/
  name : String
  word : Builtin
  /-- The values that the word takes and leaves, top last. -/
  signature : String
  description : String
deriving DecidableEq, Repr

namespace Builtin

/-- All built-in words. -/
def table : List BuiltinEntry :=
  [⟨"+", .add, "a b -- result", "Add 2 numbers, or concatenate if either one is a string."⟩,
   ⟨"-", .subtract, "a b -- result", "Subtract 2 numbers, or remove every b from the string a."⟩,
   ⟨"*", .multiply, "a b -- result",
    "Multiply 2 numbers, or repeat a string an integer number of times."⟩,
   ⟨"/", .divide, "a b -- result",
    "Divide 2 numbers giving a float, or split a string into chunks."⟩,
   ⟨"//", .quotient, "a b -- result", "Divide 2 numbers, truncating the quotient toward zero."⟩,
   ⟨"%", .remainder, "a b -- result", "Remainder after dividing 2 integers."⟩,
   ⟨"mod", .remainder, "a b -- result", "Remainder after dividing 2 integers."⟩,
   ⟨"/mod", .divMod, "a b -- remainder quotient",
    "Remainder and truncated quotient of 2 integers."⟩,
   ⟨"=", .compare .equal, "a b -- flag", "Are the 2 values equal?"⟩,
   ⟨"!=", .compare .notEqual, "a b -- flag", "Are the 2 values different?"⟩,
   ⟨">", .compare .greater, "a b -- flag", "Is a greater than b?"⟩,
   ⟨">=", .compare .greaterEqual, "a b -- flag", "Is a greater than or equal to b?"⟩,
   ⟨"<", .compare .less, "a b -- flag", "Is a less than b?"⟩,
   ⟨"<=", .compare .lessEqual, "a b -- flag", "Is a less than or equal to b?"⟩,
   ⟨"dup", .dup, "value -- value value", "Duplicate the top value on the data stack."⟩,
   ⟨"drop", .drop, "value -- ", "Discard the top value on the data stack."⟩,
   ⟨"swap", .swap, "a b -- b a", "Swap the top 2 values on the data stack."⟩,
   ⟨"over", .over, "a b -- a b a", "Copy the second value to the top."⟩,
   ⟨"rot", .rot, "a b c -- b c a", "Rotate the third value to the top."⟩,
   ⟨"reverse", .reverse, "a ... z -- z ... a", "Reverse the order of the whole data stack."⟩,
   ⟨"2dup", .dup2, "a b -- a b a b", "Duplicate the top pair of values."⟩,
   ⟨"2drop", .drop2, "a b -- ", "Discard the top pair of values."⟩,
   ⟨"2swap", .swap2, "a b c d -- c d a b", "Swap the top 2 pairs of values."⟩,
   ⟨"2over", .over2, "a b c d -- a b c d a b", "Copy the second pair of values to the top."⟩,
   ⟨"depth", .depth, " -- depth", "Get the depth of the stack before calling this word."⟩,
   ⟨"chr", .chr, "code -- string", "Convert a character code into a one character string."⟩,
   ⟨"ord", .ord, "string -- code", "Get the character code of the first character of a string."⟩,
   ⟨"type", .kind, "value -- type-name",
    "Replace a value with the name of it's type: int, float or string."⟩,
   ⟨".", .print, "value -- ", "Pop a value and write it to the output."⟩,
   ⟨"br", .newline, " -- ", "Write a new line to the output."⟩,
   ⟨"cr", .newline, " -- ", "Write a new line to the output."⟩,
   ⟨"space", .space, " -- ", "Write a single space to the output."⟩,
   ⟨"spaces", .spaces, "count -- ", "Write a number of spaces to the output."⟩,
   ⟨"emit", .emit, "code -- ", "Write the character with the given code to the output."⟩,
   ⟨".stack", .printStack, " -- ", "Write a listing of the data stack to the output."⟩,
   ⟨".s", .printStack, " -- ", "Write a listing of the data stack to the output."⟩,
   ⟨".words", .printWords, " -- ", "Write a listing of the user defined words to the output."⟩,
   ⟨"bye", .bye, " -- ", "Stop the interpreter."⟩,
   ⟨"if", .ifTrue, "condition -- ", "Run the following unit only if the condition is true."⟩,
   ⟨"else", .otherwise, " -- ", "Run the following unit only if the last if did not run it's own."⟩,
   ⟨"times", .times, "count -- ", "Run the following unit count times."⟩,
   ⟨":", .define, " -- ", "Define a new word, ending at the next ;."⟩,
   ⟨";", .endDefinition, " -- ", "Ends a word definition, an error anywhere else."⟩,
   ⟨"\x7d", .endBlock, " -- ", "Ends a block, an error anywhere else."⟩]

/-- The entry under a name, which is in lower case. -/
def lookup? (name : String) : Option BuiltinEntry :=
  table.find? (·.name == name)

/-- The word under a name, which is in lower case. -/
def find? (name : String) : Option Builtin :=
  (lookup? name).map (·.word)

/-- All built-in words, in the order of their names. -/
def sorted : List BuiltinEntry :=
  table.mergeSort fun a b => a.name ≤ b.name

/-- A text without the blanks at its ends. -/
def trim (s : String) : String :=
  String.ofList ((s.toList.dropWhile isBlank).reverse.dropWhile isBlank).reverse

/-- A name followed by blanks, so that it takes `width` columns. -/
def padded (width : Nat) (name : String) : String :=
  name.pushn ' ' (width - name.length)

/-- The help text: a line for each word, with its name, its signature, and its description. -/
def listing : String :=
  let width := (sorted.map (·.name.length)).foldl max 0
  "\n".intercalate <| sorted.map fun e =>
    padded width e.name ++ "  ( " ++ trim e.signature ++ " )  " ++ e.description

end Builtin

end BlockForth
