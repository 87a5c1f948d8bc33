import BlockForth.Number.Numeral
import BlockForth.Text.LetterTable

/-!
# The atoms of a pattern

A pattern is a regular expression. Its atoms are what stands for one character or for a place
between two of them, and the flags in force decide which atoms there are. Patterns are read without
the character tables of Unicode, so an atom that needs one is refused: a shorthand class, and any
literal whose case does not count, unless the pattern is restricted to ASCII. What a restricted
pattern matches is a text still, so it cannot ask for a byte outside ASCII.
-/

namespace BlockForth.Pattern

/-- The flags in force at a place in a pattern. -/
structure Flags where
  /-- Whether case does not count. -/
  caseless : Bool := false
  /-- Whether the pattern is about characters, and not about ASCII only. -/
  unicode : Bool := true
  /-- Whether white space and comments are passed over. -/
  spacious : Bool := false
deriving DecidableEq, Repr

/-- Passes over white space and comments, from inside a comment if `inComment` is true. -/
def skipSpaceFrom (inComment : Bool) : List Char → List Char
  | [] => []
  | c :: rest =>
    if inComment then skipSpaceFrom (c != '\n') rest
    else if c == '#' then skipSpaceFrom true rest
    else if isSpace c then skipSpaceFrom false rest
    else c :: rest

namespace Flags

/-- Passes over white space and comments where the flags say so. -/
def skipSpace (f : Flags) (cs : List Char) : List Char :=
  if f.spacious then skipSpaceFrom false cs else cs

/-- Sets or resets a flag. There are flags that make no difference here. -/
def set (f : Flags) (flag : Char) (on : Bool) : Flags :=
  match flag with
  | 'i' => { f with caseless := on }
  | 'u' => { f with unicode := on }
  | 'x' => { f with spacious := on }
  | _ => f

end Flags

/-- An atom. -/
inductive Atom where
  /-- A character. `isByte` says that it was given as a byte. -/
  | literal (c : Char) (isByte : Bool)
  /-- Any character but a line end. -/
  | any
  /-- The start or the end of a line or of the text. -/
  | anchor
  | wordBoundary
  /-- Digits, spaces, or word characters, or all others. -/
  | shorthand (negated : Bool)
deriving DecidableEq, Repr

namespace Atom

/-- Whether the atom may stand on its own. -/
def isAllowed (f : Flags) : Atom → Bool
  | .literal c isByte => if f.unicode then !f.caseless else !isByte || c.val < 0x80
  | .any => f.unicode
  | .anchor => true
  | .wordBoundary => !f.unicode
  | .shorthand negated => !f.unicode && !negated

/-- Whether the atom may stand in a bracket. -/
def isMember (f : Flags) : Atom → Bool
  | .literal c _ => if f.unicode then !f.caseless else c.val < 0x80
  | .shorthand negated => !f.unicode && !negated
  | _ => false

end Atom

/-- Reads `count` hexadecimal digits behind those that make up `value`. -/
def hex? (f : Flags) : (count value : Nat) → List Char → Option (Nat × List Char)
  | 0, value, cs => some (value, cs)
  | _ + 1, _, [] => none
  | count + 1, value, c :: rest =>
    match Numeral.digit? c with
    | some d => hex? f count (16 * value + d) (f.skipSpace rest)
    | none => none

/-- Reads a character that is given by `count` hexadecimal digits. -/
def hexLiteral? (f : Flags) (count : Nat) (cs : List Char) : Option (Atom × List Char) :=
  match hex? f count 0 (f.skipSpace cs) with
  | some (n, rest) =>
    if n.isValidChar then some (.literal (Char.ofNat n) (count == 2), rest) else none
  | none => none

/-- Reads an escape, behind its backslash. -/
def escape? (f : Flags) : List Char → Option (Atom × List Char)
  | [] => none
  | c :: rest =>
    match c with
    | 'x' => hexLiteral? f 2 rest
    | 'u' => hexLiteral? f 4 rest
    | 'U' => hexLiteral? f 8 rest
    | 'd' | 's' | 'w' => some (.shorthand false, rest)
    | 'D' | 'S' | 'W' => some (.shorthand true, rest)
    | 'b' | 'B' | '<' | '>' => some (.wordBoundary, rest)
    | 'A' | 'z' => some (.anchor, rest)
    | 'a' => some (.literal '\x07' false, rest)
    | 't' => some (.literal '\t' false, rest)
    | 'n' => some (.literal '\n' false, rest)
    | 'v' => some (.literal '\x0b' false, rest)
    | 'f' => some (.literal '\x0c' false, rest)
    | 'r' => some (.literal '\r' false, rest)
    | c => if c.val < 0x80 && !c.isAlphanum then some (.literal c false, rest) else none

end BlockForth.Pattern
