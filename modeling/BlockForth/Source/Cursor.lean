import BlockForth.Source.Location

/-!
# A cursor over source text

A cursor holds the text that is still to be read and the location of its first character. Source
text is made of chunks that blanks and comments separate. A blank is a space, a tab, a carriage
return, or a newline. A comment runs from a `#` to the end of its line.
-/

namespace BlockForth

/-- Whether a character separates chunks. -/
def isBlank (c : Char) : Bool :=
  c == ' ' || c == '\t' || c == '\r' || c == '\n'

/-- The text still to be read, and where it starts. -/
structure Cursor where
  /-- The characters still to be read. -/
  rest : List Char
  /-- The location of the first of them. -/
  location : Location
deriving DecidableEq, Repr

namespace Cursor

/-- A cursor at the start of `source`. -/
def start (path source : String) : Cursor :=
  ⟨source.toList, .start path⟩

/-- The next character, which stays to be read. -/
def peek? (c : Cursor) : Option Char :=
  c.rest.head?

/-- Reads the next character. -/
def next? (c : Cursor) : Option (Char × Cursor) :=
  match c.rest with
  | [] => none
  | a :: rest => some (a, ⟨rest, c.location.next a⟩)

/-- Reads `n` characters, or all that are left if they are fewer. -/
def advance (c : Cursor) (n : Nat) : Cursor :=
  ⟨c.rest.drop n, c.location.after (c.rest.take n)⟩

/-- The characters up to the next blank or comment. -/
def chunk (c : Cursor) : List Char :=
  c.rest.takeWhile fun a => !isBlank a && a != '#'

/-- The characters up to the next blank. A `#` does not end them. -/
def rawChunk (c : Cursor) : List Char :=
  c.rest.takeWhile fun a => !isBlank a

/-- Reads blanks and comments, from inside a comment if `inComment` is true. The newline that ends a
comment is a blank itself, so it is read too. -/
def skipFrom (inComment : Bool) : List Char → Location → Cursor
  | [], l => ⟨[], l⟩
  | a :: rest, l =>
    if inComment then skipFrom (a != '\n') rest (l.next a)
    else if a == '#' then skipFrom true rest (l.next a)
    else if isBlank a then skipFrom false rest (l.next a)
    else ⟨a :: rest, l⟩

/-- Reads blanks and comments up to the next chunk or the end of the text. -/
def skip (c : Cursor) : Cursor :=
  skipFrom false c.rest c.location

end Cursor

end BlockForth
