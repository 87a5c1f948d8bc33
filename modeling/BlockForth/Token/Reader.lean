import BlockForth.Number.Numeral
import BlockForth.Source.Cursor
import BlockForth.Token.Basic

/-!
# Reading tokens

Source text is read chunk by chunk. The chunks `{` and `}` open and close a block, though a `}`
outside of every block is a word. Any other chunk is a number if it is a numeral, and a word if it
is not. A quote starts a string, which may hold blanks and comment signs.

A string is read in one of two ways. If the text up to the next blank starts and ends with a quote
and the last one has no backslash before it, then that text is the string, even if there are more
quotes inside. Otherwise the string ends at the next quote without a backslash before it. In both
ways a backslash stands for itself unless a quote follows.
-/

namespace BlockForth

namespace Token

/-- Whether the text up to the next blank is a string on its own. -/
def isWholeString (chunk : List Char) : Bool :=
  match chunk, chunk.reverse with
  | '"' :: _ :: _, '"' :: c :: _ => c != '\\'
  | _, _ => false

/-- Reads a string up to the quote that ends it. `read` holds the characters read so far, last one
first. There is no result if no quote ends the string. -/
def scanString (read : List Char) : List Char → Location → Option (List Char × Cursor)
  | [], _ => none
  | '\\' :: '"' :: rest, l => scanString ('"' :: read) rest ((l.next '\\').next '"')
  | c :: rest, l =>
    if c = '"' then some (read.reverse, ⟨rest, l.next c⟩)
    else scanString (c :: read) rest (l.next c)

/-- Reads the string that starts at the cursor. -/
def readString (c : Cursor) : Except Fault (Token × Cursor) :=
  let chunk := c.rawChunk
  if isWholeString chunk then
    let text := Quoted.unescape (chunk.drop 1).dropLast
    .ok (literal c.location (.string (String.ofList text)), c.advance chunk.length)
  else
    let start := c.advance 1
    match scanString [] start.rest start.location with
    | some (text, rest) => .ok (literal c.location (.string (String.ofList text)), rest)
    | none => .error (.inSource .stringNotClosed c.location)

/-- The token that a chunk other than a brace stands for. -/
def ofChunk (l : Location) (chunk : List Char) : Except Fault Token :=
  match Numeral.read? chunk with
  | none => .ok (word l (String.ofList chunk))
  | some (.float x) => .ok (literal l (.float x))
  | some (.integer n) =>
    match Numeral.toInt64? n with
    | some k => .ok (literal l (.int k))
    | none => .error (.inSource (.integerOutOfRange (String.ofList chunk)) l)

/-- Reads tokens up to the end of the text or, inside a block that starts at `opened`, up to the
brace that closes it. `read` holds the tokens read so far, last one first. Every round reads at
least one character, so one round more than there are characters is enough `fuel`. -/
def readFrom : (fuel : Nat) → (opened : Option Location) → (read : List Token) → Cursor →
    Except Fault (List Token × Cursor)
  | 0, _, read, c => .ok (read.reverse, c)
  | fuel + 1, opened, read, c =>
    let c := c.skip
    match c.rest with
    | [] =>
      match opened with
      | some l => .error (.inSource .blockNotClosed l)
      | none => .ok (read.reverse, c)
    | '"' :: _ =>
      match readString c with
      | .error e => .error e
      | .ok (t, c') => readFrom fuel opened (t :: read) c'
    | _ :: _ =>
      let chunk := c.chunk
      let c' := c.advance chunk.length
      if chunk = ['\x7b'] then
        match readFrom fuel (some c.location) [] c' with
        | .error e => .error e
        | .ok (body, c'') => readFrom fuel opened (block c.location body :: read) c''
      else if chunk = ['\x7d'] ∧ opened.isSome then .ok (read.reverse, c')
      else
        match ofChunk c.location chunk with
        | .error e => .error e
        | .ok t => readFrom fuel opened (t :: read) c'

/-- The tokens of a source text. -/
def readAll (path source : String) : Except Fault (List Token) :=
  let c := Cursor.start path source
  match readFrom (c.rest.length + 1) none [] c with
  | .error e => .error e
  | .ok (tokens, _) => .ok tokens

end Token

end BlockForth
