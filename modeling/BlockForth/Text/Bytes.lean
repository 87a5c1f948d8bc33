/-!
# Byte offsets

Where the bytes of a text are counted, an offset may fall between two characters or inside one.
-/

namespace BlockForth

/-- The number of bytes that characters take up. -/
def byteSize (cs : List Char) : Nat :=
  cs.foldr (fun c size => c.utf8Size + size) 0

/-- Drops the characters that take up the first `count` bytes. There is no result if one of them
reaches beyond. -/
def dropBytes? : (count : Nat) → List Char → Option (List Char)
  | 0, cs => some cs
  | _ + 1, [] => none
  | count + 1, c :: cs =>
    if c.utf8Size ≤ count + 1 then dropBytes? (count + 1 - c.utf8Size) cs else none

/-- Takes the characters that take up the first `count` bytes. There is no result if one of them
reaches beyond. -/
def takeBytes? : (count : Nat) → List Char → Option (List Char)
  | 0, _ => some []
  | _ + 1, [] => none
  | count + 1, c :: cs =>
    if c.utf8Size ≤ count + 1 then (takeBytes? (count + 1 - c.utf8Size) cs).map (c :: ·) else none

/-- The characters from the byte offset `first` to the byte offset `last`. -/
def sliceBytes? (first last : Nat) (cs : List Char) : Option (List Char) :=
  (dropBytes? first cs).bind (takeBytes? (last - first))

/-- Whether the byte offset falls between two characters, or at an end. -/
def isBoundary (cs : List Char) (offset : Nat) : Bool :=
  (dropBytes? offset cs).isSome

end BlockForth
