/-!
# Deleting, cutting, and repeating text

The operations on texts behind the arithmetic words: deleting every occurrence of a pattern, cutting
a text into chunks of one length, and repeating it.
-/

namespace BlockForth

/-- Deletes the occurrences of `pattern`, found from the left and without overlap. The next `skip`
characters belong to an occurrence already found, and `kept` holds the characters kept so far, last
one first. -/
def deleteFrom (pattern : List Char) (skip : Nat) (kept : List Char) : List Char → List Char
  | [] => kept.reverse
  | c :: rest =>
    match skip with
    | skip + 1 => deleteFrom pattern skip kept rest
    | 0 =>
      if pattern.isPrefixOf (c :: rest) then deleteFrom pattern (pattern.length - 1) kept rest
      else deleteFrom pattern 0 (c :: kept) rest

/-- The text without the leftmost occurrences of `pattern` that do not overlap. An empty pattern
deletes nothing. -/
def deleteAll (pattern text : String) : String :=
  if pattern.isEmpty then text else String.ofList (deleteFrom pattern.toList 0 [] text.toList)

/-- Cuts a list into runs of `size` elements, the last of which may be shorter. `run` holds the
current run, last element first, `room` how many more elements it takes, and `runs` the runs before
it, last one first. -/
def runsFrom {α : Type} (size room : Nat) (run : List α) (runs : List (List α)) :
    List α → List (List α)
  | [] => (if run.isEmpty then runs else run.reverse :: runs).reverse
  | a :: rest =>
    match room with
    | 0 => runsFrom size (size - 1) [a] (run.reverse :: runs) rest
    | room + 1 => runsFrom size room (a :: run) runs rest

/-- The chunks of `size` characters of a text, the last of which may be shorter. There are none for
the empty text. `size` is positive. -/
def chunks (size : Nat) (text : String) : List String :=
  (runsFrom size size [] [] text.toList).map String.ofList

/-- The text written `count` times. -/
def repeatText (text : String) (count : Nat) : String :=
  if text.isEmpty then "" else String.join (List.replicate count text)

end BlockForth
