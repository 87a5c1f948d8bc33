/-!
# Source locations

A location names a source, and a line and a column in it, both counted from one. `Location.next`
says how reading one character moves it, and `Location.after` how reading a text does: a newline
starts the next line, and every other character, a carriage return or a tab included, is one column.
-/

namespace BlockForth

/-- A position in a named source. The default is the location that code without a source has. -/
structure Location where
  /-- The path of the source, or a tag that describes it. -/
  path : String := "unspecified"
  /-- The line, counted from one. -/
  line : Nat := 1
  /-- The column, counted from one. -/
  column : Nat := 1
deriving DecidableEq, Repr, Inhabited

namespace Location

/-- The start of the source `path`. -/
def start (path : String) : Location where
  path := path

/-- The location after the character `c` at `l`. -/
def next (l : Location) (c : Char) : Location :=
  if c = '\n' then { l with line := l.line + 1, column := 1 } else { l with column := l.column + 1 }

/-- The location after the characters `cs`, the first of them at `l`. -/
def after (l : Location) (cs : List Char) : Location :=
  cs.foldl next l

/-- The written form of a location: `path (line, column)`. -/
def text (l : Location) : String :=
  l.path ++ " (" ++ l.line.repr ++ ", " ++ l.column.repr ++ ")"

/-- Without characters the location stays. -/
@[simp]
theorem after_nil (l : Location) : l.after [] = l := rfl

/-- Characters are passed one after the other. -/
@[simp]
theorem after_cons (l : Location) (c : Char) (cs : List Char) :
    l.after (c :: cs) = (l.next c).after cs := rfl

/-- Passing two texts is passing the first and then the second. -/
theorem after_append (l : Location) (cs ds : List Char) :
    l.after (cs ++ ds) = (l.after cs).after ds :=
  List.foldl_append

end Location

end BlockForth
