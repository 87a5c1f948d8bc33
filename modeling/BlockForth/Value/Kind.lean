/-!
# The kinds of values
-/

namespace BlockForth

/-- What a value is. -/
inductive ValueKind where
  | int
  | float
  | string
deriving DecidableEq, Repr

/-- The name of a kind, which is also what the word `type` answers. -/
def ValueKind.name : ValueKind → String
  | .int => "int"
  | .float => "float"
  | .string => "string"

end BlockForth
