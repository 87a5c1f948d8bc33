import BlockForth.Value.Arithmetic

/-!
# Comparison of values

Integers are compared exactly, texts by the bytes of their UTF-8 forms, and an integer with a double
as doubles. A number and a text, or a double that is not a number and any other, have no order. They
are unequal, and asking for their order is a fault.
-/

namespace BlockForth

/-- The six questions about two values. -/
inductive Comparison where
  | equal
  | notEqual
  | less
  | lessEqual
  | greater
  | greaterEqual
deriving DecidableEq, Repr

/-- The order of two texts by the bytes of their UTF-8 forms. -/
def compareText (a b : String) : Ordering :=
  compare a.toUTF8.data.toList b.toUTF8.data.toList

/-- The order of two doubles, if there is one. -/
def compareFloat? (x y : Float) : Option Ordering :=
  if x < y then some .lt
  else if x == y then some .eq
  else if y < x then some .gt
  else none

namespace Value

/-- The order of two values, if there is one. -/
def order? (a b : Value) : Option Ordering :=
  match a, b with
  | int m, int n => some (compare m.toInt n.toInt)
  | string s, string t => some (compareText s t)
  | _, _ =>
    match a.toFloat?, b.toFloat? with
    | some x, some y => compareFloat? x y
    | _, _ => none

/-- The answer to a comparison of two values. -/
def compare (c : Comparison) (a b : Value) : Except Cause Bool :=
  match c, a.order? b with
  | .equal, order => .ok (order == some .eq)
  | .notEqual, order => .ok (order != some .eq)
  | .less, some order => .ok (order == .lt)
  | .lessEqual, some order => .ok (order != .gt)
  | .greater, some order => .ok (order == .gt)
  | .greaterEqual, some order => .ok (order != .lt)
  | _, none => refuse "comparison" a b

end Value

end BlockForth
