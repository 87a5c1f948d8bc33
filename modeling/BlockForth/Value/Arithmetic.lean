import BlockForth.Text.Pieces
import BlockForth.Value.Basic

/-!
# Arithmetic of values

Integers wrap around, and an integer next to a double counts as the double nearest to it. Some
operators also work on texts: `+` joins, `-` deletes, `*` repeats, and `/` cuts. Division refuses a
zero divisor of either kind, and integer division rounds toward zero.
-/

namespace BlockForth

/-- Whether `operator` may build a text of so many bytes. `none` is a length beyond every machine
word. -/
def checkLength (length : Option Nat) (operator : String) : Except Cause Unit :=
  match length with
  | some n => if n ≤ maxTextBytes then .ok () else .error (.textTooLong operator)
  | none => .error (.textTooLong operator)

/-- How often a count asks for something: a negative count is none. -/
def countOf (n : Int64) : Nat :=
  n.toInt.toNat

/-- The product of a length and a count, unless it is beyond every machine word. -/
def lengthTimes (length count : Nat) : Option Nat :=
  if length * count < UInt64.size then some (length * count) else none

namespace Value

/-- The double nearest to a number. A text is none. -/
def toFloat? : Value → Option Float
  | int n => some (Float.ofInt n.toInt)
  | float x => some x
  | string _ => none

/-- Whether the value is the number zero. -/
def isZero : Value → Bool
  | int n => n == 0
  | float x => x == 0
  | string _ => false

/-- The type fault of an operator. -/
def refuse {α : Type} (operator : String) (a b : Value) : Except Cause α :=
  .error (.operandKinds operator a.kind b.kind)

/-- Applies `onInts` to two integers, and `onFloats` to two numbers of which one is a double. -/
def numeric (operator : String) (onInts : Int64 → Int64 → Int64) (onFloats : Float → Float → Float)
    (a b : Value) : Except Cause Value :=
  match a, b with
  | int m, int n => .ok (int (onInts m n))
  | _, _ =>
    match a.toFloat?, b.toFloat? with
    | some x, some y => .ok (float (onFloats x y))
    | _, _ => refuse operator a b

/-- The sum of two numbers, or the joined texts of two values of which one is a text. -/
def add (a b : Value) : Except Cause Value :=
  if a.isString || b.isString then .ok (string (a.text ++ b.text))
  else numeric "+" (· + ·) (· + ·) a b

/-- The difference of two numbers, or a text without the occurrences of the other value's text. -/
def subtract (a b : Value) : Except Cause Value :=
  match a with
  | string s => .ok (string (deleteAll b.text s))
  | _ => numeric "-" (· - ·) (· - ·) a b

/-- A text repeated as often as a count asks, within the limit. -/
def repeated (s : String) (count : Int64) : Except Cause Value := do
  checkLength (lengthTimes s.utf8ByteSize (countOf count)) "*"
  return string (repeatText s (countOf count))

/-- The product of two numbers, or a text repeated an integer number of times. -/
def multiply (a b : Value) : Except Cause Value :=
  match a, b with
  | string s, int n => repeated s n
  | int n, string s => repeated s n
  | _, _ => numeric "*" (· * ·) (· * ·) a b

/-- The quotient of two numbers as a double, or the chunks of a text. -/
def divide (a b : Value) : Except Cause (List Value) :=
  match a, b with
  | string s, int size =>
    if size ≤ 0 then .error (.chunkSize size)
    else .ok ((chunks (countOf size) s).map string)
  | _, _ =>
    match a.toFloat?, b.toFloat? with
    | some x, some y => if b.isZero then .error (.divisionByZero "/") else .ok [float (x / y)]
    | _, _ => refuse "/" a b

/-- The quotient of two numbers without its fraction. It is an integer for two integers. -/
def quotient (a b : Value) : Except Cause Value :=
  if a.isNumeric && b.isZero then .error (.divisionByZero "//")
  else numeric "//" (· / ·) (fun x y => Binary64.truncate (x / y)) a b

/-- The remainder of two integers, with the sign of the first. -/
def remainder (a b : Value) : Except Cause Value :=
  match a, b with
  | int m, int n => if n = 0 then .error (.divisionByZero "%") else .ok (int (m % n))
  | _, _ => refuse "%" a b

end Value

end BlockForth
