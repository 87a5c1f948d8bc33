import BlockForth.Fault
import BlockForth.Number.Decimal
import BlockForth.Text.Quoted

/-!
# Values

What a slot of the stack holds: a 64-bit integer, a double, or a text.
-/

namespace BlockForth

/-- A value of the language. -/
inductive Value where
  | int (n : Int64)
  | float (x : Float)
  | string (s : String)
deriving DecidableEq

namespace Value

/-- What the value is. -/
def kind : Value → ValueKind
  | int _ => .int
  | float _ => .float
  | string _ => .string

/-- Whether the value is a text. -/
def isString : Value → Bool
  | string _ => true
  | _ => false

/-- Whether the value is a number. -/
def isNumeric : Value → Bool
  | string _ => false
  | _ => true

/-- The value as a condition: a number is false when it is zero, and a text when it is empty. -/
def isTruthy : Value → Bool
  | int n => n != 0
  | float x => x != 0
  | string s => !s.isEmpty

/-- The integer one for true, and zero for false. -/
def ofBool (b : Bool) : Value :=
  int (if b then 1 else 0)

/-- The text of a value, which `.` prints and `+` joins. -/
def text : Value → String
  | int n => n.toInt.repr
  | float x => Decimal.ofFloat x
  | string s => s

/-- The form of a value in a listing of the stack. Texts are quoted. -/
def listing : Value → String
  | string s => Quoted.listing s
  | v => v.text

/-- Whether two values are of one kind and equal. A double that is not a number is equal to none,
and the two zeros are equal. -/
def same : Value → Value → Bool
  | int a, int b => a == b
  | float a, float b => a == b
  | string a, string b => a == b
  | _, _ => false

/-- The integer that the value is. -/
def asInt : Value → Except Cause Int64
  | int n => .ok n
  | v => .error (.unexpectedKind .int v.kind)

/-- The double that the value is. -/
def asFloat : Value → Except Cause Float
  | float x => .ok x
  | v => .error (.unexpectedKind .float v.kind)

/-- The text that the value is. -/
def asString : Value → Except Cause String
  | string s => .ok s
  | v => .error (.unexpectedKind .string v.kind)

end Value

end BlockForth
