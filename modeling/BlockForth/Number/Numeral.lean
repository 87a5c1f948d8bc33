/-!
# Numerals

A numeral is an optional `-` followed by digits: decimal digits, digits of radix 16, 8, or 2 after
`0x`, `0o`, or `0b`, or decimal digits on both sides of a point. Digits are ASCII characters, and
those above nine may have either case. A text that starts like a numeral with a radix and goes on
otherwise is none.
-/

namespace BlockForth

/-- The number that a numeral stands for. An integer is unbounded here. -/
inductive Numeral where
  | integer (value : Int)
  | float (value : Float)
deriving DecidableEq, Repr

namespace Numeral

/-- The value of a digit of some radix up to sixteen. -/
def digit? (c : Char) : Option Nat :=
  if '0' ≤ c && c ≤ '9' then some (c.toNat - '0'.toNat)
  else if 'a' ≤ c && c ≤ 'f' then some (c.toNat - 'a'.toNat + 10)
  else if 'A' ≤ c && c ≤ 'F' then some (c.toNat - 'A'.toNat + 10)
  else none

/-- The value of the digits `cs` in `radix` after digits with the value `n`, if they are digits of
that radix. -/
def digitsFrom? (radix : Nat) (n : Nat) : List Char → Option Nat
  | [] => some n
  | c :: rest =>
    match digit? c with
    | none => none
    | some d => if d < radix then digitsFrom? radix (radix * n + d) rest else none

/-- The value of one or more digits in `radix`. -/
def digits? (radix : Nat) (cs : List Char) : Option Nat :=
  if cs.isEmpty then none else digitsFrom? radix 0 cs

/-- A natural number as an integer with the given sign. -/
def signed (negative : Bool) (n : Nat) : Int :=
  if negative then -n else n

/-- The double that `whole`, a point, and `fraction` stand for, if both are decimal digits. It is
the one nearest to the decimal. -/
def decimal? (negative : Bool) (whole fraction : List Char) : Option Float :=
  match digits? 10 whole, digits? 10 fraction with
  | some _, some _ =>
    match digits? 10 (whole ++ fraction) with
    | some n =>
      let x := Float.ofScientific n true fraction.length
      some (if negative then -x else x)
    | none => none
  | _, _ => none

/-- Reads a numeral without its sign. -/
def magnitude? (negative : Bool) (cs : List Char) : Option Numeral :=
  match cs with
  | '0' :: 'x' :: ds => (digits? 16 ds).map (integer <| signed negative ·)
  | '0' :: 'o' :: ds => (digits? 8 ds).map (integer <| signed negative ·)
  | '0' :: 'b' :: ds => (digits? 2 ds).map (integer <| signed negative ·)
  | cs =>
    match digits? 10 cs with
    | some n => some (integer (signed negative n))
    | none =>
      match cs.dropWhile (· != '.') with
      | [] => none
      | _ :: fraction =>
        (decimal? negative (cs.takeWhile (· != '.')) fraction).map float

/-- Reads a whole text as a numeral, with at most one sign. -/
def read? (cs : List Char) : Option Numeral :=
  match cs with
  | '-' :: rest => magnitude? true rest
  | cs => magnitude? false cs

/-- A magnitude as an unsigned word of 64 bits, if it is within one. -/
def word? (n : Nat) : Option Nat :=
  if n < UInt64.size then some n else none

/-- The signed word of 64 bits with the given sign and magnitude, if there is one. -/
def narrow? (negative : Bool) (n : Nat) : Option Int64 :=
  if Int64.minValue.toInt ≤ signed negative n ∧ signed negative n ≤ Int64.maxValue.toInt then
    some (Int64.ofInt (signed negative n))
  else none

/-- An integer in 64 bits. It has none if its magnitude is beyond every word, nor if the magnitude
is within a word but not with the sign. -/
def toInt64? (z : Int) : Option Int64 :=
  (word? z.natAbs).bind (narrow? (decide (z < 0)))

end Numeral

end BlockForth
