/-!
# The parts of a double

A finite double is `± m * 2^e / 2^1074` for natural numbers `m < 2^53` and `e`. This module takes a
double apart in that way from its bits, and cuts off its fraction.
-/

namespace BlockForth

/-- A double by its parts. -/
inductive Binary64 where
  /-- Not a number. -/
  | nan
  /-- An infinity, and whether it is the negative one. -/
  | infinite (negative : Bool)
  /-- The number `mantissa * 2^exponent / 2^1074`, or its negative. -/
  | finite (negative : Bool) (mantissa exponent : Nat)
deriving DecidableEq, Repr

namespace Binary64

/-- The parts of a double. -/
def ofFloat (x : Float) : Binary64 :=
  let bits := x.toBits.toNat
  let negative := bits / Nat.pow 2 63 == 1
  let biased := bits / Nat.pow 2 52 % Nat.pow 2 11
  let fraction := bits % Nat.pow 2 52
  if biased == 2047 then if fraction == 0 then infinite negative else nan
  else if biased == 0 then finite negative fraction 0
  else finite negative (Nat.pow 2 52 + fraction) (biased - 1)

/-- The double with the fraction cut off: the integer toward zero, with the same sign. The bits
below the binary point are the last `1075 - biased` ones. -/
def truncate (x : Float) : Float :=
  let bits := x.toBits.toNat
  let biased := bits / Nat.pow 2 52 % Nat.pow 2 11
  if biased < 1023 then Float.ofBits (bits / Nat.pow 2 63 * Nat.pow 2 63).toUInt64
  else if biased < 1075 then
    let low := Nat.pow 2 (1075 - biased)
    Float.ofBits (bits / low * low).toUInt64
  else x

end Binary64

end BlockForth
