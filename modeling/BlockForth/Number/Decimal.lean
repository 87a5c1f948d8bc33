import BlockForth.Number.Binary64

/-!
# The decimal text of a double

A double that is an integer is written exactly, with the fraction `.0`. Any other double is written
with the fewest places at which some decimal still reads back as the same double. Of the decimals
with so many places it is the nearest one, and the larger one if two are equally near. There is no
notation with an exponent.

A double `m / 2^s` that is no integer is farther from every integer than half the distance to its
neighbours. So fewest places and fewest digits are the same for it.
-/

namespace BlockForth

namespace Decimal

/-- Whether the decimal `k / p` rounds to the double `m / 2^s`. It does if it lies between the
middles to the double's neighbours, or on one of them when `m` is even. The lower neighbour is at
half the distance of the upper one if `narrow` is true. -/
def readsBack (m s : Nat) (narrow : Bool) (p k : Nat) : Bool :=
  let x := k * Nat.pow 2 (s + 2)
  let low := (4 * m - if narrow then 1 else 2) * p
  let high := (4 * m + 2) * p
  if m % 2 = 0 then low ≤ x && x ≤ high else low < x && x < high

/-- The decimal `k / 10^d` that `m / 2^s` is written as, as the pair of `k` and `d`: the first hit
from `d` places on, among `fuel` numbers of places. The exact value is the answer if there is none.
-/
def fewestFrom (m s : Nat) (narrow : Bool) : (fuel d : Nat) → Nat × Nat
  | 0, d => (m * Nat.pow 10 d / Nat.pow 2 s, d)
  | fuel + 1, d =>
    let p := Nat.pow 10 d
    let below := m * p / Nat.pow 2 s
    let up := Nat.pow 2 s ≤ 2 * (m * p % Nat.pow 2 s)
    let nearest := if up then below + 1 else below
    let other := if up then below else below + 1
    if readsBack m s narrow p nearest then (nearest, d)
    else if readsBack m s narrow p other then (other, d)
    else fewestFrom m s narrow fuel (d + 1)

/-- The decimal with the fewest places that reads back as the double `m / 2^s`, as the pair of its
digits and its places. The double's value needs `s` places to be written exactly, so the search
ends. -/
def fewest (m s : Nat) (narrow : Bool) : Nat × Nat :=
  fewestFrom m s narrow s 1

/-- The positional text of `k / 10^d`. -/
def positional (k d : Nat) : String :=
  let fraction := (k % Nat.pow 10 d).repr
  (k / Nat.pow 10 d).repr ++ "." ++ "".pushn '0' (d - fraction.length) ++ fraction

/-- The text of the number `m * 2^e / 2^1074`. -/
def magnitude (m e : Nat) : String :=
  if 1074 ≤ e then (m * Nat.pow 2 (e - 1074)).repr ++ ".0"
  else
    let s := 1074 - e
    if m % Nat.pow 2 s = 0 then (m / Nat.pow 2 s).repr ++ ".0"
    else
      let decimal := fewest m s (m == Nat.pow 2 52 && 0 < e)
      positional decimal.1 decimal.2

/-- The sign in front of a number's text. -/
def sign (negative : Bool) : String :=
  if negative then "-" else ""

/-- The text of a double. -/
def ofFloat (x : Float) : String :=
  match Binary64.ofFloat x with
  | .nan => "NaN"
  | .infinite negative => sign negative ++ "inf"
  | .finite negative m e => sign negative ++ magnitude m e

end Decimal

end BlockForth
