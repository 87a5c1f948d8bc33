import BlockForth.Number.Numeral

/-!
# Numerals of integers

Decimal digits have the value that the positional system gives them, and the decimal form of an
integer, with its sign, reads as that integer. Of the two checks that bring an integer into 64 bits
the first one, for the magnitude alone, refuses nothing that the second one would let pass.
-/

namespace BlockForth.Numeral

/-- The value of a decimal digit. -/
theorem digit?_of_isDigit {c : Char} (h : c.isDigit = true) :
    digit? c = some (c.toNat - '0'.toNat) := by
  rw [Char.isDigit, Bool.and_eq_true, decide_eq_true_eq, decide_eq_true_eq] at h
  obtain ⟨hlow, hhigh⟩ := h
  have hrange : ('0' ≤ c && c ≤ '9') = true := by
    rw [Bool.and_eq_true, decide_eq_true_eq, decide_eq_true_eq]
    exact ⟨hlow, hhigh⟩
  rw [digit?, if_pos hrange]

/-- A decimal digit is less than ten. -/
theorem digit_lt_ten {c : Char} (h : c.isDigit = true) : c.toNat - '0'.toNat < 10 := by
  obtain ⟨-, hhigh⟩ := Char.isDigit_iff_toNat.1 h
  have hnine : '9'.toNat = 57 := rfl
  have hzero : '0'.toNat = 48 := rfl
  omega

/-- Decimal digits have their positional value. -/
theorem digitsFrom?_of_isDigit (n : Nat) (cs : List Char) (h : ∀ c ∈ cs, c.isDigit = true) :
    digitsFrom? 10 n cs = some (Nat.ofDigitChars 10 cs n) := by
  induction cs generalizing n with
  | nil => rw [digitsFrom?, Nat.ofDigitChars_nil]
  | cons c rest ih =>
    have hc : c.isDigit = true := h c List.mem_cons_self
    rw [digitsFrom?, digit?_of_isDigit hc]
    dsimp only
    rw [if_pos (digit_lt_ten hc), ih _ fun d hd => h d (List.mem_cons_of_mem c hd),
      Nat.ofDigitChars_cons]

/-- Decimal digits without a sign are the numeral of their positional value. -/
theorem magnitude?_of_isDigit (negative : Bool) {cs : List Char} (hne : cs ≠ [])
    (h : ∀ c ∈ cs, c.isDigit = true) :
    magnitude? negative cs = some (integer (signed negative (Nat.ofDigitChars 10 cs 0))) := by
  have hdigits : digits? 10 cs = some (Nat.ofDigitChars 10 cs 0) := by
    rw [digits?, if_neg (by simpa using hne), digitsFrom?_of_isDigit 0 cs h]
  unfold magnitude?
  split
  case h_1 | h_2 | h_3 =>
    -- The letter of a radix is no digit.
    exact absurd (h _ (List.mem_cons_of_mem _ List.mem_cons_self)) (by decide)
  case h_4 => rw [hdigits]

/-- The decimal form of a natural number. -/
theorem magnitude?_repr (negative : Bool) (n : Nat) :
    magnitude? negative n.repr.toList = some (integer (signed negative n)) := by
  rw [Nat.toList_repr, magnitude?_of_isDigit negative Nat.toDigits_ne_nil
    fun c hc => Nat.isDigit_of_mem_toDigits (by decide) (by decide) hc,
    Nat.ofDigitChars_ten_toDigits]

/-- The first digit of a natural number is no sign. -/
theorem head_repr_ne_minus (n : Nat) (rest : List Char) : n.repr.toList ≠ '-' :: rest := by
  intro h
  have hdigit : '-'.isDigit = true := by
    refine Nat.isDigit_of_mem_toDigits (b := 10) (n := n) (by decide) (by decide) ?_
    rw [← Nat.toList_repr, h]
    exact List.mem_cons_self
  exact absurd hdigit (by decide)

/-- The decimal form of an integer is a numeral of it. -/
theorem read?_repr (z : Int) : read? z.repr.toList = some (integer z) := by
  rw [Int.repr_eq_if]
  split
  · rename_i hz
    have hsigned : signed false z.toNat = z := Int.toNat_of_nonneg hz
    unfold read?
    split
    · rename_i rest hminus
      exact absurd hminus (head_repr_ne_minus _ rest)
    · rw [magnitude?_repr, hsigned]
  · rename_i hz
    have hsigned : signed true (-z).toNat = z := by
      show -((-z).toNat : Int) = z
      omega
    have hsign : ("-" ++ (-z).toNat.repr).toList = '-' :: (-z).toNat.repr.toList := by
      rw [String.toList_append]
      rfl
    rw [hsign, read?, magnitude?_repr, hsigned]

/-- The decimal form of an integer is made of digits and a sign. -/
theorem isDigit_of_mem_repr {z : Int} {a : Char} (h : a ∈ z.repr.toList) :
    a = '-' ∨ a.isDigit = true := by
  rw [Int.repr_eq_if] at h
  split at h
  · rw [Nat.toList_repr] at h
    exact .inr (Nat.isDigit_of_mem_toDigits (by decide) (by decide) h)
  · rw [String.toList_append, List.mem_append, Nat.toList_repr] at h
    rcases h with hsign | hdigit
    · exact .inl (List.mem_singleton.1 hsign)
    · exact .inr (Nat.isDigit_of_mem_toDigits (by decide) (by decide) hdigit)

/-- The decimal form of an integer is not empty. -/
theorem repr_ne_nil (z : Int) : z.repr.toList ≠ [] := by
  intro h
  have hread := read?_repr z
  rw [h] at hread
  cases hread

/-! ## Sixty-four bits -/

/-- The sign and the magnitude of an integer give it back. -/
theorem signed_natAbs (z : Int) : signed (decide (z < 0)) z.natAbs = z := by
  by_cases hz : z < 0
  · rw [decide_eq_true hz, signed, if_pos rfl]
    omega
  · rw [decide_eq_false hz, signed, if_neg Bool.false_ne_true]
    omega

/-- Both checks together let those integers pass that 64 bits hold. -/
theorem toInt64?_eq (z : Int) :
    toInt64? z =
      if Int64.minValue.toInt ≤ z ∧ z ≤ Int64.maxValue.toInt then some (Int64.ofInt z)
      else none := by
  unfold toInt64? word?
  by_cases hword : z.natAbs < UInt64.size
  · rw [if_pos hword, Option.bind_some, narrow?, signed_natAbs]
  · -- A magnitude beyond every word is not that of an integer in 64 bits.
    have hmin : Int64.minValue.toInt = -9223372036854775808 := by decide
    have hmax : Int64.maxValue.toInt = 9223372036854775807 := by decide
    have hsize : UInt64.size = 18446744073709551616 := rfl
    rw [if_neg hword, Option.bind_none, if_neg (by omega)]

end BlockForth.Numeral
