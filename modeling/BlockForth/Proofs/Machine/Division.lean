import BlockForth.Proofs.Machine.Operands

/-!
# The division words

The words `//`, `%`, and `/mod` divide integers, each in its own way, and agree with each other and
with the exact division that rounds toward zero (`IsDivision`). The remainder is always the exact
one. The quotient is the exact one modulo `2^64`, and there is one pair of integers for which this
makes a difference: the least integer divided by `-1` is one more than the greatest integer.

The law that the dividend is the quotient times the divisor, plus the remainder, holds for every
pair, since product and sum are taken modulo `2^64` too. `division_words` puts all of this together,
and adds that the three words refuse a divisor of zero.
-/

namespace BlockForth

/-- `q` and `r` are the quotient, rounded toward zero, and the remainder of `a` by `b`. -/
structure IsDivision (a b q r : Int64) : Prop where
  /-- The remainder is the exact one. -/
  remainder_exact : a.toInt.tdiv b.toInt * b.toInt + r.toInt = a.toInt
  natAbs_lt : r.toInt.natAbs < b.toInt.natAbs
  /-- The remainder is zero or has the sign of the dividend. -/
  sign_eq : r.toInt = 0 ∨ r.toInt.sign = a.toInt.sign
  /-- The quotient is the exact one, brought into the range of the integers modulo `2^64`. -/
  quotient_eq : q.toInt = (a.toInt.tdiv b.toInt).bmod UInt64.size
  quotient_exact_iff : q.toInt = a.toInt.tdiv b.toInt ↔ ¬ (a = Int64.minValue ∧ b = -1)

/-! ## Integers -/

section Integers

variable {a b : Int64}

/-- A divisor other than zero is not zero as an integer. -/
theorem toInt_ne_zero (hb : b ≠ 0) : b.toInt ≠ 0 := by
  intro h
  exact hb (Int64.toInt_inj.1 h)

/-- The quotient fits, unless it is that of the least integer by `-1`. -/
theorem toInt_div_eq_iff :
    (a / b).toInt = a.toInt.tdiv b.toInt ↔ ¬ (a = Int64.minValue ∧ b = -1) := by
  constructor
  · -- The exact quotient is `2^63` here, which is no integer of the machine.
    rintro h ⟨rfl, rfl⟩
    exact absurd h (by decide)
  · intro h
    by_cases ha : a = Int64.minValue
    · exact Int64.toInt_div_of_ne_right a b fun hb => h ⟨ha, hb⟩
    · exact Int64.toInt_div_of_ne_left a b ha

/-- The quotient and the remainder of the machine's integers are those of a division. -/
theorem isDivision_of_ne_zero (hb : b ≠ 0) : IsDivision a b (a / b) (a % b) where
  remainder_exact := by
    rw [Int64.toInt_mod]
    exact Int.tdiv_mul_add_tmod a.toInt b.toInt
  natAbs_lt := by
    rw [Int64.toInt_mod, Int.natAbs_tmod]
    exact Nat.mod_lt _ (Int.natAbs_pos.2 (toInt_ne_zero hb))
  sign_eq := by
    have hsign := Int.sign_tmod a.toInt b.toInt
    rw [Int64.toInt_mod]
    -- The sign is zero if the division leaves no remainder.
    split at hsign
    · exact .inl (Int.sign_eq_zero_iff_zero.1 hsign)
    · exact .inr hsign
  quotient_eq := Int64.toInt_div a b
  quotient_exact_iff := toInt_div_eq_iff

/-- The quotient and the remainder give the dividend back, also where the quotient does not fit. -/
theorem div_mul_add_mod (a b : Int64) : a / b * b + a % b = a := by
  apply Int64.toInt_inj.1
  rw [Int64.toInt_add, Int64.toInt_mul, Int64.toInt_div, Int64.toInt_mod]
  -- Only the last of the three residues matters, and it is that of the exact law.
  generalize hq : a.toInt.tdiv b.toInt = q
  generalize hr : a.toInt.tmod b.toInt = r
  have hexact : q * b.toInt + r = a.toInt := by
    rw [← hq, ← hr]
    exact Int.tdiv_mul_add_tmod a.toInt b.toInt
  calc ((q.bmod UInt64.size * b.toInt).bmod UInt64.size + r).bmod UInt64.size
      = ((q * b.toInt).bmod UInt64.size + r).bmod UInt64.size := by rw [Int.bmod_mul_bmod]
    _ = (q * b.toInt + r).bmod UInt64.size := by rw [Int.bmod_add_bmod]
    _ = a.toInt.bmod UInt64.size := by rw [hexact]
    _ = a.toInt := Int64.toInt_bmod a

end Integers

/-! ## Values -/

namespace Value

/-- A quotient of integers is there if the divisor is not zero. -/
theorem quotient_int {a b : Int64} (hb : b ≠ 0) :
    (int a).quotient (int b) = .ok (int (a / b)) := by
  simp [quotient, isNumeric, isZero, numeric, hb]

/-- A remainder of integers is there if the divisor is not zero. -/
theorem remainder_int {a b : Int64} (hb : b ≠ 0) :
    (int a).remainder (int b) = .ok (int (a % b)) := by
  simp [remainder, hb]

/-- The product and the sum of values rebuild the dividend. -/
theorem multiply_add_int (a b : Int64) :
    ((int (a / b)).multiply (int b) >>= fun p => p.add (int (a % b))) = .ok (int a) := by
  show Except.ok (int (a / b * b + a % b)) = _
  rw [div_mul_add_mod]

end Value

/-! ## Words -/

namespace Machine

variable {m : Machine} {a b : Int64} {base : List Value}

/-- The word `/mod` looks at the divisor with both integers taken off. -/
theorem exists_perform_divMod (h : m.stack.values = .int b :: .int a :: base) :
    ∃ u : Stack, u.values = base ∧ m.perform .divMod =
      if b = 0 then m.fail (.divisionByZero "/mod")
      else .done { m with stack := (u.push (.int (a % b))).push (.int (a / b)) } := by
  obtain ⟨t, htop, ht⟩ := Stack.exists_popInt h
  obtain ⟨u, hbelow, hu⟩ := Stack.exists_popInt ht
  refine ⟨u, hu, ?_⟩
  rw [perform_eq_performAtOnce, performAtOnce, htop]
  show m.given t.popInt _ = _
  rw [hbelow]
  rfl

/-- With a divisor other than zero, `/mod` leaves the remainder with the quotient on top. -/
theorem divMod_leaves (h : m.stack.values = .int b :: .int a :: base) (hb : b ≠ 0) :
    m.Leaves .divMod (.int (a / b) :: .int (a % b) :: base) := by
  obtain ⟨u, hu, hperform⟩ := exists_perform_divMod h
  exact ⟨(u.push (.int (a % b))).push (.int (a / b)), hperform.trans (if_neg hb), by simp [hu]⟩

/-- With the divisor zero, `/mod` fails. -/
theorem divMod_refuses_zero (h : m.stack.values = .int 0 :: .int a :: base) :
    m.Refuses .divMod .divisionByZero := by
  obtain ⟨u, -, hperform⟩ := exists_perform_divMod h
  exact ⟨_, hperform.trans (if_pos rfl), rfl⟩

/-- The division words agree with each other and with exact arithmetic on all integers, and leave
the values below their operands alone. A divisor of zero is refused. -/
theorem division_words (m : Machine) (a b : Int64) (base : List Value)
    (h : m.stack.values = .int b :: .int a :: base) :
    (b ≠ 0 → ∃ q r, IsDivision a b q r ∧
      (Value.int a).quotient (.int b) = .ok (.int q) ∧
      (Value.int a).remainder (.int b) = .ok (.int r) ∧
      ((Value.int q).multiply (.int b) >>= fun p => p.add (.int r)) = .ok (.int a) ∧
      m.Leaves .quotient (.int q :: base) ∧ m.Leaves .remainder (.int r :: base) ∧
      m.Leaves .divMod (.int q :: .int r :: base)) ∧
    (b = 0 → m.Refuses .quotient .divisionByZero ∧ m.Refuses .remainder .divisionByZero ∧
      m.Refuses .divMod .divisionByZero) := by
  constructor
  · intro hb
    have hquotient : (Value.int a).quotient (.int b) = .ok (.int (a / b)) := Value.quotient_int hb
    have hremainder : (Value.int a).remainder (.int b) = .ok (.int (a % b)) :=
      Value.remainder_int hb
    exact ⟨a / b, a % b, isDivision_of_ne_zero hb, hquotient, hremainder,
      Value.multiply_add_int a b, leaves_of_operator rfl h hquotient,
      leaves_of_operator rfl h hremainder, divMod_leaves h hb⟩
  · rintro rfl
    have hquotient : (Value.int a).quotient (.int 0) = .error (.divisionByZero "//") := rfl
    have hremainder : (Value.int a).remainder (.int 0) = .error (.divisionByZero "%") := rfl
    exact ⟨refuses_of_operator rfl h hquotient, refuses_of_operator rfl h hremainder,
      divMod_refuses_zero h⟩

/-- A machine whose stack holds a text and two integers. -/
def dividing (a b : Int64) : Machine where
  stack := ((Stack.empty.push (.string "x")).push (.int a)).push (.int b)

/-- The least integer divided by `-1` is the least integer again, and nothing is left over. By zero
it is not divided. -/
theorem division_words_least :
    (dividing Int64.minValue (-1)).Leaves .divMod
        [.int Int64.minValue, .int 0, .string "x"] ∧
      (dividing Int64.minValue 0).Refuses .divMod .divisionByZero := by
  have hbelow : (-1 : Int64) ≠ 0 := by decide
  obtain ⟨q, r, hdivision, -, -, -, -, -, hleaves⟩ :=
    (division_words (dividing Int64.minValue (-1)) Int64.minValue (-1) [.string "x"] rfl).1 hbelow
  have hq : q = Int64.minValue := by
    apply Int64.toInt_inj.1
    rw [hdivision.quotient_eq]
    decide
  have hr : r = 0 := by
    apply Int64.toInt_inj.1
    have hlt := hdivision.natAbs_lt
    rw [show (-1 : Int64).toInt.natAbs = 1 by decide] at hlt
    rw [Int64.toInt_zero]
    omega
  rw [hq, hr] at hleaves
  exact ⟨hleaves,
    ((division_words (dividing Int64.minValue 0) Int64.minValue 0 [.string "x"] rfl).2 rfl).2.2⟩

end Machine

end BlockForth
