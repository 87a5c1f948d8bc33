import BlockForth.Proofs.Machine.AtOnce

/-!
# Words on the operands that they find

What a built-in word makes of a stack whose upper values are known. It either leaves other values
there and changes nothing else in the machine (`Machine.Leaves`), or it refuses the operands, which
stay where they are (`Machine.Refuses`). For a word that applies an operator to two values, the
operator decides which of the two happens. The values below the operands are arbitrary.
-/

namespace BlockForth

namespace Stack

variable {s : Stack} {base : List Value}

/-- The upper two values are taken off one after the other. -/
theorem exists_pop_pop {a b : Value} (h : s.values = b :: a :: base) :
    ∃ t u, s.pop = .ok (b, t) ∧ t.pop = .ok (a, u) ∧ u.values = base := by
  obtain ⟨t, hb, ht, -⟩ := exists_pop_of_values_eq_cons h
  obtain ⟨u, ha, hu, -⟩ := exists_pop_of_values_eq_cons ht
  exact ⟨t, u, hb, ha, hu⟩

/-- An operator gets the upper two values, and its result is put in their place. -/
theorem exists_binary {a b : Value} (h : s.values = b :: a :: base) :
    ∃ u : Stack, u.values = base ∧
      ∀ operator, s.binary operator = (operator a b).map u.push := by
  obtain ⟨t, u, hb, ha, hu⟩ := exists_pop_pop h
  refine ⟨u, hu, fun operator => ?_⟩
  unfold binary
  simp only [hb, ha, bind, Except.bind]
  rcases operator a b with cause | v
  · rfl
  · rfl

/-- An integer is taken off. -/
theorem exists_popInt {n : Int64} (h : s.values = .int n :: base) :
    ∃ t, s.popInt = .ok (n, t) ∧ t.values = base := by
  obtain ⟨t, hpop, ht, -⟩ := exists_pop_of_values_eq_cons h
  refine ⟨t, ?_, ht⟩
  unfold popInt popAs
  rw [hpop]
  rfl

end Stack

namespace Machine

/-- The word succeeds and leaves these values on the stack, top first. Outside of the stack nothing
changes. -/
def Leaves (m : Machine) (w : Builtin) (values : List Value) : Prop :=
  ∃ s, m.perform w = .done { m with stack := s } ∧ s.values = values

/-- The word fails with a fault of this kind, and leaves the machine as it was. -/
def Refuses (m : Machine) (w : Builtin) (kind : FaultKind) : Prop :=
  ∃ f, m.perform w = { machine := m, fault := some f } ∧ f.kind = kind

variable {m : Machine} {w : Builtin} {a b : Value} {base : List Value}
  {operator : Value → Value → Except Cause Value}

/-- Where an operator has a result, its word replaces the operands by the result. -/
theorem leaves_of_operator (hw : m.performAtOnce w = m.onStack (m.stack.binary operator))
    (h : m.stack.values = b :: a :: base) {v : Value} (hv : operator a b = .ok v) :
    m.Leaves w (v :: base) := by
  obtain ⟨u, hu, hbinary⟩ := Stack.exists_binary h
  rw [hbinary, hv] at hw
  exact ⟨u.push v, (perform_eq_performAtOnce m w).trans hw, by rw [Stack.values_push, hu]⟩

/-- Where an operator has a fault, its word has that fault. -/
theorem refuses_of_operator (hw : m.performAtOnce w = m.onStack (m.stack.binary operator))
    (h : m.stack.values = b :: a :: base) {cause : Cause} (hcause : operator a b = .error cause) :
    m.Refuses w cause.kind := by
  obtain ⟨u, -, hbinary⟩ := Stack.exists_binary h
  rw [hbinary, hcause] at hw
  exact ⟨.bare cause, (perform_eq_performAtOnce m w).trans hw, rfl⟩

end Machine

end BlockForth
