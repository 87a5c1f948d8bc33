import BlockForth.Proofs.Machine.FaultKinds
import BlockForth.Proofs.Machine.Operands

/-!
# When the stack is too short

A built-in word needs `Builtin.operands` values on the stack. It looks for all of them before it
looks at any of them, so that a stack with fewer values is an underflow whatever these values are,
and a stack with enough values never is. `Stack.Needs` says so of a result that is computed from a
stack, and is put together operation by operation: taking a value off needs one value more than what
is done with the rest.

There is one exception. The word `/mod` wants an integer on top before it looks below it. So a stack
that holds one value is an underflow for it only if that value is an integer, and has the fault of a
wrong kind otherwise (`perform_divMod_one_text`). `perform_underflows_iff` says for every word when
it finds the stack too short.
-/

namespace BlockForth

/-- How many values a word needs on the stack. -/
def Builtin.operands : Builtin → Nat
  | .swap2 | .over2 => 4
  | .rot => 3
  | .add | .subtract | .multiply | .divide | .quotient | .remainder | .divMod | .compare _ => 2
  | .swap | .over | .dup2 | .drop2 => 2
  | .dup | .drop | .print | .kind | .chr | .ord | .spaces | .emit | .ifTrue | .times => 1
  | .reverse | .depth | .newline | .space | .printStack | .printWords | .bye | .otherwise => 0
  | .define | .endDefinition | .endBlock => 0

/-- The result is the fault of a stack that is too short. -/
def Underflows {α : Type} (result : Except Cause α) : Prop :=
  ∃ cause, result = .error cause ∧ cause.kind = .stackUnderflow

/-- The outcome has the fault of a stack that is too short. -/
def Outcome.Underflows (o : Outcome) : Prop :=
  ∃ f, o.fault = some f ∧ f.kind = .stackUnderflow

/-- An operator on values does not know the stack. -/
theorem FaultKind.OfValues.ne_stackUnderflow {k : FaultKind} (h : k.OfValues) :
    k ≠ .stackUnderflow := by
  rcases h with rfl | rfl | rfl <;> decide

/-- A fault of the values is no underflow. -/
theorem RaisesOnly.not_underflows {α : Type} {result : Except Cause α}
    (h : RaisesOnly FaultKind.OfValues result) : ¬ Underflows result := by
  rintro ⟨cause, hcause, hkind⟩
  exact (h cause hcause).ne_stackUnderflow hkind

/-- A run that raises other kinds only does not underflow. -/
theorem Outcome.RaisesOnly.not_underflows {o : Outcome} (h : o.RaisesOnly (· ≠ .stackUnderflow)) :
    ¬ o.Underflows := by
  rintro ⟨f, hf, hkind⟩
  exact h f hf hkind

/-! ## Results of the stack -/

namespace Stack

/-- The result is an underflow exactly if the stack has fewer than `count` values. -/
structure Needs {α : Type} (s : Stack) (count : Nat) (result : Except Cause α) : Prop where
  underflows_iff : Underflows result ↔ s.values.length < count

variable {α : Type} {s : Stack} {count : Nat}

/-- What is computed from values alone needs no value on the stack. -/
theorem needs_zero {result : Except Cause α} (h : RaisesOnly FaultKind.OfValues result) :
    s.Needs 0 result := by
  constructor
  constructor
  · intro hunder
    exact absurd hunder h.not_underflows
  · intro hlength
    omega

/-- Taking a value off needs one value more than what is done with the rest. -/
theorem pop_needs {next : Value × Stack → Except Cause α}
    (h : ∀ (v : Value) (t : Stack), t.Needs count (next (v, t))) :
    s.Needs (count + 1) (s.pop >>= next) := by
  constructor
  rcases hvalues : s.values with _ | ⟨v, rest⟩
  · rw [pop_of_values_eq_nil hvalues]
    constructor
    · intro _
      exact Nat.succ_pos count
    · intro _
      exact ⟨.stackUnderflow, rfl, rfl⟩
  · obtain ⟨t, hpop, ht, -⟩ := exists_pop_of_values_eq_cons hvalues
    rw [hpop, List.length_cons, ← ht]
    show Underflows (next (v, t)) ↔ _
    rw [(h v t).underflows_iff]
    omega

/-- Looking at a value needs the values above it too, and what is done with it may need no more. -/
theorem peek_needs {depth : Nat} {next : Value → Except Cause α}
    (h : ∀ v, depth < s.values.length → ¬ Underflows (next v)) :
    s.Needs (depth + 1) (s.peek depth >>= next) := by
  constructor
  unfold peek
  rcases hvalue : s.values[depth]? with _ | v
  · have hlength : s.values.length ≤ depth := List.getElem?_eq_none_iff.1 hvalue
    constructor
    · intro _
      omega
    · intro _
      exact ⟨.stackUnderflow, rfl, rfl⟩
  · have hlength : depth < s.values.length := (List.getElem?_eq_some_iff.1 hvalue).1
    constructor
    · intro hunder
      exact absurd hunder (h v hlength)
    · intro hshort
      omega

/-- Looking at a value above one that is there does not fail. -/
theorem not_underflows_peek {depth : Nat} {next : Value → Except Cause α}
    (hlength : depth < s.values.length) (h : ∀ v, ¬ Underflows (next v)) :
    ¬ Underflows (s.peek depth >>= next) := by
  have hneeds : s.Needs (depth + 1) (s.peek depth >>= next) := peek_needs fun v _ => h v
  rw [hneeds.underflows_iff]
  omega

/-- Taking an integer off needs one value, whatever its kind. -/
theorem popInt_needs : s.Needs 1 s.popInt := by
  refine pop_needs fun v t => needs_zero ?_
  rcases v with n | x | text
  · exact RaisesOnly.ok _
  · exact RaisesOnly.error (.inl rfl)
  · exact RaisesOnly.error (.inl rfl)

/-- Taking a text off needs one value, whatever its kind. -/
theorem popString_needs : s.Needs 1 s.popString := by
  refine pop_needs fun v t => needs_zero ?_
  rcases v with n | x | text
  · exact RaisesOnly.error (.inl rfl)
  · exact RaisesOnly.error (.inl rfl)
  · exact RaisesOnly.ok _

/-- An operator on two values needs both, whatever it makes of them. -/
theorem binary_needs {operator : Value → Value → Except Cause Value}
    (h : ∀ a b, RaisesOnly FaultKind.OfValues (operator a b)) : s.Needs 2 (s.binary operator) :=
  pop_needs fun b _ => pop_needs fun a _ => needs_zero ((h a b).bind fun _ => RaisesOnly.ok _)

end Stack

/-! ## Built-in words -/

namespace Machine

variable {α : Type} {m : Machine} {s : Stack} {count : Nat}

/-- A word that goes on with a result needs the values that the result needs. -/
theorem given_underflows_iff {result : Except Cause α} {next : α → Outcome}
    (h : s.Needs count result) (hnext : ∀ a, (next a).RaisesOnly (· ≠ .stackUnderflow)) :
    (m.given result next).Underflows ↔ s.values.length < count := by
  rw [← h.underflows_iff]
  rcases result with cause | a
  · constructor
    · rintro ⟨f, hf, hkind⟩
      cases hf
      exact ⟨cause, rfl, hkind⟩
    · rintro ⟨cause, hcause, hkind⟩
      cases hcause
      exact ⟨.bare cause, rfl, hkind⟩
  · constructor
    · intro hunder
      exact absurd hunder (hnext a).not_underflows
    · rintro ⟨cause, hcause, -⟩
      cases hcause

/-- A word that only works on the stack underflows with fewer values than its result needs. -/
theorem onStack_underflows_iff {result : Except Cause Stack} (h : s.Needs count result) :
    (m.onStack result).Underflows ↔ s.values.length < count :=
  given_underflows_iff h fun _ => done_raisesOnly _

/-- A word that raises no underflow needs no values. -/
theorem underflows_iff_of_raisesOnly {o : Outcome} (h : o.RaisesOnly (· ≠ .stackUnderflow)) :
    o.Underflows ↔ s.values.length < 0 := by
  constructor
  · intro hunder
    exact absurd hunder h.not_underflows
  · intro hlength
    omega

/-- Every word but `/mod` finds the stack too short exactly if operands are missing. -/
theorem perform_underflows_iff_of_ne (m : Machine) {w : Builtin} (hw : w ≠ .divMod) :
    (m.perform w).Underflows ↔ m.stack.values.length < w.operands := by
  rw [perform_eq_performAtOnce]
  cases w
  case divMod => exact absurd rfl hw
  case add => exact onStack_underflows_iff (Stack.binary_needs Value.add_raisesOnly)
  case subtract => exact onStack_underflows_iff (Stack.binary_needs Value.subtract_raisesOnly)
  case multiply => exact onStack_underflows_iff (Stack.binary_needs Value.multiply_raisesOnly)
  case quotient => exact onStack_underflows_iff (Stack.binary_needs Value.quotient_raisesOnly)
  case remainder => exact onStack_underflows_iff (Stack.binary_needs Value.remainder_raisesOnly)
  case compare c =>
    refine onStack_underflows_iff (Stack.binary_needs fun a b => ?_)
    exact (Value.compare_raisesOnly c a b).bind fun _ => RaisesOnly.ok _
  case divide =>
    refine onStack_underflows_iff (Stack.pop_needs fun b _ => Stack.pop_needs fun a _ => ?_)
    exact Stack.needs_zero ((Value.divide_raisesOnly a b).bind fun _ => RaisesOnly.ok _)
  case dup | «over» =>
    refine onStack_underflows_iff (Stack.peek_needs fun v _ => ?_)
    exact (RaisesOnly.ok _).not_underflows
  case dup2 | over2 =>
    -- The deeper one of the two values is looked at first, and then the other one is there.
    refine onStack_underflows_iff (Stack.peek_needs fun a hlength => ?_)
    exact Stack.not_underflows_peek (by omega) fun b => (RaisesOnly.ok _).not_underflows
  case drop | kind =>
    exact onStack_underflows_iff (Stack.pop_needs fun _ _ => Stack.needs_zero (RaisesOnly.ok _))
  case swap | drop2 =>
    exact onStack_underflows_iff (Stack.pop_needs fun _ _ => Stack.pop_needs fun _ _ =>
      Stack.needs_zero (RaisesOnly.ok _))
  case rot =>
    exact onStack_underflows_iff (Stack.pop_needs fun _ _ => Stack.pop_needs fun _ _ =>
      Stack.pop_needs fun _ _ => Stack.needs_zero (RaisesOnly.ok _))
  case swap2 =>
    exact onStack_underflows_iff (Stack.pop_needs fun _ _ => Stack.pop_needs fun _ _ =>
      Stack.pop_needs fun _ _ => Stack.pop_needs fun _ _ => Stack.needs_zero (RaisesOnly.ok _))
  case chr | emit =>
    refine given_underflows_iff Stack.popInt_needs fun p => ?_
    dsimp only
    split
    · exact done_raisesOnly _
    · exact fail_raisesOnly m (FaultKind.OfValues.ne_stackUnderflow (.inl rfl))
  case ord =>
    refine given_underflows_iff Stack.popString_needs fun p => ?_
    dsimp only
    split
    · exact done_raisesOnly _
    · exact fail_raisesOnly m (FaultKind.OfValues.ne_stackUnderflow (.inl rfl))
  case spaces =>
    refine given_underflows_iff Stack.popInt_needs fun p => ?_
    refine given_raisesOnly m ?_ fun _ => done_raisesOnly _
    exact (checkLength_raisesOnly _ _).mono fun _ h => h.ne_stackUnderflow
  case times => exact given_underflows_iff Stack.popInt_needs fun _ => done_raisesOnly _
  case print | ifTrue =>
    have hpop : m.stack.Needs 1 (m.stack.pop >>= pure) :=
      Stack.pop_needs fun _ _ => Stack.needs_zero (RaisesOnly.ok _)
    rw [bind_pure] at hpop
    exact given_underflows_iff hpop fun _ => done_raisesOnly _
  case define =>
    refine underflows_iff_of_raisesOnly fun f hf => ?_
    rw [define_raisesOnly m f hf]
    decide
  case endDefinition | endBlock =>
    exact underflows_iff_of_raisesOnly (fail_raisesOnly m (by decide))
  -- What is left are the words that take nothing off the stack and cannot fail.
  all_goals exact underflows_iff_of_raisesOnly (done_raisesOnly _)

/-- On an empty stack `/mod` underflows. -/
theorem perform_divMod_of_nil (h : m.stack.values = []) : (m.perform .divMod).Underflows := by
  have hint : m.stack.popInt = .error .stackUnderflow := by
    unfold Stack.popInt Stack.popAs
    rw [Stack.pop_of_values_eq_nil h]
    rfl
  rw [perform_eq_performAtOnce, performAtOnce, hint]
  exact ⟨.bare .stackUnderflow, rfl, rfl⟩

/-- With an integer on top, `/mod` finds the stack too short if there is no value below it. -/
theorem perform_divMod_of_int {v : Value} {rest : List Value} (h : m.stack.values = v :: rest)
    (hv : v.kind = .int) : (m.perform .divMod).Underflows ↔ rest.length < 1 := by
  obtain ⟨n, rfl⟩ : ∃ n, v = .int n := by
    rcases v with n | x | text
    · exact ⟨n, rfl⟩
    · cases hv
    · cases hv
  obtain ⟨t, hint, ht⟩ := Stack.exists_popInt h
  rw [perform_eq_performAtOnce, performAtOnce, hint, ← ht]
  show (m.given t.popInt _).Underflows ↔ _
  refine given_underflows_iff Stack.popInt_needs fun p => ?_
  dsimp only
  split
  · exact fail_raisesOnly m (FaultKind.OfValues.ne_stackUnderflow (.inr (.inl rfl)))
  · exact done_raisesOnly _

/-- With another value on top, `/mod` refuses that value, whether there is one below it or not. -/
theorem perform_divMod_of_ne {v : Value} {rest : List Value} (h : m.stack.values = v :: rest)
    (hv : v.kind ≠ .int) :
    m.perform .divMod = { machine := m, fault := some (.bare (.unexpectedKind .int v.kind)) } := by
  obtain ⟨t, hpop, -, -⟩ := Stack.exists_pop_of_values_eq_cons h
  have hint : m.stack.popInt = .error (.unexpectedKind .int v.kind) := by
    unfold Stack.popInt Stack.popAs
    rw [hpop]
    rcases v with n | x | text
    · exact absurd rfl hv
    · rfl
    · rfl
  rw [perform_eq_performAtOnce, performAtOnce, hint]
  rfl

/-- A word finds the stack too short exactly if operands are missing, whatever the values on the
stack are. For `/mod` a single value must be an integer besides. -/
theorem perform_underflows_iff (m : Machine) (w : Builtin) :
    (m.perform w).Underflows ↔
      m.stack.values.length < w.operands ∧
        (w = .divMod → ∀ v, m.stack.values = [v] → v.kind = .int) := by
  by_cases hw : w = .divMod
  · subst hw
    rcases hvalues : m.stack.values with _ | ⟨v, rest⟩
    · -- There is no operand whose kind could be wrong.
      refine iff_of_true (perform_divMod_of_nil hvalues) ⟨Nat.succ_pos 1, fun _ v hv => ?_⟩
      cases hv
    · by_cases hv : v.kind = .int
      · rw [perform_divMod_of_int hvalues hv]
        constructor
        · intro hrest
          refine ⟨Nat.succ_lt_succ hrest, fun _ u hu => ?_⟩
          cases hu
          exact hv
        · rintro ⟨hlength, -⟩
          exact Nat.lt_of_succ_lt_succ hlength
      · rw [perform_divMod_of_ne hvalues hv]
        constructor
        · rintro ⟨f, hf, hkind⟩
          cases hf
          cases hkind
        · -- A stack that lacks an operand holds just this value.
          rintro ⟨hlength, hint⟩
          have hrest : rest = [] := List.eq_nil_of_length_eq_zero (Nat.lt_one_iff.1
            (Nat.lt_of_succ_lt_succ hlength))
          rw [hrest] at hint
          exact absurd (hint rfl v rfl) hv
  · rw [perform_underflows_iff_of_ne m hw]
    constructor
    · intro hlength
      exact ⟨hlength, fun h => absurd h hw⟩
    · intro h
      exact h.1

/-- A machine whose stack holds a text. -/
def oneText : Machine where
  stack := Stack.empty.push (.string "a")

/-- With a text on the stack and nothing below it, `/mod` lacks an operand, and refuses the text. -/
theorem perform_divMod_one_text :
    oneText.stack.values.length < Builtin.divMod.operands ∧
      (oneText.perform .divMod).fault = some (.bare (.unexpectedKind .int .string)) ∧
      ¬ (oneText.perform .divMod).Underflows := by
  have hfault : (oneText.perform .divMod).fault = some (.bare (.unexpectedKind .int .string)) := rfl
  refine ⟨by decide, hfault, ?_⟩
  rintro ⟨f, hf, hkind⟩
  rw [hfault] at hf
  cases hf
  cases hkind

end Machine

end BlockForth
