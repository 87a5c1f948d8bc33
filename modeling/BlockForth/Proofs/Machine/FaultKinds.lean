import BlockForth.Proofs.Machine.AtOnce
import BlockForth.Proofs.Machine.Definitions

/-!
# Which faults arise where

The kinds of the faults that values, the stack, the built-in words, and definitions raise. The
fault of nesting too deep is not among them: it arises where a frame is entered, and nowhere else.
-/

namespace BlockForth

/-- Every fault of the result has a kind in `P`. -/
def RaisesOnly {α : Type} (P : FaultKind → Prop) (result : Except Cause α) : Prop :=
  ∀ cause, result = .error cause → P cause.kind

namespace RaisesOnly

variable {α β : Type} {P Q : FaultKind → Prop}

/-- A result raises nothing. -/
theorem ok (a : α) : RaisesOnly P (.ok a) := by
  intro cause h
  cases h

/-- A fault raises its own kind. -/
theorem error {cause : Cause} (h : P cause.kind) :
    RaisesOnly P (.error cause : Except Cause α) := by
  intro cause' h'
  cases h'
  exact h

/-- More kinds may be allowed. -/
theorem mono {result : Except Cause α} (h : RaisesOnly P result) (hPQ : ∀ k, P k → Q k) :
    RaisesOnly Q result :=
  fun cause hcause => hPQ _ (h cause hcause)

/-- What is computed in two parts raises what either part raises. -/
theorem bind {result : Except Cause α} {next : α → Except Cause β} (h : RaisesOnly P result)
    (hnext : ∀ a, RaisesOnly P (next a)) : RaisesOnly P (result >>= next) := by
  cases result with
  | error cause => exact error (h cause rfl)
  | ok a => exact hnext a

end RaisesOnly

namespace FaultKind

/-- The kinds of the faults that an operator on values raises. -/
def OfValues (k : FaultKind) : Prop :=
  k = .type ∨ k = .divisionByZero ∨ k = .limit

/-- The kinds of the faults that a word raises while it works on the stack. -/
def OfStack (k : FaultKind) : Prop :=
  k = .stackUnderflow ∨ k.OfValues

/-- The kinds of the faults that a built-in word raises. -/
def OfWords (k : FaultKind) : Prop :=
  k = .malformed ∨ k.OfStack

/-- No word raises the fault for frames that are nested too deep. -/
theorem OfWords.ne_callDepth {k : FaultKind} (h : k.OfWords) : k ≠ .callDepth := by
  rcases h with rfl | rfl | rfl | rfl | rfl <;> decide

end FaultKind

/-! ## Operators on values -/

/-- A text that would be too long is a fault of the values. -/
theorem checkLength_raisesOnly (length : Option Nat) (operator : String) :
    RaisesOnly FaultKind.OfValues (checkLength length operator) := by
  unfold checkLength
  split
  · split
    · exact RaisesOnly.ok _
    · exact RaisesOnly.error (.inr (.inr rfl))
  · exact RaisesOnly.error (.inr (.inr rfl))

namespace Value

/-- The fault of an operator that does not apply. -/
theorem refuse_raisesOnly {α : Type} (operator : String) (a b : Value) :
    RaisesOnly FaultKind.OfValues (refuse operator a b : Except Cause α) :=
  RaisesOnly.error (.inl rfl)

/-- An operator on numbers refuses texts, and raises nothing else. -/
theorem numeric_raisesOnly (operator : String) (onInts : Int64 → Int64 → Int64)
    (onFloats : Float → Float → Float) (a b : Value) :
    RaisesOnly FaultKind.OfValues (numeric operator onInts onFloats a b) := by
  unfold numeric
  split
  · exact RaisesOnly.ok _
  · split
    · exact RaisesOnly.ok _
    · exact refuse_raisesOnly operator a b

/-- An addition raises faults of the values only. -/
theorem add_raisesOnly (a b : Value) : RaisesOnly FaultKind.OfValues (a.add b) := by
  unfold add
  split
  · exact RaisesOnly.ok _
  · exact numeric_raisesOnly _ _ _ a b

/-- A subtraction raises faults of the values only. -/
theorem subtract_raisesOnly (a b : Value) : RaisesOnly FaultKind.OfValues (a.subtract b) := by
  unfold subtract
  split
  · exact RaisesOnly.ok _
  · exact numeric_raisesOnly _ _ _ _ b

/-- A multiplication raises faults of the values only. A repeated text may be too long. -/
theorem multiply_raisesOnly (a b : Value) : RaisesOnly FaultKind.OfValues (a.multiply b) := by
  unfold multiply repeated
  split
  · exact (checkLength_raisesOnly _ _).bind fun _ => RaisesOnly.ok _
  · exact (checkLength_raisesOnly _ _).bind fun _ => RaisesOnly.ok _
  · exact numeric_raisesOnly _ _ _ _ _

/-- A division raises faults of the values only, for a zero or for a size that splits no text. -/
theorem divide_raisesOnly (a b : Value) : RaisesOnly FaultKind.OfValues (a.divide b) := by
  unfold divide
  split
  · split
    · exact RaisesOnly.error (.inl rfl)
    · exact RaisesOnly.ok _
  · split
    · split
      · exact RaisesOnly.error (.inr (.inl rfl))
      · exact RaisesOnly.ok _
    · exact refuse_raisesOnly _ _ _

/-- A truncated division raises faults of the values only. -/
theorem quotient_raisesOnly (a b : Value) : RaisesOnly FaultKind.OfValues (a.quotient b) := by
  unfold quotient
  split
  · exact RaisesOnly.error (.inr (.inl rfl))
  · exact numeric_raisesOnly _ _ _ a b

/-- A remainder raises faults of the values only. -/
theorem remainder_raisesOnly (a b : Value) : RaisesOnly FaultKind.OfValues (a.remainder b) := by
  unfold remainder
  split
  · split
    · exact RaisesOnly.error (.inr (.inl rfl))
    · exact RaisesOnly.ok _
  · exact refuse_raisesOnly _ _ _

/-- A comparison raises faults of the values only, for values that have no order. -/
theorem compare_raisesOnly (c : Comparison) (a b : Value) :
    RaisesOnly FaultKind.OfValues (compare c a b) := by
  unfold compare
  split
  case h_7 => exact refuse_raisesOnly _ _ _
  all_goals exact RaisesOnly.ok _

end Value

/-! ## The stack -/

namespace Stack

/-- Taking a value off can only find the stack empty. -/
theorem pop_raisesOnly (s : Stack) : RaisesOnly FaultKind.OfStack s.pop := by
  unfold pop
  split
  · exact RaisesOnly.error (.inl rfl)
  · exact RaisesOnly.ok _

/-- Looking at a value can only find too few values. -/
theorem peek_raisesOnly (s : Stack) (depth : Nat) :
    RaisesOnly FaultKind.OfStack (s.peek depth) := by
  unfold peek
  split
  · exact RaisesOnly.ok _
  · exact RaisesOnly.error (.inl rfl)

/-- Taking an integer off can find the stack empty, or a value of another kind. -/
theorem popInt_raisesOnly (s : Stack) : RaisesOnly FaultKind.OfStack s.popInt := by
  refine (pop_raisesOnly s).bind fun p => RaisesOnly.bind ?_ fun _ => RaisesOnly.ok _
  rcases p with ⟨n | x | t, rest⟩
  · exact RaisesOnly.ok n
  · exact RaisesOnly.error (.inr (.inl rfl))
  · exact RaisesOnly.error (.inr (.inl rfl))

/-- Taking a text off can find the stack empty, or a value of another kind. -/
theorem popString_raisesOnly (s : Stack) : RaisesOnly FaultKind.OfStack s.popString := by
  refine (pop_raisesOnly s).bind fun p => RaisesOnly.bind ?_ fun _ => RaisesOnly.ok _
  rcases p with ⟨n | x | t, rest⟩
  · exact RaisesOnly.error (.inr (.inl rfl))
  · exact RaisesOnly.error (.inr (.inl rfl))
  · exact RaisesOnly.ok t

/-- A binary word raises what taking its operands off raises, and what its operator raises. -/
theorem binary_raisesOnly (s : Stack) {operator : Value → Value → Except Cause Value}
    (h : ∀ a b, RaisesOnly FaultKind.OfValues (operator a b)) :
    RaisesOnly FaultKind.OfStack (s.binary operator) := by
  refine (pop_raisesOnly s).bind fun p => (pop_raisesOnly p.2).bind fun q => ?_
  exact ((h q.1 p.1).mono fun _ => .inr).bind fun _ => RaisesOnly.ok _

end Stack

/-! ## Built-in words and definitions -/

/-- Every fault of the outcome has a kind in `P`. -/
def Outcome.RaisesOnly (P : FaultKind → Prop) (o : Outcome) : Prop :=
  ∀ f, o.fault = some f → P f.kind

namespace Machine

/-- A run without a fault raises nothing. -/
theorem done_raisesOnly {P : FaultKind → Prop} (m : Machine) : (Outcome.done m).RaisesOnly P := by
  intro f h
  cases h

/-- A run that fails raises the kind of its cause. -/
theorem fail_raisesOnly {P : FaultKind → Prop} (m : Machine) {cause : Cause} (h : P cause.kind) :
    (m.fail cause).RaisesOnly P := by
  intro f hf
  cases hf
  exact h

/-- Going on with a result raises what the result raises, and what comes after it. -/
theorem given_raisesOnly {α : Type} {P : FaultKind → Prop} (m : Machine)
    {result : Except Cause α} {next : α → Outcome} (h : RaisesOnly P result)
    (hnext : ∀ a, (next a).RaisesOnly P) : (m.given result next).RaisesOnly P := by
  cases result with
  | error cause =>
    intro f hf
    cases hf
    exact h cause rfl
  | ok a => exact hnext a

/-- A word that only works on the stack raises what its result raises. -/
theorem onStack_raisesOnly {P : FaultKind → Prop} (m : Machine) {result : Except Cause Stack}
    (h : RaisesOnly P result) : (m.onStack result).RaisesOnly P :=
  given_raisesOnly m h fun _ => done_raisesOnly _

/-- An operator on two values raises the faults of the stack and its own. -/
theorem onBinary_raisesOnly (m : Machine) {operator : Value → Value → Except Cause Value}
    (h : ∀ a b, RaisesOnly FaultKind.OfValues (operator a b)) :
    (m.onStack (m.stack.binary operator)).RaisesOnly FaultKind.OfStack :=
  onStack_raisesOnly m (m.stack.binary_raisesOnly h)

/-- A definition can only be malformed. -/
theorem define_raisesOnly (m : Machine) : m.define.RaisesOnly (· = .malformed) := by
  rw [define_eq]
  unfold defineAtOnce
  dsimp only
  split
  · exact fail_raisesOnly _ rfl
  · split
    · exact fail_raisesOnly _ rfl
    · split
      · exact done_raisesOnly _
      · exact fail_raisesOnly _ rfl

/-- A `:` that is reached can only find a malformed definition. -/
theorem runDefinition_raisesOnly (m : Machine) : m.runDefinition.RaisesOnly (· = .malformed) := by
  unfold runDefinition
  dsimp only
  split
  · rcases passDefinition_cases m with ⟨p, h⟩ | ⟨p, h⟩
    · rw [h]
      exact fail_raisesOnly _ rfl
    · rw [h]
      exact done_raisesOnly _
  · exact define_raisesOnly _

/-- A built-in word raises the faults of values and of the stack, and the words that only make sense
in source code raise those of malformed code. -/
theorem perform_raisesOnly (m : Machine) (w : Builtin) :
    (m.perform w).RaisesOnly FaultKind.OfWords := by
  have hpop := m.stack.pop_raisesOnly
  have hpeek := m.stack.peek_raisesOnly
  have hint := m.stack.popInt_raisesOnly
  suffices h : (m.perform w).RaisesOnly FaultKind.OfStack ∨
      (m.perform w).RaisesOnly (· = .malformed) by
    intro f hf
    rcases h with h | h
    · exact .inr (h f hf)
    · exact .inl (h f hf)
  rw [perform_eq_performAtOnce]
  cases w
  case define => exact .inr (define_raisesOnly m)
  case endDefinition | endBlock => exact .inr (fail_raisesOnly m rfl)
  all_goals left
  -- Operators on two values.
  case add => exact onBinary_raisesOnly m Value.add_raisesOnly
  case subtract => exact onBinary_raisesOnly m Value.subtract_raisesOnly
  case multiply => exact onBinary_raisesOnly m Value.multiply_raisesOnly
  case quotient => exact onBinary_raisesOnly m Value.quotient_raisesOnly
  case remainder => exact onBinary_raisesOnly m Value.remainder_raisesOnly
  case compare c =>
    exact onBinary_raisesOnly m fun a b =>
      (Value.compare_raisesOnly c a b).bind fun _ => RaisesOnly.ok _
  case divide =>
    refine onStack_raisesOnly m (hpop.bind fun p => (p.2.pop_raisesOnly).bind fun q => ?_)
    exact ((Value.divide_raisesOnly q.1 p.1).mono fun _ => .inr).bind fun _ => RaisesOnly.ok _
  case divMod =>
    refine given_raisesOnly m hint fun p => given_raisesOnly m p.2.popInt_raisesOnly fun q => ?_
    dsimp only
    split
    · exact fail_raisesOnly m (.inr (.inr (.inl rfl)))
    · exact done_raisesOnly _
  -- Words that move values.
  case dup | «over» =>
    exact onStack_raisesOnly m ((hpeek _).bind fun _ => RaisesOnly.ok _)
  case dup2 | over2 =>
    exact onStack_raisesOnly m ((hpeek _).bind fun _ => (hpeek _).bind fun _ => RaisesOnly.ok _)
  case drop | kind => exact onStack_raisesOnly m (hpop.bind fun _ => RaisesOnly.ok _)
  case swap | drop2 =>
    exact onStack_raisesOnly m
      (hpop.bind fun p => p.2.pop_raisesOnly.bind fun _ => RaisesOnly.ok _)
  case rot =>
    exact onStack_raisesOnly m
      (hpop.bind fun p => p.2.pop_raisesOnly.bind fun q => q.2.pop_raisesOnly.bind fun _ =>
        RaisesOnly.ok _)
  case swap2 =>
    exact onStack_raisesOnly m
      (hpop.bind fun p => p.2.pop_raisesOnly.bind fun q => q.2.pop_raisesOnly.bind fun r =>
        r.2.pop_raisesOnly.bind fun _ => RaisesOnly.ok _)
  -- Words that need an operand of one kind, and some of them one that makes sense.
  case chr | emit =>
    refine given_raisesOnly m hint fun p => ?_
    dsimp only
    split
    · exact done_raisesOnly _
    · exact fail_raisesOnly m (.inr (.inl rfl))
  case ord =>
    refine given_raisesOnly m m.stack.popString_raisesOnly fun p => ?_
    dsimp only
    split
    · exact done_raisesOnly _
    · exact fail_raisesOnly m (.inr (.inl rfl))
  case spaces =>
    refine given_raisesOnly m hint fun p => ?_
    exact given_raisesOnly m ((checkLength_raisesOnly _ _).mono fun _ => .inr) fun _ =>
      done_raisesOnly _
  case times => exact given_raisesOnly m hint fun _ => done_raisesOnly _
  case print | ifTrue => exact given_raisesOnly m hpop fun _ => done_raisesOnly _
  all_goals exact done_raisesOnly _

end Machine

end BlockForth
