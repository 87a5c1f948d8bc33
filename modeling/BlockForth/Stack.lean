import BlockForth.Value.Basic

/-!
# The value stack

The stack remembers the greatest depth that it ever had. Its view is the list of its values, top
first. The number of values is kept beside the list, so that pushing a value takes constant time.
-/

namespace BlockForth

/-- A stack of values. -/
@[ext]
structure Stack where
  /-- The values, top first. -/
  values : List Value := []
  /-- How many values there are. -/
  size : Nat := 0
  /-- The greatest number of values that there ever were. -/
  peak : Nat := 0
  size_eq : size = values.length := by rfl
  size_le_peak : size ≤ peak := by omega
deriving DecidableEq

namespace Stack

/-- The stack without values. -/
def empty : Stack := {}

/-- Whether there is no value. -/
def isEmpty (s : Stack) : Bool :=
  s.size == 0

/-- Puts a value on top. -/
def push (s : Stack) (v : Value) : Stack where
  values := v :: s.values
  size := s.size + 1
  peak := max s.peak (s.size + 1)
  size_eq := by simp [s.size_eq]
  size_le_peak := by omega

/-- Puts values on top, one after the other, so that the last one is the new top. -/
def pushAll (s : Stack) (vs : List Value) : Stack :=
  vs.foldl push s

/-- Takes the top value off. -/
def pop (s : Stack) : Except Cause (Value × Stack) :=
  match h : s.values with
  | [] => .error .stackUnderflow
  | v :: rest =>
    .ok (v,
      { values := rest
        size := s.size - 1
        peak := s.peak
        size_eq := by simp [s.size_eq, h]
        size_le_peak := by have := s.size_le_peak; omega })

/-- The value at the given depth, which is zero for the top. -/
def peek (s : Stack) (depth : Nat) : Except Cause Value :=
  match s.values[depth]? with
  | some v => .ok v
  | none => .error .stackUnderflow

/-- Whether there are at least `count` values. -/
def require (s : Stack) (count : Nat) : Except Cause Unit :=
  if s.size < count then .error .stackUnderflow else .ok ()

/-- Takes off what the top value is read as. A value that is not of that kind stays. -/
def popAs {α : Type} (s : Stack) (read : Value → Except Cause α) : Except Cause (α × Stack) := do
  let (v, rest) ← s.pop
  return (← read v, rest)

/-- Takes an integer off the top. -/
def popInt (s : Stack) : Except Cause (Int64 × Stack) :=
  s.popAs Value.asInt

/-- Takes a text off the top. -/
def popString (s : Stack) : Except Cause (String × Stack) :=
  s.popAs Value.asString

/-- The same values in the opposite order. -/
def reverse (s : Stack) : Stack where
  values := s.values.reverse
  size := s.size
  peak := s.peak
  size_eq := by simp [s.size_eq]
  size_le_peak := s.size_le_peak

/-- Takes all values off. The greatest depth is remembered. -/
def clear (s : Stack) : Stack where
  peak := s.peak

/-- The listing of a stack, bottom first. -/
def listing (s : Stack) : String :=
  "[" ++ ", ".intercalate (s.values.reverse.map Value.listing) ++ "]"

/-! ## The view

What each operation does to the list of values. -/

/-- The pushed value comes first. -/
@[simp]
theorem values_push (s : Stack) (v : Value) : (s.push v).values = v :: s.values := rfl

/-- Of the pushed values the last one comes first. -/
@[simp]
theorem values_pushAll (s : Stack) (vs : List Value) :
    (s.pushAll vs).values = vs.reverse ++ s.values := by
  induction vs generalizing s with
  | nil => rfl
  | cons v vs ih =>
    rw [pushAll, List.foldl_cons, ← pushAll, ih, values_push, List.reverse_cons, List.append_assoc]
    rfl

/-- There is nothing to take off an empty stack. -/
theorem pop_of_values_eq_nil {s : Stack} (h : s.values = []) : s.pop = .error .stackUnderflow := by
  unfold pop
  split
  · rfl
  · simp_all

/-- What is left under the top value has the same greatest depth. -/
theorem exists_pop_of_values_eq_cons {s : Stack} {v : Value} {rest : List Value}
    (h : s.values = v :: rest) :
    ∃ t, s.pop = .ok (v, t) ∧ t.values = rest ∧ t.peak = s.peak := by
  unfold pop
  split
  · simp_all
  · rename_i h'
    rw [h] at h'
    cases h'
    exact ⟨_, rfl, rfl, rfl⟩

/-- Reversing the stack turns the order of its values. -/
@[simp]
theorem values_reverse (s : Stack) : s.reverse.values = s.values.reverse := rfl

/-- No value is left. -/
@[simp]
theorem values_clear (s : Stack) : s.clear.values = [] := rfl

end Stack

end BlockForth
