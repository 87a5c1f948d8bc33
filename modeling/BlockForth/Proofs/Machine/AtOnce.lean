import BlockForth.Machine.Perform

/-!
# Words take effect at once

A handler changes the machine step by step, and a fault undoes nothing. Even so a built-in word
works on the machine as a whole or not at all. `Machine.performAtOnce` gives every word a form in
which this is plain: the result is computed from the stack first, and only a result changes the
machine. `perform_eq_performAtOnce` says that the handlers come to the same, with the same fault and
the same machine after it. It would fail for a handler that takes a value off and then finds
something wrong.

The proof for a word goes along the values that its handler takes off. Where one of them is missing,
a look or a check that comes before has found that, while the machine is still as it was.
-/

namespace BlockForth

namespace Stack

variable {s : Stack}

/-- Replaces the top two values by the result of an operator on them. The top is the right operand.
-/
def binary (s : Stack) (operator : Value → Value → Except Cause Value) : Except Cause Stack := do
  let (b, s) ← s.pop
  let (a, s) ← s.pop
  return s.push (← operator a b)

/-- There is no value to take off, or there is one. -/
theorem pop_cases (s : Stack) : s.pop = .error .stackUnderflow ∨ ∃ v t, s.pop = .ok (v, t) := by
  rcases hvalues : s.values with _ | ⟨v, rest⟩
  · exact .inl (pop_of_values_eq_nil hvalues)
  · obtain ⟨t, hpop, -⟩ := exists_pop_of_values_eq_cons hvalues
    exact .inr ⟨v, t, hpop⟩

/-- There is nothing to look at where there is nothing to take off. -/
theorem peek_of_pop_error (h : s.pop = .error .stackUnderflow) (depth : Nat) :
    s.peek depth = .error .stackUnderflow := by
  rcases hvalues : s.values with _ | ⟨v, rest⟩
  · rw [peek, hvalues]
    rfl
  · obtain ⟨t, hpop, -⟩ := exists_pop_of_values_eq_cons hvalues
    rw [hpop] at h
    cases h

/-- The top value is the one that is taken off, and the others are under it. -/
theorem peek_of_pop {v : Value} {t : Stack} (h : s.pop = .ok (v, t)) :
    s.peek 0 = .ok v ∧ ∀ depth, s.peek (depth + 1) = t.peek depth := by
  rcases hvalues : s.values with _ | ⟨u, rest⟩
  · rw [pop_of_values_eq_nil hvalues] at h
    cases h
  · obtain ⟨t', hpop, ht, -⟩ := exists_pop_of_values_eq_cons hvalues
    rw [hpop] at h
    cases h
    refine ⟨by rw [peek, hvalues]; rfl, fun depth => ?_⟩
    rw [peek, hvalues, List.getElem?_cons_succ, ← ht]
    rfl

/-- No value is there on every stack. -/
theorem require_zero (s : Stack) : s.require 0 = .ok () :=
  if_neg (Nat.not_lt_zero _)

/-- Where there is nothing to take off, no value is there. -/
theorem require_of_pop_error (h : s.pop = .error .stackUnderflow) (count : Nat) :
    s.require (count + 1) = .error .stackUnderflow := by
  rcases hvalues : s.values with _ | ⟨v, rest⟩
  · rw [require, s.size_eq, hvalues]
    exact if_pos (Nat.succ_pos count)
  · obtain ⟨t, hpop, -⟩ := exists_pop_of_values_eq_cons hvalues
    rw [hpop] at h
    cases h

/-- With one value taken off, one value less is asked for. -/
theorem require_of_pop {v : Value} {t : Stack} (h : s.pop = .ok (v, t)) (count : Nat) :
    s.require (count + 1) = t.require count := by
  rcases hvalues : s.values with _ | ⟨u, rest⟩
  · rw [pop_of_values_eq_nil hvalues] at h
    cases h
  · obtain ⟨t', hpop, ht, -⟩ := exists_pop_of_values_eq_cons hvalues
    rw [hpop] at h
    cases h
    rw [require, require, s.size_eq, t.size_eq, hvalues, ht, List.length_cons]
    simp only [Nat.add_lt_add_iff_right]

end Stack

namespace Machine

/-- Goes on with a result of the stack or of values, if there is one. -/
def given {α : Type} (m : Machine) (result : Except Cause α) (next : α → Outcome) : Outcome :=
  match result with
  | .ok a => next a
  | .error cause => { machine := m, fault := some (.bare cause) }

/-- A result that is there is gone on with. -/
theorem given_ok {α : Type} (m : Machine) (a : α) (next : α → Outcome) :
    m.given (.ok a) next = next a := rfl

/-- Replaces the stack by a result, if there is one. -/
def onStack (m : Machine) (result : Except Cause Stack) : Outcome :=
  m.given result fun s => .done { m with stack := s }

/-- What a built-in word comes to. -/
def performAtOnce (m : Machine) : Builtin → Outcome
  | .add => m.onStack (m.stack.binary Value.add)
  | .subtract => m.onStack (m.stack.binary Value.subtract)
  | .multiply => m.onStack (m.stack.binary Value.multiply)
  | .divide => m.onStack do
    let (b, s) ← m.stack.pop
    let (a, s) ← s.pop
    return s.pushAll (← a.divide b)
  | .quotient => m.onStack (m.stack.binary Value.quotient)
  | .remainder => m.onStack (m.stack.binary Value.remainder)
  | .divMod =>
    m.given m.stack.popInt fun (b, s) =>
      m.given s.popInt fun (a, s) =>
        if b = 0 then m.fail (.divisionByZero "/mod")
        else .done { m with stack := (s.push (.int (a % b))).push (.int (a / b)) }
  | .compare c => m.onStack (m.stack.binary fun a b => return .ofBool (← Value.compare c a b))
  | .dup => m.onStack do
    let a ← m.stack.peek 0
    return m.stack.push a
  | .drop => m.onStack do
    let (_, s) ← m.stack.pop
    return s
  | .swap => m.onStack do
    let (b, s) ← m.stack.pop
    let (a, s) ← s.pop
    return (s.push b).push a
  | .over => m.onStack do
    let a ← m.stack.peek 1
    return m.stack.push a
  | .rot => m.onStack do
    let (c, s) ← m.stack.pop
    let (b, s) ← s.pop
    let (a, s) ← s.pop
    return ((s.push b).push c).push a
  | .reverse => .done { m with stack := m.stack.reverse }
  | .dup2 => m.onStack do
    let a ← m.stack.peek 1
    let b ← m.stack.peek 0
    return (m.stack.push a).push b
  | .drop2 => m.onStack do
    let (_, s) ← m.stack.pop
    let (_, s) ← s.pop
    return s
  | .swap2 => m.onStack do
    let (d, s) ← m.stack.pop
    let (c, s) ← s.pop
    let (b, s) ← s.pop
    let (a, s) ← s.pop
    return (((s.push c).push d).push a).push b
  | .over2 => m.onStack do
    let a ← m.stack.peek 3
    let b ← m.stack.peek 2
    return (m.stack.push a).push b
  | .depth => .done { m with stack := m.stack.push (.int (Int64.ofNat m.stack.size)) }
  | .chr =>
    m.given m.stack.popInt fun (code, s) =>
      match charOfCode? code with
      | some c => .done { m with stack := s.push (.string c.toString) }
      | none => m.fail (.characterCode code)
  | .ord =>
    m.given m.stack.popString fun (text, s) =>
      match text.toList with
      | c :: _ => .done { m with stack := s.push (.int (Int64.ofNat c.toNat)) }
      | [] => m.fail .noFirstCharacter
  | .kind => m.onStack do
    let (v, s) ← m.stack.pop
    return s.push (.string v.kind.name)
  | .print =>
    m.given m.stack.pop fun (v, s) => .done ({ m with stack := s }.write v.text)
  | .newline => .done (m.write "\n")
  | .space => .done (m.write " ")
  | .spaces =>
    m.given m.stack.popInt fun (count, s) =>
      m.given (checkLength (some (countOf count)) "spaces") fun () =>
        .done ({ m with stack := s }.write (repeatText " " (countOf count)))
  | .emit =>
    m.given m.stack.popInt fun (code, s) =>
      match charOfCode? code with
      | some c => .done ({ m with stack := s }.write c.toString)
      | none => m.fail (.characterCode code)
  | .printStack => .done (m.write m.stack.listing)
  | .printWords => .done (m.write m.dictionary.listing)
  | .bye => .done { m with exiting := true }
  | .ifTrue =>
    m.given m.stack.pop fun (v, s) =>
      .done ({ m with stack := s }.setFlow
        { m.frame.flow with skip := if v.isTruthy then 0 else 2, lastIf := v.isTruthy })
  | .otherwise =>
    .done (m.setFlow { m.frame.flow with skip := if m.frame.flow.lastIf then 2 else 0 })
  | .times =>
    m.given m.stack.popInt fun (count, s) =>
      .done ({ m with stack := s }.setFlow { m.frame.flow with repeats := count })
  | .define => m.define
  | .endDefinition => m.fail .strayDefinitionEnd
  | .endBlock => m.fail .strayBlockEnd

end Machine

/-! ## Handlers -/

namespace Handler

variable {α : Type} {m : Machine}

/-- A result that is there is gone on with, and the machine stays as it is. -/
theorem outcome_result_bind (r : Except Cause α) (next : α → Handler Unit) (m : Machine) :
    outcome (result r >>= next) m = m.given r fun a => (next a).outcome m := by
  rcases r with cause | a
  · rfl
  · rfl

/-- A look at the stack leaves the machine as it is. -/
theorem outcome_peek_bind (depth : Nat) (next : Value → Handler Unit) (m : Machine) :
    outcome (peek depth >>= next) m = m.given (m.stack.peek depth) fun v => (next v).outcome m :=
  outcome_result_bind _ next m

/-- A check of the stack leaves the machine as it is. -/
theorem outcome_require_bind (count : Nat) (next : Unit → Handler Unit) (m : Machine) :
    outcome (require count >>= next) m =
      m.given (m.stack.require count) fun u => (next u).outcome m :=
  outcome_result_bind _ next m

/-- A value that is taken off is gone for what comes next. -/
theorem outcome_pop_bind (next : Value → Handler Unit) (m : Machine) :
    outcome (pop >>= next) m =
      m.given m.stack.pop fun p => (next p.1).outcome { m with stack := p.2 } := by
  let take (p : Value × Stack) : Handler Value := do
    set { m with stack := p.2 }
    return p.1
  show outcome ((result m.stack.pop >>= take) >>= next) m = _
  rcases m.stack.pop with cause | p
  · rfl
  · rfl

/-- A value is looked at and read as what it is to be, with the stack that is left under it. -/
theorem outcome_peekAs {t : Stack} {depth : Nat} (hpeek : m.stack.peek depth = t.peek 0)
    (read : Value → Except Cause α) {next : α → Handler Unit} {rest : α × Stack → Outcome}
    (hnext : ∀ v a u, t.pop = .ok (v, u) → (next a).outcome m = rest (a, u)) :
    outcome (peek depth >>= fun v => result (read v) >>= next) m =
      m.given (t.popAs read) rest := by
  unfold Stack.popAs
  rw [outcome_peek_bind, hpeek]
  rcases t.pop_cases with htop | ⟨v, u, htop⟩
  · rw [Stack.peek_of_pop_error htop, htop]
    rfl
  · rw [(Stack.peek_of_pop htop).1, htop, Machine.given_ok, outcome_result_bind]
    simp only [bind, Except.bind]
    rcases read v with cause | a
    · rfl
    · exact hnext v a u htop

/-- Two values are looked at, and taken off when an operator has a result on them. -/
theorem outcome_operate {operator : Value → Value → Except Cause α} {finish : α → Handler Unit}
    {place : Stack → α → Stack}
    (hfinish : ∀ a m, (finish a).outcome m = .done { m with stack := place m.stack a }) :
    outcome (do
      let b ← peek 0
      let a ← peek 1
      let r ← result (operator a b)
      let _ ← pop
      let _ ← pop
      finish r) m =
    m.onStack do
      let (b, s) ← m.stack.pop
      let (a, s) ← s.pop
      return place s (← operator a b) := by
  rcases m.stack.pop_cases with htop | ⟨b, t, htop⟩
  · simp only [outcome_peek_bind, Stack.peek_of_pop_error htop, htop]
    rfl
  · rcases t.pop_cases with hnext | ⟨a, u, hnext⟩
    · simp only [outcome_peek_bind, Stack.peek_of_pop htop, Stack.peek_of_pop_error hnext, htop,
        Machine.given_ok]
      simp only [bind, Except.bind, hnext]
      rfl
    · simp only [outcome_peek_bind, outcome_result_bind, outcome_pop_bind, Stack.peek_of_pop htop,
        Stack.peek_of_pop hnext, htop, hnext, Machine.given_ok, hfinish]
      simp only [bind, Except.bind, hnext]
      rcases operator a b with cause | r
      · rfl
      · rfl

/-- Values that are put on the stack one after the other. -/
theorem outcome_forM_push (vs : List Value) (m : Machine) :
    outcome (vs.forM push) m = .done { m with stack := m.stack.pushAll vs } := by
  induction vs generalizing m with
  | nil => rfl
  | cons v vs ih => exact ih { m with stack := m.stack.push v }

/-- An integer is looked at before it is taken off. -/
theorem popInt_bind (next : Int64 → Handler Unit) :
    popInt >>= next = peek 0 >>= fun v => result v.asInt >>= fun n => pop >>= fun _ => next n := by
  simp only [popInt, bind_assoc, pure_bind]

/-- If there are `count` values on the stack `s`, then the handler goes on from there to the stack
`r`. If there are not, then `r` is an underflow, and the machine is as it was. -/
def Takes (m : Machine) (count : Nat) (s : Stack) (h : Handler Unit) (r : Except Cause Stack) :
    Prop :=
  (m.given (s.require count) fun _ => h.outcome { m with stack := s }) = m.onStack r

/-- Without a value that is asked for, the handler just has to end well. -/
theorem takes_zero {s s' : Stack} {h : Handler Unit}
    (hdone : h.outcome { m with stack := s } = .done { m with stack := s' }) :
    Takes m 0 s h (.ok s') := by
  unfold Takes
  rw [Stack.require_zero]
  exact hdone

/-- A value that is asked for can be taken off, and then one value less is asked for. -/
theorem takes_succ {count : Nat} {s : Stack} {next : Value → Handler Unit}
    {rest : Value × Stack → Except Cause Stack}
    (hnext : ∀ v t, Takes m count t (next v) (rest (v, t))) :
    Takes m (count + 1) s (pop >>= next) (s.pop >>= rest) := by
  unfold Takes
  rcases s.pop_cases with hpop | ⟨v, t, hpop⟩
  · rw [Stack.require_of_pop_error hpop, hpop]
    rfl
  · rw [Stack.require_of_pop hpop, hpop, outcome_pop_bind]
    dsimp only
    rw [hpop]
    exact hnext v t

end Handler

/-! ## Words -/

namespace Machine

open Handler

/-- A built-in word comes to what its form in one piece says, the machine after a fault included. -/
theorem perform_eq_performAtOnce (m : Machine) (w : Builtin) :
    m.perform w = m.performAtOnce w := by
  cases w
  case add | subtract | multiply | quotient | remainder | compare =>
    exact outcome_operate fun _ _ => rfl
  case divide => exact outcome_operate outcome_forM_push
  case divMod =>
    refine outcome_peekAs rfl Value.asInt fun _ b t htop => ?_
    refine outcome_peekAs ((Stack.peek_of_pop htop).2 0) Value.asInt fun _ a u hnext => ?_
    -- Both operands are integers, and nothing has been taken off yet.
    dsimp only
    split
    · rfl
    · simp only [outcome_pop_bind, htop, hnext, given_ok]
      rfl
  -- These words check that their operands are there.
  case swap | drop2 =>
    exact (outcome_require_bind _ _ m).trans <|
      takes_succ fun _ _ => takes_succ fun _ _ => takes_zero rfl
  case rot =>
    exact (outcome_require_bind _ _ m).trans <|
      takes_succ fun _ _ => takes_succ fun _ _ => takes_succ fun _ _ => takes_zero rfl
  case swap2 =>
    exact (outcome_require_bind _ _ m).trans <|
      takes_succ fun _ _ => takes_succ fun _ _ => takes_succ fun _ _ => takes_succ fun _ _ =>
        takes_zero rfl
  -- These words take nothing off.
  case dup | «over» =>
    refine (outcome_peek_bind _ _ m).trans ?_
    show _ = m.onStack (m.stack.peek _ >>= _)
    rcases m.stack.peek _ with cause | a
    · rfl
    · rfl
  case dup2 =>
    unfold perform ofBuiltin performAtOnce
    simp only [outcome_peek_bind]
    rcases m.stack.pop_cases with htop | ⟨b, t, htop⟩
    · simp only [Stack.peek_of_pop_error htop]
      rfl
    · simp only [Stack.peek_of_pop htop, given_ok]
      rcases t.peek 0 with cause | a
      · rfl
      · rfl
  case over2 =>
    unfold perform ofBuiltin performAtOnce
    simp only [outcome_peek_bind]
    rcases m.stack.peek 3 with cause | a
    · rfl
    · rcases m.stack.peek 2 with cause | b
      · rfl
      · rfl
  -- The first thing that these words do is to take off their operand, which is of any kind.
  case drop | kind | print | ifTrue =>
    refine (outcome_pop_bind _ m).trans ?_
    unfold performAtOnce
    rcases m.stack.pop with cause | p
    · rfl
    · rfl
  -- These words look at the kind of their operand, and some of them at what it is.
  case chr | emit =>
    refine outcome_peekAs rfl Value.asInt fun _ code t htop => ?_
    dsimp only
    unfold charOfCode
    rcases charOfCode? code with _ | c
    · rfl
    · simp only [pure_bind, outcome_pop_bind, htop, given_ok]
      rfl
  case ord =>
    refine outcome_peekAs rfl Value.asString fun _ text t htop => ?_
    dsimp only
    unfold firstChar
    rcases text.toList with _ | ⟨c, cs⟩
    · rfl
    · simp only [pure_bind, outcome_pop_bind, htop, given_ok]
      rfl
  case spaces =>
    refine outcome_peekAs rfl Value.asInt fun _ count t htop => ?_
    simp only [outcome_result_bind, outcome_pop_bind, htop, given_ok]
    rfl
  case times =>
    unfold perform ofBuiltin
    rw [popInt_bind]
    refine outcome_peekAs rfl Value.asInt fun _ count t htop => ?_
    simp only [outcome_pop_bind, htop, given_ok]
    rfl
  -- What is left are the words that cannot fail, and those that do nothing else.
  all_goals rfl

end Machine

end BlockForth
