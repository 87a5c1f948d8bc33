import BlockForth.Proofs.Machine.Units

/-!
# Choosing between two units

An `if` with an `else` is no jump. The `if` has the unit behind it passed over when the condition
does not hold, and the `else` has its own unit passed over when the condition did hold, which the
frame remembers. `runFrame_if_else` says that exactly one of the two units is run, whatever it does:
the outcome is the one of the chosen unit alone.

Between the four tokens only the place, the position, and the flow registers of the frame change.
`atChoice` is a machine at such a point, and each of the tokens takes it to the next one.
-/

namespace BlockForth

namespace Machine

/-- The machine in a frame at a position between the tokens of an `if` with an `else`. The last
condition was `holds`, and the next `skip` units are passed over. -/
def atChoice (m : Machine) (place : Option Location) (tokens : List Token) (position skip : Nat)
    (holds : Bool) : Machine :=
  { m with location := place, frame := ⟨tokens, position, ⟨skip, holds, 1⟩⟩ }

section Tokens

variable {inner : Inner} {m : Machine} {s : Stack} {c : Value} {t u : Token}
  {tokens rest : List Token} {place : Option Location} {p : Nat} {holds : Bool}

/-- The `if` takes the condition off the stack, and has the next unit passed over if the condition
does not hold. -/
theorem stepAll_if (hexit : m.exiting = false) (hskip : m.frame.flow.skip = 0)
    (hrepeats : m.frame.flow.repeats = 1) (ht : t.isNamed "if" = true)
    (huser : m.dictionary.contains "if" = false) (hpop : m.stack.pop = .ok (c, s)) :
    stepAll inner m.frame.position (t :: rest) m = stepAll inner (m.frame.position + 1) rest
      ({ m with stack := s }.atChoice (some t.location) m.frame.tokens (m.frame.position + 1)
        (if c.isTruthy then 0 else 1) c.isTruthy) := by
  have hperform : { m with location := some t.location }.perform .ifTrue =
      .done ({ m with location := some t.location, stack := s }.setFlow
        ⟨if c.isTruthy then 0 else 2, c.isTruthy, 1⟩) := by
    rw [perform_eq_performAtOnce, performAtOnce, hpop, ← hrepeats]
    rfl
  refine stepAll_of_step_done hexit rfl ?_
  rw [step_builtin hexit hskip hrepeats ht huser rfl Builtin.noConfusion, hperform]
  -- The `if` itself counts against the register that it has set.
  rcases c.isTruthy with _ | _
  · rfl
  · rfl

/-- The `else` has the next unit passed over if the last condition held. -/
theorem stepAll_else (hexit : m.exiting = false) (ht : t.isNamed "else" = true)
    (huser : m.dictionary.contains "else" = false) :
    stepAll inner p (t :: rest) (m.atChoice place tokens p 0 holds) = stepAll inner (p + 1) rest
      (m.atChoice (some t.location) tokens (p + 1) (if holds then 1 else 0) holds) := by
  refine stepAll_of_step_done hexit rfl ?_
  rw [step_builtin (m := m.atChoice place tokens p 0 holds) hexit rfl rfl ht huser rfl
    Builtin.noConfusion]
  rcases holds with _ | _
  · rfl
  · rfl

/-- A unit that is passed over. -/
theorem stepAll_passed (hexit : m.exiting = false) (hu : u.name? = none) :
    stepAll inner p (u :: rest) (m.atChoice place tokens p 1 holds) = stepAll inner (p + 1) rest
      (m.atChoice (some u.location) tokens (p + 1) 0 holds) := by
  refine stepAll_of_step_done hexit rfl ?_
  rw [step_passed (m := m.atChoice place tokens p 1 holds) Nat.one_pos (startsDefinition_unit hu)]
  rfl

/-- Where the chosen unit ends, the tokens behind it are run, with the registers as they were. -/
theorem stepAll_chosen_done {levels : Nat} {n : Machine} (hexit : m.exiting = false)
    (hu : u.name? = none)
    (h : { m with location := some u.location }.runToken (enter levels) u = ⟨n, none⟩) :
    stepAll (enter levels) p (u :: rest) (m.atChoice place tokens p 0 holds) =
      stepAll (enter levels) (p + 1) rest (n.atChoice n.location tokens (p + 1) 0 holds) := by
  refine stepAll_of_step_done hexit rfl ?_
  rw [atChoice, step_unit levels (m := { m with location := place }) hexit rfl rfl hu, h]
  rfl

/-- A fault of the chosen unit stops the run. -/
theorem stepAll_chosen_fault {levels : Nat} {n : Machine} {f : Fault} (hexit : m.exiting = false)
    (hu : u.name? = none)
    (h : { m with location := some u.location }.runToken (enter levels) u = ⟨n, some f⟩) :
    stepAll (enter levels) p (u :: rest) (m.atChoice place tokens p 0 holds) =
      ⟨n.atChoice n.location tokens p 0 holds, some (f.inContext u.location n.calls)⟩ := by
  refine stepAll_of_step_fault hexit rfl ?_
  rw [atChoice, step_unit levels (m := { m with location := place }) hexit rfl rfl hu, h]
  rfl

end Tokens

/-! ## The two branches -/

/-- The outcome of a frame that has run one unit, of which `unit` is the outcome, and in which the
last condition was `holds`. -/
structure Chose (holds : Bool) (o unit : Outcome) : Prop where
  effects : o.SameEffects unit
  flow : o.fault = none → o.machine.frame.flow = { skip := 0, lastIf := holds, repeats := 1 }

/-- The outcome of a unit that is reached in the machine. -/
def unitOutcome (levels : Nat) (m : Machine) (u : Token) : Outcome :=
  conclude u false ({ m with location := some u.location }.runToken (enter levels) u)

section Branches

variable {m : Machine} {t a b : Token} (levels : Nat) (place : Option Location)
  (tokens : List Token) (p : Nat)

/-- If the condition holds, then the first unit is run, and the `else` has the second one passed
over, unless the first one has ended the program. -/
theorem chose_first (hexit : m.exiting = false) (ht : t.isNamed "else" = true)
    (ha : a.name? = none) (hb : b.name? = none)
    (huser : (unitOutcome levels m a).machine.dictionary.contains "else" = false) :
    Chose true (stepAll (enter levels) p [a, t, b] (m.atChoice place tokens p 0 true))
      (unitOutcome levels m a) := by
  unfold unitOutcome at huser ⊢
  rcases hrun : { m with location := some a.location }.runToken (enter levels) a with ⟨n, _ | f⟩
  · rw [hrun] at huser ⊢
    rw [stepAll_chosen_done hexit ha hrun]
    by_cases hended : n.exiting = true
    · -- The unit has ended the program, so that the `else` is not reached.
      rw [stepAll_of_exiting _ _ _ (m := n.atChoice n.location tokens (p + 1) 0 true) hended]
      exact ⟨⟨rfl, rfl, rfl, rfl, rfl⟩, fun _ => rfl⟩
    · have hrunning : n.exiting = false := Bool.eq_false_iff.2 hended
      rw [stepAll_else hrunning ht huser, if_pos rfl, stepAll_passed hrunning hb]
      exact ⟨⟨rfl, rfl, rfl, rfl, rfl⟩, fun _ => rfl⟩
  · rw [hrun, stepAll_chosen_fault hexit ha hrun]
    exact ⟨⟨rfl, rfl, rfl, rfl, rfl⟩, fun hfault => by cases hfault⟩

/-- If the condition does not hold, then the first unit is passed over, and the `else` has the
second one run. -/
theorem chose_second (hexit : m.exiting = false) (ht : t.isNamed "else" = true)
    (ha : a.name? = none) (hb : b.name? = none) (huser : m.dictionary.contains "else" = false) :
    Chose false (stepAll (enter levels) p [a, t, b] (m.atChoice place tokens p 1 false))
      (unitOutcome levels m b) := by
  rw [stepAll_passed hexit ha, stepAll_else hexit ht huser, if_neg Bool.false_ne_true, unitOutcome]
  rcases hrun : { m with location := some b.location }.runToken (enter levels) b with ⟨n, _ | f⟩
  · rw [hrun, stepAll_chosen_done hexit hb hrun]
    exact ⟨⟨rfl, rfl, rfl, rfl, rfl⟩, fun _ => rfl⟩
  · rw [hrun, stepAll_chosen_fault hexit hb hrun]
    exact ⟨⟨rfl, rfl, rfl, rfl, rfl⟩, fun hfault => by cases hfault⟩

end Branches

/-- A unit that is run instead of the tokens of a frame is run as it is in that frame. -/
theorem runInstead_unit {m : Machine} {s : Stack} {u : Token} (hexit : m.exiting = false)
    (hskip : m.frame.flow.skip = 0) (hrepeats : m.frame.flow.repeats = 1) (hu : u.name? = none) :
    (m.runInstead s [u]).SameEffects
      (unitOutcome (maxDepth - m.depth) { m with stack := s } u) := by
  let popped : Machine := { m with stack := s }
  let alone : Machine := { popped with frame := { tokens := [u], flow := m.frame.flow } }
  -- The unit is the only token of its frame, and is run with the registers of the other frame.
  have hstep := step_unit (maxDepth - m.depth) (m := popped) (f := alone.frame) hexit hskip hrepeats
    hu
  have hrunFrame : m.runInstead s [u] = stepAll (enter (maxDepth - m.depth)) 0 [u] alone := rfl
  rw [hrunFrame, unitOutcome]
  rcases hrun : { popped with location := some u.location }.runToken (enter (maxDepth - m.depth)) u
    with ⟨n, _ | f⟩
  · rw [hrun] at hstep ⊢
    rw [stepAll_of_step_done (m := alone) hexit rfl hstep]
    exact ⟨rfl, rfl, rfl, rfl, rfl⟩
  · rw [hrun] at hstep ⊢
    rw [stepAll_of_step_fault (m := alone) hexit rfl hstep]
    exact ⟨rfl, rfl, rfl, rfl, rfl⟩

/-- An `if` with an `else` between two units, each of them a literal or a block, does what one of
the units alone does on the stack without the condition: the first one if the condition holds, and
else the second one. If the run does not fail, then the registers are as a call finds them, and the
last condition is this one. Neither word may be a user word, nor may the first unit define one of
the name `else`. -/
theorem runFrame_if_else (m : Machine) {c : Value} {s : Stack} {ifWord a elseWord b : Token}
    (hexit : m.exiting = false) (hskip : m.frame.flow.skip = 0)
    (hrepeats : m.frame.flow.repeats = 1) (hpop : m.stack.pop = .ok (c, s))
    (htokens : m.frame.tokens.drop m.frame.position = [ifWord, a, elseWord, b])
    (hifWord : ifWord.isNamed "if" = true) (helseWord : elseWord.isNamed "else" = true)
    (ha : a.name? = none) (hb : b.name? = none)
    (hif : m.dictionary.contains "if" = false) (helse : m.dictionary.contains "else" = false)
    (hafter : c.isTruthy = true →
      (m.runInstead s [a]).machine.dictionary.contains "else" = false) :
    let o := m.runFrame
    let chosen := if c.isTruthy then a else b
    o.SameEffects (m.runInstead s [chosen]) ∧
      (o.fault = none →
        o.machine.frame.flow = { skip := 0, lastIf := c.isTruthy, repeats := 1 }) := by
  intro o chosen
  have hfirst := runInstead_unit (s := s) hexit hskip hrepeats ha
  have hsecond := runInstead_unit (s := s) hexit hskip hrepeats hb
  have ho : o = stepAll (enter (maxDepth - m.depth)) (m.frame.position + 1) [a, elseWord, b]
      ({ m with stack := s }.atChoice (some ifWord.location) m.frame.tokens (m.frame.position + 1)
        (if c.isTruthy then 0 else 1) c.isTruthy) := by
    show m.runFrameWith (enter (maxDepth - m.depth)) = _
    rw [runFrameWith, htokens]
    exact stepAll_if hexit hskip hrepeats hifWord hif hpop
  rw [ho]
  by_cases hholds : c.isTruthy = true
  · -- The first unit may define words, and the `else` behind it must not be one of them.
    have hunhidden := hafter hholds
    rw [hfirst.dictionary] at hunhidden
    have hchose := chose_first (m := { m with stack := s }) (maxDepth - m.depth)
      (some ifWord.location) m.frame.tokens (m.frame.position + 1) hexit helseWord ha hb hunhidden
    have hchosen : chosen = a := if_pos hholds
    rw [hchosen, hholds, if_pos rfl]
    exact ⟨hchose.effects.trans hfirst.symm, hchose.flow⟩
  · have hfails : c.isTruthy = false := Bool.eq_false_iff.2 hholds
    have hchose := chose_second (m := { m with stack := s }) (maxDepth - m.depth)
      (some ifWord.location) m.frame.tokens (m.frame.position + 1) hexit helseWord ha hb helse
    have hchosen : chosen = b := if_neg hholds
    rw [hchosen, hfails, if_neg Bool.false_ne_true]
    exact ⟨hchose.effects.trans hsecond.symm, hchose.flow⟩

/-- A block that makes a choice of its own, repeats a block, defines a word, and leaves a repeat
register set. -/
def deciding : Token :=
  .block {} [.literal {} (.int 0), .word {} "if", .literal {} (.string "unused"), .word {} "else",
    .block {} [.literal {} (.int 2), .word {} "times",
      .block {} [.literal {} (.int 5), .word {} "."]],
    .word {} ":", .word {} "twice", .word {} "dup", .word {} "+", .word {} ";",
    .literal {} (.int 7), .word {} "Times"]

/-- A machine inside a frame, at an `if` before that block and an `else` before a literal. -/
def decider : Machine where
  stack := (Stack.empty.push (.string "below")).push (.int 3)
  frame := {
    tokens := [.word {} "depth", .word {} "IF", deciding, .word {} "Else", .literal {} (.int 8)]
    position := 1
    flow := { lastIf := false } }

/-- The condition holds, so the block is run and the literal is not, and the registers that the
block has set are gone. -/
theorem runFrame_if_else_decider :
    let below := decider.stack.clear.push (.string "below")
    let o := decider.runFrame
    decider.stack.pop = .ok (.int 3, below) ∧
      (decider.runInstead below [deciding]).machine.dictionary.contains "else" = false ∧
      o.fault = none ∧ o.machine.output = "55" ∧ o.machine.stack = below ∧
      o.machine.dictionary.contains "twice" = true ∧
      o.machine.frame.flow = { skip := 0, lastIf := true, repeats := 1 } := by
  intro below
  have hpop : decider.stack.pop = .ok (.int 3, below) := by rfl
  have halone :
      let alone := decider.runInstead below [deciding]
      alone.fault = none ∧ alone.machine.output = "55" ∧ alone.machine.stack = below ∧
        alone.machine.dictionary.contains "else" = false ∧
        alone.machine.dictionary.contains "twice" = true := by
    decide +kernel
  have hrun := runFrame_if_else decider (b := .literal {} (.int 8)) rfl rfl rfl hpop rfl rfl rfl
    rfl rfl rfl rfl fun _ => halone.2.2.2.1
  have hholds : (Value.int 3).isTruthy = true := by decide
  dsimp only at halone hrun
  rw [if_pos hholds, hholds] at hrun
  generalize decider.runInstead below [deciding] = alone at halone hrun ⊢
  generalize decider.runFrame = o at hrun ⊢
  obtain ⟨hfault, houtput, hstack, hunhidden, htwice⟩ := halone
  obtain ⟨heffects, hflow⟩ := hrun
  have hended : o.fault = none := heffects.fault.trans hfault
  refine ⟨hpop, hunhidden, hended, heffects.output.trans houtput, heffects.stack.trans hstack, ?_,
    hflow hended⟩
  rw [heffects.dictionary, htwice]

end Machine

end BlockForth
