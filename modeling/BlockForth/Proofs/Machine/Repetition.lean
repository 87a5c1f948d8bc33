import BlockForth.Proofs.Machine.Inlining

/-!
# Repeating a unit is writing it down repeatedly

The word `times` sets a register, and the next unit is run as often as the register says, in one
step of its frame. `runFrame_times` says that this is the same as as many copies of the unit in its
place, whatever the unit does: each copy is run in a step of its own, and the tokens that follow are
found with the same registers.

The repeated runs of a unit start at the place where the run before has ended, and a copy starts at
its own place. A unit does not see the difference once it has been run without a fault
(`ignoresPlace_of_done`). The tokens that follow stand at other positions in the frame, which is
compared by the simulation `shifting`.
-/

namespace BlockForth

namespace Machine

/-! ## The place where a unit starts -/

/-- Where the machine is when the token is run matters for nothing but where it is afterwards. -/
def IgnoresPlace (inner : Inner) (t : Token) : Prop :=
  ∀ (m : Machine) (l : Option Location), ∃ l', m.runToken inner t =
    let o := { m with location := l }.runToken inner t
    { o with machine := { o.machine with location := l' } }

variable {u : Token} {levels : Nat}

/-- A literal is pushed anywhere, and a block reaches its tokens before it reads the place. Only
where there is no level left for the block does it fail, at the place where the machine is. -/
theorem ignoresPlace_of_done {m n : Machine} (hu : u.name? = none)
    (h : m.runToken (enter levels) u = ⟨n, none⟩) : IgnoresPlace (enter levels) u := by
  intro x l
  cases u with
  | word l' s => cases hu
  | literal l' v => exact ⟨x.location, rfl⟩
  | block l' body =>
    cases levels with
    | zero =>
      -- The run that is known to have succeeded would have failed.
      cases h
    | succ levels =>
      let inside : Machine := { x with frame := { tokens := body }, depth := x.depth + 1 }
      obtain ⟨place, hplace⟩ := stepAll_location (enter levels) 0 body inside l
      refine ⟨place, ?_⟩
      have hblock : ∀ y : Machine, y.runToken (enter (levels + 1)) (.block l' body) =
          let o := stepAll (enter levels) 0 body
            { y with frame := { tokens := body }, depth := y.depth + 1 }
          { o with machine := { o.machine with depth := o.machine.depth - 1, frame := y.frame } } :=
        fun _ => rfl
      rw [hblock, hblock, hplace]

/-- A token that is run at its own place, or that does not see the place, is run as it is when it
has just been reached. -/
theorem exists_runToken_reached {inner : Inner} {t : Token} {m : Machine}
    (h : m.location = some t.location ∨ IgnoresPlace inner t) :
    ∃ place, m.runToken inner t =
      let o := { m with location := some t.location }.runToken inner t
      { o with machine := { o.machine with location := place } } := by
  rcases h with hhere | hignores
  · have hreached : { m with location := some t.location } = m := by rw [← hhere]
    rw [hreached]
    exact ⟨(m.runToken inner t).machine.location, rfl⟩
  · exact hignores m (some t.location)

/-! ## Copies of a unit -/

/-- A literal or a block leaves the frame as it is, however often it is run. -/
theorem frame_of_repeatToken {inner : Inner} {count : Nat} {m k : Machine} {fault : Option Fault}
    (hu : u.name? = none) (h : repeatToken inner u count m = ⟨k, fault⟩) : k.frame = m.frame := by
  induction count generalizing m with
  | zero =>
    cases h
    rfl
  | succ count ih =>
    have htoken : (m.runToken inner u).machine.frame = m.frame := by
      cases u with
      | word l s => cases hu
      | literal l v => rfl
      | block l body => rfl
    rw [repeatToken] at h
    split at h
    · cases h
      rfl
    · rcases hrun : m.runToken inner u with ⟨n, _ | f⟩
      · rw [hrun] at h htoken
        exact (ih h).trans htoken
      · rw [hrun] at h htoken
        cases h
        exact htoken

/-- Copies of a unit, run one after the other in a frame of their own, do what the repeated unit
does. The machine of the repeated unit is at the place of the unit, or else the unit has been run
before. -/
theorem stepAll_replicate (levels : Nat) (hu : u.name? = none) (count : Nat) {m : Machine}
    {f : Frame} {i : Nat} (place : Option Location) (hposition : f.position = i)
    (hskip : f.flow.skip = 0) (hrepeats : f.flow.repeats = 1)
    (hplace : m.location = some u.location ∨ IgnoresPlace (enter levels) u) :
    let o := repeatToken (enter levels) u count m
    ∃ p place', stepAll (enter levels) i (List.replicate count u)
        { m with location := place, frame := f } =
      { machine := { o.machine with location := place', frame := { f with position := p } },
        fault := o.fault.map (·.inContext u.location o.machine.calls) } ∧
      (o.fault = none → o.machine.exiting = false → p = i + count) := by
  -- The induction follows the repeated unit, from the machine and the position where it is due.
  induction count generalizing m f i place with
  | zero => exact ⟨i, place, by rw [← hposition]; rfl, fun _ _ => rfl⟩
  | succ count ih =>
    rw [List.replicate_succ, repeatToken]
    by_cases hexit : m.exiting = true
    · -- An earlier run of the unit has ended the program.
      rw [if_pos hexit,
        stepAll_of_exiting _ _ _ (m := { m with location := place, frame := f }) hexit]
      refine ⟨i, place, by rw [← hposition]; rfl, fun _ hrunning => ?_⟩
      cases hexit.symm.trans hrunning
    · have hrunning : m.exiting = false := Bool.eq_false_iff.2 hexit
      have hstep := step_unit levels (m := { m with location := place }) hrunning hskip hrepeats hu
      obtain ⟨place', hsame⟩ := exists_runToken_reached hplace
      rw [if_neg hexit]
      rcases hrun : { m with location := some u.location }.runToken (enter levels) u with
        ⟨n, _ | e⟩
      · rw [hrun] at hstep hsame
        -- From now on the repeated unit starts where its last run has ended.
        have hmoved : { n with frame := f }.finishToken false =
            { n with frame := { f with position := i + 1 } } := by
          rw [finishToken_of_skip_eq_zero (m := { n with frame := f }) hskip, ← hposition]
          rfl
        obtain ⟨p, place'', hcopies, hend⟩ := ih (m := { n with location := place' })
          (f := { f with position := i + 1 }) n.location rfl hskip hrepeats
          (.inr (ignoresPlace_of_done hu hrun))
        rw [hsame, stepAll_of_step_done (m := { m with location := place, frame := f }) hrunning
          hposition hstep]
        refine ⟨p, place'', ?_, fun hfault hrunning => ?_⟩
        · rw [← hcopies]
          exact congrArg (stepAll _ _ _) hmoved
        · rw [hend hfault hrunning, Nat.add_right_comm, Nat.add_assoc]
      · rw [hrun] at hstep hsame
        rw [hsame, stepAll_of_step_fault (m := { m with location := place, frame := f }) hrunning
          hposition hstep]
        exact ⟨i, n.location, by rw [← hposition]; rfl, fun hfault => by cases hfault⟩

end Machine

/-! ## The tokens that follow -/

namespace Machine

/-- The machines are equal but for their frames and depths. -/
structure Shifted (m m' : Machine) : Prop extends SameState m m' where
  calls : m'.calls = m.calls

variable {m m' : Machine}

/-- A fault has the same place and the same calls. -/
theorem Shifted.faultHere (h : Shifted m m') (cause : Cause) :
    m.faultHere cause = m'.faultHere cause := by
  rw [Machine.faultHere, Machine.faultHere, h.location, h.calls]

/-- A built-in word other than `:` sees nothing of the frame but its flow registers. -/
theorem perform_shifted (h : Shifted m m') (hflow : m'.frame.flow = m.frame.flow) (w : Builtin)
    (hw : w ≠ .define) :
    (m.perform w).Agree (fun n n' => Shifted n n' ∧ n'.frame.flow = n.frame.flow) Eq
      (fun _ => False) (m'.perform w) := by
  obtain ⟨e, s, heffect, heffect'⟩ :=
    exists_wordEffect h.stack hflow w hw fun _ => congrArg Dictionary.listing h.dictionary
  rw [heffect, heffect']
  cases e with
  | raise cause => exact .inr ⟨⟨h, hflow⟩, .some rfl⟩
  | fail cause => exact .inr ⟨⟨h, hflow⟩, .some (h.faultHere cause)⟩
  | finish text flow ends =>
    have houtput : m'.output ++ text = m.output ++ text := by rw [h.output]
    have hexiting : (m'.exiting || ends) = (m.exiting || ends) := by rw [h.exiting]
    exact .inr ⟨⟨⟨⟨rfl, h.dictionary, houtput, h.location, hexiting⟩, h.calls⟩, rfl⟩, .none⟩

end Machine

/-- The same tokens run alike in frames at other positions and with other tokens behind them. -/
def shifting : Simulation :=
  { inlining with
    machine := Machine.Shifted
    fault := Eq
    escapes := fun _ => False
    inFrame := fun f f' depth depth' h =>
      ⟨inlining.inFrame f f' depth depth' h.toSameState, h.calls⟩
    exiting := fun h => h.exiting
    reach := fun h ht => ⟨inlining.reach h.toSameState ht, h.calls⟩
    push := fun v h => ⟨inlining.push v h.toSameState, h.calls⟩
    call := fun h ht => by
      cases ht
      exact ⟨inlining.call h.toSameState rfl, congrArg (List.cons _) h.calls⟩
    goBack := fun h => ⟨inlining.goBack h.toSameState, congrArg List.tail h.calls⟩
    find := fun name h => inlining.find name h.toSameState
    insert := fun h hname hbody => ⟨inlining.insert h.toSameState hname hbody, h.calls⟩
    perform := fun h hflow _ _ hw => Machine.perform_shifted h hflow _ hw
    fail := fun cause h => h.faultHere cause
    failUnknown := fun h ht => by
      cases ht
      exact h.faultHere _
    failName := fun h ht => by
      cases ht
      exact h.faultHere _
    context := fun h hfault ht => by
      cases ht
      rw [hfault, h.calls]
    escapes_context := fun _ _ h => h }

namespace Machine

/-- The tokens that follow are run alike at another position and from another place. If the program
has ended, then they are not run at all, wherever the frame is. -/
theorem stepAll_shifted (levels : Nat) {rest : List Token} {m : Machine} {f : Frame} {i : Nat}
    (place : Option Location) (hflow : f.flow = m.frame.flow)
    (hrest : m.frame.tokens.drop m.frame.position = rest) (hrest' : f.tokens.drop i = rest)
    (hposition : m.exiting = false → f.position = i) :
    let o := stepAll (enter levels) m.frame.position rest m
    let o' := stepAll (enter levels) i rest { m with location := place, frame := f }
    o.SameEffects o' ∧ o.machine.frame.flow = o'.machine.frame.flow := by
  dsimp only
  by_cases hexit : m.exiting = true
  · rw [stepAll_of_exiting _ _ _ hexit,
      stepAll_of_exiting _ _ _ (m := { m with location := place, frame := f }) hexit]
    exact ⟨⟨rfl, rfl, rfl, rfl, rfl⟩, hflow.symm⟩
  · have hhere : f.position = i := hposition (Bool.eq_false_iff.2 hexit)
    subst hhere
    let shifted : Machine := { m with frame := f }
    have hdrop : shifted.frame.tokens.drop shifted.frame.position = rest := hrest'
    have hmachine : shifting.machine m shifted := ⟨⟨rfl, rfl, rfl, rfl, rfl⟩, rfl⟩
    have hinner : shifting.InnerAgree (enter levels) (enter levels) :=
      Simulation.enter_agree_self _
    have htokens : List.Forall₂ shifting.token (m.frame.tokens.drop m.frame.position)
        (shifted.frame.tokens.drop shifted.frame.position) := by
      rw [hrest, hdrop]
      exact List.forall₂_same.2 fun _ _ => rfl
    have hagree := Simulation.runFrameWith_beside hinner (enter_balanced _) (enter_balanced _)
      hmachine hflow htokens
    rw [runFrameWith, runFrameWith, hrest, hdrop] at hagree
    -- The second run may start at the place of the first one.
    obtain ⟨place', hplace⟩ := stepAll_location (enter levels) f.position rest
      { m with location := place, frame := f } m.location
    rw [hplace]
    rcases hagree with ⟨_, -, hescapes⟩ | ⟨hbeside, hfault⟩
    · exact hescapes.elim
    · have hsame := hbeside.machine
      exact ⟨⟨(eq_of_rel_eq hfault).symm, hsame.stack.symm, hsame.output.symm,
        hsame.dictionary.symm, hsame.exiting.symm⟩, hbeside.flow.symm⟩

/-! ## The word and its unit -/

/-- The machine behind a `times`, on the stack without the count `n`. -/
def counted (m : Machine) (s : Stack) (n : Int64) (timesWord : Token) : Machine :=
  { m with
    stack := s
    location := some timesWord.location
    frame := ⟨m.frame.tokens, m.frame.position + 1, ⟨0, m.frame.flow.lastIf, n⟩⟩ }

/-- The machine where the unit behind a `times` is run. The repeat register has been reset. -/
def atRepeated (m : Machine) (s : Stack) (u : Token) : Machine :=
  { m with
    stack := s
    location := some u.location
    frame := { m.frame with position := m.frame.position + 1 } }

section Times

variable {inner : Inner} {m k : Machine} {n : Int64} {s : Stack} {timesWord u : Token}
  {rest : List Token} {f : Fault} (hexit : m.exiting = false) (hskip : m.frame.flow.skip = 0)
  (hrepeats : m.frame.flow.repeats = 1)

include hskip hrepeats

/-- The next unit is run as often as the register says, with the registers as they were before the
`times`. -/
theorem step_counted (hu : u.name? = none) :
    (m.counted s n timesWord).step inner u =
      conclude u false (repeatToken inner u (countOf n) (m.atRepeated s u)) := by
  have hflow : (⟨0, m.frame.flow.lastIf, 1⟩ : Flow) = m.frame.flow := by
    rw [← hskip, ← hrepeats]
  have hreset : { m.counted s n timesWord with location := some u.location }.setFlow
      ⟨0, m.frame.flow.lastIf, 1⟩ = m.atRepeated s u :=
    congrArg (fun flow => { m.atRepeated s u with
      frame := ⟨m.frame.tokens, m.frame.position + 1, flow⟩ }) hflow
  rw [step_active rfl (startsDefinition_unit hu), isUserWord_unit hu, ← hreset]
  rfl

include hexit

/-- The `times` takes the count off the stack and sets the repeat register. -/
theorem step_times (hpop : m.stack.popInt = .ok (n, s))
    (htimesWord : timesWord.isNamed "times" = true)
    (htimes : m.dictionary.contains "times" = false) :
    m.step inner timesWord = .done (m.counted s n timesWord) := by
  have hperform : { m with location := some timesWord.location }.perform .times =
      .done ({ m with location := some timesWord.location, stack := s }.setFlow
        ⟨0, m.frame.flow.lastIf, n⟩) := by
    rw [perform_eq_performAtOnce, performAtOnce, hpop, ← hskip]
    rfl
  rw [step_builtin hexit hskip hrepeats htimesWord htimes rfl Builtin.noConfusion, hperform]
  rfl

/-- Where the repeated unit ends, the frame has moved past it and has the registers that it had
before the `times`. -/
theorem stepAll_counted_done (hu : u.name? = none)
    (hrun : repeatToken inner u (countOf n) (m.atRepeated s u) = ⟨k, none⟩) :
    stepAll inner (m.frame.position + 1) (u :: rest) (m.counted s n timesWord) =
      stepAll inner (m.frame.position + 1 + 1) rest
        { k with frame := { m.frame with position := m.frame.position + 1 + 1 } } := by
  have hkept : k.frame = { m.frame with position := m.frame.position + 1 } :=
    frame_of_repeatToken hu hrun
  refine stepAll_of_step_done (m := m.counted s n timesWord) hexit rfl ?_
  rw [step_counted hskip hrepeats hu, hrun]
  show Outcome.done (k.finishToken false) = _
  rw [finishToken_of_skip_eq_zero (by rw [hkept]; exact hskip), moveTo, hkept]

/-- A fault in the repeated unit stops the frame at it. -/
theorem stepAll_counted_fault (hu : u.name? = none)
    (hrun : repeatToken inner u (countOf n) (m.atRepeated s u) = ⟨k, some f⟩) :
    stepAll inner (m.frame.position + 1) (u :: rest) (m.counted s n timesWord) =
      ⟨{ k with frame := { m.frame with position := m.frame.position + 1 } },
        some (f.inContext u.location k.calls)⟩ := by
  have hkept : k.frame = { m.frame with position := m.frame.position + 1 } :=
    frame_of_repeatToken hu hrun
  refine stepAll_of_step_fault (m := m.counted s n timesWord) hexit rfl ?_
  rw [step_counted hskip hrepeats hu, hrun, ← hkept]
  rfl

end Times

/-- A `times` before a literal or a block does what as many copies of that unit do in its place, on
the stack without the count: it fails alike, and leaves the same stack, output, words, end of the
program, and flow registers. A negative count is none. The `times` is no user word. -/
theorem runFrame_times (m : Machine) {n : Int64} {s : Stack} {timesWord u : Token}
    {rest : List Token} (hexit : m.exiting = false) (hskip : m.frame.flow.skip = 0)
    (hrepeats : m.frame.flow.repeats = 1) (hpop : m.stack.popInt = .ok (n, s))
    (htokens : m.frame.tokens.drop m.frame.position = timesWord :: u :: rest)
    (htimesWord : timesWord.isNamed "times" = true)
    (htimes : m.dictionary.contains "times" = false) (hu : u.name? = none) :
    let o := m.runFrame
    let copies := m.runInstead s (List.replicate n.toInt.toNat u ++ rest)
    o.SameEffects copies ∧ o.machine.frame.flow = copies.machine.frame.flow := by
  intro o copies
  let inner := enter (maxDepth - m.depth)
  let units := List.replicate n.toInt.toNat u
  let start : Frame := { tokens := units ++ rest, flow := m.frame.flow }
  have ho : o = stepAll inner (m.frame.position + 1) (u :: rest) (m.counted s n timesWord) := by
    show m.runFrameWith inner = _
    rw [runFrameWith, htokens]
    exact stepAll_of_step_done hexit rfl (step_times hexit hskip hrepeats hpop htimesWord htimes)
  have hcopies : copies = stepAll inner 0 (units ++ rest) { m with stack := s, frame := start } :=
    rfl
  obtain ⟨p, place, hreplicate, hend⟩ := stepAll_replicate (maxDepth - m.depth) hu (countOf n)
    (m := m.atRepeated s u) (f := start) m.location rfl hskip hrepeats (.inl rfl)
  have hunits : stepAll inner 0 units { m with stack := s, frame := start } = _ := hreplicate
  rw [ho, hcopies, stepAll_append, hunits]
  rcases hrun : repeatToken inner u (countOf n) (m.atRepeated s u) with ⟨k, _ | f⟩
  · rw [hrun] at hend
    have hrest : m.frame.tokens.drop (m.frame.position + 1 + 1) = rest := by
      rw [Nat.add_assoc, ← List.drop_drop, htokens]
      rfl
    have hrest' : (units ++ rest).drop (0 + units.length) = rest := by
      rw [Nat.zero_add]
      exact List.drop_left
    -- Both frames go on with the same tokens and registers, unless the program has ended.
    rw [stepAll_counted_done hexit hskip hrepeats hu hrun]
    refine stepAll_shifted (maxDepth - m.depth)
      (m := { k with frame := { m.frame with position := m.frame.position + 1 + 1 } })
      (f := { start with position := p }) place rfl hrest hrest' fun hrunning => ?_
    rw [hend rfl hrunning, List.length_replicate]
    rfl
  · rw [stepAll_counted_fault hexit hskip hrepeats hu hrun]
    exact ⟨⟨rfl, rfl, rfl, rfl, rfl⟩, rfl⟩

/-- A block that counts up, writes the count, and repeats a literal. -/
def counting : Token :=
  .block {} [.literal {} (.int 1), .word {} "+", .word {} "dup", .word {} ".", .literal {} (.int 2),
    .word {} "times", .literal {} (.string "-"), .word {} "drop", .word {} "."]

/-- A definition, a use of it, and an `if` that is left without a unit. -/
def doubling : List Token :=
  [.word {} ":", .word {} "double", .word {} "dup", .word {} "+", .word {} ";", .word {} "Double",
    .literal {} (.int 0), .word {} "if"]

/-- A machine inside a frame, at a `times` before that block. -/
def counter : Machine where
  stack := (Stack.empty.push (.int 0)).push (.int 3)
  frame := { tokens := .word {} "drop" :: .word {} "TIMES" :: counting :: doubling, position := 1 }

/-- The block is run three times, and the `if` behind it has the next unit passed over. -/
theorem runFrame_times_counter :
    let zero := counter.stack.clear.push (.int 0)
    let o := counter.runFrame
    counter.stack.popInt = .ok (3, zero) ∧ o.fault = none ∧ o.machine.output = "1-2-3-" ∧
      o.machine.stack.values = [.int 6] ∧ o.machine.dictionary.contains "double" = true ∧
      o.machine.frame.flow = { skip := 1, lastIf := false, repeats := 1 } := by
  intro zero
  have hpop : counter.stack.popInt = .ok (3, zero) := by rfl
  have hcopies :
      let copies := counter.runInstead zero (counting :: counting :: counting :: doubling)
      copies.fault = none ∧ copies.machine.output = "1-2-3-" ∧
        copies.machine.stack.values = [.int 6] ∧
        copies.machine.dictionary.contains "double" = true ∧
        copies.machine.frame.flow = { skip := 1, lastIf := false, repeats := 1 } := by
    decide +kernel
  have htokens : counter.frame.tokens.drop counter.frame.position =
      .word {} "TIMES" :: counting :: doubling := by rfl
  have hrun := runFrame_times counter rfl rfl rfl hpop htokens rfl rfl rfl
  have hunits : List.replicate (3 : Int64).toInt.toNat counting ++ doubling =
      counting :: counting :: counting :: doubling := by rfl
  dsimp only at hcopies hrun
  rw [hunits] at hrun
  generalize counter.runInstead zero (counting :: counting :: counting :: doubling) = copies
    at hcopies hrun
  generalize counter.runFrame = o at hrun ⊢
  obtain ⟨hfault, houtput, hvalues, hdouble, hflow⟩ := hcopies
  obtain ⟨heffects, hflows⟩ := hrun
  refine ⟨hpop, heffects.fault.trans hfault, heffects.output.trans houtput, ?_, ?_,
    hflows.trans hflow⟩
  · rw [heffects.stack, hvalues]
  · rw [heffects.dictionary, hdouble]

end Machine

end BlockForth
