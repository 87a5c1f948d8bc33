import BlockForth.Proofs.Dictionary.Entries
import BlockForth.Proofs.Machine.Balance

/-!
# What a step does to one token

A step looks at the flow registers first. They may have the token passed over (`step_passed`), or
run as often as the repeat register asks (`step_active`), which is once unless the register is set
(`step_once`). `step_builtin` is the case of a built-in word that no user word hides.

A literal or a block is run without a look at the frame that it stands in. So it does the same in
another frame (`runToken_inFrame`), and laws about such units can compare the frames around them.
-/

namespace BlockForth

/-- The runs fail alike, and leave the same stack, output, words, and end of the program. -/
structure Outcome.SameEffects (o o' : Outcome) : Prop where
  fault : o.fault = o'.fault
  stack : o.machine.stack = o'.machine.stack
  output : o.machine.output = o'.machine.output
  dictionary : o.machine.dictionary = o'.machine.dictionary
  exiting : o.machine.exiting = o'.machine.exiting

/-- Having the same effects goes both ways. -/
theorem Outcome.SameEffects.symm {o o' : Outcome} (h : o.SameEffects o') : o'.SameEffects o :=
  ⟨h.fault.symm, h.stack.symm, h.output.symm, h.dictionary.symm, h.exiting.symm⟩

/-- Effects that are the same as the same ones are the same. -/
theorem Outcome.SameEffects.trans {o o' o'' : Outcome} (h : o.SameEffects o')
    (h' : o'.SameEffects o'') : o.SameEffects o'' :=
  ⟨h.fault.trans h'.fault, h.stack.trans h'.stack, h.output.trans h'.output,
    h.dictionary.trans h'.dictionary, h.exiting.trans h'.exiting⟩

namespace Machine

variable {inner : Inner} {m n : Machine} {t u : Token} {i : Nat} {rest : List Token}

/-! ## The flow registers -/

/-- A token that the skip register has passed over counts against it, and does nothing else. -/
theorem step_passed (hskip : 0 < m.frame.flow.skip) (hstarts : m.startsDefinition t = false) :
    m.step inner t = .done ({ m with location := some t.location }.finishToken false) := by
  have hreached : m.runReached inner t = .done { m with location := some t.location } := by
    rw [runReached, hstarts]
    exact if_pos hskip
  have hinlined : (m.frame.flow.skip == 0) = false := by
    rw [beq_eq_false_iff_ne]
    exact Nat.ne_of_gt hskip
  rw [step, hreached, hinlined]
  rfl

/-- With the skip register at zero, moving on changes nothing but the position. -/
theorem finishToken_of_skip_eq_zero (hskip : m.frame.flow.skip = 0) :
    m.finishToken false = m.moveTo (m.frame.position + 1) := by
  have hflow : ({ m.frame.flow with skip := m.frame.flow.skip - 1 } : Flow) = m.frame.flow := by
    show Flow.mk (m.frame.flow.skip - 1) _ _ = Flow.mk m.frame.flow.skip _ _
    rw [hskip]
  exact congrArg (fun flow => (m.setFlow flow).moveTo (m.frame.position + 1)) hflow

/-- A token that is not passed over is run as often as the repeat register asks, and the register is
reset before. -/
theorem step_active (hskip : m.frame.flow.skip = 0) (hstarts : m.startsDefinition t = false) :
    m.step inner t = conclude t (m.isUserWord t)
      (repeatToken inner t (countOf m.frame.flow.repeats)
        ({ m with location := some t.location }.setFlow { m.frame.flow with repeats := 1 })) := by
  have hactive : ¬ 0 < m.frame.flow.skip := by omega
  have hreached : m.runReached inner t = repeatToken inner t (countOf m.frame.flow.repeats)
      ({ m with location := some t.location }.setFlow { m.frame.flow with repeats := 1 }) := by
    rw [runReached, hstarts]
    exact if_neg hactive
  rw [step, hreached, hskip]
  rfl

/-- With the registers as a call finds them, a token is run once. -/
theorem step_once (hexit : m.exiting = false) (hskip : m.frame.flow.skip = 0)
    (hrepeats : m.frame.flow.repeats = 1) (hstarts : m.startsDefinition t = false) :
    m.step inner t = conclude t (m.isUserWord t)
      ({ m with location := some t.location }.runToken inner t) := by
  let reached : Machine := { m with location := some t.location }
  -- The register asks for one run, and resetting it leaves it as it is.
  have hcount : countOf m.frame.flow.repeats = 1 := by
    rw [hrepeats]
    rfl
  have hflow : reached.setFlow { m.frame.flow with repeats := 1 } = reached := by
    rw [← hrepeats]
    rfl
  have honce : repeatToken inner t 1 reached = reached.runToken inner t := by
    rw [repeatToken, if_neg (by rw [hexit]; exact Bool.false_ne_true)]
    rcases reached.runToken inner t with ⟨n, _ | f⟩
    · rfl
    · rfl
  rw [step_active hskip hstarts, hcount, hflow, honce]

/-- A built-in word that is no user word is performed. -/
theorem step_builtin {name : String} {w : Builtin} (hexit : m.exiting = false)
    (hskip : m.frame.flow.skip = 0) (hrepeats : m.frame.flow.repeats = 1)
    (ht : t.isNamed name = true) (huser : m.dictionary.contains name = false)
    (hfind : Builtin.find? name = some w) (hw : w ≠ .define) :
    m.step inner t = conclude t false ({ m with location := some t.location }.perform w) := by
  obtain ⟨l, s, rfl, rfl⟩ : ∃ l s, t = .word l s ∧ lowercase s = name := by
    cases t with
    | word l s => exact ⟨l, s, rfl, Option.some.inj (beq_iff_eq.1 ht)⟩
    | literal l v => cases ht
    | block l body => cases ht
  have hstarts : m.startsDefinition (.word l s) = false := by
    rw [startsDefinition, Bool.and_eq_false_iff]
    left
    refine beq_eq_false_iff_ne.2 fun hcolon => hw ?_
    -- The only built-in word with that name starts a definition.
    rw [Option.some.inj hcolon] at hfind
    exact Option.some.inj (hfind.symm.trans rfl)
  have hnone : m.dictionary.find? (lowercase s) = none :=
    Option.isNone_iff_eq_none.1 (Option.isSome_eq_false_iff.1 huser)
  have hhidden : m.isUserWord (.word l s) = false := by
    show (m.dictionary.find? s).isSome = false
    rw [← Dictionary.find?_lowercase, hnone]
    rfl
  have hperform : { m with location := some l }.runToken inner (.word l s) =
      { m with location := some l }.perform w := by
    rw [runToken, runWord]
    dsimp only
    rw [hnone, hfind]
  rw [step_once hexit hskip hrepeats hstarts, hhidden]
  exact congrArg (conclude _ _) hperform

/-! ## Literals and blocks -/

/-- A literal or a block starts no definition. -/
theorem startsDefinition_unit (hu : u.name? = none) : m.startsDefinition u = false := by
  rw [startsDefinition, Token.isNamed, hu]
  rfl

/-- A literal or a block is no user word. -/
theorem isUserWord_unit (hu : u.name? = none) : m.isUserWord u = false := by
  cases u with
  | word l s => cases hu
  | literal l v => rfl
  | block l body => rfl

/-- A literal or a block is run alike in every frame, and leaves the frame that it is run in. -/
theorem runToken_inFrame (levels : Nat) (hu : u.name? = none) (m : Machine) (f : Frame) :
    { m with frame := f }.runToken (enter levels) u =
      let o := m.runToken (enter levels) u
      { o with machine := { o.machine with frame := f } } := by
  cases u with
  | word l s => cases hu
  | literal l v => rfl
  | block l body =>
    -- Without a level left a block fails before its frame is entered.
    cases levels with
    | zero => rfl
    | succ levels => rfl

/-- A step on a literal or a block runs it once and then moves the frame on. -/
theorem step_unit (levels : Nat) {f : Frame} (hexit : m.exiting = false) (hskip : f.flow.skip = 0)
    (hrepeats : f.flow.repeats = 1) (hu : u.name? = none) :
    { m with frame := f }.step (enter levels) u = conclude u false
      (let o := { m with location := some u.location }.runToken (enter levels) u
       { o with machine := { o.machine with frame := f } }) := by
  rw [step_once (m := { m with frame := f }) hexit hskip hrepeats (startsDefinition_unit hu),
    isUserWord_unit hu]
  exact congrArg (conclude u false)
    (runToken_inFrame levels hu { m with location := some u.location } f)

/-! ## Runs -/

/-- Runs the given tokens instead of those of the frame, on another stack and with the flow
registers as they are. -/
def runInstead (m : Machine) (s : Stack) (tokens : List Token) : Outcome :=
  { m with stack := s, frame := { tokens := tokens, flow := m.frame.flow } }.runFrame

/-- After a step that goes well the tokens behind it are run. -/
theorem stepAll_of_step_done (hexit : m.exiting = false) (hposition : m.frame.position = i)
    (h : m.step inner t = .done n) :
    stepAll inner i (t :: rest) m = stepAll inner (i + 1) rest n := by
  rw [stepAll, if_neg (Bool.eq_false_iff.1 hexit), if_neg (by omega), h]
  rfl

/-- After a step that fails nothing more is run. -/
theorem stepAll_of_step_fault {f : Fault} (hexit : m.exiting = false)
    (hposition : m.frame.position = i) (h : m.step inner t = ⟨n, some f⟩) :
    stepAll inner i (t :: rest) m = ⟨n, some f⟩ := by
  rw [stepAll, if_neg (Bool.eq_false_iff.1 hexit), if_neg (by omega), h]

end Machine

end BlockForth
