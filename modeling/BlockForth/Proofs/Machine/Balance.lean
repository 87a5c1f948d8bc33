import BlockForth.Machine.Session
import BlockForth.Proofs.Machine.Definitions
import BlockForth.Proofs.Machine.WordEffect

/-!
# What a run gives back

A frame is run by a machine that goes further and further into other frames, and the depth, the
calls, and the frame itself have to be found again afterwards. `SameFrame` says that two machines
are in one frame, at one depth, and under the same calls, and `Onward` that the second one has not
moved back in it. The built-in words, the definitions, and the tokens take a machine onward, and
running a whole frame leaves it in that frame (`runFrame_sameFrame`), whether a fault stops the run
or not.

Every lemma about running a token holds for every way to run the frames inside it, as long as that
way is `Balanced`. `enter_balanced` then shows that running nested frames is balanced, by induction
on the levels that are left.
-/

namespace BlockForth

namespace Machine

/-- The two machines are in one frame, at one depth, and under the same calls. -/
structure SameFrame (m m' : Machine) : Prop where
  depth : m'.depth = m.depth
  calls : m'.calls = m.calls
  tokens : m'.frame.tokens = m.frame.tokens

namespace SameFrame

/-- A machine is in its own frame. -/
theorem refl (m : Machine) : SameFrame m m := ⟨rfl, rfl, rfl⟩

/-- The frame is kept by one part of a run and then by the next. -/
theorem trans {m m' m'' : Machine} (h : SameFrame m m') (h' : SameFrame m' m'') :
    SameFrame m m'' :=
  ⟨h'.depth.trans h.depth, h'.calls.trans h.calls, h'.tokens.trans h.tokens⟩

end SameFrame

/-- The second machine is in the frame of the first one, and no further back. A machine among the
tokens of the frame stays among them. -/
structure Onward (m m' : Machine) : Prop extends SameFrame m m' where
  position : m.frame.position < m.frame.tokens.length →
    m.frame.position ≤ m'.frame.position ∧ m'.frame.position < m.frame.tokens.length

namespace Onward

/-- A machine that stays is onward. -/
theorem refl (m : Machine) : Onward m m :=
  ⟨SameFrame.refl m, fun h => ⟨Nat.le_refl _, h⟩⟩

/-- What is onward in two parts of a run is onward in both together. -/
theorem trans {m m' m'' : Machine} (h : Onward m m') (h' : Onward m' m'') : Onward m m'' := by
  refine ⟨h.toSameFrame.trans h'.toSameFrame, fun hm => ?_⟩
  obtain ⟨hle, hlt⟩ := h.position hm
  have htokens := h.tokens
  obtain ⟨hle', hlt'⟩ := h'.position (by rw [htokens]; exact hlt)
  rw [htokens] at hlt'
  exact ⟨Nat.le_trans hle hle', hlt'⟩

/-- A machine whose depth, calls, tokens, and position are those of another is onward from it. -/
theorem of_position_eq {m m' : Machine} (h : SameFrame m m')
    (hposition : m'.frame.position = m.frame.position) : Onward m m' := by
  refine ⟨h, fun hm => ?_⟩
  rw [hposition]
  exact ⟨Nat.le_refl _, hm⟩

end Onward

/-! ## Built-in words

A word other than `:` touches the stack, the output, the end of the program, and the flow registers,
and nothing else. -/

/-- The second machine differs from the first at most in the stack, the output, the end of the
program, and the flow registers. -/
def OnlyValues (m m' : Machine) : Prop :=
  ∃ stack output exiting flow, m' =
    { m with stack := stack, output := output, exiting := exiting,
             frame := { m.frame with flow := flow } }

/-- Nothing has to change. -/
theorem OnlyValues.refl (m : Machine) : OnlyValues m m :=
  ⟨m.stack, m.output, m.exiting, m.frame.flow, rfl⟩

/-- The stack, the output, and the registers have no part in the position. -/
theorem OnlyValues.onward {m m' : Machine} (h : OnlyValues m m') : Onward m m' := by
  obtain ⟨stack, output, exiting, flow, rfl⟩ := h
  exact Onward.of_position_eq ⟨rfl, rfl, rfl⟩ rfl

/-- An effect of a word touches nothing else, whether the word finishes or fails. -/
theorem onlyValues_on (e : WordEffect) (s : Stack) (m : Machine) :
    OnlyValues m (e.on s m).machine := by
  cases e with
  | raise cause => exact OnlyValues.refl m
  | fail cause => exact OnlyValues.refl m
  | finish text flow ends => exact ⟨s, _, _, flow, rfl⟩

/-- Every built-in word but `:` leaves the dictionary, the place, the calls, and the frame alone. -/
theorem perform_onlyValues (m : Machine) (w : Builtin) (hw : w ≠ .define) :
    OnlyValues m (m.perform w).machine := by
  obtain ⟨e, s, heffect, -⟩ := exists_wordEffect (m := m) rfl rfl w hw fun _ => rfl
  rw [heffect]
  exact onlyValues_on e s m

/-! ## Definitions

A definition is read from the tokens after the current one, so it moves the frame on, but never past
its last token. -/

/-- A failure at a later token of the frame is onward. -/
theorem fail_moveTo_onward (m : Machine) (position : Nat) (cause : Cause)
    (h : m.frame.position < m.frame.tokens.length →
      m.frame.position ≤ position ∧ position < m.frame.tokens.length) :
    Onward m ((m.moveTo position).fail cause).machine :=
  ⟨⟨rfl, rfl, rfl⟩, h⟩

/-- A definition is read onward, and a malformed one too. -/
theorem define_onward (m : Machine) : Onward m m.define.machine := by
  rw [define_eq]
  unfold defineAtOnce
  dsimp only
  split
  · exact Onward.refl m
  · rename_i t rest hrest
    have hlength := Frame.length_of_ahead hrest
    -- A frame that is at a token does not wrap, so the next position is a greater one.
    split
    · apply fail_moveTo_onward
      intro hm
      have hnext := Frame.next_of_lt hm
      omega
    · split
      · rename_i hclosed
        refine ⟨⟨rfl, rfl, rfl⟩, fun hm => ?_⟩
        have hnext := Frame.next_of_lt hm
        show _ ≤ m.frame.next + 1 + _ ∧ m.frame.next + 1 + _ < _
        omega
      · apply fail_moveTo_onward
        intro hm
        have hnext := Frame.next_of_lt hm
        omega

/-- A definition is passed over onward, and one without an end too. -/
theorem passDefinition_onward (m : Machine) : Onward m m.passDefinition.machine := by
  by_cases hm : m.frame.position < m.frame.tokens.length
  · rw [passDefinition_eq hm]
    unfold passDefinitionAtOnce
    dsimp only
    split
    · rename_i hclosed
      rw [List.length_drop] at hclosed
      refine ⟨⟨rfl, rfl, rfl⟩, fun _ => ?_⟩
      show _ ≤ m.frame.position + 1 + _ ∧ m.frame.position + 1 + _ < _
      omega
    · apply fail_moveTo_onward
      intro _
      rw [List.length_drop]
      omega
  · -- Behind the tokens there is nothing to be said of the position.
    rcases passDefinition_cases m with ⟨p, h⟩ | ⟨p, h⟩
    · rw [h]
      exact fail_moveTo_onward m p _ fun hlt => absurd hlt hm
    · rw [h]
      exact ⟨⟨rfl, rfl, rfl⟩, fun hlt => absurd hlt hm⟩

/-- A `:` that is reached goes onward, whether it defines or is passed over. -/
theorem runDefinition_onward (m : Machine) : Onward m m.runDefinition.machine := by
  unfold runDefinition
  dsimp only
  split
  · exact passDefinition_onward m
  · have hflow : Onward m (m.setFlow { m.frame.flow with repeats := 1 }) :=
      Onward.of_position_eq ⟨rfl, rfl, rfl⟩ rfl
    exact hflow.trans (define_onward _)

/-- Every built-in word goes onward, `:` included. -/
theorem perform_onward (m : Machine) (w : Builtin) : Onward m (m.perform w).machine := by
  by_cases hw : w = .define
  · rw [hw]
    exact define_onward m
  · exact (perform_onlyValues m w hw).onward

/-! ## Tokens -/

/-- The way to run a frame gives the depth and the calls back as it found them. -/
def Balanced (inner : Inner) : Prop :=
  ∀ f m, (inner f m).machine.depth = m.depth ∧ (inner f m).machine.calls = m.calls

variable {inner : Inner}

/-- After a block the machine is in the frame that it was in, with the same registers. -/
theorem runBlock_onward (hinner : Balanced inner) (m : Machine) (body : List Token) :
    Onward m (m.runBlock inner body).machine :=
  Onward.of_position_eq ⟨(hinner _ m).1, (hinner _ m).2, rfl⟩ rfl

/-- After a user word the machine is where it was, and the word is off the list of the calls. -/
theorem runBody_onward (hinner : Balanced inner) (m : Machine) (call : Call) (body : List Token) :
    Onward m (m.runBody inner call body).machine := by
  obtain ⟨hdepth, hcalls⟩ := hinner { tokens := body, flow := m.frame.flow }
    { m with calls := call :: m.calls }
  refine Onward.of_position_eq ⟨hdepth, ?_, rfl⟩ rfl
  show List.tail _ = m.calls
  rw [hcalls]
  rfl

/-- A user word that a fault stops leaves the frame of its caller as it was. -/
theorem frame_runBody_of_fault {m : Machine} {call : Call} {body : List Token}
    (h : (m.runBody inner call body).fault ≠ none) :
    (m.runBody inner call body).machine.frame = m.frame := by
  have hnone : ¬ (inner { tokens := body, flow := m.frame.flow }
      { m with calls := call :: m.calls }).fault.isNone = true :=
    fun hfault => h (Option.isNone_iff_eq_none.1 hfault)
  unfold runBody
  dsimp only
  rw [if_neg hnone]

/-- A word goes onward: the body of a user word runs in a frame of its own. -/
theorem runWord_onward (hinner : Balanced inner) (m : Machine) (location : Location)
    (spelling : String) : Onward m (m.runWord inner location spelling).machine := by
  unfold runWord
  dsimp only
  split
  · exact runBody_onward hinner m _ _
  · split
    · exact perform_onward m _
    · exact Onward.refl m

/-- Running a token goes onward. -/
theorem runToken_onward (hinner : Balanced inner) (m : Machine) (t : Token) :
    Onward m (m.runToken inner t).machine := by
  cases t with
  | word location spelling => exact runWord_onward hinner m location spelling
  | literal location value => exact Onward.of_position_eq ⟨rfl, rfl, rfl⟩ rfl
  | block location body => exact runBlock_onward hinner m body

/-- Running a token any number of times goes onward, by induction on the number. -/
theorem repeatToken_onward (hinner : Balanced inner) (t : Token) (count : Nat) (m : Machine) :
    Onward m (repeatToken inner t count m).machine := by
  induction count generalizing m with
  | zero => exact Onward.refl m
  | succ count ih =>
    rw [repeatToken]
    split
    · exact Onward.refl m
    · have htoken := runToken_onward hinner m t
      rcases hrun : m.runToken inner t with ⟨m', _ | f⟩
      · rw [hrun] at htoken
        exact htoken.trans (ih m')
      · rw [hrun] at htoken
        exact htoken

/-- Running a unit goes onward. -/
theorem runUnit_onward (hinner : Balanced inner) (m : Machine) (t : Token) :
    Onward m (m.runUnit inner t).machine := by
  unfold runUnit
  dsimp only
  split
  · exact Onward.refl m
  · have hflow : Onward m (m.setFlow { m.frame.flow with repeats := 1 }) :=
      Onward.of_position_eq ⟨rfl, rfl, rfl⟩ rfl
    exact hflow.trans (repeatToken_onward hinner t _ _)

/-- Reaching a token goes onward, whether it is run or passed over. -/
theorem runReached_onward (hinner : Balanced inner) (m : Machine) (t : Token) :
    Onward m (m.runReached inner t).machine := by
  have hreached : Onward m { m with location := some t.location } :=
    Onward.of_position_eq ⟨rfl, rfl, rfl⟩ rfl
  unfold runReached
  dsimp only
  split
  · exact hreached.trans (runDefinition_onward _)
  · exact hreached.trans (runUnit_onward hinner _ t)

/-! ## Steps and frames -/

/-- Moving on from a token leaves the machine in its frame. -/
theorem conclude_sameFrame (t : Token) (inlined : Bool) (o : Outcome) :
    SameFrame o.machine (conclude t inlined o).machine := by
  rcases o with ⟨m, _ | f⟩
  · exact ⟨rfl, rfl, rfl⟩
  · exact SameFrame.refl m

/-- A step leaves the machine in its frame. -/
theorem step_sameFrame (hinner : Balanced inner) (t : Token) (m : Machine) :
    SameFrame m (m.step inner t).machine :=
  (runReached_onward hinner m t).toSameFrame.trans (conclude_sameFrame t _ _)

/-- A step that succeeds has run the token and moved on from it. -/
theorem exists_runReached_of_step {t : Token} {m m' : Machine} (h : m.step inner t = ⟨m', none⟩) :
    ∃ n, m.runReached inner t = ⟨n, none⟩ ∧
      m' = n.finishToken (m.frame.flow.skip == 0 && m.isUserWord t) := by
  unfold step at h
  rcases hreached : m.runReached inner t with ⟨n, _ | f⟩
  · rw [hreached] at h
    cases h
    exact ⟨n, rfl, rfl⟩
  · rw [hreached] at h
    cases h

/-- A step that succeeds moves the frame on, though not past its end. -/
theorem position_of_step (hinner : Balanced inner) {t : Token} {m m' : Machine}
    (hm : m.frame.position < m.frame.tokens.length) (hstep : m.step inner t = ⟨m', none⟩) :
    m.frame.position < m'.frame.position ∧ m'.frame.position ≤ m.frame.tokens.length := by
  obtain ⟨hle, hlt⟩ := (runReached_onward hinner m t).position hm
  obtain ⟨n, hreached, rfl⟩ := exists_runReached_of_step hstep
  rw [hreached] at hle hlt
  exact ⟨Nat.lt_succ_of_le hle, hlt⟩

/-- After the end of the program no token is run. -/
theorem stepAll_of_exiting (inner : Inner) (i : Nat) (tokens : List Token) {m : Machine}
    (h : m.exiting = true) : stepAll inner i tokens m = .done m := by
  cases tokens with
  | nil => rfl
  | cons t rest => rw [stepAll, if_pos h]

/-- Steps over any tokens stay in the frame, by induction on the tokens. -/
theorem stepAll_sameFrame (hinner : Balanced inner) (i : Nat) (tokens : List Token) (m : Machine) :
    SameFrame m (stepAll inner i tokens m).machine := by
  induction tokens generalizing i m with
  | nil => exact SameFrame.refl m
  | cons t rest ih =>
    rw [stepAll]
    split
    · exact SameFrame.refl m
    · split
      · exact ih (i + 1) m
      · have hframe := step_sameFrame hinner t m
        rcases hstep : m.step inner t with ⟨m', _ | f⟩
        · rw [hstep] at hframe
          exact hframe.trans (ih (i + 1) m')
        · rw [hstep] at hframe
          exact hframe

/-- The run of a frame ends in that frame. -/
theorem runFrameWith_sameFrame (hinner : Balanced inner) (m : Machine) :
    SameFrame m (m.runFrameWith inner).machine :=
  stepAll_sameFrame hinner _ _ m

/-- Running nested frames gives the depth and the calls back, however many levels are left. -/
theorem enter_balanced (levels : Nat) : Balanced (enter levels) := by
  induction levels with
  | zero => exact fun _ _ => ⟨rfl, rfl⟩
  | succ levels ih =>
    intro f m
    have hframe := runFrameWith_sameFrame ih { m with frame := f, depth := m.depth + 1 }
    refine ⟨?_, hframe.calls⟩
    show (runFrameWith _ _).machine.depth - 1 = m.depth
    rw [hframe.depth]
    rfl

/-- Running a frame inside a machine is balanced, up to the limit of nested frames. -/
theorem nested_balanced : Balanced nested :=
  fun f m => enter_balanced _ f m

/-- A run of the innermost frame leaves the machine in it, at its depth and under its calls. -/
theorem runFrame_sameFrame (m : Machine) : SameFrame m m.runFrame.machine :=
  runFrameWith_sameFrame (enter_balanced _) m

end Machine

end BlockForth
