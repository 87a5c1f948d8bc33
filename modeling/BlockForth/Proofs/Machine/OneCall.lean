import BlockForth.Proofs.Machine.Relocation
import BlockForth.Proofs.Token.Lines

/-!
# One call or two

A program can be run in one call or line by line. `run_append_newline` says so for two pieces: a
call with both of them does what a call with the first and a call with the second do, up to the
places in the words and the faults. What the first call has written stands ahead of what the second
call has written. The first call must not fail, and it must not leave an `if` or a `times` behind
that waits for the next unit, since the second call starts with fresh registers.

The first piece does not see that there are more tokens behind it: whatever succeeds in a frame does
the same in a frame with more tokens at its end (`stepAll_followedBy`). A definition ends at the
first `;`, so that it does not read on. Then the frame is where the second piece starts, and both
pieces are at other places than on their own, which is the simulation `relocating`.
-/

namespace BlockForth

namespace Machine

/-! ## More tokens at the end -/

/-- The machine with more tokens at the end of its frame. -/
def followedBy (m : Machine) (tail : List Token) : Machine :=
  { m with frame := { m.frame with tokens := m.frame.tokens ++ tail } }

/-- The tokens up to the end of a definition are the same with more tokens behind them. -/
theorem takeWhile_append_of_lt {rest : List Token} (tail : List Token)
    (h : (rest.takeWhile (!·.endsDefinition)).length < rest.length) :
    (rest ++ tail).takeWhile (!·.endsDefinition) = rest.takeWhile (!·.endsDefinition) := by
  rw [List.takeWhile_append, if_neg (Nat.ne_of_lt h)]

variable {inner : Inner} {tail body : List Token} {t : Token} {m n : Machine}

/-- A frame that is at one of its tokens is so with more tokens at the end. -/
theorem position_lt_followedBy (tail : List Token) (hm : m.frame.position < m.frame.tokens.length) :
    (m.followedBy tail).frame.position < (m.followedBy tail).frame.tokens.length := by
  show _ < (m.frame.tokens ++ tail).length
  rw [List.length_append]
  exact Nat.lt_add_right _ hm

/-- A definition that is complete is stored without regard to the tokens behind it. -/
theorem define_followedBy (hm : m.frame.position < m.frame.tokens.length)
    (h : m.define = ⟨n, none⟩) : (m.followedBy tail).define = ⟨n.followedBy tail, none⟩ := by
  have hm' := position_lt_followedBy tail hm
  -- Both frames are among their tokens, where the next position is one further.
  have hnext : m.frame.next = m.frame.position + 1 := Frame.next_of_lt hm
  have hnext' : (m.followedBy tail).frame.next = m.frame.position + 1 := Frame.next_of_lt hm'
  have hdrop : (m.followedBy tail).frame.tokens.drop (m.frame.position + 1) =
      m.frame.tokens.drop (m.frame.position + 1) ++ tail := List.drop_append_of_le_length hm
  rw [define_eq, defineAtOnce, hnext] at h
  rw [define_eq, defineAtOnce, hnext']
  dsimp only at h ⊢
  rw [hdrop]
  rcases hrest : m.frame.tokens.drop (m.frame.position + 1) with _ | ⟨t, rest⟩
  · rw [hrest] at h
    cases h
  · rw [hrest] at h
    rw [List.cons_append]
    dsimp only at h ⊢
    rcases hname : t.definable? with _ | name
    · rw [hname] at h
      cases h
    · rw [hname] at h
      dsimp only at h ⊢
      split at h
      · -- The `;` is in the frame already, and the body ends there.
        rename_i hclosed
        rw [takeWhile_append_of_lt tail hclosed, List.length_append,
          if_pos (Nat.lt_add_right _ hclosed)]
        cases h
        rfl
      · cases h

/-- A definition that is complete is passed over without regard to the tokens behind it. -/
theorem passDefinition_followedBy (hm : m.frame.position < m.frame.tokens.length)
    (h : m.passDefinition = ⟨n, none⟩) :
    (m.followedBy tail).passDefinition = ⟨n.followedBy tail, none⟩ := by
  have hm' := position_lt_followedBy tail hm
  have hdrop : (m.followedBy tail).frame.tokens.drop ((m.followedBy tail).frame.position + 1) =
      m.frame.tokens.drop (m.frame.position + 1) ++ tail := List.drop_append_of_le_length hm
  rw [passDefinition_eq hm, passDefinitionAtOnce] at h
  rw [passDefinition_eq hm', passDefinitionAtOnce, hdrop]
  split at h
  · rename_i hclosed
    rw [takeWhile_append_of_lt tail hclosed, List.length_append,
      if_pos (Nat.lt_add_right _ hclosed)]
    cases h
    rfl
  · cases h

/-- A `:` that is reached and goes well does not look at the tokens behind its definition. -/
theorem runDefinition_followedBy (hm : m.frame.position < m.frame.tokens.length)
    (h : m.runDefinition = ⟨n, none⟩) :
    (m.followedBy tail).runDefinition = ⟨n.followedBy tail, none⟩ := by
  let once : Machine := m.setFlow { m.frame.flow with repeats := 1 }
  unfold runDefinition at h ⊢
  dsimp only at h ⊢
  by_cases hskip : 0 < m.frame.flow.skip
  · rw [if_pos hskip] at h
    exact (if_pos hskip).trans (passDefinition_followedBy hm h)
  · rw [if_neg hskip] at h
    exact (if_neg hskip).trans (define_followedBy (m := once) hm h)

/-- A nested frame that ends well does not look at the frame that it is nested in. -/
def IgnoresFrame (inner : Inner) : Prop :=
  ∀ (f g : Frame) (m n : Machine), inner f m = ⟨n, none⟩ →
    inner f { m with frame := g } = ⟨n, none⟩

/-- Nested frames do not look at the frame that they are nested in. -/
theorem enter_ignoresFrame (levels : Nat) : IgnoresFrame (enter levels) := by
  intro f g m n h
  cases levels with
  | zero => cases h
  | succ levels =>
    -- The frame is replaced by the nested one before anything is run.
    exact h

/-- A block runs alike in a longer frame. -/
theorem runBlock_followedBy (hinner : IgnoresFrame inner) (h : m.runBlock inner body = ⟨n, none⟩) :
    (m.followedBy tail).runBlock inner body = ⟨n.followedBy tail, none⟩ := by
  unfold runBlock at h ⊢
  rcases hrun : inner { tokens := body } m with ⟨k, _ | f⟩
  · have hrun' : inner { tokens := body } (m.followedBy tail) = ⟨k, none⟩ := hinner _ _ _ _ hrun
    rw [hrun] at h
    rw [hrun']
    cases h
    rfl
  · rw [hrun] at h
    cases h

/-- A body takes the registers of the frame with it and gives them back, and runs alike in a longer
frame. -/
theorem runBody_followedBy (hinner : IgnoresFrame inner) {call : Call}
    (h : m.runBody inner call body = ⟨n, none⟩) :
    (m.followedBy tail).runBody inner call body = ⟨n.followedBy tail, none⟩ := by
  unfold runBody at h ⊢
  rcases hrun : inner { tokens := body, flow := m.frame.flow }
    { m with calls := call :: m.calls } with ⟨k, _ | f⟩
  · have hrun' : inner { tokens := body, flow := (m.followedBy tail).frame.flow }
        { m.followedBy tail with calls := call :: (m.followedBy tail).calls } = ⟨k, none⟩ :=
      hinner _ _ _ _ hrun
    rw [hrun] at h
    rw [hrun']
    cases h
    rfl
  · rw [hrun] at h
    cases h

/-- A built-in word runs alike in a longer frame. -/
theorem perform_followedBy {w : Builtin} (hm : m.frame.position < m.frame.tokens.length)
    (h : m.perform w = ⟨n, none⟩) : (m.followedBy tail).perform w = ⟨n.followedBy tail, none⟩ := by
  by_cases hw : w = .define
  · subst hw
    exact define_followedBy hm h
  · have hstack : (m.followedBy tail).stack = m.stack := rfl
    obtain ⟨e, s, heffect, heffect'⟩ := exists_wordEffect hstack rfl w hw fun _ => rfl
    rw [heffect] at h
    rw [heffect']
    cases e with
    | raise cause => cases h
    | fail cause => cases h
    | finish text flow ends =>
      cases h
      rfl

/-- A token runs alike in a longer frame. -/
theorem runToken_followedBy (hinner : IgnoresFrame inner)
    (hm : m.frame.position < m.frame.tokens.length) (h : m.runToken inner t = ⟨n, none⟩) :
    (m.followedBy tail).runToken inner t = ⟨n.followedBy tail, none⟩ := by
  cases t with
  | literal l v =>
    cases h
    rfl
  | block l body => exact runBlock_followedBy hinner h
  | word l spelling =>
    rw [runToken, runWord] at h ⊢
    have hdictionary : (m.followedBy tail).dictionary = m.dictionary := rfl
    rw [hdictionary]
    rcases hentry : m.dictionary.find? (lowercase spelling) with _ | entry
    · rw [hentry] at h
      rcases hword : Builtin.find? (lowercase spelling) with _ | w
      · rw [hword] at h
        cases h
      · rw [hword] at h
        exact perform_followedBy hm h
    · rw [hentry] at h
      exact runBody_followedBy hinner h

/-- Repetitions of a token run alike in a longer frame, by induction on their number. -/
theorem repeatToken_followedBy (hinner : IgnoresFrame inner) (hbalanced : Balanced inner)
    (count : Nat) (hm : m.frame.position < m.frame.tokens.length)
    (h : repeatToken inner t count m = ⟨n, none⟩) :
    repeatToken inner t count (m.followedBy tail) = ⟨n.followedBy tail, none⟩ := by
  induction count generalizing m with
  | zero =>
    cases h
    rfl
  | succ count ih =>
    rw [repeatToken] at h ⊢
    by_cases hexit : m.exiting = true
    · rw [if_pos hexit] at h
      cases h
      exact if_pos hexit
    · rw [if_neg hexit] at h
      refine (if_neg hexit).trans ?_
      have honward := runToken_onward hbalanced m t
      rcases hrun : m.runToken inner t with ⟨k, _ | f⟩
      · rw [hrun] at h honward
        rw [runToken_followedBy hinner hm hrun]
        -- A `:` that is a built-in word may have moved the frame, but not past its last token.
        obtain ⟨-, hlt⟩ := honward.position hm
        exact ih (by rw [honward.tokens]; exact hlt) h
      · rw [hrun] at h
        cases h

/-- A token that is reached is run or passed over alike in a longer frame. -/
theorem runReached_followedBy (hinner : IgnoresFrame inner) (hbalanced : Balanced inner)
    (hm : m.frame.position < m.frame.tokens.length) (h : m.runReached inner t = ⟨n, none⟩) :
    (m.followedBy tail).runReached inner t = ⟨n.followedBy tail, none⟩ := by
  let reached : Machine := { m with location := some t.location }
  let once : Machine := reached.setFlow { m.frame.flow with repeats := 1 }
  unfold runReached at h ⊢
  by_cases hstarts : m.startsDefinition t = true
  · rw [if_pos hstarts] at h
    exact (if_pos hstarts).trans (runDefinition_followedBy (m := reached) hm h)
  · rw [if_neg hstarts] at h
    refine (if_neg hstarts).trans ?_
    unfold runUnit at h ⊢
    by_cases hskip : 0 < m.frame.flow.skip
    · cases (if_pos hskip).symm.trans h
      exact if_pos hskip
    · have hrun := (if_neg hskip).symm.trans h
      exact (if_neg hskip).trans
        (repeatToken_followedBy (m := once) hinner hbalanced _ hm hrun)

/-- A step that goes well is the same one in a longer frame. -/
theorem step_followedBy (hinner : IgnoresFrame inner) (hbalanced : Balanced inner)
    (hm : m.frame.position < m.frame.tokens.length) (h : m.step inner t = ⟨n, none⟩) :
    (m.followedBy tail).step inner t = ⟨n.followedBy tail, none⟩ := by
  obtain ⟨k, hreached, rfl⟩ := exists_runReached_of_step h
  rw [step, runReached_followedBy hinner hbalanced hm hreached]
  rfl

/-- Tokens of a frame that run to their end do the same in a frame with more tokens at its end. -/
theorem stepAll_followedBy (hinner : IgnoresFrame inner) (hbalanced : Balanced inner) {i : Nat}
    {ts : List Token} (hposition : i ≤ m.frame.position)
    (hlength : i + ts.length ≤ m.frame.tokens.length) (h : stepAll inner i ts m = ⟨n, none⟩) :
    stepAll inner i ts (m.followedBy tail) = ⟨n.followedBy tail, none⟩ := by
  induction ts generalizing i m with
  | nil =>
    cases h
    rfl
  | cons t rest ih =>
    rw [List.length_cons] at hlength
    rw [stepAll] at h ⊢
    by_cases hexit : m.exiting = true
    · rw [if_pos hexit] at h
      cases h
      exact if_pos hexit
    · rw [if_neg hexit] at h
      refine (if_neg hexit).trans ?_
      by_cases hpast : i < m.frame.position
      · -- A definition has taken the token along.
        rw [if_pos hpast] at h
        exact (if_pos hpast).trans (ih hpast (by omega) h)
      · -- The frame is at the token, which is one of its own and not one of the tokens behind them.
        rw [if_neg hpast] at h
        refine (if_neg hpast).trans ?_
        have hm : m.frame.position < m.frame.tokens.length := by omega
        have hframe := step_sameFrame hbalanced t m
        rcases hstep : m.step inner t with ⟨k, _ | f⟩
        · rw [hstep] at h hframe
          obtain ⟨hmoved, -⟩ := position_of_step hbalanced hm hstep
          rw [step_followedBy hinner hbalanced hm hstep]
          exact ih (by omega) (by rw [hframe.tokens]; omega) h
        · rw [hstep] at h
          cases h

/-- A run that ends well leaves the frame at its end, unless the program has ended. -/
theorem position_of_stepAll (hbalanced : Balanced inner) {i : Nat} {ts : List Token}
    (hposition : i ≤ m.frame.position) (hle : m.frame.position ≤ m.frame.tokens.length)
    (hlength : i + ts.length = m.frame.tokens.length) (h : stepAll inner i ts m = ⟨n, none⟩)
    (hexit : n.exiting = false) : n.frame.position = m.frame.tokens.length := by
  induction ts generalizing i m with
  | nil =>
    cases h
    rw [List.length_nil] at hlength
    omega
  | cons t rest ih =>
    rw [List.length_cons] at hlength
    rw [stepAll] at h
    split at h
    · rename_i hended
      cases h
      rw [hended] at hexit
      cases hexit
    · split at h
      · rename_i hpast
        exact ih hpast hle (by omega) h
      · have hm : m.frame.position < m.frame.tokens.length := by omega
        have hframe := step_sameFrame hbalanced t m
        rcases hstep : m.step inner t with ⟨k, _ | f⟩
        · rw [hstep] at h hframe
          have htokens : k.frame.tokens = m.frame.tokens := hframe.tokens
          obtain ⟨hmoved, hend⟩ := position_of_step hbalanced hm hstep
          -- The step has not gone past the end, so at the end the frame is exactly there.
          rw [← htokens] at hend hlength ⊢
          exact ih (by omega) hend (by omega) h
        · rw [hstep] at h
          cases h

end Machine

/-! ## The tokens of both pieces -/

namespace Token

mutual

/-- Moving a token down changes its places only. -/
theorem unlocated_down (n : Nat) : (t : Token) → (t.down n).unlocated = t.unlocated
  | word _ _ => rfl
  | literal _ _ => rfl
  | block _ body => by rw [down, unlocated, unlocated, unlocatedAll_downAll n body]

/-- Moving tokens down changes their places only. -/
theorem unlocatedAll_downAll (n : Nat) :
    (ts : List Token) → unlocatedAll (downAll n ts) = unlocatedAll ts
  | [] => rfl
  | t :: ts => by
    rw [downAll, unlocatedAll, unlocatedAll, unlocated_down n t, unlocatedAll_downAll n ts]

end

/-- The tokens of a text on the lines behind another one are those of the text at other places. -/
theorem exists_readAll_append_newline {path a b : String} {ta tb : List Token}
    (ha : readAll path a = .ok ta) (hb : readAll path b = .ok tb) :
    ∃ tb', readAll path (a ++ "\n" ++ b) = .ok (ta ++ tb') ∧ List.Forall₂ SameCode tb tb' := by
  refine ⟨tb.map (down (1 + a.toList.count '\n')), ?_, ?_⟩
  · rw [readAll_append (.inl rfl) ha b, hb]
    rfl
  · rw [forall₂_sameCode_iff, List.map_map]
    exact List.map_congr_left fun t _ => (unlocated_down _ t).symm

end Token

namespace Machine

/-! ## The calls -/

/-- The machine at the start of a call with these tokens. -/
def atStart (m : Machine) (tokens : List Token) : Machine :=
  { m.begin with frame := { tokens := tokens } }

/-- After the end of the program a call runs nothing. -/
theorem run_of_exiting {m : Machine} (h : m.exiting = true) (source : String) :
    m.run source = .done m.begin :=
  if_pos h

/-- A call on a text that can be read runs its tokens one after the other. -/
theorem run_of_readAll {m : Machine} {source : String} {tokens : List Token}
    (hexit : ¬ m.exiting = true) (hread : Token.readAll directPath source = .ok tokens) :
    m.run source = stepAll (enter maxDepth) 0 tokens (m.atStart tokens) := by
  rw [run, runSource, if_neg hexit, hread]
  rfl

/-- A call with the second piece and a call with both pieces. -/
theorem run_relocated {m n : Machine} {a b : String} {ta tb : List Token}
    (ha : Token.readAll directPath a = .ok ta) (hb : Token.readAll directPath b = .ok tb)
    (hfirst : m.run a = ⟨n, none⟩) (hflow : n.frame.flow = {}) :
    let second := n.run b
    let whole := m.run (a ++ "\n" ++ b)
    Relocated n.output second.machine whole.machine ∧
      Option.Rel (fun f f' => f'.cause = f.cause) second.fault whole.fault := by
  intro second whole
  by_cases hexit : m.exiting = true
  · -- The program has ended before, so that no call does anything.
    have hn : n = m.begin := by
      rw [run_of_exiting hexit] at hfirst
      cases hfirst
      rfl
    have hsecond : second = .done n.begin := run_of_exiting (by rw [hn]; exact hexit) b
    have hwhole : whole = .done n := by
      rw [hn]
      exact run_of_exiting hexit _
    rw [hsecond, hwhole, hn]
    exact ⟨⟨rfl, rfl, rfl, rfl⟩, .none⟩
  · obtain ⟨tb', hread, hsame⟩ := Token.exists_readAll_append_newline ha hb
    rw [run_of_readAll hexit ha] at hfirst
    have hframe : SameFrame (m.atStart ta) n := by
      have hsame := stepAll_sameFrame (enter_balanced maxDepth) 0 ta (m.atStart ta)
      rw [hfirst] at hsame
      exact hsame
    have hkept : stepAll (enter maxDepth) 0 ta (m.atStart (ta ++ tb')) =
        ⟨n.followedBy tb', none⟩ :=
      stepAll_followedBy (m := m.atStart ta) (enter_ignoresFrame _) (enter_balanced _)
        (Nat.zero_le _) (Nat.le_of_eq (Nat.zero_add _)) hfirst
    -- Where the first call has ended, the one call still has the second piece in front of it.
    have hwhole : whole = stepAll (enter maxDepth) ta.length tb' (n.followedBy tb') := by
      show m.run _ = _
      rw [run_of_readAll hexit hread, stepAll_append, hkept, Nat.zero_add]
    by_cases hended : n.exiting = true
    · -- The first piece has ended the program.
      have hsecond : second = .done n.begin := run_of_exiting hended b
      rw [hwhole, hsecond, stepAll_of_exiting _ _ _ (m := n.followedBy tb') hended]
      exact ⟨⟨rfl, rfl, String.append_empty.symm, rfl⟩, .none⟩
    · -- Both runs of the second piece start with the same stack, words, and registers.
      have hsecond : second = stepAll (enter maxDepth) 0 tb (n.atStart tb) :=
        run_of_readAll hended hb
      have hposition : n.frame.position = ta.length :=
        position_of_stepAll (m := m.atStart ta) (enter_balanced maxDepth) (Nat.zero_le _)
          (Nat.zero_le _) (Nat.zero_add _) hfirst (Bool.eq_false_iff.2 hended)
      have hbeside : (relocating n.output).Beside 0 ta.length False (n.atStart tb)
          (n.followedBy tb') := by
        refine ⟨⟨rfl, rfl, String.append_empty.symm, rfl⟩, hflow, ?_, False.elim⟩
        show 0 + ta.length = n.frame.position + 0
        omega
      have hinner : (relocating n.output).InnerAgree (enter maxDepth) (enter maxDepth) :=
        Simulation.enter_agree_self _
      have hdrop : (n.followedBy tb').frame.tokens.drop ta.length = tb' := by
        show (n.frame.tokens ++ tb').drop ta.length = tb'
        rw [hframe.tokens]
        exact List.drop_left
      have hagree := Simulation.stepAll_agree hinner (enter_balanced _) (enter_balanced _) hsame
        hbeside (Nat.zero_le _) (Nat.le_of_eq (Nat.zero_add _)) fun _ => ⟨rfl, hdrop⟩
      rw [← hwhole, ← hsecond] at hagree
      rcases hagree with ⟨_, -, hescapes⟩ | ⟨hresult, hfault⟩
      · exact hescapes.elim
      · exact ⟨hresult.machine, hfault⟩

/-- A call with two pieces of code, one on the lines behind the other, does what a call with the
first and a call with the second do: it fails alike, and leaves the same stack, the same words but
for their places, and the same end of the program, and it writes what both of them write. The first
call has no fault and leaves the flow registers as a call finds them. -/
theorem run_append_newline (m : Machine) {a b : String} {ta tb : List Token}
    (ha : Token.readAll directPath a = .ok ta) (hb : Token.readAll directPath b = .ok tb)
    (hfirst : (m.run a).fault = none) (hflow : (m.run a).machine.frame.flow = {}) :
    let first := m.run a
    let second := first.machine.run b
    let whole := m.run (a ++ "\n" ++ b)
    (whole.fault.map fun f => (f.kind, f.message)) =
        (second.fault.map fun f => (f.kind, f.message)) ∧
      whole.machine.stack = second.machine.stack ∧
      whole.machine.exiting = second.machine.exiting ∧
      whole.machine.dictionary.unlocated = second.machine.dictionary.unlocated ∧
      whole.machine.output = first.machine.output ++ second.machine.output := by
  intro first second whole
  obtain ⟨hmachine, hfault⟩ := run_relocated ha hb (n := first.machine) (by rw [← hfirst]) hflow
  exact ⟨Fault.map_eq_of_cause_eq hfault, hmachine.stack, hmachine.exiting, hmachine.dictionary,
    hmachine.output⟩

/-- A machine with an integer on its stack. -/
def squaring : Machine where
  stack := Stack.empty.push (.int 7)

/-- A line that defines a word and uses it. -/
def definingLine : String := ": square dup * ; dup Square . # once"

/-- A line that uses the word again, and fails then. -/
def failingLine : String := "square . 2 \"x\" -"

/-- One call with both lines writes both squares and fails as the second of the two calls does. -/
theorem run_append_newline_squaring :
    (squaring.run definingLine).fault = none ∧
      (squaring.run definingLine).machine.frame.flow = {} ∧
      (squaring.run definingLine).machine.output = "49" ∧
      (squaring.run (definingLine ++ "\n" ++ failingLine)).fault.map Fault.message =
        some "can't apply - to int and string" ∧
      (squaring.run (definingLine ++ "\n" ++ failingLine)).machine.stack.values =
        [.string "x", .int 2] ∧
      (squaring.run (definingLine ++ "\n" ++ failingLine)).machine.output = "4949" := by
  let place (column : Nat) : Location := { path := directPath, column := column }
  have ha : Token.readAll directPath definingLine = .ok
      [.word (place 1) ":", .word (place 3) "square", .word (place 10) "dup", .word (place 14) "*",
        .word (place 16) ";", .word (place 18) "dup", .word (place 22) "Square",
        .word (place 29) "."] := by
    rfl
  have hb : Token.readAll directPath failingLine = .ok
      [.word (place 1) "square", .word (place 8) ".", .literal (place 10) (.int 2),
        .literal (place 12) (.string "x"), .word (place 16) "-"] := by
    rfl
  obtain ⟨hfirst, hflow, hwritten⟩ : (squaring.run definingLine).fault = none ∧
      (squaring.run definingLine).machine.frame.flow = {} ∧
      (squaring.run definingLine).machine.output = "49" := by
    decide +kernel
  obtain ⟨hmessage, hvalues, houtput⟩ :
      ((squaring.run definingLine).machine.run failingLine).fault.map Fault.message =
          some "can't apply - to int and string" ∧
        ((squaring.run definingLine).machine.run failingLine).machine.stack.values =
          [.string "x", .int 2] ∧
        ((squaring.run definingLine).machine.run failingLine).machine.output = "49" := by
    decide +kernel
  obtain ⟨hfault, hstack, -, -, hwhole⟩ := run_append_newline squaring ha hb hfirst hflow
  have hmessages := congrArg (Option.map Prod.snd) hfault
  rw [Option.map_map, Option.map_map] at hmessages
  refine ⟨hfirst, hflow, hwritten, hmessages.trans hmessage, ?_, ?_⟩
  · rw [hstack, hvalues]
  · rw [hwhole, hwritten, houtput]
    rfl

end Machine

end BlockForth
