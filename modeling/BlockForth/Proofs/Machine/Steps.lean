import BlockForth.Proofs.Machine.Balance
import Mathlib.Logic.Function.Iterate

/-!
# Runs in single steps

`Machine.runFrame` gives the outcome of a run at once. Here the same run is a sequence of
configurations, each of which follows from the one before in a single step `Config.next`. Nothing in
`next` bounds a run: it loops over the tokens of a frame, over the repetitions of a token, and into
the frames of blocks and user words, with a list of what is pending when the current piece ends. The
limit on nested frames is a test of the depth register, and nothing else.

`Config.reaches_runFrame` and `Config.reaches_runToken` say that these steps end in the outcome that
`runFrame` and `runToken` give. So what holds of every step holds throughout the machine's runs.
-/

namespace BlockForth

/-- What is left to do when a piece of a run ends. -/
inductive Pending where
  /-- Running `t` again `count` times, and then the next token of its frame. -/
  | unit (t : Token) (inlined : Bool) (count : Nat)
  /-- Giving up a level of nesting. -/
  | level
  /-- Going back from a block to the frame that it is in. -/
  | block (caller : Frame)
  /-- Going back from the body of a user word to the frame that calls it. -/
  | body (caller : Frame)

/-- What a run does next. -/
inductive Phase where
  /-- The next token of the innermost frame is reached. -/
  | fetch
  /-- A token is run once. -/
  | execute (t : Token)
  /-- A piece of the run has ended. -/
  | resume
  /-- A piece of the run has failed. -/
  | raise (f : Fault)

/-- A run between two steps. -/
structure Config where
  machine : Machine
  phase : Phase
  /-- What is left to do afterwards, the nearest first. -/
  pending : List Pending

namespace Config

/-- The configuration in which a piece of a run has ended. -/
def after (o : Outcome) (pending : List Pending) : Config where
  machine := o.machine
  phase := match o.fault with
    | none => .resume
    | some f => .raise f
  pending := pending

/-- The configuration between two tokens of a frame. -/
def between (o : Outcome) (pending : List Pending) : Config where
  machine := o.machine
  phase := match o.fault with
    | none => .fetch
    | some f => .raise f
  pending := pending

/-- Enters a frame, unless as many are nested as there may be. -/
def enter (f : Frame) (m : Machine) (pending : List Pending) : Config :=
  if maxDepth ≤ m.depth then after (m.fail .nestedTooDeep) pending
  else ⟨{ m with frame := f, depth := m.depth + 1 }, .fetch, .level :: pending⟩

/-- Reaches the next token of the innermost frame, if there is one and the program has not ended. A
definition is gone through as a whole, a token that is passed over is run no times, and any other as
often as the repeat register asks. -/
def fetch (m : Machine) (pending : List Pending) : Config :=
  match m.frame.tokens[m.frame.position]? with
  | none => ⟨m, .resume, pending⟩
  | some t =>
    if m.exiting then ⟨m, .resume, pending⟩
    else
      let reached := { m with location := some t.location }
      let flow := m.frame.flow
      let inlined := flow.skip == 0 && m.isUserWord t
      if m.startsDefinition t then after reached.runDefinition (.unit t inlined 0 :: pending)
      else if 0 < flow.skip then ⟨reached, .resume, .unit t inlined 0 :: pending⟩
      else
        ⟨reached.setFlow { flow with repeats := 1 }, .resume,
          .unit t inlined (countOf flow.repeats) :: pending⟩

/-- Runs a token, up to the first token of its frame if it is a block or a user word. -/
def execute (m : Machine) (pending : List Pending) : Token → Config
  | .literal _ value => ⟨{ m with stack := m.stack.push value }, .resume, pending⟩
  | .block _ body => enter { tokens := body } m (.block m.frame :: pending)
  | .word location spelling =>
    let name := lowercase spelling
    match m.dictionary.find? name with
    | some entry =>
      enter { tokens := entry.body, flow := m.frame.flow }
        { m with calls := ⟨name, location⟩ :: m.calls } (.body m.frame :: pending)
    | none =>
      match Builtin.find? name with
      | some word => after (m.perform word) pending
      | none => after (m.fail (.unknownWord spelling)) pending

/-- Goes on with the nearest thing that is left to do. -/
def resume (m : Machine) : List Pending → Config
  | [] => ⟨m, .resume, []⟩
  | .unit _ inlined 0 :: pending => ⟨m.finishToken inlined, .fetch, pending⟩
  | .unit t inlined (count + 1) :: pending =>
    if m.exiting then ⟨m, .resume, .unit t inlined 0 :: pending⟩
    else ⟨m, .execute t, .unit t inlined count :: pending⟩
  | .level :: pending => ⟨{ m with depth := m.depth - 1 }, .resume, pending⟩
  | .block caller :: pending => ⟨{ m with frame := caller }, .resume, pending⟩
  | .body caller :: pending =>
    ⟨{ m with calls := m.calls.tail, frame := { caller with flow := m.frame.flow } }, .resume,
      pending⟩

/-- Passes a fault on through the nearest thing that was left to do. -/
def raise (m : Machine) (f : Fault) : List Pending → Config
  | [] => ⟨m, .raise f, []⟩
  | .unit t _ _ :: pending => ⟨m, .raise (f.inContext t.location m.calls), pending⟩
  | .level :: pending => ⟨{ m with depth := m.depth - 1 }, .raise f, pending⟩
  | .block caller :: pending => ⟨{ m with frame := caller }, .raise f, pending⟩
  | .body caller :: pending =>
    ⟨{ m with calls := m.calls.tail, frame := caller }, .raise f, pending⟩

/-- A step of a run. A configuration in which nothing is left to do stays as it is. -/
def next (c : Config) : Config :=
  match c.phase with
  | .fetch => fetch c.machine c.pending
  | .execute t => execute c.machine c.pending t
  | .resume => resume c.machine c.pending
  | .raise f => raise c.machine f c.pending

/-- The outcome of the run, if it has ended. -/
def outcome? (c : Config) : Option Outcome :=
  match c.phase, c.pending with
  | .resume, [] => some (.done c.machine)
  | .raise f, [] => some ⟨c.machine, some f⟩
  | _, _ => none

/-- The outcome of a run within `fuel` steps. -/
def runFor (fuel : Nat) (c : Config) : Option Outcome :=
  (next^[fuel] c).outcome?

/-- Some number of steps leads from one configuration to the other. -/
def Reaches (c c' : Config) : Prop :=
  ∃ n, next^[n] c = c'

namespace Reaches

/-- A configuration is reached from itself. -/
theorem refl (c : Config) : Reaches c c := ⟨0, rfl⟩

/-- Steps after steps are steps. -/
theorem trans {c c' c'' : Config} (h : Reaches c c') (h' : Reaches c' c'') : Reaches c c'' := by
  obtain ⟨n, rfl⟩ := h
  obtain ⟨k, rfl⟩ := h'
  exact ⟨k + n, Function.iterate_add_apply next k n c⟩

/-- The next configuration is reached. -/
theorem single (c : Config) : Reaches c c.next := ⟨1, rfl⟩

/-- A step, and then some more. -/
theorem head {c c' : Config} (h : Reaches c.next c') : Reaches c c' :=
  (single c).trans h

/-- Some steps, and then one more. -/
theorem tail {c c' : Config} (h : Reaches c c') : Reaches c c'.next :=
  h.trans (single c')

/-- What every step keeps, a run keeps. -/
theorem preserves {P : Config → Prop} (hnext : ∀ c, P c → P c.next) {c c' : Config}
    (h : Reaches c c') (hc : P c) : P c' := by
  obtain ⟨n, rfl⟩ := h
  induction n with
  | zero => exact hc
  | succ n ih =>
    rw [Function.iterate_succ_apply']
    exact hnext _ ih

end Reaches

/-- Reaching a token: there is none to run, or a definition is gone through, or the token is to be
run some number of times, with its place in the register. -/
theorem fetch_cases (m : Machine) (pending : List Pending) :
    fetch m pending = ⟨m, .resume, pending⟩ ∨
    ∃ t inlined, m.frame.tokens[m.frame.position]? = some t ∧
      (m.startsDefinition t = true ∧
          fetch m pending =
            after { m with location := some t.location }.runDefinition
              (.unit t inlined 0 :: pending) ∨
        m.startsDefinition t = false ∧ ∃ flow count,
          fetch m pending =
            ⟨Machine.setFlow { m with location := some t.location } flow, .resume,
              .unit t inlined count :: pending⟩) := by
  unfold fetch
  dsimp only
  split
  · exact .inl rfl
  · rename_i t ht
    split
    · exact .inl rfl
    · refine .inr ⟨t, m.frame.flow.skip == 0 && m.isUserWord t, ht, ?_⟩
      split
      · rename_i hstarts
        exact .inl ⟨hstarts, rfl⟩
      · rename_i hstarts
        refine .inr ⟨Bool.eq_false_iff.2 hstarts, ?_⟩
        split
        · exact ⟨m.frame.flow, 0, rfl⟩
        · exact ⟨_, _, rfl⟩

/-! ## The end of a run -/

/-- A run that has ended stays as it is. -/
theorem next_after_nil (o : Outcome) : (after o []).next = after o [] := by
  rcases o with ⟨m, _ | f⟩
  · rfl
  · rfl

/-- With nothing pending, the outcome is that of the run. -/
theorem outcome?_after_nil (o : Outcome) : (after o []).outcome? = some o := by
  rcases o with ⟨m, _ | f⟩
  · rfl
  · rfl

/-- A run that reaches an end gives it with every number of steps from some number on. -/
theorem exists_runFor_of_reaches {c : Config} {o : Outcome} (h : Reaches c (after o [])) :
    ∃ bound, ∀ fuel, bound ≤ fuel → runFor fuel c = some o := by
  obtain ⟨bound, hbound⟩ := h
  refine ⟨bound, fun fuel hfuel => ?_⟩
  obtain ⟨extra, rfl⟩ := Nat.exists_eq_add_of_le' hfuel
  have hstays : next^[extra] (after o []) = after o [] :=
    Function.iterate_fixed (next_after_nil o) extra
  rw [runFor, Function.iterate_add_apply, hbound, hstays, outcome?_after_nil]

/-- Every configuration of a run that ends leads to that end. -/
theorem Reaches.end_of_reaches {c d : Config} {o : Outcome} (hend : Reaches c (after o []))
    (h : Reaches c d) : Reaches d (after o []) := by
  obtain ⟨n, hn⟩ := hend
  obtain ⟨k, rfl⟩ := h
  rcases Nat.le_total k n with hle | hle
  · obtain ⟨extra, rfl⟩ := Nat.exists_eq_add_of_le' hle
    rw [Function.iterate_add_apply] at hn
    exact ⟨extra, hn⟩
  · obtain ⟨extra, rfl⟩ := Nat.exists_eq_add_of_le' hle
    rw [Function.iterate_add_apply, hn, Function.iterate_fixed (next_after_nil o)]
    exact Reaches.refl _

/-! ## The steps give the outcome

The levels that are left are those between the depth and the limit, since every run of a token
leaves the depth as it was. The induction is on them, and inside it on the tokens of a frame and on
the repetitions of a token. -/

/-- Entering a frame with so many levels left leads to the end of running it. -/
def EntersWith (levels : Nat) : Prop :=
  ∀ f m pending, maxDepth - m.depth = levels →
    Reaches (enter f m pending) (after (Machine.enter levels f m) pending)

variable {levels : Nat}

/-- Running a token leads to the end of running it. -/
theorem reaches_of_execute (h : EntersWith levels) (t : Token) (m : Machine)
    (pending : List Pending) (hm : maxDepth - m.depth = levels) :
    Reaches ⟨m, .execute t, pending⟩ (after (m.runToken (Machine.enter levels) t) pending) := by
  refine Reaches.head ?_
  show Reaches (execute m pending t) _
  cases t with
  | literal location value => exact Reaches.refl _
  | block location body =>
    have hframe := (h { tokens := body } m (.block m.frame :: pending) hm).tail
    rw [execute, Machine.runToken, Machine.runBlock]
    rcases ho : Machine.enter levels { tokens := body } m with ⟨m', _ | f⟩
    · rw [ho] at hframe
      exact hframe
    · rw [ho] at hframe
      exact hframe
  | word location spelling =>
    -- Only the body of a user word takes more than this one step.
    rw [execute, Machine.runToken, Machine.runWord]
    rcases m.dictionary.find? (lowercase spelling) with _ | entry
    · rcases Builtin.find? (lowercase spelling) with _ | word
      · exact Reaches.refl _
      · exact Reaches.refl _
    · have hframe := (h { tokens := entry.body, flow := m.frame.flow }
        { m with calls := ⟨lowercase spelling, location⟩ :: m.calls }
        (.body m.frame :: pending) hm).tail
      dsimp only
      rw [Machine.runBody]
      rcases ho : Machine.enter levels { tokens := entry.body, flow := m.frame.flow }
        { m with calls := ⟨lowercase spelling, location⟩ :: m.calls } with ⟨m', _ | f⟩
      · rw [ho] at hframe
        exact hframe
      · rw [ho] at hframe
        exact hframe

/-- Once a token has been run as often as it is to be, or a run of it fails, the frame moves on. -/
theorem next_after_unit (t : Token) (inlined : Bool) (o : Outcome) (pending : List Pending) :
    (after o (.unit t inlined 0 :: pending)).next =
      between (Machine.conclude t inlined o) pending := by
  rcases o with ⟨m, _ | f⟩
  · rfl
  · rfl

/-- Repeating a token leads to the next token of the frame. -/
theorem reaches_of_repeat (h : EntersWith levels) (t : Token) (inlined : Bool) (count : Nat)
    (m : Machine) (pending : List Pending) (hm : maxDepth - m.depth = levels) :
    Reaches ⟨m, .resume, .unit t inlined count :: pending⟩
      (between (Machine.conclude t inlined
        (Machine.repeatToken (Machine.enter levels) t count m)) pending) := by
  induction count generalizing m with
  | zero => exact Reaches.single _
  | succ count ih =>
    refine Reaches.head ?_
    show Reaches (resume m (.unit t inlined (count + 1) :: pending)) _
    rw [resume, Machine.repeatToken]
    split
    · exact Reaches.single _
    · have htoken := reaches_of_execute h t m (.unit t inlined count :: pending) hm
      have hdepth := (Machine.runToken_onward (Machine.enter_balanced levels) m t).depth
      rcases ho : m.runToken (Machine.enter levels) t with ⟨m', _ | f⟩
      · rw [ho] at htoken hdepth
        exact htoken.trans (ih m' (by rw [← hm]; exact congrArg (maxDepth - ·) hdepth))
      · rw [ho] at htoken
        exact htoken.tail

/-- Reaching a token leads to the next token of the frame. -/
theorem reaches_of_step (h : EntersWith levels) {t : Token} {m : Machine} (pending : List Pending)
    (hm : maxDepth - m.depth = levels) (hexit : m.exiting = false)
    (ht : m.frame.tokens[m.frame.position]? = some t) :
    Reaches ⟨m, .fetch, pending⟩ (between (m.step (Machine.enter levels) t) pending) := by
  refine Reaches.head ?_
  show Reaches (fetch m pending) _
  rw [Machine.step, Machine.runReached]
  simp only [fetch, ht, hexit]
  by_cases hdefinition : m.startsDefinition t = true
  · simp only [hdefinition, if_true]
    rw [← next_after_unit]
    exact Reaches.single _
  · simp only [hdefinition]
    by_cases hskip : 0 < m.frame.flow.skip
    · simp only [hskip, Machine.runUnit, if_true]
      exact Reaches.single _
    · simp only [hskip, Machine.runUnit, if_false]
      exact reaches_of_repeat h t _ _ _ pending hm

/-- Going through the tokens from position `i` on, which are those left in the frame, leads to the
end of the frame. -/
theorem reaches_of_stepAll (h : EntersWith levels) (tokens : List Token) (i : Nat) (m : Machine)
    (pending : List Pending) (hm : maxDepth - m.depth = levels)
    (htokens : m.frame.tokens.drop i = tokens) (hi : i ≤ m.frame.position) :
    Reaches ⟨m, .fetch, pending⟩
      (after (Machine.stepAll (Machine.enter levels) i tokens m) pending) := by
  induction tokens generalizing i m with
  | nil =>
    -- The position is behind the last token, so there is none to reach.
    have hend : m.frame.tokens[m.frame.position]? = none := by
      rw [List.getElem?_eq_none_iff]
      have hlength := List.drop_eq_nil_iff.1 htokens
      omega
    refine Reaches.head ?_
    show Reaches (fetch m pending) _
    rw [fetch, hend]
    exact Reaches.refl _
  | cons t rest ih =>
    have hrest : m.frame.tokens.drop (i + 1) = rest := by
      rw [← List.drop_drop, htokens, List.drop_one, List.tail_cons]
    rw [Machine.stepAll]
    split
    · rename_i hexit
      refine Reaches.head ?_
      show Reaches (fetch m pending) _
      unfold fetch
      split
      · exact Reaches.refl _
      · rw [if_pos hexit]
        exact Reaches.refl _
    · rename_i hexit
      split
      · rename_i hpast
        exact ih (i + 1) m hm hrest hpast
      · rename_i hpast
        obtain rfl : m.frame.position = i := by omega
        have ht : m.frame.tokens[m.frame.position]? = some t := by
          rw [← List.head?_drop, htokens, List.head?_cons]
        have hlength : m.frame.position < m.frame.tokens.length :=
          (List.getElem?_eq_some_iff.1 ht).1
        have hstep := reaches_of_step h pending hm (Bool.eq_false_iff.2 hexit) ht
        have hframe := Machine.step_sameFrame (Machine.enter_balanced levels) t m
        rcases ho : m.step (Machine.enter levels) t with ⟨m', _ | f⟩
        · rw [ho] at hstep hframe
          obtain ⟨hposition, -⟩ :=
            Machine.position_of_step (Machine.enter_balanced levels) hlength ho
          refine hstep.trans (ih _ m' ?_ ?_ hposition)
          · rw [← hm]
            exact congrArg (maxDepth - ·) hframe.depth
          · rw [hframe.tokens]
            exact hrest
        · rw [ho] at hstep
          exact hstep

/-- A frame that is run as a whole is run by steps, from where it is. -/
theorem reaches_of_runFrameWith (h : EntersWith levels) (m : Machine) (pending : List Pending)
    (hm : maxDepth - m.depth = levels) :
    Reaches ⟨m, .fetch, pending⟩
      (after (m.runFrameWith (Machine.enter levels)) pending) :=
  reaches_of_stepAll h _ _ m pending hm rfl (Nat.le_refl _)

/-- Entering a frame leads to the end of running it, however many levels are left. -/
theorem entersWith (levels : Nat) : EntersWith levels := by
  induction levels with
  | zero =>
    intro f m pending hm
    rw [enter, if_pos (Nat.sub_eq_zero_iff_le.1 hm)]
    exact Reaches.refl _
  | succ levels ih =>
    intro f m pending hm
    rw [enter, if_neg (by omega)]
    have hframe := reaches_of_runFrameWith ih { m with frame := f, depth := m.depth + 1 }
      (.level :: pending) (by show maxDepth - (m.depth + 1) = levels; omega)
    rw [Machine.enter]
    rcases ho : Machine.runFrameWith (Machine.enter levels)
      { m with frame := f, depth := m.depth + 1 } with ⟨m', _ | e⟩
    · rw [ho] at hframe
      exact hframe.tail
    · rw [ho] at hframe
      exact hframe.tail

/-- The steps from the current token of a frame lead to the outcome of running the frame. -/
theorem reaches_runFrame (m : Machine) (pending : List Pending) :
    Reaches ⟨m, .fetch, pending⟩ (after m.runFrame pending) :=
  reaches_of_runFrameWith (entersWith _) m pending rfl

/-- The steps from a token lead to the outcome of running it once. -/
theorem reaches_runToken (m : Machine) (t : Token) (pending : List Pending) :
    Reaches ⟨m, .execute t, pending⟩ (after (m.runToken Machine.nested t) pending) := by
  have h := reaches_of_execute (entersWith (maxDepth - m.depth)) t m pending rfl
  cases t with
  | word location spelling => exact h
  | literal location value => exact h
  | block location body => exact h

end Config

end BlockForth
