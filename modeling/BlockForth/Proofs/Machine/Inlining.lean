import BlockForth.Proofs.Machine.Simulation
import BlockForth.Proofs.Machine.Units

/-!
# Calling a word is writing its body in its place

A user word is run in a frame of its own, one level deeper, with its name on the list of the calls.
`runFrame_inline` says that nothing of that can be seen in the result: a frame in which the body
stands in the place of the word has the same outcome, as long as the deeper frames do not go beyond
the limit.

The two runs are compared by the simulation `inlining`, which pairs machines that have the same
stack, words, output, place, and end. Inside the body the frames differ in the tokens that follow,
so a body in which a definition starts has to be left out: it could not see its end. After the body
the tokens that follow are the same again.
-/

namespace BlockForth

namespace Machine

/-- The machines are equal but for their frames, depths, and calls. -/
structure SameState (m m' : Machine) : Prop where
  stack : m'.stack = m.stack
  dictionary : m'.dictionary = m.dictionary
  output : m'.output = m.output
  location : m'.location = m.location
  exiting : m'.exiting = m.exiting

/-- The machines are equal but for their depths, their calls, and the tokens of their frames. -/
structure SameRun (m m' : Machine) : Prop extends SameState m m' where
  flow : m'.frame.flow = m.frame.flow

end Machine

/-- The faults are equal but for the calls. -/
def Fault.SamePlace (f f' : Fault) : Prop :=
  f'.cause = f.cause ∧ f'.location = f.location

/-- Such faults have one kind, one message, and one place. -/
theorem Fault.map_eq_of_samePlace {fault fault' : Option Fault}
    (h : Option.Rel Fault.SamePlace fault fault') :
    (fault'.map fun f => (f.kind, f.message, f.location)) =
      fault.map fun f => (f.kind, f.message, f.location) := by
  cases h with
  | none => rfl
  | @some f f' h =>
    rw [Option.map_some, Option.map_some, Fault.kind, Fault.kind, Fault.message, Fault.message, h.1,
      h.2]

/-- The outcomes are equal but for the frames, the depths, and the calls. -/
abbrev Outcome.SameRun (o o' : Outcome) : Prop :=
  o.Agree Machine.SameRun Fault.SamePlace (·.kind = .callDepth) o'

namespace Machine

/-! ## Built-in words -/

/-- A built-in word other than `:` does not look at the calls, the depth, or the tokens. -/
theorem perform_sameRun {m m' : Machine} (h : SameRun m m') (w : Builtin) (hw : w ≠ .define) :
    (m.perform w).SameRun (m'.perform w) := by
  obtain ⟨e, s, heffect, heffect'⟩ :=
    exists_wordEffect h.stack h.flow w hw fun _ => congrArg Dictionary.listing h.dictionary
  rw [heffect, heffect']
  cases e with
  | raise cause => exact .inr ⟨h, .some ⟨rfl, rfl⟩⟩
  | fail cause => exact .inr ⟨h, .some ⟨rfl, h.location⟩⟩
  | finish text flow ends =>
    refine .inr ⟨⟨⟨rfl, h.dictionary, ?_, h.location, ?_⟩, rfl⟩, .none⟩
    · show m'.output ++ text = m.output ++ text
      rw [h.output]
    · show (m'.exiting || ends) = (m.exiting || ends)
      rw [h.exiting]

end Machine

/-! ## The simulation -/

/-- Machines with the same state run the same tokens alike, up to the fault of nesting too deep. -/
def inlining : Simulation where
  token := Eq
  machine := Machine.SameState
  fault := Fault.SamePlace
  escapes f := f.kind = .callDepth
  literal_inv h := ⟨_, h.symm⟩
  block_inv h := ⟨_, _, h.symm, List.forall₂_same.2 fun _ _ => rfl⟩
  word_inv h := ⟨_, _, h.symm, rfl⟩
  definable {t t'} h := by
    subst h
    rcases t.definable? with _ | name
    · exact .none
    · exact .some rfl
  inFrame _ _ _ _ h := ⟨h.stack, h.dictionary, h.output, h.location, h.exiting⟩
  exiting h := h.exiting
  reach h ht := ⟨h.stack, h.dictionary, h.output, by rw [ht], h.exiting⟩
  push v h := ⟨by rw [h.stack], h.dictionary, h.output, h.location, h.exiting⟩
  call h _ := ⟨h.stack, h.dictionary, h.output, h.location, h.exiting⟩
  goBack h := ⟨h.stack, h.dictionary, h.output, h.location, h.exiting⟩
  find {m m'} name h := by
    rw [h.dictionary]
    rcases m.dictionary.find? name with _ | entry
    · exact .none
    · exact .some (List.forall₂_same.2 fun _ _ => rfl)
  insert {m m' s s' body body'} h hname hbody := by
    have hbodies : body = body' := List.forall₂_eq_eq_eq ▸ hbody
    refine ⟨h.stack, ?_, h.output, h.location, h.exiting⟩
    dsimp only
    rw [h.dictionary, h.location, hbodies]
    exact m.dictionary.insert_congr hname _ _
  perform h hflow _ _ hw :=
    (Machine.perform_sameRun ⟨h, hflow⟩ _ hw).imp id fun hagree =>
      ⟨⟨hagree.1.toSameState, hagree.1.flow⟩, hagree.2⟩
  fail cause h := ⟨rfl, h.location⟩
  failUnknown h ht := by
    cases ht
    exact ⟨rfl, h.location⟩
  failName h ht := by
    cases ht
    exact ⟨rfl, h.location⟩
  context h hfault ht := ⟨hfault.1, by rw [Fault.inContext, Fault.inContext, hfault.2, ht]⟩
  escapes_context _ _ h := h

namespace Machine

variable {inner : Inner} {m : Machine} {t : Token}

/-! ## Where a run without definitions ends -/

/-- A token other than `:` leaves the frame where it is. -/
theorem position_runToken (inner : Inner) (m : Machine) (ht : t.isNamed ":" = false) :
    (m.runToken inner t).machine.frame.position = m.frame.position := by
  cases t with
  | literal l v => rfl
  | block l body => rfl
  | word l spelling =>
    show (m.runWord inner l spelling).machine.frame.position = _
    unfold runWord
    dsimp only
    split
    · rfl
    · split
      · rename_i w hw
        -- Of the built-in words only `:` moves the frame, and it has no other name.
        have hdefine : w ≠ .define := by
          rintro rfl
          have hname := Simulation.eq_colon_of_find? hw
          rw [Token.isNamed, Token.name?, hname] at ht
          exact absurd ht (by decide)
        obtain ⟨_, _, _, _, hkept⟩ := perform_onlyValues m w hdefine
        rw [hkept]
      · rfl

/-- Repetitions of a token other than `:` leave the frame where it is. -/
theorem position_repeatToken (inner : Inner) (ht : t.isNamed ":" = false) (count : Nat)
    (m : Machine) : (repeatToken inner t count m).machine.frame.position = m.frame.position := by
  induction count generalizing m with
  | zero => rfl
  | succ count ih =>
    rw [repeatToken]
    split
    · rfl
    · have htoken := position_runToken inner m ht
      rcases hrun : m.runToken inner t with ⟨m', _ | f⟩
      · rw [hrun] at htoken
        exact (ih m').trans htoken
      · rw [hrun] at htoken
        exact htoken

/-- A step on such a token moves the frame on by one. -/
theorem position_step {m' : Machine} (ht : t.isNamed ":" = false)
    (h : m.step inner t = ⟨m', none⟩) : m'.frame.position = m.frame.position + 1 := by
  have hstarts : m.startsDefinition t = false := by
    rw [startsDefinition, ht, Bool.false_and]
  have hreached : (m.runReached inner t).machine.frame.position = m.frame.position := by
    unfold runReached runUnit
    rw [hstarts]
    dsimp only
    rw [if_neg Bool.false_ne_true]
    split
    · rfl
    · exact position_repeatToken inner ht _ _
  obtain ⟨n, hrun, rfl⟩ := exists_runReached_of_step h
  rw [hrun] at hreached
  show n.frame.position + 1 = _
  rw [← hreached]

/-- Running tokens without a `:` moves the frame past them, unless the program ends. -/
theorem position_stepAll {i : Nat} {ts : List Token} {m' : Machine}
    (hts : ∀ t ∈ ts, t.isNamed ":" = false) (hm : m.frame.position = i)
    (h : stepAll inner i ts m = ⟨m', none⟩) (hexit : m'.exiting = false) :
    m'.frame.position = i + ts.length := by
  induction ts generalizing i m with
  | nil =>
    cases h
    exact hm
  | cons t rest ih =>
    rw [List.forall_mem_cons] at hts
    rw [stepAll] at h
    split at h
    · rename_i hended
      cases h
      rw [hended] at hexit
      cases hexit
    · rw [if_neg (by omega)] at h
      rcases hstep : m.step inner t with ⟨n, _ | f⟩
      · rw [hstep] at h
        have hposition := position_step hts.1 hstep
        rw [ih hts.2 (by omega) h, List.length_cons]
        omega
      · rw [hstep] at h
        cases h

/-! ## What a run leaves open -/

/-- The place of a machine is not read before the next token is reached. -/
theorem stepAll_location (inner : Inner) (i : Nat) (ts : List Token) (m : Machine)
    (l : Option Location) :
    ∃ l', stepAll inner i ts m =
      let o := stepAll inner i ts { m with location := l }
      { o with machine := { o.machine with location := l' } } := by
  induction ts generalizing i m with
  | nil => exact ⟨m.location, rfl⟩
  | cons t rest ih =>
    rw [stepAll, stepAll]
    dsimp only
    split
    · exact ⟨m.location, rfl⟩
    · split
      · exact ih (i + 1) m
      · exact ⟨_, rfl⟩

/-- A fault that stops a run has a place. -/
theorem location_of_stepAll {i : Nat} {ts : List Token} {n : Machine} {f : Fault}
    (h : stepAll inner i ts m = ⟨n, some f⟩) : f.location.isSome = true := by
  induction ts generalizing i m with
  | nil => cases h
  | cons t rest ih =>
    rw [stepAll] at h
    split at h
    · cases h
    · split at h
      · exact ih h
      · rcases hstep : m.step inner t with ⟨n', _ | f'⟩
        · rw [hstep] at h
          exact ih h
        · rw [hstep] at h
          cases h
          unfold step at hstep
          rcases hreached : m.runReached inner t with ⟨n, _ | g⟩
          · rw [hreached] at hstep
            cases hstep
          · -- A fault without a place gets that of the token on its way out.
            rw [hreached] at hstep
            cases hstep
            show (g.location.or _).isSome = true
            rw [Option.isSome_or]
            simp

/-! ## The word and its body -/

/-- A step on a user word that is neither passed over nor repeated runs its body once. -/
theorem step_userWord {l : Location} {spelling : String} {entry : Entry}
    (hexit : m.exiting = false) (hskip : m.frame.flow.skip = 0)
    (hrepeats : m.frame.flow.repeats = 1) (hentry : m.dictionary.find? spelling = some entry) :
    m.step inner (.word l spelling) = conclude (.word l spelling) true
      ({ m with location := some l }.runBody inner ⟨lowercase spelling, l⟩ entry.body) := by
  have hlookup : m.dictionary.find? (lowercase spelling) = some entry := by
    rw [Dictionary.find?_lowercase, hentry]
  have huser : m.isUserWord (.word l spelling) = true := by
    show (m.dictionary.find? spelling).isSome = true
    rw [hentry]
    rfl
  -- The name may even be `:`, which starts no definition once it is a user word.
  have hstarts : m.startsDefinition (.word l spelling) = false := by
    rw [startsDefinition, Bool.and_eq_false_iff, Bool.not_eq_false']
    by_cases hname : lowercase spelling = ":"
    · right
      rw [Dictionary.contains, ← hname, hlookup]
      rfl
    · left
      simpa [Token.isNamed, Token.name?] using hname
  have hbody : { m with location := some l }.runToken inner (.word l spelling) =
      { m with location := some l }.runBody inner ⟨lowercase spelling, l⟩ entry.body := by
    rw [runToken, runWord]
    dsimp only
    rw [hlookup]
  rw [step_once hexit hskip hrepeats hstarts, huser]
  exact congrArg (conclude _ _) hbody

/-- The machine at the start of the body of a user word that a token at `l` calls. -/
def atBody (m : Machine) (l : Location) (name : String) (body : List Token) : Machine :=
  { m with
    location := some l
    calls := ⟨name, l⟩ :: m.calls
    frame := { tokens := body, flow := m.frame.flow }
    depth := m.depth + 1 }

/-- The machine after the call, if the body has left the machine `n`. -/
def afterBody (m n : Machine) (flow : Flow) : Machine :=
  { n with
    calls := n.calls.tail
    frame := { m.frame with flow := flow }
    depth := n.depth - 1 }

/-- The body of a user word, one level deeper. -/
theorem runBody_enter (levels : Nat) (m : Machine) (l : Location) (name : String)
    (body : List Token) :
    { m with location := some l }.runBody (enter (levels + 1)) ⟨name, l⟩ body =
      let o := stepAll (enter levels) 0 body (m.atBody l name body)
      { o with machine :=
        m.afterBody o.machine (if o.fault.isNone then o.machine.frame.flow else m.frame.flow) } :=
  rfl

/-- The two outcomes of a frame, with the word and with its body in its place. -/
structure Inlined (o o' : Outcome) : Prop where
  state : SameState o.machine o'.machine
  fault : Option.Rel Fault.SamePlace o.fault o'.fault
  flow : o.fault = none → o'.machine.frame.flow = o.machine.frame.flow

/-- After the body both runs go on with the same tokens. -/
theorem stepAll_inlined {levels i i' : Nat} {ts : List Token} {m m' : Machine} (h : SameRun m m')
    (hdrop : m.frame.tokens.drop i = ts) (hdrop' : m'.frame.tokens.drop i' = ts)
    (hposition : m.frame.position = i) (hle : i ≤ m.frame.tokens.length)
    (hposition' : m'.exiting = false → m'.frame.position = i') :
    Inlined (stepAll (enter levels) i ts m) (stepAll (enter levels) i' ts m') ∨
      ∃ f, (stepAll (enter levels) i ts m).fault = some f ∧ f.kind = .callDepth := by
  by_cases hexit : m'.exiting = true
  · -- The program has ended in the body, so nothing of the tokens is run.
    rw [stepAll_of_exiting _ _ _ hexit, stepAll_of_exiting _ _ _ (h.exiting.symm.trans hexit)]
    exact .inl ⟨h.toSameState, .none, fun _ => h.flow⟩
  · have hend := hposition' (Bool.eq_false_iff.2 hexit)
    have hbeside : inlining.Beside i i' False m m' :=
      ⟨h.toSameState, h.flow, by omega, False.elim⟩
    have hinner : inlining.InnerAgree (enter levels) (enter levels) :=
      Simulation.enter_agree_self _
    have hlength : i + ts.length ≤ m.frame.tokens.length := by
      rw [← hdrop, List.length_drop]
      omega
    have hagree := Simulation.stepAll_agree hinner (enter_balanced _) (enter_balanced _)
      (List.forall₂_same.2 fun _ _ => rfl) hbeside (Nat.le_of_eq hposition.symm) hlength
      fun _ => ⟨hdrop, hdrop'⟩
    rcases hagree with hescapes | ⟨hresult, hfault⟩
    · exact .inr hescapes
    · exact .inl ⟨hresult.machine, hfault, fun _ => hresult.flow⟩

section Frames

variable {before after : List Token} {l : Location} {spelling : String} {entry : Entry}

/-- The machine with the body in the place of the word, at the place of the word. -/
def spliced (m : Machine) (l : Location) (tokens : List Token) : Machine :=
  { m with location := some l, frame := { m.frame with tokens := tokens } }

/-- The body runs alike in a frame of its own and in the frame of its caller. -/
theorem body_agree (levels : Nat) (name : String) {body : List Token} (after : List Token)
    (hposition : m.frame.position = before.length)
    (hcolon : ∀ t ∈ body, t.isNamed ":" = false) :
    inlining.Agree (inlining.Beside 0 before.length False)
      (stepAll (enter levels) 0 body (m.atBody l name body))
      (stepAll (enter (levels + 1)) before.length body
        (m.spliced l (before ++ body ++ after))) := by
  have hinner : inlining.InnerAgree (enter levels) (enter (levels + 1)) :=
    Simulation.enter_agree (Nat.le_succ _) fun _ _ => rfl
  have hbeside : inlining.Beside 0 before.length False (m.atBody l name body)
      (m.spliced l (before ++ body ++ after)) := by
    refine ⟨⟨rfl, rfl, rfl, rfl, rfl⟩, rfl, ?_, False.elim⟩
    show 0 + before.length = m.frame.position + 0
    omega
  refine Simulation.stepAll_agree hinner (enter_balanced _) (enter_balanced _)
    (List.forall₂_same.2 fun _ _ => rfl) hbeside (Nat.le_refl 0) ?_ ?_
  · show 0 + body.length ≤ body.length
    omega
  · rintro ⟨t, ht, hnamed⟩
    rw [hcolon t ht] at hnamed
    cases hnamed

section Caller

variable (hexit : m.exiting = false) (hskip : m.frame.flow.skip = 0)
  (hrepeats : m.frame.flow.repeats = 1) (hentry : m.dictionary.find? spelling = some entry)

include hexit hskip hrepeats hentry

/-- The frame moves on past the word, with the flow registers that the body has left. -/
theorem step_of_body_done {levels : Nat} {n : Machine}
    (h : stepAll (enter levels) 0 entry.body (m.atBody l (lowercase spelling) entry.body) =
      ⟨n, none⟩) :
    m.step (enter (levels + 1)) (.word l spelling) =
      .done ((m.afterBody n n.frame.flow).moveTo (m.frame.position + 1)) := by
  rw [step_userWord hexit hskip hrepeats hentry, runBody_enter, h]
  rfl

/-- A fault of the body stops the word, and the registers of the caller are as they were. -/
theorem step_of_body_fault {levels : Nat} {n : Machine} {f : Fault}
    (h : stepAll (enter levels) 0 entry.body (m.atBody l (lowercase spelling) entry.body) =
      ⟨n, some f⟩) :
    m.step (enter (levels + 1)) (.word l spelling) =
      ⟨m.afterBody n m.frame.flow, some (f.inContext l n.calls.tail)⟩ := by
  rw [step_userWord hexit hskip hrepeats hentry, runBody_enter, h]
  rfl

/-- Running on from the word and running on from its body in its place, at one place. -/
theorem stepAll_inline (levels : Nat)
    (htokens : m.frame.tokens = before ++ [.word l spelling] ++ after)
    (hposition : m.frame.position = before.length)
    (hcolon : ∀ t ∈ entry.body, t.isNamed ":" = false) :
    let o := stepAll (enter levels) before.length (.word l spelling :: after) m
    let o' := stepAll (enter levels) before.length (entry.body ++ after)
      (m.spliced l (before ++ entry.body ++ after))
    Inlined o o' ∨ ∃ f, o.fault = some f ∧ f.kind = .callDepth := by
  dsimp only
  have hrunning : ¬ m.exiting = true := Bool.eq_false_iff.1 hexit
  rw [stepAll, if_neg hrunning, if_neg (Nat.not_lt.2 (Nat.le_of_eq hposition))]
  cases levels with
  | zero =>
    -- There is no level left for the body.
    right
    rw [step_userWord hexit hskip hrepeats hentry]
    exact ⟨_, rfl, rfl⟩
  | succ levels =>
    have hbody := body_agree (l := l) levels (lowercase spelling) after hposition hcolon
    rw [stepAll_append]
    rcases hbody.cases with ⟨n, f, ho, hkind⟩ | ⟨n, n', ho, ho', hbeside⟩ |
      ⟨n, n', f, f', ho, ho', hbeside, hfault⟩
    · right
      rw [step_of_body_fault hexit hskip hrepeats hentry ho]
      exact ⟨_, rfl, hkind⟩
    · rw [step_of_body_done hexit hskip hrepeats hentry ho, ho']
      have hframe' := stepAll_sameFrame (enter_balanced (levels + 1)) before.length entry.body
        (m.spliced l (before ++ entry.body ++ after))
      rw [ho'] at hframe'
      have hstart : (m.spliced l (before ++ entry.body ++ after)).frame.position =
          before.length := hposition
      obtain ⟨hstack, hdictionary, houtput, hlocation, hexiting⟩ := hbeside.machine
      -- The first frame is now past the word and the second one past the body.
      refine stepAll_inlined ?_ ?_ ?_ ?_ ?_ ?_
      · exact ⟨⟨hstack, hdictionary, houtput, hlocation, hexiting⟩, hbeside.flow⟩
      · show m.frame.tokens.drop _ = _
        rw [htokens]
        exact List.drop_left' (by simp)
      · rw [hframe'.tokens]
        exact List.drop_left' (by simp)
      · show m.frame.position + 1 = _
        rw [hposition]
      · show _ ≤ m.frame.tokens.length
        rw [htokens]
        simp
      · exact position_stepAll hcolon hstart ho'
    · left
      rw [step_of_body_fault hexit hskip hrepeats hentry ho, ho']
      obtain ⟨hstack, hdictionary, houtput, hplace, hexiting⟩ := hbeside.machine
      refine ⟨⟨hstack, hdictionary, houtput, hplace, hexiting⟩, .some ⟨hfault.1, ?_⟩,
        fun hnone => absurd hnone (Option.some_ne_none _)⟩
      -- The fault has got its place in the body.
      obtain ⟨place, hlocation⟩ := Option.isSome_iff_exists.1 (location_of_stepAll ho)
      rw [hfault.2, Fault.inContext, hlocation]
      rfl

end Caller

/-- A frame with a user word and the frame with the body of the word in its place have the same
outcome, unless the nested frames of the first go beyond the limit. The frame is at the word, which
is neither passed over nor repeated, and no definition starts in the body outside of its blocks. -/
theorem runFrame_inline (hexit : m.exiting = false)
    (htokens : m.frame.tokens = before ++ [.word l spelling] ++ after)
    (hposition : m.frame.position = before.length) (hskip : m.frame.flow.skip = 0)
    (hrepeats : m.frame.flow.repeats = 1) (hentry : m.dictionary.find? spelling = some entry)
    (hcolon : ∀ t ∈ entry.body, t.isNamed ":" = false)
    (hdepth : ∀ f, m.runFrame.fault = some f → f.kind ≠ .callDepth) :
    let o := m.runFrame
    let o' := runFrame { m with frame := { m.frame with tokens := before ++ entry.body ++ after } }
    (o'.fault.map fun f => (f.kind, f.message, f.location)) =
        (o.fault.map fun f => (f.kind, f.message, f.location)) ∧
      o'.machine.stack = o.machine.stack ∧ o'.machine.output = o.machine.output ∧
      o'.machine.dictionary = o.machine.dictionary ∧ o'.machine.exiting = o.machine.exiting ∧
      (o.fault = none → o'.machine.frame.flow = o.machine.frame.flow) := by
  intro o o'
  let levels := maxDepth - m.depth
  have hrun : o = stepAll (enter levels) before.length (.word l spelling :: after) m := by
    show m.runFrameWith (enter levels) = _
    rw [runFrameWith, hposition, htokens, List.append_assoc, List.drop_left]
    rfl
  have hrun' : o' = stepAll (enter levels) before.length (entry.body ++ after)
      { m with frame := { m.frame with tokens := before ++ entry.body ++ after } } := by
    show runFrameWith (enter levels) _ = _
    rw [runFrameWith, List.append_assoc]
    dsimp only
    rw [hposition, List.drop_left]
  -- The place where the second run starts is of no matter, so let it be that of the word.
  obtain ⟨place, hplace⟩ := stepAll_location (enter levels) before.length (entry.body ++ after)
    { m with frame := { m.frame with tokens := before ++ entry.body ++ after } } (some l)
  have hinlined := stepAll_inline (l := l) hexit hskip hrepeats hentry levels htokens hposition
    hcolon
  dsimp only at hinlined
  rw [← hrun] at hinlined
  rcases hinlined with ⟨hstate, hfault, hflow⟩ | ⟨f, hf, hkind⟩
  · rw [hrun', hplace]
    exact ⟨Fault.map_eq_of_samePlace hfault, hstate.stack, hstate.output, hstate.dictionary,
      hstate.exiting, hflow⟩
  · exact absurd hkind (hdepth f hf)

/-- The body of a word that calls another word, redefines itself, and ends in an `if`. -/
def selfEditing : Entry where
  name := "edit"
  location := {}
  body := [.word {} "square", .block {} [.word {} ":", .word {} "edit", .word {} ";"],
    .literal {} (.int 0), .word {} "if"]

/-- A machine at a call of that word, before a token that the `if` passes over and one that is no
word. -/
def editing : Machine where
  stack := Stack.empty.push (.int 4)
  dictionary := (({} : Dictionary).insert "square" {} [.word {} "dup", .word {} "*"]).insert
    selfEditing.name selfEditing.location selfEditing.body
  frame := {
    tokens := [.literal {} (.int 1)] ++ [.word {} "Edit"] ++
      [.word {} "bye", .literal {} (.int 3), .word { line := 2 } "nothing"]
    position := 1
    flow := { lastIf := true } }

/-- Both frames square the number, pass over the `bye`, and fail at the unknown word. -/
theorem runFrame_inline_editing :
    let o := editing.runFrame
    let o' := runFrame { editing with frame := { editing.frame with tokens :=
      [.literal {} (.int 1)] ++ selfEditing.body ++
        [.word {} "bye", .literal {} (.int 3), .word { line := 2 } "nothing"] } }
    editing.dictionary.find? "Edit" = some selfEditing ∧
      (∀ t ∈ selfEditing.body, t.isNamed ":" = false) ∧
      (o.fault.map fun f => (f.kind, f.location)) = some (.unknownWord, some { line := 2 }) ∧
      (o'.fault.map fun f => (f.kind, f.message, f.location)) =
        (o.fault.map fun f => (f.kind, f.message, f.location)) ∧
      o.machine.stack.values = [.int 3, .int 16] ∧ o'.machine.stack = o.machine.stack ∧
      o'.machine.dictionary = o.machine.dictionary := by
  have hentry : editing.dictionary.find? "Edit" = some selfEditing := by rfl
  have hcolon : ∀ t ∈ selfEditing.body, t.isNamed ":" = false := by decide +kernel
  have hfault : (editing.runFrame.fault.map fun f => (f.kind, f.location)) =
      some (.unknownWord, some { line := 2 }) := by decide +kernel
  have hdepth : ∀ f, editing.runFrame.fault = some f → f.kind ≠ .callDepth := by
    intro f hf
    rw [hf] at hfault
    obtain ⟨hkind, -⟩ := Prod.mk.inj (Option.some.inj hfault)
    rw [hkind]
    decide
  have hvalues : editing.runFrame.machine.stack.values = [.int 3, .int 16] := by decide +kernel
  obtain ⟨hsame, hstack, -, hdictionary, -⟩ :=
    runFrame_inline (m := editing) rfl rfl rfl rfl rfl hentry hcolon hdepth
  dsimp only at hsame hstack hdictionary ⊢
  exact ⟨hentry, hcolon, hfault, hsame, hvalues, hstack, hdictionary⟩

end Frames

end Machine

end BlockForth
