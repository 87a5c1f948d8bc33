import BlockForth.Proofs.Machine.Simulation

/-!
# What lies below on the stack

A program takes values off the stack and puts values on it, and what lies below all of them is of no
matter to it. `runFrame_stackBelow` says so: with more values underneath, a run has the same outcome
and leaves these values where they are. Of course it must not run out of values without them, and it
must not use one of the `wholeStackWords`, which reverse, count, or list all values.

The comparison is the simulation `raising`. Its machines differ in the stack alone, where the second
one has `base` below the values of the first one (`Stack.Raised`), and its tokens are equal and do
not mention those words. A stack underflow of the first run escapes.
-/

namespace BlockForth

/-! ## Stacks -/

/-- The second stack has the values of the first one, and `base` below them, top first. -/
def Stack.Raised (base : List Value) (s s' : Stack) : Prop :=
  s'.values = s.values ++ base

namespace Stack.Raised

variable {base : List Value} {s s' : Stack}

/-- A value is pushed on top of both. -/
theorem push (h : s.Raised base s') (v : Value) : (s.push v).Raised base (s'.push v) := by
  rw [Raised, values_push, values_push, h, List.cons_append]

/-- Both stacks have the same top value, unless the first one is empty. -/
theorem pop (h : s.Raised base s') :
    SameResult True (fun p p' => p'.1 = p.1 ∧ p.2.Raised base p'.2) s.pop s'.pop := by
  rcases hvalues : s.values with _ | ⟨v, rest⟩
  · exact .inl ⟨trivial, pop_of_values_eq_nil hvalues⟩
  · have hvalues' : s'.values = v :: (rest ++ base) := by rw [h, hvalues, List.cons_append]
    obtain ⟨t, hpop, ht, -⟩ := exists_pop_of_values_eq_cons hvalues
    obtain ⟨t', hpop', ht', -⟩ := exists_pop_of_values_eq_cons hvalues'
    rw [hpop, hpop']
    refine .ok ⟨rfl, ?_⟩
    rw [Raised, ht, ht']

/-- Both stacks have the same value at a depth, unless the first one is not that deep. -/
theorem peek (h : s.Raised base s') (depth : Nat) :
    SameResult True Eq (s.peek depth) (s'.peek depth) := by
  by_cases hdepth : depth < s.values.length
  · have hpeek : s'.peek depth = s.peek depth := by
      rw [Stack.peek, Stack.peek, h, List.getElem?_append_left hdepth]
    rw [hpeek]
    exact .refl _
  · refine .inl ⟨trivial, ?_⟩
    rw [Stack.peek, List.getElem?_eq_none (Nat.not_lt.1 hdepth)]

end Stack.Raised

/-- The words of a program work on such stacks alike, up to an underflow of the first one. -/
def StackPairing.raised (base : List Value) : StackPairing where
  paired := Stack.Raised base
  lacks := True
  push v h := h.push v
  pop h := h.pop
  peek depth h := h.peek depth

/-! ## Tokens -/

/-- The words that reverse, count, or list the whole stack. -/
def wholeStackWords : List String :=
  ["reverse", "depth", ".stack", ".s"]

mutual

/-- Whether one of the names, which are in lower case, is that of the token or of one inside it. -/
def Token.mentions (names : List String) : Token → Bool
  | .word _ spelling => names.contains (lowercase spelling)
  | .literal _ _ => false
  | .block _ body => Token.anyMentions names body

/-- Whether one of the names is that of one of the tokens or of one inside them. -/
def Token.anyMentions (names : List String) : List Token → Bool
  | [] => false
  | t :: ts => t.mentions names || Token.anyMentions names ts

end

/-- Tokens mention none of the words if none of them does. -/
theorem Token.anyMentions_eq_false_iff {names : List String} {ts : List Token} :
    Token.anyMentions names ts = false ↔ ∀ t ∈ ts, t.mentions names = false := by
  induction ts with
  | nil => simp [Token.anyMentions]
  | cons t ts ih => rw [Token.anyMentions, Bool.or_eq_false_iff, ih, List.forall_mem_cons]

/-- A word that sees the whole stack has no other name in the table. -/
theorem Builtin.mem_wholeStackWords {name : String} {w : Builtin} (h : Builtin.find? name = some w)
    (hw : w.SeesWholeStack) : name ∈ wholeStackWords := by
  obtain ⟨entry, hentry, hname, hword⟩ := Builtin.exists_mem_table_of_find? h
  have htable : ∀ e ∈ Builtin.table, (e.word = .reverse ∨ e.word = .depth ∨ e.word = .printStack) →
      e.name ∈ wholeStackWords := by decide
  rw [← hname]
  refine htable entry hentry ?_
  rw [hword]
  exact hw

/-! ## Machines -/

namespace Machine

/-- The machines are equal but for their frames, their depths, and the values below on the stack of
the second one. No user word mentions a word that sees the whole stack. -/
structure Raised (base : List Value) (m m' : Machine) : Prop where
  stack : m.stack.Raised base m'.stack
  dictionary : m'.dictionary = m.dictionary
  output : m'.output = m.output
  location : m'.location = m.location
  calls : m'.calls = m.calls
  exiting : m'.exiting = m.exiting
  bodies : ∀ e ∈ m.dictionary.entries, ∀ t ∈ e.body, t.mentions wholeStackWords = false

/-- Such machines with equal flow registers. -/
def RaisedRun (base : List Value) (m m' : Machine) : Prop :=
  Raised base m m' ∧ m'.frame.flow = m.frame.flow

end Machine

/-- The outcomes are equal but for the frames, the depths, and the values below, unless the first
one is an underflow. -/
abbrev Outcome.Raised (base : List Value) (o o' : Outcome) : Prop :=
  o.Agree (Machine.RaisedRun base) Eq (·.kind = .stackUnderflow) o'

namespace Machine

variable {base : List Value} {m m' : Machine}

/-- Another pair of stacks. -/
theorem Raised.withStack (h : Raised base m m') {s s' : Stack} (hs : s.Raised base s') :
    Raised base { m with stack := s } { m' with stack := s' } :=
  ⟨hs, h.dictionary, h.output, h.location, h.calls, h.exiting, h.bodies⟩

/-- The frames and the depths do not matter. -/
theorem Raised.inFrame (h : Raised base m m') (f f' : Frame) (depth depth' : Nat) :
    Raised base { m with frame := f, depth := depth } { m' with frame := f', depth := depth' } :=
  ⟨h.stack, h.dictionary, h.output, h.location, h.calls, h.exiting, h.bodies⟩

/-- A fault has the same place and the same calls. -/
theorem Raised.faultHere (h : Raised base m m') (cause : Cause) :
    m.faultHere cause = m'.faultHere cause := by
  rw [Machine.faultHere, Machine.faultHere, h.location, h.calls]

/-- A built-in word that does not see the whole stack does the same on top of other values. -/
theorem perform_raised (h : RaisedRun base m m') (w : Builtin) (hdefine : w ≠ .define)
    (hw : ¬ w.SeesWholeStack) : (m.perform w).Raised base (m'.perform w) := by
  obtain ⟨hm, hflow⟩ := h
  have hlisting := congrArg Dictionary.listing hm.dictionary
  rcases perform_paired (.raised base) hm.stack hflow w hdefine (fun _ => hlisting)
    (absurd · hw) with ⟨-, hunderflow⟩ | ⟨e, s, s', hs, heffect, heffect'⟩
  · -- Only the run without the values below has run out of values.
    rw [hunderflow]
    exact .inl ⟨_, rfl, rfl⟩
  · rw [heffect, heffect']
    cases e with
    | raise cause => exact .inr ⟨⟨hm, hflow⟩, .some rfl⟩
    | fail cause => exact .inr ⟨⟨hm, hflow⟩, .some (hm.faultHere cause)⟩
    | finish text flow ends =>
      refine .inr ⟨⟨⟨hs, hm.dictionary, ?_, hm.location, hm.calls, ?_, hm.bodies⟩, rfl⟩, .none⟩
      · show m'.output ++ text = m.output ++ text
        rw [hm.output]
      · show (m'.exiting || ends) = (m.exiting || ends)
        rw [hm.exiting]

end Machine

/-! ## The simulation -/

/-- The token is the same, and does not mention a word that sees the whole stack. -/
def Token.SameLocal (t t' : Token) : Prop :=
  t' = t ∧ t.mentions wholeStackWords = false

/-- Equal tokens that do not mention such a word are paired. -/
theorem Token.forall₂_sameLocal {ts : List Token}
    (h : ∀ t ∈ ts, t.mentions wholeStackWords = false) : List.Forall₂ Token.SameLocal ts ts :=
  List.forall₂_same.2 fun t ht => ⟨rfl, h t ht⟩

/-- Tokens that are paired are equal, and mention no word that sees the whole stack. -/
theorem Token.eq_of_forall₂_sameLocal {ts ts' : List Token}
    (h : List.Forall₂ Token.SameLocal ts ts') :
    ts' = ts ∧ ∀ t ∈ ts, t.mentions wholeStackWords = false := by
  induction h with
  | nil => exact ⟨rfl, fun t ht => absurd ht List.not_mem_nil⟩
  | cons ht _ ih => exact ⟨by rw [ht.1, ih.1], List.forall_mem_cons.2 ⟨ht.2, ih.2⟩⟩

/-- On top of other values the same tokens run alike, up to a stack underflow. -/
def raising (base : List Value) : Simulation where
  token := Token.SameLocal
  machine := Machine.Raised base
  fault := Eq
  escapes f := f.kind = .stackUnderflow
  literal_inv h := ⟨_, h.1⟩
  block_inv h :=
    ⟨_, _, h.1, Token.forall₂_sameLocal (Token.anyMentions_eq_false_iff.1 h.2)⟩
  word_inv h := ⟨_, _, h.1, rfl⟩
  definable {t t'} h := by
    rw [h.1]
    rcases t.definable? with _ | name
    · exact .none
    · exact .some rfl
  inFrame f f' depth depth' h := h.inFrame f f' depth depth'
  exiting h := h.exiting
  reach h ht :=
    ⟨h.stack, h.dictionary, h.output, by rw [ht.1], h.calls, h.exiting, h.bodies⟩
  push v h := h.withStack (h.stack.push v)
  call h ht := by
    cases ht.1
    exact ⟨h.stack, h.dictionary, h.output, h.location, by rw [h.calls], h.exiting, h.bodies⟩
  goBack h :=
    ⟨h.stack, h.dictionary, h.output, h.location, by rw [h.calls], h.exiting, h.bodies⟩
  find {m m'} name h := by
    rw [h.dictionary]
    rcases hfind : m.dictionary.find? name with _ | entry
    · exact .none
    · exact .some (Token.forall₂_sameLocal (h.bodies entry (Dictionary.mem_of_find? hfind)))
  insert {m m' s s' body body'} h hname hbody := by
    obtain ⟨rfl, hlocal⟩ := Token.eq_of_forall₂_sameLocal hbody
    refine ⟨h.stack, ?_, h.output, h.location, h.calls, h.exiting, fun e he => ?_⟩
    · dsimp only
      rw [h.dictionary, h.location]
      exact m.dictionary.insert_congr hname _ _
    · rcases Dictionary.mem_entries_insert he with rfl | hmem
      · exact hlocal
      · exact h.bodies e hmem
  perform {m m' l s t' w} h hflow ht hfind hw := by
    -- The token would be one of the words that are not mentioned.
    refine Machine.perform_raised ⟨h, hflow⟩ w hw fun hwhole => ?_
    have hmention : wholeStackWords.contains (lowercase s) = false := ht.2
    rw [List.contains_iff_mem.2 (Builtin.mem_wholeStackWords hfind hwhole)] at hmention
    cases hmention
  fail cause h := h.faultHere cause
  failUnknown {m m' l l' s s'} h ht := by
    cases ht.1
    exact h.faultHere _
  failName {m m' t t'} h ht := by
    rw [ht.1]
    exact h.faultHere _
  context {m m' f f' t t'} h hfault ht := by rw [← hfault, ht.1, h.calls]
  escapes_context _ _ h := h

namespace Machine

/-- Machines that are in one frame, at one depth and position, differ in the stack alone. -/
theorem Raised.eq_withStack {base : List Value} {m m' : Machine} (h : Raised base m m')
    (hframe : m'.frame = m.frame) (hdepth : m'.depth = m.depth) :
    m' = { m with stack := m'.stack } := by
  obtain ⟨stack, dictionary, output, location, calls, frame, depth, exiting⟩ := m'
  obtain ⟨-, hdictionary, houtput, hlocation, hcalls, hexiting, -⟩ := h
  dsimp only at hframe hdepth hdictionary houtput hlocation hcalls hexiting
  subst hframe hdepth hdictionary houtput hlocation hcalls hexiting
  rfl

/-- With more values below on the stack, a run has the same fault, if it has one, and leaves the
same machine, with these values below on its stack. The run without them must not underflow the
stack, and no word that sees the whole stack may be mentioned. -/
theorem runFrame_stackBelow (m : Machine) (base : List Value) (s : Stack)
    (hstack : s.values = m.stack.values ++ base)
    (htokens : ∀ t ∈ m.frame.tokens.drop m.frame.position, t.mentions wholeStackWords = false)
    (hbodies : ∀ e ∈ m.dictionary.entries, ∀ t ∈ e.body, t.mentions wholeStackWords = false)
    (hunderflow : ∀ f, m.runFrame.fault = some f → f.kind ≠ .stackUnderflow) :
    let o := m.runFrame
    let o' := runFrame { m with stack := s }
    o'.fault = o.fault ∧ o'.machine = { o.machine with stack := o'.machine.stack } ∧
      o'.machine.stack.values = o.machine.stack.values ++ base := by
  intro o o'
  let raised : Machine := { m with stack := s }
  have hsame : SameFrame m o.machine := runFrame_sameFrame m
  have hsame' : SameFrame raised o'.machine := runFrame_sameFrame raised
  have hmachine : Raised base m raised := ⟨hstack, rfl, rfl, rfl, rfl, rfl, hbodies⟩
  by_cases hposition : m.frame.position ≤ m.frame.tokens.length
  · let p := m.frame.position
    have hinner : (raising base).InnerAgree (enter (maxDepth - m.depth))
        (enter (maxDepth - m.depth)) :=
      Simulation.enter_agree (Nat.le_refl _) fun hlt => absurd hlt (Nat.lt_irrefl _)
    have hbeside : (raising base).Beside p p False m raised := ⟨hmachine, rfl, rfl, False.elim⟩
    have hlength : p + (m.frame.tokens.drop p).length ≤ m.frame.tokens.length := by
      rw [List.length_drop]
      omega
    have hagree : (raising base).Agree ((raising base).Beside p p False) o o' :=
      Simulation.stepAll_agree hinner (enter_balanced _) (enter_balanced _)
        (Token.forall₂_sameLocal htokens) hbeside (Nat.le_refl p) hlength fun _ => ⟨rfl, rfl⟩
    rcases hagree with ⟨f, hf, hkind⟩ | ⟨⟨hraised, hflow, hoffset, -⟩, hfault⟩
    · exact absurd hkind (hunderflow f hf)
    · -- Both runs are still in one frame, and have moved it equally far.
      have htokens' : o'.machine.frame.tokens = o.machine.frame.tokens :=
        hsame'.tokens.trans hsame.tokens.symm
      have hframe : o'.machine.frame = o.machine.frame :=
        calc o'.machine.frame
            = ⟨o'.machine.frame.tokens, o'.machine.frame.position, o'.machine.frame.flow⟩ := rfl
          _ = ⟨o.machine.frame.tokens, o.machine.frame.position, o.machine.frame.flow⟩ := by
            rw [htokens', Nat.add_right_cancel hoffset, hflow]
          _ = o.machine.frame := rfl
      have hdepth : o'.machine.depth = o.machine.depth := hsame'.depth.trans hsame.depth.symm
      exact ⟨eq_of_rel_eq hfault, hraised.eq_withStack hframe hdepth, hraised.stack⟩
  · -- The frame is past its end, so there is nothing to run.
    have hnil : m.frame.tokens.drop m.frame.position = [] :=
      List.drop_eq_nil_of_le (Nat.le_of_not_le hposition)
    have hdone : ∀ n : Machine, n.frame = m.frame → n.runFrame = .done n := by
      intro n hn
      unfold runFrame runFrameWith
      rw [hn, hnil]
      rfl
    have ho : o = .done m := hdone m rfl
    have ho' : o' = .done raised := hdone raised rfl
    rw [ho, ho']
    exact ⟨rfl, rfl, hstack⟩

/-- A machine at a program that cuts a text, calls a word in a repeated block, defines a word, and
fails in the end. -/
def cutting : Machine where
  stack := Stack.empty.push (.int 5)
  dictionary := ({} : Dictionary).insert "double" {} [.word {} "Dup", .word {} "+"]
  frame := {
    tokens := [.literal {} (.string "abcd"), .literal {} (.int 2), .word {} "/", .word {} "2drop",
      .literal {} (.int 3), .word {} "times", .block {} [.word {} "DOUBLE"],
      .word {} ":", .word {} "copy", .word {} "dup", .word {} ";", .word {} "copy",
      .literal {} (.string "x"), .word {} "-"] }

/-- Its stack on top of two other values. -/
def cuttingAbove : Stack :=
  ((Stack.empty.push (.string "below")).push (.int 9)).push (.int 5)

/-- The program fails alike on top of the two values, and leaves them in their place. -/
theorem runFrame_stackBelow_cutting :
    cuttingAbove.values = cutting.stack.values ++ [.int 9, .string "below"] ∧
      (∀ t ∈ cutting.frame.tokens, t.mentions wholeStackWords = false) ∧
      cutting.runFrame.fault.map Fault.kind = some .type ∧
      (runFrame { cutting with stack := cuttingAbove }).fault = cutting.runFrame.fault ∧
      (runFrame { cutting with stack := cuttingAbove }).machine.stack.values =
        [.string "x", .int 40, .int 40] ++ [.int 9, .string "below"] := by
  have hstack : cuttingAbove.values = cutting.stack.values ++ [.int 9, .string "below"] := rfl
  have htokens : ∀ t ∈ cutting.frame.tokens, t.mentions wholeStackWords = false := by
    decide +kernel
  have hbodies : ∀ e ∈ cutting.dictionary.entries, ∀ t ∈ e.body,
      t.mentions wholeStackWords = false := by
    decide +kernel
  have hkind : cutting.runFrame.fault.map Fault.kind = some .type := by decide +kernel
  have hunderflow : ∀ f, cutting.runFrame.fault = some f → f.kind ≠ .stackUnderflow := by
    intro f hf hunder
    rw [hf, Option.map_some, hunder] at hkind
    exact absurd hkind (by decide)
  have hvalues : cutting.runFrame.machine.stack.values = [.string "x", .int 40, .int 40] := by
    decide +kernel
  obtain ⟨hfault, -, hbelow⟩ :=
    runFrame_stackBelow cutting _ cuttingAbove hstack htokens hbodies hunderflow
  rw [hvalues] at hbelow
  dsimp only
  exact ⟨hstack, htokens, hkind, hfault, hbelow⟩

end Machine

end BlockForth
