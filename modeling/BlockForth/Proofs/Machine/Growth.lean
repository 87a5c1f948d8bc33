import BlockForth.Proofs.Machine.StoredWords
import Mathlib.Data.Set.Insert
import Mathlib.Order.Bounds.Defs

/-!
# What a run only adds to

A run takes nothing back, whether it fails or not. What it has written stays written, a word that
was defined keeps its place in the listing, a program that has ended stays ended, and the greatest
depth of the stack is never forgotten. `runs_append_only` says so, and also that the greatest depth
is exact: it is the one before the run or the depth of the stack at some point of the run, whichever
is the greatest.

For the depth it matters that every built-in word takes values off the stack before it puts any on
(`Stack.Rebuilt`). A word that did it the other way round would count a depth that the stack has at
no point between two words.
-/

namespace BlockForth

/-! ## Results -/

/-- The result is a fault, or `P` holds of it. -/
def Gives {α : Type} (P : α → Prop) (result : Except Cause α) : Prop :=
  ∀ a, result = .ok a → P a

namespace Gives

variable {α β : Type} {P : α → Prop} {Q : β → Prop}

/-- A result that has the property. -/
theorem ok {a : α} (h : P a) : Gives P (.ok a) := by
  intro b hb
  cases hb
  exact h

/-- What is computed in two parts has its property from both. -/
theorem bind {result : Except Cause α} {next : α → Except Cause β} (h : Gives P result)
    (hnext : ∀ a, P a → Gives Q (next a)) : Gives Q (result >>= next) := by
  cases result with
  | error cause =>
    intro b hb
    cases hb
  | ok a => exact hnext a (h a rfl)

/-- Goes on with a result of which nothing has to be known. -/
theorem bind_any {result : Except Cause α} {next : α → Except Cause β}
    (hnext : ∀ a, Gives Q (next a)) : Gives Q (result >>= next) :=
  bind (P := fun _ => True) (fun _ _ => trivial) fun a _ => hnext a

end Gives

/-! ## Stacks -/

namespace Stack

/-- Every value that is put on counts. -/
theorem size_pushAll (s : Stack) (vs : List Value) : (s.pushAll vs).size = s.size + vs.length := by
  rw [size_eq, s.size_eq, values_pushAll, List.length_append, List.length_reverse, Nat.add_comm]

/-- Putting values on raises the greatest depth to the depth at the end, if that is greater. -/
theorem peak_pushAll (s : Stack) (vs : List Value) :
    (s.pushAll vs).peak = max s.peak (s.pushAll vs).size := by
  induction vs generalizing s with
  | nil =>
    have hle := s.size_le_peak
    show s.peak = max s.peak s.size
    omega
  | cons v vs ih =>
    -- The depth after the first value is passed on the way to the depth at the end.
    have hsize : ((s.push v).pushAll vs).size = s.size + 1 + vs.length := size_pushAll _ _
    have hpeak : (s.push v).peak = max s.peak (s.size + 1) := rfl
    show ((s.push v).pushAll vs).peak = max s.peak ((s.push v).pushAll vs).size
    rw [ih, hpeak, hsize]
    omega

/-- The second stack has the greatest depth of the first one, as it has when values were taken off
or turned around. -/
def Lowered (s t : Stack) : Prop :=
  t.peak = s.peak

/-- The second stack has come from the first one by taking values off, or turning them around, and
then putting values on. -/
def Rebuilt (s s' : Stack) : Prop :=
  ∃ (t : Stack) (vs : List Value), s.Lowered t ∧ s' = t.pushAll vs

/-- Nothing has to be taken off or put on. -/
theorem Rebuilt.refl (s : Stack) : s.Rebuilt s :=
  ⟨s, [], rfl, rfl⟩

/-- The greatest depth is the one before or the depth afterwards. -/
theorem Rebuilt.peak_eq {s s' : Stack} (h : s.Rebuilt s') : s'.peak = max s.peak s'.size := by
  obtain ⟨t, vs, ht, rfl⟩ := h
  rw [← ht]
  exact peak_pushAll t vs

/-- Values are put on a stack off which values have been taken. -/
theorem Lowered.gives {s t : Stack} (h : s.Lowered t) (vs : List Value) :
    Gives s.Rebuilt (.ok (t.pushAll vs)) :=
  .ok ⟨t, vs, h, rfl⟩

section Taken

variable {s t : Stack}

/-- Taking one more value off keeps the greatest depth. -/
theorem Lowered.pop (h : s.Lowered t) : Gives (fun p => s.Lowered p.2) t.pop := by
  rcases hvalues : t.values with _ | ⟨v, rest⟩
  · rw [pop_of_values_eq_nil hvalues]
    intro p hp
    cases hp
  · obtain ⟨u, hpop, -, hpeak⟩ := exists_pop_of_values_eq_cons hvalues
    rw [hpop]
    exact .ok (hpeak.trans h)

/-- Taking an integer off keeps the greatest depth. -/
theorem Lowered.popInt (h : s.Lowered t) : Gives (fun p => s.Lowered p.2) t.popInt :=
  h.pop.bind fun _ hp => .bind_any fun _ => .ok hp

/-- Taking a text off keeps the greatest depth. -/
theorem Lowered.popString (h : s.Lowered t) : Gives (fun p => s.Lowered p.2) t.popString :=
  h.pop.bind fun _ hp => .bind_any fun _ => .ok hp

/-- A binary word takes two values off before it puts its result on. -/
theorem Lowered.binary (h : s.Lowered t) (operator : Value → Value → Except Cause Value) :
    Gives s.Rebuilt (t.binary operator) :=
  h.pop.bind fun _ h₁ => h₁.pop.bind fun _ h₂ => .bind_any fun v => h₂.gives [v]

end Taken

end Stack

namespace Machine

/-! ## Built-in words -/

section Words

variable {m : Machine} {α : Type} {P : α → Prop}

/-- A word goes on with what it has taken off, or leaves the stack as it is. -/
theorem given_rebuilt {result : Except Cause α} {next : α → Outcome} (h : Gives P result)
    (hnext : ∀ a, P a → m.stack.Rebuilt (next a).machine.stack) :
    m.stack.Rebuilt (m.given result next).machine.stack := by
  cases result with
  | error cause => exact .refl _
  | ok a => exact hnext a (h a rfl)

/-- A word that only works on the stack leaves the stack as it is if it fails. -/
theorem onStack_rebuilt {result : Except Cause Stack} (h : Gives m.stack.Rebuilt result) :
    m.stack.Rebuilt (m.onStack result).machine.stack :=
  given_rebuilt h fun _ hs => hs

/-- A built-in word takes values off the stack, and puts its results on then. -/
theorem perform_rebuilt (m : Machine) (w : Builtin) (hw : w ≠ .define) :
    m.stack.Rebuilt (m.perform w).machine.stack := by
  have hs : m.stack.Lowered m.stack := rfl
  rw [perform_eq_performAtOnce]
  cases w
  case define => exact absurd rfl hw
  case reverse => exact ⟨m.stack.reverse, [], rfl, rfl⟩
  case depth => exact ⟨m.stack, [_], hs, rfl⟩
  case divide =>
    exact onStack_rebuilt <| hs.pop.bind fun _ h₁ => h₁.pop.bind fun _ h₂ =>
      .bind_any fun vs => h₂.gives vs
  case divMod =>
    refine given_rebuilt hs.popInt fun p h₁ => given_rebuilt h₁.popInt fun q h₂ => ?_
    dsimp only
    -- A divisor of zero leaves both operands on the stack.
    split
    · exact .refl _
    · exact ⟨q.2, [_, _], h₂, rfl⟩
  case dup => exact onStack_rebuilt <| .bind_any fun a => hs.gives [a]
  case «over» => exact onStack_rebuilt <| .bind_any fun a => hs.gives [a]
  case dup2 => exact onStack_rebuilt <| .bind_any fun a => .bind_any fun b => hs.gives [a, b]
  case over2 => exact onStack_rebuilt <| .bind_any fun a => .bind_any fun b => hs.gives [a, b]
  case drop => exact onStack_rebuilt <| hs.pop.bind fun _ h₁ => h₁.gives []
  case drop2 =>
    exact onStack_rebuilt <| hs.pop.bind fun _ h₁ => h₁.pop.bind fun _ h₂ => h₂.gives []
  case swap =>
    exact onStack_rebuilt <| hs.pop.bind fun _ h₁ => h₁.pop.bind fun _ h₂ => h₂.gives [_, _]
  case rot =>
    exact onStack_rebuilt <| hs.pop.bind fun _ h₁ => h₁.pop.bind fun _ h₂ =>
      h₂.pop.bind fun _ h₃ => h₃.gives [_, _, _]
  case swap2 =>
    exact onStack_rebuilt <| hs.pop.bind fun _ h₁ => h₁.pop.bind fun _ h₂ =>
      h₂.pop.bind fun _ h₃ => h₃.pop.bind fun _ h₄ => h₄.gives [_, _, _, _]
  case kind => exact onStack_rebuilt <| hs.pop.bind fun _ h₁ => h₁.gives [_]
  case chr =>
    refine given_rebuilt hs.popInt fun p h₁ => ?_
    dsimp only
    split
    · exact ⟨p.2, [_], h₁, rfl⟩
    · exact .refl _
  case ord =>
    refine given_rebuilt hs.popString fun p h₁ => ?_
    dsimp only
    split
    · exact ⟨p.2, [_], h₁, rfl⟩
    · exact .refl _
  case emit =>
    refine given_rebuilt hs.popInt fun p h₁ => ?_
    dsimp only
    split
    · exact ⟨p.2, [], h₁, rfl⟩
    · exact .refl _
  case spaces =>
    refine given_rebuilt hs.popInt fun p h₁ => ?_
    exact given_rebuilt (P := fun _ => True) (fun _ _ => trivial) fun _ _ => ⟨p.2, [], h₁, rfl⟩
  case print => exact given_rebuilt hs.pop fun p h₁ => ⟨p.2, [], h₁, rfl⟩
  case ifTrue => exact given_rebuilt hs.pop fun p h₁ => ⟨p.2, [], h₁, rfl⟩
  case times => exact given_rebuilt hs.popInt fun p h₁ => ⟨p.2, [], h₁, rfl⟩
  case newline | space | printStack | printWords | bye | otherwise | endDefinition | endBlock =>
    exact .refl _
  -- What is left are the operators on two values.
  all_goals exact onStack_rebuilt (hs.binary _)

end Words

end Machine

/-! ## Machines -/

namespace Machine

/-- What the first machine has written, defined, ended, and counted is still there in the second. -/
structure Extends (m m' : Machine) : Prop where
  output : ∃ text, m'.output = m.output ++ text
  names : m.dictionary.names <+: m'.dictionary.names
  exiting : m.exiting = true → m'.exiting = true
  peak_le : m.stack.peak ≤ m'.stack.peak

namespace Extends

/-- A machine extends itself. -/
theorem refl (m : Machine) : Extends m m :=
  ⟨⟨"", String.append_empty.symm⟩, List.prefix_refl _, id, Nat.le_refl _⟩

/-- What is still there later is still there even later. -/
theorem trans {m m' m'' : Machine} (h : Extends m m') (h' : Extends m' m'') : Extends m m'' := by
  obtain ⟨text, htext⟩ := h.output
  obtain ⟨text', htext'⟩ := h'.output
  refine ⟨⟨text ++ text', ?_⟩, h.names.trans h'.names, fun hm => h'.exiting (h.exiting hm),
    Nat.le_trans h.peak_le h'.peak_le⟩
  rw [htext', htext, String.append_assoc]

end Extends

/-- The second machine extends the first one, and nothing was counted in between that is deeper than
the stacks of both. -/
structure ExtendsAtOnce (m m' : Machine) : Prop extends Extends m m' where
  peak_eq : m'.stack.peak = max m.stack.peak m'.stack.size

namespace ExtendsAtOnce

variable {m m' : Machine}

/-- A stack that is rebuilt at once counts no depth in between. -/
theorem of_rebuilt (houtput : ∃ text, m'.output = m.output ++ text)
    (hnames : m.dictionary.names <+: m'.dictionary.names)
    (hexiting : m.exiting = true → m'.exiting = true) (hstack : m.stack.Rebuilt m'.stack) :
    ExtendsAtOnce m m' := by
  have hpeak := hstack.peak_eq
  exact ⟨⟨houtput, hnames, hexiting, by omega⟩, hpeak⟩

/-- A machine that stays counts nothing. -/
theorem refl (m : Machine) : ExtendsAtOnce m m :=
  of_rebuilt ⟨"", String.append_empty.symm⟩ (List.prefix_refl _) id (.refl _)

/-- A word is stored. -/
theorem store (m : Machine) (name : String) (body : List Token) :
    ExtendsAtOnce m (m.store name body) :=
  of_rebuilt ⟨"", String.append_empty.symm⟩ (m.dictionary.names_prefix_insert _ _ _) id (.refl _)

/-- The places, the calls, the frames, and the depths do not matter. -/
theorem registers (h : ExtendsAtOnce m m') {l l' : Option Location} {calls calls' : List Call}
    {f f' : Frame} {depth depth' : Nat} :
    ExtendsAtOnce { m with location := l, calls := calls, frame := f, depth := depth }
      { m' with location := l', calls := calls', frame := f', depth := depth' } :=
  ⟨⟨h.output, h.names, h.exiting, h.peak_le⟩, h.peak_eq⟩

end ExtendsAtOnce

/-- A `:` that is reached stores a word or changes the registers only. -/
theorem runDefinition_extends (m : Machine) : ExtendsAtOnce m m.runDefinition.machine := by
  rcases m.runDefinition_cases with ⟨cause, flow, p, h⟩ | ⟨p, h⟩ | ⟨name, body, flow, p, -, h⟩
  · rw [h]
    exact (ExtendsAtOnce.refl m).registers
  · rw [h]
    exact (ExtendsAtOnce.refl m).registers
  · rw [h]
    exact (ExtendsAtOnce.store m name body).registers

/-- Every built-in word extends the machine at once. -/
theorem perform_extends (m : Machine) (w : Builtin) : ExtendsAtOnce m (m.perform w).machine := by
  by_cases hw : w = .define
  · subst hw
    show ExtendsAtOnce m m.define.machine
    rcases m.define_cases with ⟨cause, p, h⟩ | ⟨name, body, p, -, h⟩
    · rw [h]
      exact (ExtendsAtOnce.refl m).registers
    · rw [h]
      exact (ExtendsAtOnce.store m name body).registers
  · have hstack := perform_rebuilt m w hw
    obtain ⟨e, s, heffect, -⟩ := exists_wordEffect (m := m) rfl rfl w hw fun _ => rfl
    rw [heffect] at hstack ⊢
    cases e with
    | raise cause => exact (ExtendsAtOnce.refl m).registers
    | fail cause => exact (ExtendsAtOnce.refl m).registers
    | finish text flow ends =>
      refine .of_rebuilt ⟨text, rfl⟩ (List.prefix_refl _) (fun hm => ?_) hstack
      show (m.exiting || ends) = true
      rw [hm, Bool.true_or]

end Machine

namespace Config

/-! ## Steps -/

open Machine

/-- Entering a frame changes the frame, the calls, and the depth only. -/
theorem extends_enter (f : Frame) (calls : List Call) (m : Machine) (pending : List Pending) :
    ExtendsAtOnce m (enter f { m with calls := calls } pending).machine := by
  unfold enter
  split
  · exact (ExtendsAtOnce.refl m).registers
  · exact (ExtendsAtOnce.refl m).registers

/-- Fetching a token extends the machine at once. -/
theorem extends_fetch (m : Machine) (pending : List Pending) :
    ExtendsAtOnce m (fetch m pending).machine := by
  rcases fetch_cases m pending with h | ⟨t, inlined, -, ⟨-, h⟩ | ⟨-, flow, count, h⟩⟩
  · rw [h]
    exact (ExtendsAtOnce.refl m).registers
  · rw [h]
    exact (runDefinition_extends { m with location := some t.location }).registers
  · rw [h]
    exact (ExtendsAtOnce.refl m).registers

/-- Running a token extends the machine at once. -/
theorem extends_execute (m : Machine) (pending : List Pending) (t : Token) :
    ExtendsAtOnce m (execute m pending t).machine := by
  cases t with
  | literal l value =>
    exact .of_rebuilt ⟨"", String.append_empty.symm⟩ (List.prefix_refl _) id
      ⟨m.stack, [value], rfl, rfl⟩
  | block l body => exact extends_enter _ m.calls m _
  | word l spelling =>
    rw [execute]
    rcases m.dictionary.find? (lowercase spelling) with _ | entry
    · rcases Builtin.find? (lowercase spelling) with _ | w
      · exact (ExtendsAtOnce.refl m).registers
      · exact perform_extends m w
    · exact extends_enter _ _ m _

/-- Going back to what is pending changes the registers only. -/
theorem extends_resume (m : Machine) (pending : List Pending) :
    ExtendsAtOnce m (resume m pending).machine := by
  unfold resume
  split
  case h_3 => split <;> exact (ExtendsAtOnce.refl m).registers
  all_goals exact (ExtendsAtOnce.refl m).registers

/-- A fault on its way out changes the registers only. -/
theorem extends_raise (m : Machine) (f : Fault) (pending : List Pending) :
    ExtendsAtOnce m (raise m f pending).machine := by
  unfold raise
  split
  all_goals exact (ExtendsAtOnce.refl m).registers

/-- A step adds to what there is. -/
theorem extends_next (c : Config) : ExtendsAtOnce c.machine c.next.machine := by
  obtain ⟨m, phase, pending⟩ := c
  cases phase with
  | fetch => exact extends_fetch m pending
  | execute t => exact extends_execute m pending t
  | resume => exact extends_resume m pending
  | raise f => exact extends_raise m f pending

/-! ## Runs -/

/-- A run adds to what there is. -/
theorem Reaches.extends {c d : Config} (h : Reaches c d) : Extends c.machine d.machine :=
  h.preserves (P := fun d => Extends c.machine d.machine)
    (fun d hd => hd.trans (extends_next d).toExtends) (.refl _)

/-- The depths that the stack has in the run from `c` on. -/
def stackSizes (c : Config) : Set Nat :=
  { size | ∃ d, Reaches c d ∧ d.machine.stack.size = size }

/-- At every point of a run the greatest depth is the one before the run or one that the stack has
had in it. -/
theorem Reaches.peak_mem {c d : Config} (h : Reaches c d) :
    d.machine.stack.peak ∈ insert c.machine.stack.peak c.stackSizes := by
  have hstep : ∀ e, Reaches c e ∧ e.machine.stack.peak ∈ insert c.machine.stack.peak c.stackSizes →
      Reaches c e.next ∧
        e.next.machine.stack.peak ∈ insert c.machine.stack.peak c.stackSizes := by
    rintro e ⟨he, hmem⟩
    refine ⟨he.tail, ?_⟩
    -- The step has kept the greatest depth, or the stack is as deep as that now.
    rcases Nat.le_total e.machine.stack.peak e.next.machine.stack.size with hle | hle
    · right
      refine ⟨e.next, he.tail, ?_⟩
      rw [(extends_next e).peak_eq, Nat.max_eq_right hle]
    · rw [(extends_next e).peak_eq, Nat.max_eq_left hle]
      exact hmem
  exact (h.preserves hstep ⟨.refl c, .inl rfl⟩).2

/-- The run from `c` with the outcome `o` takes nothing back: what was written is still at the front
of the output, the names of the words are still at the front of the listing, a program that has
ended stays ended, and the greatest depth of the stack does not fall. It is the greatest of the one
before the run and all depths in the run. -/
structure AppendOnlyRun (c : Config) (o : Outcome) : Prop extends
    Extends c.machine o.machine where
  ends : Reaches c (after o [])
  peak_isGreatest : IsGreatest (insert c.machine.stack.peak c.stackSizes) o.machine.stack.peak

/-- Every run that ends takes nothing back. -/
theorem appendOnlyRun_of_reaches {c : Config} {o : Outcome} (h : Reaches c (after o [])) :
    AppendOnlyRun c o := by
  refine ⟨h.extends, h, h.peak_mem, ?_⟩
  rintro size (rfl | ⟨d, hd, rfl⟩)
  · exact h.extends.peak_le
  · -- The stack is never deeper than its greatest depth, which does not fall until the end.
    have hlater : d.machine.stack.peak ≤ o.machine.stack.peak :=
      (h.end_of_reaches hd).extends.peak_le
    exact Nat.le_trans d.machine.stack.size_le_peak hlater

end Config

namespace Machine

/-- Running a frame takes nothing back, and running tokens as a block does not either, whether the
run fails or not. -/
theorem runs_append_only (m : Machine) :
    Config.AppendOnlyRun ⟨m, .fetch, []⟩ m.runFrame ∧
      ∀ tokens, Config.AppendOnlyRun ⟨m, .execute (.block {} tokens), []⟩
        (m.executeTokens tokens) := by
  constructor
  · exact Config.appendOnlyRun_of_reaches (Config.reaches_runFrame m [])
  · intro tokens
    exact Config.appendOnlyRun_of_reaches (Config.reaches_runToken m (.block {} tokens) [])

end Machine

end BlockForth
