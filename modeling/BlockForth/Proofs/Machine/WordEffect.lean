import BlockForth.Proofs.Machine.AtOnce

/-!
# What a built-in word does

A built-in word other than `:` looks at the stack, at the flow registers, and maybe at the listing
of the user words. It either fails and leaves the machine as it was, or it gives the machine another
stack, writes a text, sets the flow registers, and may end the program. This is its `WordEffect`.

`perform_paired` says so of two machines at once, which a word cannot tell apart: it has one effect
on both, and leaves them with paired stacks if they have paired stacks before. Everything that a
word does to the stack is made of a few operations, so a `StackPairing` has to say of these only how
it is kept. With equal stacks, and in particular with one machine, this is `exists_wordEffect`.
-/

namespace BlockForth

/-- What a word does to a machine, apart from the stack that it gives it. -/
inductive WordEffect where
  /-- It fails, and the fault knows no place. -/
  | raise (cause : Cause)
  /-- It fails at the place of the machine. -/
  | fail (cause : Cause)
  /-- It writes a text, sets the flow registers, and ends the program or not. -/
  | finish (text : String) (flow : Flow) (ends : Bool)

/-- The outcome of a word with this effect. If it does not fail, then `s` is the new stack. -/
def WordEffect.on (e : WordEffect) (s : Stack) (m : Machine) : Outcome :=
  match e with
  | raise cause => { machine := m, fault := some (.bare cause) }
  | fail cause => m.fail cause
  | finish text flow ends => .done
    { m with stack := s, output := m.output ++ text, exiting := m.exiting || ends,
             frame := { m.frame with flow := flow } }

/-- The word is one of those that reverse, count, or list the whole stack. -/
def Builtin.SeesWholeStack (w : Builtin) : Prop :=
  w = .reverse ∨ w = .depth ∨ w = .printStack

/-! ## Results of the stack -/

/-- The results are the same fault, or are paired by `rel`. The first one may also be an underflow
if `lacks` holds. -/
def SameResult {α : Type} (lacks : Prop) (rel : α → α → Prop) (r r' : Except Cause α) : Prop :=
  (lacks ∧ r = .error .stackUnderflow) ∨ (∃ cause, r = .error cause ∧ r' = .error cause) ∨
    ∃ a a', r = .ok a ∧ r' = .ok a' ∧ rel a a'

namespace SameResult

variable {α β : Type} {lacks : Prop} {rel : α → α → Prop}

/-- Two results that are paired. -/
theorem ok {a a' : α} (h : rel a a') : SameResult lacks rel (.ok a) (.ok a') :=
  .inr (.inr ⟨a, a', rfl, rfl, h⟩)

/-- A result is the same as itself, if its values are paired with themselves. -/
theorem of_forall (r : Except Cause α) (h : ∀ a, rel a a) : SameResult lacks rel r r := by
  rcases r with cause | a
  · exact .inr (.inl ⟨cause, rfl, rfl⟩)
  · exact ok (h a)

/-- A result that does not depend on the stack. -/
theorem refl (r : Except Cause α) : SameResult lacks Eq r r :=
  of_forall r fun _ => rfl

/-- What is computed in two parts is the same if both parts are. -/
theorem bind {rel' : β → β → Prop} {r r' : Except Cause α} {next next' : α → Except Cause β}
    (h : SameResult lacks rel r r')
    (hnext : ∀ a a', rel a a' → SameResult lacks rel' (next a) (next' a')) :
    SameResult lacks rel' (r >>= next) (r' >>= next') := by
  rcases h with ⟨hlacks, rfl⟩ | ⟨cause, rfl, rfl⟩ | ⟨a, a', rfl, rfl, ha⟩
  · exact .inl ⟨hlacks, rfl⟩
  · exact .inr (.inl ⟨cause, rfl, rfl⟩)
  · exact hnext a a' ha

/-- Goes on with a result that does not depend on the stack. -/
theorem bind_same {rel' : β → β → Prop} (r : Except Cause α) {next next' : α → Except Cause β}
    (hnext : ∀ a, SameResult lacks rel' (next a) (next' a)) :
    SameResult lacks rel' (r >>= next) (r >>= next') := by
  refine (refl r).bind fun a a' ha => ?_
  subst ha
  exact hnext a

end SameResult

/-- A pairing of stacks that is kept when values are put on both or taken off both. -/
structure StackPairing where
  paired : Stack → Stack → Prop
  /-- Whether the first stack may lack values that the second one has. -/
  lacks : Prop
  push {s s' : Stack} (v : Value) : paired s s' → paired (s.push v) (s'.push v)
  pop {s s' : Stack} : paired s s' →
    SameResult lacks (fun p p' => p'.1 = p.1 ∧ paired p.2 p'.2) s.pop s'.pop
  peek {s s' : Stack} (depth : Nat) : paired s s' →
    SameResult lacks Eq (s.peek depth) (s'.peek depth)

namespace StackPairing

/-- Equal stacks. -/
def equal : StackPairing where
  paired := Eq
  lacks := False
  push v h := by rw [h]
  pop h := by
    subst h
    exact .of_forall _ fun _ => ⟨rfl, rfl⟩
  peek depth h := by
    subst h
    exact .refl _

variable {P : StackPairing} {s s' : Stack} {α : Type} {rel : α → α → Prop}

/-- The results are a value and a stack, with equal values and paired stacks. -/
def SameTaken {α : Type} (P : StackPairing) (r r' : Except Cause (α × Stack)) : Prop :=
  SameResult P.lacks (fun p p' => p'.1 = p.1 ∧ P.paired p.2 p'.2) r r'

/-- Values are pushed on top of both stacks. -/
theorem pushAll (h : P.paired s s') (vs : List Value) :
    P.paired (s.pushAll vs) (s'.pushAll vs) := by
  induction vs generalizing s s' with
  | nil => exact h
  | cons v vs ih => exact ih (P.push v h)

/-- Takes a value off both stacks, and goes on. -/
theorem pop_bind (h : P.paired s s') {next next' : Value × Stack → Except Cause α}
    (hnext : ∀ v t t', P.paired t t' → SameResult P.lacks rel (next (v, t)) (next' (v, t'))) :
    SameResult P.lacks rel (s.pop >>= next) (s'.pop >>= next') := by
  refine (P.pop h).bind ?_
  rintro ⟨v, t⟩ ⟨v', t'⟩ ⟨rfl, ht⟩
  exact hnext v' t t' ht

/-- Looks at a value in both stacks, and goes on. -/
theorem peek_bind (h : P.paired s s') (depth : Nat) {next next' : Value → Except Cause α}
    (hnext : ∀ v, SameResult P.lacks rel (next v) (next' v)) :
    SameResult P.lacks rel (s.peek depth >>= next) (s'.peek depth >>= next') := by
  refine (P.peek depth h).bind fun v v' hv => ?_
  subst hv
  exact hnext v

/-- An integer is taken off both stacks, or the same fault is found. -/
theorem popInt (h : P.paired s s') : P.SameTaken s.popInt s'.popInt :=
  pop_bind h fun v _ _ ht => .bind_same v.asInt fun _ => .ok ⟨rfl, ht⟩

/-- A text is taken off both stacks, or the same fault is found. -/
theorem popString (h : P.paired s s') : P.SameTaken s.popString s'.popString :=
  pop_bind h fun v _ _ ht => .bind_same v.asString fun _ => .ok ⟨rfl, ht⟩

/-- A binary word does the same on both stacks. -/
theorem binary (h : P.paired s s') (operator : Value → Value → Except Cause Value) :
    SameResult P.lacks P.paired (s.binary operator) (s'.binary operator) :=
  pop_bind h fun b _ _ h₁ => pop_bind h₁ fun a _ _ h₂ =>
    .bind_same (operator a b) fun v => .ok (P.push v h₂)

end StackPairing

/-! ## Built-in words -/

namespace Machine

/-- The outcomes come from one effect on the two machines, with paired stacks. The first one may
also be an underflow if its stack may lack values. -/
def SameEffect (P : StackPairing) (m m' : Machine) (o o' : Outcome) : Prop :=
  (P.lacks ∧ o = { machine := m, fault := some (.bare .stackUnderflow) }) ∨
    ∃ (e : WordEffect) (s s' : Stack), P.paired s s' ∧ o = e.on s m ∧ o' = e.on s' m'

namespace SameEffect

variable {P : StackPairing} {m m' : Machine} {s s' : Stack} {α : Type} {rel : α → α → Prop}

/-- A failure at the place of each machine is one effect. -/
theorem fail (h : P.paired m.stack m'.stack) (cause : Cause) :
    SameEffect P m m' (m.fail cause) (m'.fail cause) :=
  .inr ⟨.fail cause, m.stack, m'.stack, h, rfl, rfl⟩

/-- Giving each machine its stack is one effect. -/
theorem withStack (hflow : m'.frame.flow = m.frame.flow) (hs : P.paired s s') :
    SameEffect P m m' (.done { m with stack := s }) (.done { m' with stack := s' }) := by
  -- Nothing is written, and the flow registers are set to what they are.
  refine .inr ⟨.finish "" m.frame.flow false, s, s', hs, ?_, ?_⟩
  · rw [WordEffect.on, String.append_empty, Bool.or_false]
  · rw [WordEffect.on, String.append_empty, Bool.or_false, ← hflow]

/-- Writing a text is one effect. -/
theorem write (hflow : m'.frame.flow = m.frame.flow) (hs : P.paired s s') (text : String) :
    SameEffect P m m' (.done ({ m with stack := s }.write text))
      (.done ({ m' with stack := s' }.write text)) := by
  refine .inr ⟨.finish text m.frame.flow false, s, s', hs, ?_, ?_⟩
  · rw [WordEffect.on, Bool.or_false, Machine.write]
  · rw [WordEffect.on, Bool.or_false, ← hflow, Machine.write]

/-- Setting the registers is one effect. -/
theorem setFlow (hs : P.paired s s') (flow : Flow) :
    SameEffect P m m' (.done ({ m with stack := s }.setFlow flow))
      (.done ({ m' with stack := s' }.setFlow flow)) := by
  refine .inr ⟨.finish "" flow false, s, s', hs, ?_, ?_⟩
  · rw [WordEffect.on, String.append_empty, Bool.or_false, Machine.setFlow]
  · rw [WordEffect.on, String.append_empty, Bool.or_false, Machine.setFlow]

/-- Ending the program is one effect. -/
theorem exit (h : P.paired m.stack m'.stack) (hflow : m'.frame.flow = m.frame.flow) :
    SameEffect P m m' (.done { m with exiting := true }) (.done { m' with exiting := true }) := by
  refine .inr ⟨.finish "" m.frame.flow true, m.stack, m'.stack, h, ?_, ?_⟩
  · rw [WordEffect.on, String.append_empty, Bool.or_true]
  · rw [WordEffect.on, String.append_empty, Bool.or_true, ← hflow]

/-- Goes on with paired results. -/
theorem given {r r' : Except Cause α} {next next' : α → Outcome} (h : P.paired m.stack m'.stack)
    (hr : SameResult P.lacks rel r r')
    (hnext : ∀ a a', rel a a' → SameEffect P m m' (next a) (next' a')) :
    SameEffect P m m' (m.given r next) (m'.given r' next') := by
  rcases hr with ⟨hlacks, rfl⟩ | ⟨cause, rfl, rfl⟩ | ⟨a, a', rfl, rfl, ha⟩
  · exact .inl ⟨hlacks, rfl⟩
  · exact .inr ⟨.raise cause, m.stack, m'.stack, h, rfl, rfl⟩
  · exact hnext a a' ha

/-- Goes on with a value that has been taken off both stacks. -/
theorem given_taken {r r' : Except Cause (α × Stack)} {next next' : α × Stack → Outcome}
    (h : P.paired m.stack m'.stack) (hr : P.SameTaken r r')
    (hnext : ∀ v s s', P.paired s s' → SameEffect P m m' (next (v, s)) (next' (v, s'))) :
    SameEffect P m m' (m.given r next) (m'.given r' next') := by
  refine given h hr ?_
  rintro ⟨v, s⟩ ⟨v', s'⟩ ⟨rfl, hs⟩
  exact hnext v' s s' hs

/-- A word that only works on the stack has one effect if its results are the same. -/
theorem onStack {r r' : Except Cause Stack} (h : P.paired m.stack m'.stack)
    (hflow : m'.frame.flow = m.frame.flow) (hr : SameResult P.lacks P.paired r r') :
    SameEffect P m m' (m.onStack r) (m'.onStack r') :=
  given h hr fun _ _ hs => withStack hflow hs

end SameEffect

section Perform

variable {m m' : Machine}

/-- A built-in word has one effect on machines that it cannot tell apart. A word that sees the whole
stack needs equal stacks for that, and the one that lists the user words needs equal listings. -/
theorem perform_paired (P : StackPairing) (hs : P.paired m.stack m'.stack)
    (hflow : m'.frame.flow = m.frame.flow) (w : Builtin) (hw : w ≠ .define)
    (hlisting : w = .printWords → m'.dictionary.listing = m.dictionary.listing)
    (hwhole : w.SeesWholeStack → P.paired = Eq) :
    SameEffect P m m' (m.perform w) (m'.perform w) := by
  have heq : w.SeesWholeStack → m.stack = m'.stack := fun h => hwhole h ▸ hs
  rw [perform_eq_performAtOnce, perform_eq_performAtOnce]
  cases w
  case define => exact absurd rfl hw
  -- These three words see more of the stacks than the pairing speaks of.
  case reverse =>
    refine SameEffect.withStack hflow ?_
    rw [hwhole (.inl rfl), heq (.inl rfl)]
  case depth =>
    refine SameEffect.withStack hflow ?_
    rw [hwhole (.inr (.inl rfl)), heq (.inr (.inl rfl))]
  case printStack =>
    show SameEffect P m m' (.done (m.write _)) (.done (m'.write _))
    rw [heq (.inr (.inr rfl))]
    exact SameEffect.write hflow hs _
  case printWords =>
    show SameEffect P m m' (.done (m.write _)) (.done (m'.write _))
    rw [hlisting rfl]
    exact SameEffect.write hflow hs _
  case divide =>
    exact .onStack hs hflow <| P.pop_bind hs fun b _ _ h₁ => P.pop_bind h₁ fun a _ _ h₂ =>
      .bind_same (a.divide b) fun vs => .ok (P.pushAll h₂ vs)
  case divMod =>
    refine .given_taken hs (P.popInt hs) fun b _ _ h₁ => ?_
    refine .given_taken hs (P.popInt h₁) fun a _ _ h₂ => ?_
    dsimp only
    -- The divisor is looked at when both operands are known to be integers.
    split
    · exact .fail hs _
    · exact .withStack hflow (P.push _ (P.push _ h₂))
  case dup => exact .onStack hs hflow <| P.peek_bind hs 0 fun a => .ok (P.push a hs)
  case «over» => exact .onStack hs hflow <| P.peek_bind hs 1 fun a => .ok (P.push a hs)
  case dup2 =>
    exact .onStack hs hflow <| P.peek_bind hs 1 fun a => P.peek_bind hs 0 fun b =>
      .ok (P.push b (P.push a hs))
  case over2 =>
    exact .onStack hs hflow <| P.peek_bind hs 3 fun a => P.peek_bind hs 2 fun b =>
      .ok (P.push b (P.push a hs))
  case drop => exact .onStack hs hflow <| P.pop_bind hs fun _ _ _ h₁ => .ok h₁
  case drop2 =>
    exact .onStack hs hflow <| P.pop_bind hs fun _ _ _ h₁ => P.pop_bind h₁ fun _ _ _ h₂ => .ok h₂
  case swap =>
    exact .onStack hs hflow <| P.pop_bind hs fun b _ _ h₁ => P.pop_bind h₁ fun a _ _ h₂ =>
      .ok (P.push a (P.push b h₂))
  case rot =>
    exact .onStack hs hflow <| P.pop_bind hs fun c _ _ h₁ => P.pop_bind h₁ fun b _ _ h₂ =>
      P.pop_bind h₂ fun a _ _ h₃ => .ok (P.push a (P.push c (P.push b h₃)))
  case swap2 =>
    exact .onStack hs hflow <| P.pop_bind hs fun d _ _ h₁ => P.pop_bind h₁ fun c _ _ h₂ =>
      P.pop_bind h₂ fun b _ _ h₃ => P.pop_bind h₃ fun a _ _ h₄ =>
        .ok (P.push b (P.push a (P.push d (P.push c h₄))))
  case kind => exact .onStack hs hflow <| P.pop_bind hs fun v _ _ h₁ => .ok (P.push _ h₁)
  case chr =>
    refine .given_taken hs (P.popInt hs) fun code _ _ h₁ => ?_
    dsimp only
    split
    · exact .withStack hflow (P.push _ h₁)
    · exact .fail hs _
  case ord =>
    refine .given_taken hs (P.popString hs) fun text _ _ h₁ => ?_
    dsimp only
    split
    · exact .withStack hflow (P.push _ h₁)
    · exact .fail hs _
  case emit =>
    refine .given_taken hs (P.popInt hs) fun code _ _ h₁ => ?_
    dsimp only
    split
    · exact .write hflow h₁ _
    · exact .fail hs _
  case spaces =>
    refine .given_taken hs (P.popInt hs) fun count _ _ h₁ => ?_
    -- Whether the text would be too long does not depend on what is left of the stack.
    exact .given hs (.refl _) fun _ _ _ => .write hflow h₁ _
  case print => exact .given_taken hs (P.pop hs) fun v _ _ h₁ => .write hflow h₁ _
  case newline | space => exact SameEffect.write hflow hs _
  case bye => exact .exit hs hflow
  case ifTrue =>
    refine .given_taken hs (P.pop hs) fun v _ _ h₁ => ?_
    dsimp only
    rw [hflow]
    exact .setFlow h₁ _
  case times =>
    refine .given_taken hs (P.popInt hs) fun count _ _ h₁ => ?_
    dsimp only
    rw [hflow]
    exact .setFlow h₁ _
  case otherwise =>
    show SameEffect P m m' (.done (m.setFlow _)) (.done (m'.setFlow _))
    rw [hflow]
    exact SameEffect.setFlow hs _
  case endDefinition | endBlock => exact .fail hs _
  -- What is left are the operators on two values.
  all_goals exact .onStack hs hflow (P.binary hs _)

/-- A built-in word has one effect on machines with equal stacks, equal flow registers, and equal
listings of the user words if it writes that listing. -/
theorem exists_wordEffect (hs : m'.stack = m.stack) (hflow : m'.frame.flow = m.frame.flow)
    (w : Builtin) (hw : w ≠ .define)
    (hlisting : w = .printWords → m'.dictionary.listing = m.dictionary.listing) :
    ∃ (e : WordEffect) (s : Stack), m.perform w = e.on s m ∧ m'.perform w = e.on s m' := by
  rcases perform_paired .equal hs.symm hflow w hw hlisting fun _ => rfl with
    ⟨hlacks, -⟩ | ⟨e, s, s', heq, he, he'⟩
  · exact hlacks.elim
  · cases heq
    exact ⟨e, s, he, he'⟩

end Perform

end Machine

end BlockForth
