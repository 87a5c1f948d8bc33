import BlockForth.Proofs.Dictionary.Entries
import BlockForth.Proofs.Machine.Balance

/-!
# Two runs side by side

Many laws of the language compare two runs: of a word and of its body, of a text in one call and in
two, of a program on a stack and on a higher one. `Simulation` holds what such a comparison has to
say about single tokens, machines, and faults, and what it has to show about them: how looking up a
word, storing one, and performing a built-in word keep machines paired. The rest holds of all of
them. `Simulation.stepAll_agree` says that running paired tokens keeps machines paired, and
`Simulation.enter_agree` that nested frames do, as deep as there are levels.

The tokens of the two frames need not lie at the same positions, and what comes after the tokens
that are run need not be paired, unless there is a `:` among them, which reads on.

A fault of the first run may escape the comparison. Nothing is then said about the second run.
-/

namespace BlockForth

/-- A word that is found is in the table under its name. -/
theorem Builtin.exists_mem_table_of_find? {name : String} {w : Builtin}
    (h : Builtin.find? name = some w) : ∃ e ∈ Builtin.table, e.name = name ∧ e.word = w := by
  obtain ⟨entry, hentry, hword⟩ := Option.map_eq_some_iff.1 h
  have hfound := List.find?_some hentry
  exact ⟨entry, List.mem_of_find?_eq_some hentry, beq_iff_eq.1 hfound, hword⟩

/-- Options that are paired by equality are equal. -/
theorem eq_of_rel_eq {α : Type} {a b : Option α} (h : Option.Rel Eq a b) : b = a := by
  cases h with
  | none => rfl
  | some h => rw [h]

/-- The outcomes agree: the machines and the faults are paired, unless the first fault escapes. -/
def Outcome.Agree (machine : Machine → Machine → Prop) (fault : Fault → Fault → Prop)
    (escapes : Fault → Prop) (o o' : Outcome) : Prop :=
  (∃ f, o.fault = some f ∧ escapes f) ∨
    machine o.machine o'.machine ∧ Option.Rel fault o.fault o'.fault

/-- A pairing of the tokens, the machines, and the faults of two runs that every step keeps. -/
structure Simulation where
  token : Token → Token → Prop
  /-- The machines are paired, whatever their frames and depths. -/
  machine : Machine → Machine → Prop
  fault : Fault → Fault → Prop
  /-- The faults of the first run after which nothing is said about the second. -/
  escapes : Fault → Prop
  literal_inv {l : Location} {v : Value} {t' : Token} :
    token (.literal l v) t' → ∃ l', t' = .literal l' v
  block_inv {l : Location} {body : List Token} {t' : Token} : token (.block l body) t' →
    ∃ l' body', t' = .block l' body' ∧ List.Forall₂ token body body'
  word_inv {l : Location} {s : String} {t' : Token} : token (.word l s) t' →
    ∃ l' s', t' = .word l' s' ∧ lowercase s' = lowercase s
  /-- Tokens that may be names of words have paired names. -/
  definable {t t' : Token} : token t t' →
    Option.Rel (fun s s' => lowercase s' = lowercase s) t.definable? t'.definable?
  inFrame {m m' : Machine} (f f' : Frame) (depth depth' : Nat) : machine m m' →
    machine { m with frame := f, depth := depth } { m' with frame := f', depth := depth' }
  exiting {m m' : Machine} : machine m m' → m'.exiting = m.exiting
  reach {m m' : Machine} {t t' : Token} : machine m m' → token t t' →
    machine { m with location := some t.location } { m' with location := some t'.location }
  push {m m' : Machine} (v : Value) : machine m m' →
    machine { m with stack := m.stack.push v } { m' with stack := m'.stack.push v }
  call {m m' : Machine} {l l' : Location} {s s' : String} : machine m m' →
    token (.word l s) (.word l' s') →
    machine { m with calls := ⟨lowercase s, l⟩ :: m.calls }
      { m' with calls := ⟨lowercase s', l'⟩ :: m'.calls }
  goBack {m m' : Machine} : machine m m' →
    machine { m with calls := m.calls.tail } { m' with calls := m'.calls.tail }
  find {m m' : Machine} (name : String) : machine m m' →
    Option.Rel (fun e e' => List.Forall₂ token e.body e'.body)
      (m.dictionary.find? name) (m'.dictionary.find? name)
  insert {m m' : Machine} {s s' : String} {body body' : List Token} : machine m m' →
    lowercase s' = lowercase s → List.Forall₂ token body body' →
    machine { m with dictionary := m.dictionary.insert s (m.location.getD {}) body }
      { m' with dictionary := m'.dictionary.insert s' (m'.location.getD {}) body' }
  /-- A built-in word other than `:` keeps the machines paired and their flow registers equal. -/
  perform {m m' : Machine} {l : Location} {s : String} {t' : Token} {w : Builtin} :
    machine m m' → m'.frame.flow = m.frame.flow → token (.word l s) t' →
    Builtin.find? (lowercase s) = some w → w ≠ .define →
    Outcome.Agree (fun n n' => machine n n' ∧ n'.frame.flow = n.frame.flow) fault escapes
      (m.perform w) (m'.perform w)
  fail {m m' : Machine} (cause : Cause) : machine m m' →
    fault (m.faultHere cause) (m'.faultHere cause)
  failUnknown {m m' : Machine} {l l' : Location} {s s' : String} : machine m m' →
    token (.word l s) (.word l' s') →
    fault (m.faultHere (.unknownWord s)) (m'.faultHere (.unknownWord s'))
  failName {m m' : Machine} {t t' : Token} : machine m m' → token t t' →
    fault (m.faultHere (.invalidName t.text)) (m'.faultHere (.invalidName t'.text))
  context {m m' : Machine} {f f' : Fault} {t t' : Token} : machine m m' → fault f f' →
    token t t' → fault (f.inContext t.location m.calls) (f'.inContext t'.location m'.calls)
  escapes_context {f : Fault} (l : Location) (calls : List Call) : escapes f →
    escapes (f.inContext l calls)

namespace Simulation

open Machine

variable {S : Simulation}

/-- The frames have paired tokens from where they are on. -/
def Ahead (S : Simulation) (f f' : Frame) : Prop :=
  f.position < f.tokens.length ∧
    List.Forall₂ S.token (f.tokens.drop f.position) (f'.tokens.drop f'.position)

/-- The machines are paired, their flow registers are equal, and the positions of their frames are
as far from `i` and from `i'`. If the tokens that follow may be read, then they are paired too. -/
structure Beside (S : Simulation) (i i' : Nat) (reads : Prop) (m m' : Machine) : Prop where
  machine : S.machine m m'
  flow : m'.frame.flow = m.frame.flow
  offset : m.frame.position + i' = m'.frame.position + i
  ahead : reads → S.Ahead m.frame m'.frame

/-- The outcomes agree, with machines that `paired` holds of. -/
def Agree (S : Simulation) (paired : Machine → Machine → Prop) (o o' : Outcome) : Prop :=
  o.Agree paired S.fault S.escapes o'

section Agree

variable {P Q : Machine → Machine → Prop} {o o' : Outcome} {m m' : Machine}

/-- Two runs without a fault agree if their machines are paired. -/
theorem agree_done (h : P m m') : S.Agree P (.done m) (.done m') :=
  .inr ⟨h, .none⟩

/-- Two runs that fail agree if their machines and their faults are paired. -/
theorem agree_fail {cause cause' : Cause} (h : P m m')
    (hfault : S.fault (m.faultHere cause) (m'.faultHere cause')) :
    S.Agree P (m.fail cause) (m'.fail cause') :=
  .inr ⟨h, .some hfault⟩

/-- The first fault escapes, or both runs go on, or both have failed. -/
theorem Agree.cases (h : S.Agree P o o') :
    (∃ n f, o = ⟨n, some f⟩ ∧ S.escapes f) ∨
    (∃ n n', o = ⟨n, none⟩ ∧ o' = ⟨n', none⟩ ∧ P n n') ∨
    ∃ n n' f f', o = ⟨n, some f⟩ ∧ o' = ⟨n', some f'⟩ ∧ P n n' ∧ S.fault f f' := by
  obtain ⟨n, fault⟩ := o
  obtain ⟨n', fault'⟩ := o'
  rcases h with ⟨f, hf, hescapes⟩ | ⟨hmachine, hfault⟩
  · cases hf
    exact .inl ⟨n, f, rfl, hescapes⟩
  · cases hfault with
    | none => exact .inr (.inl ⟨n, n', rfl, rfl, hmachine⟩)
    | some hfault => exact .inr (.inr ⟨n, n', _, _, rfl, rfl, hmachine, hfault⟩)

/-- Less may be asked of the machines. -/
theorem Agree.mono (h : S.Agree P o o') (himp : ∀ n n', P n n' → Q n n') : S.Agree Q o o' := by
  rcases h with hescapes | ⟨hmachine, hfault⟩
  · exact .inl hescapes
  · exact .inr ⟨himp _ _ hmachine, hfault⟩

end Agree

/-! ## Tokens and names -/

variable {t t' : Token} {m m' : Machine} {i i' : Nat} {reads : Prop}

/-- Paired tokens have one name. -/
theorem name?_eq (h : S.token t t') : t'.name? = t.name? := by
  cases t with
  | word l s =>
    obtain ⟨l', s', rfl, hname⟩ := S.word_inv h
    rw [Token.name?, Token.name?, hname]
  | literal l v =>
    obtain ⟨l', rfl⟩ := S.literal_inv h
    rfl
  | block l body =>
    obtain ⟨l', body', rfl, -⟩ := S.block_inv h
    rfl

/-- Paired tokens have the same names. -/
theorem isNamed_eq (h : S.token t t') (name : String) : t'.isNamed name = t.isNamed name := by
  rw [Token.isNamed, Token.isNamed, name?_eq h]

/-- Of two options that are paired both are there or none. -/
theorem isSome_eq_of_rel {α β : Type} {r : α → β → Prop} {a : Option α} {b : Option β}
    (h : Option.Rel r a b) : b.isSome = a.isSome := by
  cases h with
  | some _ => rfl
  | none => rfl

/-- A name has an entry in both machines or in none. -/
theorem contains_eq (h : S.machine m m') (name : String) :
    m'.dictionary.contains name = m.dictionary.contains name :=
  isSome_eq_of_rel (S.find name h)

/-- Paired tokens both start a definition or both do not. -/
theorem startsDefinition_eq (h : S.machine m m') (ht : S.token t t') :
    m'.startsDefinition t' = m.startsDefinition t := by
  rw [startsDefinition, startsDefinition, isNamed_eq ht, contains_eq h]

/-- Paired tokens both are user words or both are not. -/
theorem isUserWord_eq (h : S.machine m m') (ht : S.token t t') :
    m'.isUserWord t' = m.isUserWord t := by
  cases t with
  | word l s =>
    obtain ⟨l', s', rfl, hname⟩ := S.word_inv ht
    show m'.dictionary.contains s' = m.dictionary.contains s
    have hspelling : m'.dictionary.contains s' = m'.dictionary.contains s := by
      unfold Dictionary.contains
      rw [m'.dictionary.find?_congr hname]
    rw [hspelling, contains_eq h]
  | literal l v =>
    obtain ⟨l', rfl⟩ := S.literal_inv ht
    rfl
  | block l body =>
    obtain ⟨l', body', rfl, -⟩ := S.block_inv ht
    rfl

/-! ## Definitions

A definition reads the tokens that follow, so it needs them paired. It then moves both frames by the
same number of tokens. -/

namespace Beside

/-- Moving both frames on by `k` tokens, but not past the last one. -/
theorem moveTo {p p' : Nat} (h : S.Beside i i' reads m m') (k : Nat)
    (hp : p = m.frame.position + k) (hp' : p' = m'.frame.position + k)
    (hlt : p < m.frame.tokens.length) : S.Beside i i' reads (m.moveTo p) (m'.moveTo p') := by
  refine ⟨S.inFrame _ _ _ _ h.machine, h.flow, ?_, fun hreads => ⟨hlt, ?_⟩⟩
  · have hoffset := h.offset
    show p + i' = p' + i
    omega
  · have hdrop := List.forall₂_drop k (h.ahead hreads).2
    rw [List.drop_drop, List.drop_drop, ← hp, ← hp'] at hdrop
    exact hdrop

/-- The same registers keep two machines beside each other. -/
theorem setFlow (h : S.Beside i i' reads m m') (flow : Flow) :
    S.Beside i i' reads (m.setFlow flow) (m'.setFlow flow) :=
  ⟨S.inFrame _ _ _ _ h.machine, rfl, h.offset, h.ahead⟩

end Beside

/-- Both definitions are malformed, and both frames stay at the token that shows it. -/
theorem agree_fail_moveTo {p p' : Nat} (h : S.Beside i i' reads m m') (k : Nat) (cause : Cause)
    (hp : p = m.frame.position + k) (hp' : p' = m'.frame.position + k)
    (hlt : p < m.frame.tokens.length) :
    S.Agree (S.Beside i i' reads) ((m.moveTo p).fail cause) ((m'.moveTo p').fail cause) := by
  have hmoved := h.moveTo k hp hp' hlt
  exact agree_fail hmoved (S.fail cause hmoved.machine)

/-- Paired tokens have as many ones in front that do not end a definition. -/
theorem forall₂_takeWhile {ts ts' : List Token} (h : List.Forall₂ S.token ts ts') :
    List.Forall₂ S.token (ts.takeWhile (!·.endsDefinition))
      (ts'.takeWhile (!·.endsDefinition)) := by
  induction h with
  | nil => exact .nil
  | @cons u u' us us' ht _ ih =>
    have hends : u'.endsDefinition = u.endsDefinition := isNamed_eq ht ";"
    rw [List.takeWhile_cons, List.takeWhile_cons, hends]
    split
    · exact .cons ht ih
    · exact .nil

/-- Definitions agree, since the tokens that they read are paired. -/
theorem define_agree (h : S.Beside i i' reads m m') (hreads : reads) :
    S.Agree (S.Beside i i' reads) m.define m'.define := by
  obtain ⟨hlt, hdrop⟩ := h.ahead hreads
  have hlengths := hdrop.length_eq
  rw [List.length_drop, List.length_drop] at hlengths
  -- Both frames are among their tokens, where the next position is one further.
  have hnext : m.frame.next = m.frame.position + 1 := Frame.next_of_lt hlt
  have hnext' : m'.frame.next = m'.frame.position + 1 := Frame.next_of_lt (by omega)
  have hrest := List.forall₂_drop 1 hdrop
  rw [List.drop_drop, List.drop_drop] at hrest
  rw [define_eq, define_eq, defineAtOnce, defineAtOnce, hnext, hnext']
  dsimp only
  rcases hleft : m.frame.tokens.drop (m.frame.position + 1) with _ | ⟨t, rest⟩
  · rw [hleft] at hrest
    rw [List.forall₂_nil_left_iff.1 hrest]
    exact agree_fail h (S.fail _ h.machine)
  · rw [hleft] at hrest
    obtain ⟨t', rest', ht, htail, hright⟩ := List.forall₂_cons_left_iff.1 hrest
    have hlength : m.frame.position + 1 + (rest.length + 1) = m.frame.tokens.length := by
      have hdropped := congrArg List.length hleft
      rw [List.length_drop, List.length_cons] at hdropped
      omega
    rw [hright]
    dsimp only
    have hname := S.definable ht
    -- Either neither token may be a name, or the two words are stored under one name.
    generalize t.definable? = name? at hname ⊢
    generalize t'.definable? = name?' at hname ⊢
    cases hname with
    | none =>
      have hmoved := h.moveTo 1 rfl rfl (by omega)
      exact agree_fail hmoved (S.failName hmoved.machine ht)
    | @some name name' hname =>
      have hbody := forall₂_takeWhile htail
      have hlengthBody := hbody.length_eq
      have hlengthTail := htail.length_eq
      dsimp only
      split
      · rename_i hclosed
        rw [if_pos (by omega)]
        have hstored := Beside.mk (S.insert h.machine hname hbody) h.flow h.offset h.ahead
        refine agree_done
          (hstored.moveTo (2 + (rest.takeWhile (!·.endsDefinition)).length) ?_ ?_ ?_)
        all_goals dsimp only
        all_goals omega
      · rw [if_neg (by omega)]
        refine agree_fail_moveTo h (1 + rest.length) _ ?_ ?_ ?_
        all_goals omega

/-- Definitions that are passed over agree. -/
theorem passDefinition_agree (h : S.Beside i i' reads m m') (hreads : reads) :
    S.Agree (S.Beside i i' reads) m.passDefinition m'.passDefinition := by
  obtain ⟨hlt, hdrop⟩ := h.ahead hreads
  have hrest := List.forall₂_drop 1 hdrop
  rw [List.drop_drop, List.drop_drop] at hrest
  have hlengthRest := hrest.length_eq
  have hlengthPassed := (forall₂_takeWhile hrest).length_eq
  have hlength := List.length_drop (i := m.frame.position + 1) (l := m.frame.tokens)
  have hlt' : m'.frame.position < m'.frame.tokens.length := by
    have hlengths := hdrop.length_eq
    rw [List.length_drop, List.length_drop] at hlengths
    omega
  -- Both scans are over paired tokens, so they have the same length.
  rw [passDefinition_eq hlt, passDefinition_eq hlt', passDefinitionAtOnce, passDefinitionAtOnce]
  split
  · rename_i hclosed
    rw [if_pos (by omega)]
    refine agree_done (h.moveTo
      (1 + ((m.frame.tokens.drop (m.frame.position + 1)).takeWhile (!·.endsDefinition)).length)
      ?_ ?_ ?_)
    all_goals omega
  · rw [if_neg (by omega)]
    refine agree_fail_moveTo h (m.frame.tokens.drop (m.frame.position + 1)).length _ ?_ ?_ ?_
    all_goals omega

/-- Two `:` that are reached agree, whether they define or are passed over. -/
theorem runDefinition_agree (h : S.Beside i i' reads m m') (hreads : reads) :
    S.Agree (S.Beside i i' reads) m.runDefinition m'.runDefinition := by
  unfold runDefinition
  rw [h.flow]
  dsimp only
  split
  · exact passDefinition_agree h hreads
  · exact define_agree (h.setFlow _) hreads

/-! ## Tokens -/

/-- The machines are paired, and their flow registers are equal. -/
def Together (S : Simulation) (m m' : Machine) : Prop :=
  S.machine m m' ∧ m'.frame.flow = m.frame.flow

/-- The two ways to run a frame agree on paired tokens and equal flow registers. -/
def InnerAgree (S : Simulation) (inner inner' : Inner) : Prop :=
  ∀ (tokens tokens' : List Token) (flow : Flow) (m m' : Machine),
    List.Forall₂ S.token tokens tokens' → S.Together m m' →
    S.Agree S.Together (inner { tokens := tokens, flow := flow } m)
      (inner' { tokens := tokens', flow := flow } m')

variable {inner inner' : Inner} {body body' : List Token}

/-- The two blocks give back the frames that they are in. -/
theorem runBlock_agree (hinner : S.InnerAgree inner inner') (h : S.Beside i i' reads m m')
    (hbody : List.Forall₂ S.token body body') :
    S.Agree (S.Beside i i' reads) (m.runBlock inner body) (m'.runBlock inner' body') := by
  rcases hinner body body' {} m m' hbody ⟨h.machine, h.flow⟩ with hescapes | ⟨⟨hmachine, -⟩, hfault⟩
  · exact .inl hescapes
  · exact .inr ⟨⟨S.inFrame _ _ _ _ hmachine, h.flow, h.offset, h.ahead⟩, hfault⟩

/-- The two bodies hand their flow registers back, or both leave those of their callers. -/
theorem runBody_agree (hinner : S.InnerAgree inner inner') (h : S.Beside i i' reads m m')
    {l l' : Location} {s s' : String} (ht : S.token (.word l s) (.word l' s'))
    (hbody : List.Forall₂ S.token body body') :
    S.Agree (S.Beside i i' reads) (m.runBody inner ⟨lowercase s, l⟩ body)
      (m'.runBody inner' ⟨lowercase s', l'⟩ body') := by
  have hcall := S.call h.machine ht
  unfold runBody
  rw [h.flow]
  rcases hinner body body' m.frame.flow _ _ hbody ⟨hcall, h.flow⟩ with
    hescapes | ⟨⟨hmachine, hflow⟩, hfault⟩
  · exact .inl hescapes
  · refine .inr ⟨⟨S.inFrame _ _ _ _ (S.goBack hmachine), ?_, h.offset, h.ahead⟩, hfault⟩
    -- Whether the registers are handed back depends on the fault alone.
    have hnone := isSome_eq_of_rel hfault
    rw [← Option.not_isNone, ← Option.not_isNone, Bool.not_inj_iff] at hnone
    dsimp only
    rw [hnone, hflow]

/-- The `:` of the table has no other name. -/
theorem eq_colon_of_find? {name : String} (h : Builtin.find? name = some .define) : name = ":" := by
  obtain ⟨entry, hentry, hname, hword⟩ := Builtin.exists_mem_table_of_find? h
  have htable : ∀ e ∈ Builtin.table, e.word = .define → e.name = ":" := by decide
  rw [← hname]
  exact htable entry hentry hword

/-- A word is a user word for both machines, or performed by both, or unknown to both. -/
theorem runWord_agree (hinner : S.InnerAgree inner inner') (h : S.Beside i i' reads m m')
    {l l' : Location} {s s' : String} (ht : S.token (.word l s) (.word l' s'))
    (hreads : (Token.word l s).isNamed ":" = true → reads) :
    S.Agree (S.Beside i i' reads) (m.runWord inner l s) (m'.runWord inner' l' s') := by
  have hname : lowercase s' = lowercase s := by
    obtain ⟨_, _, heq, hlower⟩ := S.word_inv ht
    cases heq
    exact hlower
  have hfind := S.find (lowercase s) h.machine
  unfold runWord
  rw [hname]
  dsimp only
  generalize m.dictionary.find? (lowercase s) = e at hfind ⊢
  generalize m'.dictionary.find? (lowercase s) = e' at hfind ⊢
  cases hfind with
  | some hbody =>
    have hagree := runBody_agree hinner h ht hbody
    rw [hname] at hagree
    exact hagree
  | none =>
    rcases hbuiltin : Builtin.find? (lowercase s) with _ | w
    · exact agree_fail h (S.failUnknown h.machine ht)
    · by_cases hw : w = .define
      · subst hw
        refine define_agree h (hreads ?_)
        have hcolon := eq_colon_of_find? hbuiltin
        simp [Token.isNamed, Token.name?, hcolon]
      · -- The other words leave the tokens and the position of the frame alone.
        obtain ⟨_, _, _, _, hkept⟩ := perform_onlyValues m w hw
        obtain ⟨_, _, _, _, hkept'⟩ := perform_onlyValues m' w hw
        rcases S.perform h.machine h.flow ht hbuiltin hw with hescapes | ⟨⟨hmachine, hflow⟩, hfault⟩
        · exact .inl hescapes
        · refine .inr ⟨⟨hmachine, hflow, ?_, ?_⟩, hfault⟩
          · rw [hkept, hkept']
            exact h.offset
          · rw [hkept, hkept']
            exact h.ahead

/-- Paired tokens run alike. -/
theorem runToken_agree (hinner : S.InnerAgree inner inner') (h : S.Beside i i' reads m m')
    (ht : S.token t t') (hreads : t.isNamed ":" = true → reads) :
    S.Agree (S.Beside i i' reads) (m.runToken inner t) (m'.runToken inner' t') := by
  cases t with
  | word l s =>
    obtain ⟨l', s', rfl, -⟩ := S.word_inv ht
    exact runWord_agree hinner h ht hreads
  | literal l v =>
    obtain ⟨l', rfl⟩ := S.literal_inv ht
    exact agree_done ⟨S.push v h.machine, h.flow, h.offset, h.ahead⟩
  | block l body =>
    obtain ⟨l', body', rfl, hbody⟩ := S.block_inv ht
    exact runBlock_agree hinner h hbody

/-- Repetitions of paired tokens run alike, by induction on their number. -/
theorem repeatToken_agree (hinner : S.InnerAgree inner inner') (ht : S.token t t')
    (hreads : t.isNamed ":" = true → reads) (count : Nat) (h : S.Beside i i' reads m m') :
    S.Agree (S.Beside i i' reads) (repeatToken inner t count m)
      (repeatToken inner' t' count m') := by
  induction count generalizing m m' with
  | zero => exact agree_done h
  | succ count ih =>
    rw [repeatToken, repeatToken, S.exiting h.machine]
    split
    · exact agree_done h
    · rcases (runToken_agree hinner h ht hreads).cases with
        ⟨n, f, ho, hescapes⟩ | ⟨n, n', ho, ho', hbeside⟩ | ⟨n, n', f, f', ho, ho', hbeside, hfault⟩
      · rw [ho]
        exact .inl ⟨f, rfl, hescapes⟩
      · rw [ho, ho']
        exact ih hbeside
      · rw [ho, ho']
        exact .inr ⟨hbeside, .some hfault⟩

/-- Paired tokens that are reached are run or passed over alike. -/
theorem runReached_agree (hinner : S.InnerAgree inner inner') (h : S.Beside i i' reads m m')
    (ht : S.token t t') (hreads : t.isNamed ":" = true → reads) :
    S.Agree (S.Beside i i' reads) (m.runReached inner t) (m'.runReached inner' t') := by
  have hreached : S.Beside i i' reads { m with location := some t.location }
      { m' with location := some t'.location } :=
    ⟨S.reach h.machine ht, h.flow, h.offset, h.ahead⟩
  unfold runReached
  dsimp only
  rw [startsDefinition_eq h.machine ht]
  split
  · rename_i hstarts
    rw [startsDefinition, Bool.and_eq_true] at hstarts
    exact runDefinition_agree hreached (hreads hstarts.1)
  · unfold runUnit
    dsimp only
    rw [h.flow]
    split
    · exact agree_done hreached
    · exact repeatToken_agree hinner ht hreads _ (hreached.setFlow _)

/-! ## Steps and frames -/

/-- What is done at the end of a token keeps the outcomes in agreement. -/
theorem conclude_agree {o o' : Outcome} (ht : S.token t t') (inlined : Bool)
    (h : S.Agree (S.Beside i i' reads) o o') :
    S.Agree (S.Beside i i' False) (conclude t inlined o) (conclude t' inlined o') := by
  rcases h.cases with
    ⟨n, f, rfl, hescapes⟩ | ⟨n, n', rfl, rfl, hbeside⟩ | ⟨n, n', f, f', rfl, rfl, hbeside, hfault⟩
  · exact .inl ⟨_, rfl, S.escapes_context _ _ hescapes⟩
  · have hmachine := S.inFrame (n.finishToken inlined).frame (n'.finishToken inlined).frame n.depth
      n'.depth hbeside.machine
    have hoffset := hbeside.offset
    refine agree_done ⟨hmachine, ?_, ?_, False.elim⟩
    · simp only [finishToken, moveTo, setFlow, hbeside.flow]
    · show n.frame.position + 1 + i' = n'.frame.position + 1 + i
      omega
  · obtain ⟨hmachine, hflow, hoffset, -⟩ := hbeside
    exact .inr ⟨⟨hmachine, hflow, hoffset, False.elim⟩, .some (S.context hmachine hfault ht)⟩

/-- A step on paired tokens. A `:` needs the tokens that follow it paired as well. -/
theorem step_agree (hinner : S.InnerAgree inner inner') (h : S.Beside i i' reads m m')
    (ht : S.token t t') (hreads : t.isNamed ":" = true → reads) :
    S.Agree (S.Beside i i' False) (m.step inner t) (m'.step inner' t') := by
  have hreached := runReached_agree hinner h ht hreads
  have hinlined : (m'.frame.flow.skip == 0 && m'.isUserWord t') =
      (m.frame.flow.skip == 0 && m.isUserWord t) := by
    rw [h.flow, isUserWord_eq h.machine ht]
  rw [step, step, hinlined]
  exact conclude_agree ht _ hreached

/-- Being as far from `i` and `i'` is being as far from the places that follow them. -/
theorem beside_succ_iff : S.Beside (i + 1) (i' + 1) reads m m' ↔ S.Beside i i' reads m m' := by
  constructor
  · rintro ⟨hmachine, hflow, hoffset, hahead⟩
    exact ⟨hmachine, hflow, by omega, hahead⟩
  · rintro ⟨hmachine, hflow, hoffset, hahead⟩
    exact ⟨hmachine, hflow, by omega, hahead⟩

/-- Running paired tokens. If there is a `:` among them, then they have to be all that is left of
their frames, since a definition may take any part of that. -/
theorem stepAll_agree (hinner : S.InnerAgree inner inner') (hbalanced : Balanced inner)
    (hbalanced' : Balanced inner') {ts ts' : List Token} (hts : List.Forall₂ S.token ts ts')
    (h : S.Beside i i' False m m') (hposition : i ≤ m.frame.position)
    (hlength : i + ts.length ≤ m.frame.tokens.length)
    (hreads : (∃ t ∈ ts, t.isNamed ":" = true) →
      m.frame.tokens.drop i = ts ∧ m'.frame.tokens.drop i' = ts') :
    S.Agree (S.Beside i i' False) (stepAll inner i ts m) (stepAll inner' i' ts' m') := by
  induction hts generalizing i i' m m' with
  | nil => exact agree_done h
  | @cons t t' rest rest' ht hrest ih =>
    have hoffset := h.offset
    rw [List.length_cons] at hlength
    have htail : ∀ n n' : Machine, n.frame.tokens = m.frame.tokens →
        n'.frame.tokens = m'.frame.tokens → (∃ t ∈ rest, t.isNamed ":" = true) →
        n.frame.tokens.drop (i + 1) = rest ∧ n'.frame.tokens.drop (i' + 1) = rest' := by
      rintro n n' htokens htokens' ⟨u, hu, hnamed⟩
      obtain ⟨hdrop, hdrop'⟩ := hreads ⟨u, List.mem_cons_of_mem t hu, hnamed⟩
      rw [htokens, htokens', ← List.tail_drop, ← List.tail_drop, hdrop, hdrop']
      exact ⟨rfl, rfl⟩
    rw [stepAll, stepAll, S.exiting h.machine]
    split
    · exact agree_done h
    · by_cases hpast : i < m.frame.position
      · -- A definition has taken the token along, in both frames.
        rw [if_pos hpast, if_pos (by omega)]
        have hagree := ih (beside_succ_iff.2 h) hpast (by omega) (htail m m' rfl rfl)
        exact hagree.mono fun n n' hbeside => beside_succ_iff.1 hbeside
      · -- Otherwise both frames are at the token, since neither ever is behind it.
        have hhere : m.frame.position = i := by omega
        have hhere' : m'.frame.position = i' := by omega
        have hahead : S.Beside i i' (∃ u ∈ t :: rest, u.isNamed ":" = true) m m' := by
          refine ⟨h.machine, h.flow, hoffset, fun hnamed => ⟨by omega, ?_⟩⟩
          obtain ⟨hdrop, hdrop'⟩ := hreads hnamed
          rw [hhere, hhere', hdrop, hdrop']
          exact .cons ht hrest
        have hstep := step_agree hinner hahead ht fun hnamed => ⟨t, List.mem_cons_self, hnamed⟩
        have hframe := step_sameFrame hbalanced t m
        have hframe' := step_sameFrame hbalanced' t' m'
        rw [if_neg hpast, if_neg (by omega)]
        rcases hstep.cases with ⟨n, f, ho, hescapes⟩ | ⟨n, n', ho, ho', hbeside⟩ |
          ⟨n, n', f, f', ho, ho', hbeside, hfault⟩
        · rw [ho]
          exact .inl ⟨f, rfl, hescapes⟩
        · obtain ⟨hmoved, -⟩ := position_of_step hbalanced (by omega) ho
          rw [ho] at hframe ⊢
          rw [ho'] at hframe' ⊢
          have htokens : n.frame.tokens = m.frame.tokens := hframe.tokens
          have hagree := ih (beside_succ_iff.2 hbeside) (by omega) (by rw [htokens]; omega)
            (htail n n' htokens hframe'.tokens)
          exact hagree.mono fun _ _ hbeside => beside_succ_iff.1 hbeside
        · rw [ho, ho']
          exact .inr ⟨hbeside, .some hfault⟩

/-- Running the frames of paired machines, with paired tokens from where they are on, moves both
frames equally far. -/
theorem runFrameWith_beside (hinner : S.InnerAgree inner inner') (hbalanced : Balanced inner)
    (hbalanced' : Balanced inner') (hmachine : S.machine m m')
    (hflow : m'.frame.flow = m.frame.flow)
    (htokens : List.Forall₂ S.token (m.frame.tokens.drop m.frame.position)
      (m'.frame.tokens.drop m'.frame.position)) :
    S.Agree (S.Beside m.frame.position m'.frame.position False) (m.runFrameWith inner)
      (m'.runFrameWith inner') := by
  have hbeside : S.Beside m.frame.position m'.frame.position False m m' :=
    ⟨hmachine, hflow, Nat.add_comm _ _, False.elim⟩
  by_cases hposition : m.frame.position ≤ m.frame.tokens.length
  · have hlength : m.frame.position + (m.frame.tokens.drop m.frame.position).length ≤
        m.frame.tokens.length := by
      rw [List.length_drop]
      omega
    exact stepAll_agree hinner hbalanced hbalanced' htokens hbeside (Nat.le_refl _) hlength
      fun _ => ⟨rfl, rfl⟩
  · -- The frames are past their ends, so there is nothing to run.
    have hnil : m.frame.tokens.drop m.frame.position = [] :=
      List.drop_eq_nil_of_le (Nat.le_of_not_le hposition)
    rw [hnil] at htokens
    rw [runFrameWith, runFrameWith, hnil, List.forall₂_nil_left_iff.1 htokens]
    exact agree_done hbeside

/-- Nested frames agree. If the second run has more levels left, then the fault of nesting too deep
has to escape. -/
theorem enter_agree {levels levels' : Nat} (hle : levels ≤ levels')
    (hescapes : levels < levels' → ∀ m : Machine, S.escapes (m.faultHere .nestedTooDeep)) :
    S.InnerAgree (enter levels) (enter levels') := by
  induction levels generalizing levels' with
  | zero =>
    intro tokens tokens' flow m m' htokens hmachine
    cases levels' with
    | zero => exact agree_fail hmachine (S.fail _ hmachine.1)
    | succ levels' => exact .inl ⟨_, rfl, hescapes (Nat.succ_pos _) m⟩
  | succ levels ih =>
    intro tokens tokens' flow m m' htokens hmachine
    obtain ⟨levels', rfl⟩ := Nat.exists_eq_succ_of_ne_zero (Nat.ne_zero_of_lt hle)
    have hinner := ih (Nat.le_of_succ_le_succ hle) fun hlt => hescapes (Nat.succ_lt_succ hlt)
    let n : Machine := { m with frame := ⟨tokens, 0, flow⟩, depth := m.depth + 1 }
    let n' : Machine := { m' with frame := ⟨tokens', 0, flow⟩, depth := m'.depth + 1 }
    have hentered : S.machine n n' := S.inFrame _ _ _ _ hmachine.1
    have hrun := runFrameWith_beside hinner (enter_balanced _) (enter_balanced _) hentered rfl
      htokens
    rcases hrun with hescapes | ⟨hleft, hfault⟩
    · exact .inl hescapes
    · exact .inr ⟨⟨S.inFrame _ _ _ _ hleft.machine, hleft.flow⟩, hfault⟩

/-- With as many levels left in both runs, no fault has to escape. -/
theorem enter_agree_self (levels : Nat) : S.InnerAgree (enter levels) (enter levels) :=
  enter_agree (Nat.le_refl _) fun hlt => absurd hlt (Nat.lt_irrefl _)

end Simulation

end BlockForth
