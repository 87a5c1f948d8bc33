import BlockForth.Machine.Run

/-!
# What a definition does

A definition is read token by token. `run_readBody_end`, `run_readBody_step`, and `run_readBody_nil`
say what one round of that does, and `run_readBody_of_end` and `run_readBody_of_open` say, by
induction over the tokens ahead, where the reading of a body ends and with which tokens. So storing
a definition and passing over it come to scans of the tokens ahead (`define_eq`,
`passDefinition_eq`).

A definition that is run either fails and stores nothing, or it stores one word. The name and the
body of the word are tokens of the frame, and none of the body ends a definition.
`runDefinition_cases` says so, with the machine that is left in each case. A definition that is
passed over stores nothing either.
-/

namespace BlockForth

/-! ## Reading on -/

namespace Frame

/-- The tokens after the current one. -/
def ahead (f : Frame) : List Token :=
  f.tokens.drop f.next

/-- Where the frame is when all of its tokens have been read: at the last one, unless there is none
ahead. -/
def lastRead (f : Frame) : Nat :=
  if f.next < f.tokens.length then f.tokens.length - 1 else f.position

variable {f : Frame} {t : Token} {rest : List Token}

/-- The tokens ahead reach up to the end of the frame. -/
theorem length_of_ahead (h : f.ahead = t :: rest) :
    f.next + 1 + rest.length = f.tokens.length := by
  have hlength := congrArg List.length h
  rw [ahead, List.length_drop, List.length_cons] at hlength
  omega

/-- With no token ahead, all have been read. -/
theorem lastRead_of_ahead_nil (h : f.ahead = []) : f.lastRead = f.position :=
  if_neg (Nat.not_lt.2 (List.drop_eq_nil_iff.1 h))

/-- The last token is as far as the tokens ahead reach. -/
theorem lastRead_of_ahead (h : f.ahead = t :: rest) : f.lastRead = f.next + rest.length := by
  have hlength := length_of_ahead h
  rw [lastRead, if_pos (by omega)]
  omega

end Frame

namespace Machine

variable {m : Machine} {t : Token} {rest : List Token}

/-- Without a token ahead, the frame stays where it is. -/
theorem nextToken_of_ahead_nil (h : m.frame.ahead = []) : m.nextToken = (none, m) := by
  unfold nextToken
  rw [← List.head?_drop, ← Frame.ahead, h]
  rfl

/-- With a token ahead, that one is read. -/
theorem nextToken_of_ahead (h : m.frame.ahead = t :: rest) :
    m.nextToken = (some t, m.moveTo m.frame.next) := by
  unfold nextToken
  rw [← List.head?_drop, ← Frame.ahead, h]
  rfl

/-- When a token has been read, the tokens behind it are ahead. -/
theorem ahead_moveTo_next (h : m.frame.ahead = t :: rest) :
    (m.moveTo m.frame.next).frame.next = m.frame.next + 1 ∧
      (m.moveTo m.frame.next).frame.ahead = rest := by
  have hlength := Frame.length_of_ahead h
  have hnext : (m.moveTo m.frame.next).frame.next = m.frame.next + 1 :=
    Frame.next_of_lt (show m.frame.next < m.frame.tokens.length by omega)
  refine ⟨hnext, ?_⟩
  rw [Frame.ahead, hnext]
  show m.frame.tokens.drop (m.frame.next + 1) = rest
  rw [← List.tail_drop, ← Frame.ahead, h]
  rfl

/-- Reading a token does not change where the reading can get to. -/
theorem lastRead_moveTo_next (h : m.frame.ahead = t :: rest) :
    (m.moveTo m.frame.next).frame.lastRead = m.frame.lastRead := by
  obtain ⟨hnext, hahead⟩ := ahead_moveTo_next h
  rw [Frame.lastRead_of_ahead h]
  cases rest with
  | nil => exact Frame.lastRead_of_ahead_nil hahead
  | cons u rest =>
    rw [Frame.lastRead_of_ahead hahead, hnext, List.length_cons]
    omega

end Machine

namespace Handler

variable {α β : Type} {m m' : Machine} {rounds : Nat} {t : Token} {rest : List Token}

/-- What comes after a handler goes on with its result, in the machine that it leaves. -/
theorem run_bind_of_ok {h : Handler α} {a : α} (next : α → Handler β)
    (hrun : EStateM.run h m = .ok a m') : EStateM.run (h >>= next) m = EStateM.run (next a) m' := by
  rw [EStateM.run_bind, hrun]

/-- What comes after a handler that fails is not run. -/
theorem run_bind_of_error {h : Handler α} {f : Fault} (next : α → Handler β)
    (hrun : EStateM.run h m = .error f m') : EStateM.run (h >>= next) m = .error f m' := by
  rw [EStateM.run_bind, hrun]

/-- A handler that ends well leaves its machine. -/
theorem outcome_of_run {h : Handler Unit} (hrun : EStateM.run h m = .ok () m') :
    h.outcome m = .done m' := by
  rw [outcome, hrun]

/-- A handler that fails leaves its machine too. -/
theorem outcome_of_run_error {h : Handler Unit} {f : Fault} (hrun : EStateM.run h m = .error f m') :
    h.outcome m = { machine := m', fault := some f } := by
  rw [outcome, hrun]

/-- Reading a token is a step of the machine. -/
theorem run_nextToken {t? : Option Token} (h : m.nextToken = (t?, m')) :
    EStateM.run nextToken m = .ok t? m' := by
  rw [nextToken, EStateM.run_modifyGet, h]

/-- Without a token ahead, the body has no end. -/
theorem run_readBody_nil (hahead : m.frame.ahead = []) (rounds : Nat) (body : List Token) :
    EStateM.run (readBody rounds body) m = .error (m.faultHere .definitionNotClosed) m := by
  cases rounds with
  | zero => rfl
  | succ rounds =>
    rw [readBody, run_bind_of_ok _ (run_nextToken (Machine.nextToken_of_ahead_nil hahead))]
    rfl

/-- A token that ends the body ends the reading. -/
theorem run_readBody_end (hahead : m.frame.ahead = t :: rest) (ht : t.endsDefinition = true)
    (rounds : Nat) (body : List Token) :
    EStateM.run (readBody (rounds + 1) body) m = .ok body.reverse (m.moveTo m.frame.next) := by
  rw [readBody, run_bind_of_ok _ (run_nextToken (Machine.nextToken_of_ahead hahead))]
  dsimp only
  rw [if_pos ht]
  rfl

/-- Any other token belongs to the body, and the reading goes on behind it. -/
theorem run_readBody_step (hahead : m.frame.ahead = t :: rest) (ht : t.endsDefinition = false)
    (rounds : Nat) (body : List Token) :
    EStateM.run (readBody (rounds + 1) body) m =
      EStateM.run (readBody rounds (t :: body)) (m.moveTo m.frame.next) := by
  rw [readBody, run_bind_of_ok _ (run_nextToken (Machine.nextToken_of_ahead hahead))]
  dsimp only
  rw [if_neg (Bool.eq_false_iff.1 ht)]

/-- The reading of a body ends at the first token that ends it, with the tokens before that. -/
theorem run_readBody_of_end {passed : List Token} (body : List Token)
    (hahead : m.frame.ahead = passed ++ t :: rest)
    (hpassed : ∀ u ∈ passed, u.endsDefinition = false) (ht : t.endsDefinition = true)
    (hrounds : passed.length < rounds) :
    EStateM.run (readBody rounds body) m =
      .ok (body.reverse ++ passed) (m.moveTo (m.frame.next + passed.length)) := by
  -- The rounds that are left stay more than the tokens that are still to be passed.
  induction passed generalizing m rounds body with
  | nil =>
    obtain ⟨left, rfl⟩ := Nat.exists_eq_add_of_lt hrounds
    rw [run_readBody_end hahead ht, List.append_nil]
    rfl
  | cons u passed ih =>
    obtain ⟨left, rfl⟩ : ∃ left, rounds = left + 1 := ⟨rounds - 1, by omega⟩
    obtain ⟨hnext, hbehind⟩ := Machine.ahead_moveTo_next hahead
    rw [run_readBody_step hahead (hpassed u List.mem_cons_self),
      ih (u :: body) hbehind (fun v hv => hpassed v (List.mem_cons_of_mem u hv))
        (by simpa using hrounds),
      hnext, List.reverse_cons, List.append_assoc, List.length_cons, Nat.add_assoc, Nat.add_comm 1]
    rfl

/-- Without a token ahead that ends the body, the reading of it fails where all has been read. -/
theorem run_readBody_of_open {ts : List Token} (body : List Token) (hahead : m.frame.ahead = ts)
    (hopen : ∀ u ∈ ts, u.endsDefinition = false) (hrounds : ts.length ≤ rounds) :
    EStateM.run (readBody rounds body) m =
      .error (m.faultHere .definitionNotClosed) (m.moveTo m.frame.lastRead) := by
  induction ts generalizing m rounds body with
  | nil =>
    rw [run_readBody_nil hahead, Frame.lastRead_of_ahead_nil hahead]
    rfl
  | cons u ts ih =>
    obtain ⟨left, rfl⟩ := Nat.exists_eq_add_one.2 (Nat.lt_of_lt_of_le (Nat.succ_pos _) hrounds)
    obtain ⟨-, hbehind⟩ := Machine.ahead_moveTo_next hahead
    rw [run_readBody_step hahead (hopen u List.mem_cons_self),
      ih (u :: body) hbehind (fun v hv => hopen v (List.mem_cons_of_mem u hv))
        (by simpa using hrounds),
      Machine.lastRead_moveTo_next hahead]
    rfl

/-- The body is made of the tokens ahead of the one that ends the definition. -/
theorem run_readToEnd_of_lt (hahead : m.frame.ahead = rest)
    (hclosed : (rest.takeWhile (!·.endsDefinition)).length < rest.length) :
    EStateM.run readToEnd m = .ok (rest.takeWhile (!·.endsDefinition))
      (m.moveTo (m.frame.next + (rest.takeWhile (!·.endsDefinition)).length)) := by
  have hsplit := List.takeWhile_append_dropWhile (p := (!·.endsDefinition)) (l := rest)
  have hlength : rest.length ≤ m.frame.tokens.length := by
    rw [← hahead, Frame.ahead, List.length_drop]
    omega
  rcases hbehind : rest.dropWhile (!·.endsDefinition) with _ | ⟨u, behind⟩
  · rw [hbehind, List.append_nil] at hsplit
    rw [hsplit] at hclosed
    omega
  · have hu : u.endsDefinition = true := by
      have hhead := List.head?_dropWhile_not (!·.endsDefinition) rest
      rw [hbehind] at hhead
      simpa using hhead
    have hopen : ∀ v ∈ rest.takeWhile (!·.endsDefinition), v.endsDefinition = false := by
      intro v hv
      simpa using List.all_eq_true.1 List.all_takeWhile v hv
    rw [hbehind] at hsplit
    exact run_readBody_of_end (m := m) [] (hahead.trans hsplit.symm) hopen hu (by omega)

/-- Without a token ahead that ends the definition, the definition is not closed. -/
theorem run_readToEnd_of_not_lt (hahead : m.frame.ahead = rest)
    (hclosed : ¬ (rest.takeWhile (!·.endsDefinition)).length < rest.length) :
    EStateM.run readToEnd m =
      .error (m.faultHere .definitionNotClosed) (m.moveTo m.frame.lastRead) := by
  have hall : rest.takeWhile (!·.endsDefinition) = rest :=
    (List.takeWhile_prefix _).eq_of_length_le (Nat.le_of_not_lt hclosed)
  have hopen : ∀ u ∈ rest, u.endsDefinition = false := by
    intro u hu
    rw [← hall] at hu
    simpa using List.all_eq_true.1 List.all_takeWhile u hu
  refine run_readBody_of_open (m := m) [] hahead hopen ?_
  rw [← hahead, Frame.ahead, List.length_drop]
  omega

/-- Without a token ahead, a definition has no name. -/
theorem run_define_nil (hahead : m.frame.ahead = []) :
    EStateM.run define m = .error (m.faultHere .missingName) m := by
  have hget : EStateM.run (get : Handler Machine) m = .ok m m := rfl
  rw [define, run_bind_of_ok _ hget,
    run_bind_of_ok _ (run_nextToken (Machine.nextToken_of_ahead_nil hahead))]
  rfl

/-- A token that may be no name is refused as one. -/
theorem run_define_of_none (hahead : m.frame.ahead = t :: rest) (hname : t.definable? = none) :
    EStateM.run define m =
      .error (m.faultHere (.invalidName t.text)) (m.moveTo m.frame.next) := by
  have hget : EStateM.run (get : Handler Machine) m = .ok m m := rfl
  rw [define, run_bind_of_ok _ hget,
    run_bind_of_ok _ (run_nextToken (Machine.nextToken_of_ahead hahead))]
  dsimp only
  rw [hname]
  rfl

/-- Behind a name, the body is read and stored. -/
theorem run_define_of_some {name : String} (hahead : m.frame.ahead = t :: rest)
    (hname : t.definable? = some name) :
    EStateM.run define m = EStateM.run (readToEnd >>= fun body => modify fun n =>
      { n with dictionary := n.dictionary.insert name (m.location.getD {}) body })
      (m.moveTo m.frame.next) := by
  have hget : EStateM.run (get : Handler Machine) m = .ok m m := rfl
  rw [define, run_bind_of_ok _ hget,
    run_bind_of_ok _ (run_nextToken (Machine.nextToken_of_ahead hahead))]
  dsimp only
  rw [hname]

end Handler

/-! ## Definitions as scans -/

namespace Machine

/-- What storing a definition comes to. -/
def defineAtOnce (m : Machine) : Outcome :=
  let next := m.frame.next
  match m.frame.tokens.drop next with
  | [] => m.fail .missingName
  | t :: rest =>
    match t.definable? with
    | none => (m.moveTo next).fail (.invalidName t.text)
    | some name =>
      let body := rest.takeWhile (!·.endsDefinition)
      if body.length < rest.length then
        let defined := { m with dictionary := m.dictionary.insert name (m.location.getD {}) body }
        .done (defined.moveTo (next + 1 + body.length))
      else (m.moveTo (next + rest.length)).fail .definitionNotClosed

/-- What passing over a definition comes to, for a frame that is at one of its tokens. -/
def passDefinitionAtOnce (m : Machine) : Outcome :=
  let position := m.frame.position
  let rest := m.frame.tokens.drop (position + 1)
  let passed := rest.takeWhile (!·.endsDefinition)
  if passed.length < rest.length then .done (m.moveTo (position + 1 + passed.length))
  else (m.moveTo (position + rest.length)).fail .definitionNotClosed

/-- Reading the name and then the body stores the word whose definition is ahead. -/
theorem define_eq (m : Machine) : m.define = m.defineAtOnce := by
  unfold define defineAtOnce
  dsimp only
  rcases hahead : m.frame.tokens.drop m.frame.next with _ | ⟨t, rest⟩
  · exact Handler.outcome_of_run_error (Handler.run_define_nil hahead)
  · dsimp only
    rcases hname : t.definable? with _ | name
    · exact Handler.outcome_of_run_error (Handler.run_define_of_none hahead hname)
    · -- The name has been read, and what is left is the body.
      have hdefine := Handler.run_define_of_some hahead hname
      obtain ⟨hnext, hbehind⟩ := ahead_moveTo_next hahead
      dsimp only
      by_cases hclosed : (rest.takeWhile (!·.endsDefinition)).length < rest.length
      · rw [if_pos hclosed]
        apply Handler.outcome_of_run
        rw [hdefine, Handler.run_bind_of_ok _ (Handler.run_readToEnd_of_lt hbehind hclosed), hnext]
        rfl
      · rw [if_neg hclosed]
        apply Handler.outcome_of_run_error
        rw [hdefine, Handler.run_bind_of_error _ (Handler.run_readToEnd_of_not_lt hbehind hclosed),
          lastRead_moveTo_next hahead, Frame.lastRead_of_ahead hahead]
        rfl

/-- Reading the body passes over the definition that is ahead. -/
theorem passDefinition_eq {m : Machine} (h : m.frame.position < m.frame.tokens.length) :
    m.passDefinition = m.passDefinitionAtOnce := by
  have hnext := Frame.next_of_lt h
  have hahead : m.frame.ahead = m.frame.tokens.drop (m.frame.position + 1) := by
    rw [Frame.ahead, hnext]
  unfold passDefinition Handler.passDefinition passDefinitionAtOnce
  dsimp only
  split
  · rename_i hclosed
    have hrun := Handler.run_readToEnd_of_lt hahead hclosed
    rw [hnext] at hrun
    exact Handler.outcome_of_run (Handler.run_bind_of_ok _ hrun)
  · rename_i hclosed
    have hlast : m.frame.lastRead =
        m.frame.position + (m.frame.tokens.drop (m.frame.position + 1)).length := by
      rw [Frame.lastRead, hnext, List.length_drop]
      split <;> omega
    have hrun := Handler.run_readToEnd_of_not_lt hahead hclosed
    rw [hlast] at hrun
    exact Handler.outcome_of_run_error (Handler.run_bind_of_error _ hrun)

/-! ## What can happen -/

/-- The frame has a token that may be the name of a word with this spelling, and it has the tokens
of the body, none of which ends a definition. -/
structure Defines (m : Machine) (name : String) (body : List Token) : Prop where
  name_mem : ∃ t ∈ m.frame.tokens, t.definable? = some name
  body_mem : ∀ t ∈ body, t ∈ m.frame.tokens
  body_open : ∀ t ∈ body, t.endsDefinition = false

/-- The machine with a word stored, at the place of the machine. -/
def store (m : Machine) (name : String) (body : List Token) : Machine :=
  { m with dictionary := m.dictionary.insert name (m.location.getD {}) body }

/-- A definition fails at a token of the frame, or stores a word that is made of tokens of the
frame. -/
theorem define_cases (m : Machine) :
    (∃ cause p, m.define = (m.moveTo p).fail cause) ∨
    ∃ name body p, m.Defines name body ∧ m.define = .done ((m.store name body).moveTo p) := by
  rw [define_eq]
  unfold defineAtOnce
  dsimp only
  split
  · exact .inl ⟨_, m.frame.position, rfl⟩
  · rename_i t rest hrest
    split
    · exact .inl ⟨_, _, rfl⟩
    · rename_i name hname
      split
      · -- The tokens behind the current one are tokens of the frame.
        have hmem : ∀ u ∈ t :: rest, u ∈ m.frame.tokens := by
          intro u hu
          rw [← hrest] at hu
          exact List.mem_of_mem_drop hu
        refine .inr ⟨name, _, _, ⟨⟨t, hmem t List.mem_cons_self, hname⟩, fun u hu => ?_,
          fun u hu => ?_⟩, rfl⟩
        · exact hmem u (List.mem_cons_of_mem t ((List.takeWhile_sublist _).subset hu))
        · have hopen := List.all_eq_true.1 List.all_takeWhile u hu
          simpa using hopen
      · exact .inl ⟨_, _, rfl⟩

/-- A definition that is passed over has an end, or else that it has none is the fault. -/
theorem passDefinition_cases (m : Machine) :
    (∃ p, m.passDefinition = (m.moveTo p).fail .definitionNotClosed) ∨
    ∃ p, m.passDefinition = .done (m.moveTo p) := by
  unfold passDefinition Handler.passDefinition
  by_cases hclosed : ((m.frame.tokens.drop m.frame.next).takeWhile (!·.endsDefinition)).length <
      (m.frame.tokens.drop m.frame.next).length
  · have hrun := Handler.run_readToEnd_of_lt rfl hclosed
    exact .inr ⟨_, Handler.outcome_of_run (Handler.run_bind_of_ok _ hrun)⟩
  · have hrun := Handler.run_readToEnd_of_not_lt rfl hclosed
    exact .inl ⟨m.frame.lastRead,
      Handler.outcome_of_run_error (Handler.run_bind_of_error _ hrun)⟩

/-- A definition fails, or is passed over, or stores a word. The frame may be moved, and its flow
registers may be set. -/
theorem runDefinition_cases (m : Machine) :
    (∃ cause flow p, m.runDefinition = ((m.setFlow flow).moveTo p).fail cause) ∨
    (∃ p, m.runDefinition = .done (m.moveTo p)) ∨
    ∃ name body flow p, m.Defines name body ∧
      m.runDefinition = .done (((m.setFlow flow).store name body).moveTo p) := by
  unfold runDefinition
  dsimp only
  split
  · rcases passDefinition_cases m with ⟨p, h⟩ | ⟨p, h⟩
    · exact .inl ⟨_, m.frame.flow, p, h⟩
    · exact .inr (.inl ⟨p, h⟩)
  · rcases define_cases (m.setFlow { m.frame.flow with repeats := 1 }) with
      ⟨cause, p, h⟩ | ⟨name, body, p, hdefines, h⟩
    · exact .inl ⟨cause, _, p, h⟩
    · exact .inr (.inr ⟨name, body, _, p,
        ⟨hdefines.name_mem, hdefines.body_mem, hdefines.body_open⟩, h⟩)

end Machine

end BlockForth
