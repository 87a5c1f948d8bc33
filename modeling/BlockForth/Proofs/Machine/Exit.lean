import BlockForth.Proofs.Dictionary.Entries
import BlockForth.Proofs.Machine.Steps

/-!
# The end of the program

The word `bye` ends the program at once and for good. `bye_ends_program` follows a call in which it
is performed, at any depth of blocks, user words, and repetitions. No token is run after it, the
call does not fail, and it leaves the stack, the words, and the output as they were when `bye` was
performed. Whatever the session is given afterwards, it writes nothing and changes nothing.

The word itself only sets a register. Every loop has to look at it on the way out, which is the
invariant `Ended`: there are pieces of the run left to end, with repetitions and tokens that are
still due, but every step just ends one of them.
-/

namespace BlockForth

/-! ## Sessions -/

/-- What a session is given. -/
inductive SessionInput where
  /-- A piece of code. -/
  | code (source : String)
  /-- A source text that has come from somewhere. -/
  | source (path source : String)
  /-- What reading a file has given. -/
  | file (path : String) (file : FileRead)

namespace Machine

/-- Runs what the session is given as a call. -/
def answer (m : Machine) : SessionInput → Outcome
  | .code source => m.run source
  | .source path source => m.runSource path source
  | .file path file => m.runFile path file

/-- The machine after the session was given one thing after the other. -/
def afterInputs (m : Machine) (inputs : List SessionInput) : Machine :=
  inputs.foldl (fun m input => (m.answer input).machine) m

/-- After the end of the program a call does nothing but start. -/
theorem answer_of_exiting {m : Machine} (h : m.exiting = true) (input : SessionInput) :
    m.answer input = .done m.begin := by
  cases input with
  | code source => exact if_pos h
  | source path source => exact if_pos h
  | file path file => exact if_pos h

/-- After the end of the program no calls change the stack and the words, and it stays ended. -/
theorem afterInputs_of_exiting {m : Machine} (h : m.exiting = true) (inputs : List SessionInput) :
    (m.afterInputs inputs).exiting = true ∧ (m.afterInputs inputs).stack = m.stack ∧
      (m.afterInputs inputs).dictionary = m.dictionary := by
  induction inputs generalizing m with
  | nil => exact ⟨h, rfl, rfl⟩
  | cons input rest ih =>
    have hfirst : m.afterInputs (input :: rest) = m.begin.afterInputs rest := by
      unfold afterInputs
      rw [List.foldl_cons, answer_of_exiting h]
      rfl
    rw [hfirst]
    -- The start of a call keeps the end of the program, the stack, and the words.
    exact ih (m := m.begin) h

end Machine

namespace Config

/-! ## Steps after the end -/

/-- The built-in word that the next step performs, if it performs one. -/
def performed? (c : Config) : Option Builtin :=
  match c.phase with
  | .execute (.word _ spelling) =>
    if c.machine.dictionary.contains spelling then none else Builtin.find? (lowercase spelling)
  | _ => none

/-- The next step runs no token and reaches none: a piece of the run has ended, or the next token of
the frame would be reached, but the frame ends instead. -/
def RunsNoToken (c : Config) : Prop :=
  c.phase = .resume ∨ c.phase = .fetch ∧ c.next = ⟨c.machine, .resume, c.pending⟩

/-- The program has ended, and nothing has changed since the machine was `n`. -/
structure Ended (n : Machine) (c : Config) : Prop where
  exiting : c.machine.exiting = true
  stack : c.machine.stack = n.stack
  dictionary : c.machine.dictionary = n.dictionary
  output : c.machine.output = n.output
  phase : c.phase = .fetch ∨ c.phase = .resume

variable {n : Machine} {c : Config}

/-- The step that performs a built-in word. -/
theorem next_of_performed? {w : Builtin} (h : c.performed? = some w) :
    c.next = after (c.machine.perform w) c.pending := by
  obtain ⟨m, phase, pending⟩ := c
  unfold performed? at h
  split at h
  · rename_i l spelling hphase
    obtain rfl : phase = .execute (.word l spelling) := hphase
    split at h
    · cases h
    · rename_i huser
      have hfind : m.dictionary.find? (lowercase spelling) = none := by
        rw [Dictionary.find?_lowercase]
        exact Option.not_isSome_iff_eq_none.1 huser
      show execute m pending (.word l spelling) = _
      simp only [execute, hfind, h]
  · cases h

/-- The program has ended right after a `bye`. -/
theorem ended_of_bye (h : c.performed? = some .bye) : Ended c.machine c.next := by
  rw [next_of_performed? h]
  exact ⟨rfl, rfl, rfl, rfl, .inr rfl⟩

/-- After the end of the program no token of a frame is reached. -/
theorem fetch_of_exiting {m : Machine} (h : m.exiting = true) (pending : List Pending) :
    fetch m pending = ⟨m, .resume, pending⟩ := by
  unfold fetch
  split
  · rfl
  · exact if_pos h

/-- After the end of the program the next step runs no token. -/
theorem Ended.runsNoToken (h : Ended n c) : c.RunsNoToken := by
  rcases h.phase with hphase | hphase
  · refine .inr ⟨hphase, ?_⟩
    unfold next
    rw [hphase]
    exact fetch_of_exiting h.exiting _
  · exact .inl hphase

/-- Going on after the end of a piece ends the next one. A token that is to be run again is not, and
a frame that has tokens left gets to fetch one. -/
theorem ended_resume {m : Machine} {pending : List Pending} (h : Ended n ⟨m, .resume, pending⟩) :
    Ended n (resume m pending) := by
  obtain ⟨hexit, hstack, hdictionary, houtput, -⟩ := h
  dsimp only at hexit hstack hdictionary houtput
  rcases pending with _ | ⟨p, pending⟩
  · exact ⟨hexit, hstack, hdictionary, houtput, .inr rfl⟩
  · cases p with
    | unit t inlined count =>
      cases count with
      | zero => exact ⟨hexit, hstack, hdictionary, houtput, .inl rfl⟩
      | succ count =>
        rw [resume, if_pos hexit]
        exact ⟨hexit, hstack, hdictionary, houtput, .inr rfl⟩
    | level => exact ⟨hexit, hstack, hdictionary, houtput, .inr rfl⟩
    | block caller => exact ⟨hexit, hstack, hdictionary, houtput, .inr rfl⟩
    | body caller => exact ⟨hexit, hstack, hdictionary, houtput, .inr rfl⟩

/-- A step after the end of the program changes nothing, and does not fail. -/
theorem Ended.next (h : Ended n c) : Ended n c.next := by
  obtain ⟨m, phase, pending⟩ := c
  rcases h.phase with hphase | hphase
  · obtain rfl : phase = .fetch := hphase
    show Ended n (fetch m pending)
    rw [fetch_of_exiting h.exiting]
    exact ⟨h.exiting, h.stack, h.dictionary, h.output, .inr rfl⟩
  · obtain rfl : phase = .resume := hphase
    exact ended_resume h

/-- After the end of the program no number of steps changes anything. -/
theorem Ended.of_reaches {d : Config} (h : Ended n c) (hreach : Reaches c d) : Ended n d :=
  hreach.preserves (P := Ended n) (fun _ hc => hc.next) h

/-- An outcome that is reached after the end of the program is no failure. -/
theorem Ended.fault_eq_none {o : Outcome} {pending : List Pending}
    (h : Ended n (after o pending)) : o.fault = none := by
  obtain ⟨m, _ | f⟩ := o
  · rfl
  · rcases h.phase with hphase | hphase
    · cases hphase
    · cases hphase

end Config

namespace Machine

/-- A call that performs `bye` runs no token after it, does not fail, and leaves the stack, the
words, and the output as they are when `bye` is performed. The program stays ended, and whatever the
session is given then, it writes nothing, does not fail, and keeps the stack and the words. -/
theorem bye_ends_program (m : Machine) (path source : String) {tokens : List Token} {d : Config}
    (hexit : m.exiting = false) (hread : Token.readAll path source = .ok tokens)
    (hreach : Config.Reaches ⟨{ m.begin with frame := { tokens := tokens } }, .fetch, []⟩ d)
    (hbye : d.performed? = some .bye) :
    let o := m.runSource path source
    (∀ e, Config.Reaches d.next e → e.RunsNoToken) ∧
      o.fault = none ∧ o.machine.exiting = true ∧ o.machine.stack = d.machine.stack ∧
      o.machine.dictionary = d.machine.dictionary ∧ o.machine.output = d.machine.output ∧
      ∀ inputs, let n := o.machine.afterInputs inputs
        n.exiting = true ∧ n.stack = o.machine.stack ∧ n.dictionary = o.machine.dictionary ∧
          ∀ input, (n.answer input).fault = none ∧ (n.answer input).machine.output = "" := by
  intro o
  have hrun : o = runFrame { m.begin with frame := { tokens := tokens } } := by
    show m.runSource path source = _
    rw [runSource, if_neg (Bool.eq_false_iff.1 hexit), hread]
    rfl
  have hended := Config.ended_of_bye hbye
  -- The end of the call lies behind the step that performs the word.
  have hend : Config.Reaches d.next (Config.after o []) := by
    rw [hrun]
    exact (Config.reaches_runFrame _ []).end_of_reaches hreach.tail
  have hlast : Config.Ended d.machine (Config.after o []) := hended.of_reaches hend
  have hexited : o.machine.exiting = true := hlast.exiting
  refine ⟨fun e he => (hended.of_reaches he).runsNoToken, hlast.fault_eq_none, hexited,
    hlast.stack, hlast.dictionary, hlast.output, fun inputs => ?_⟩
  obtain ⟨hexiting, hstack, hdictionary⟩ := afterInputs_of_exiting hexited inputs
  refine ⟨hexiting, hstack, hdictionary, fun input => ?_⟩
  rw [answer_of_exiting hexiting]
  exact ⟨rfl, rfl⟩

/-- A block that is to be run three times calls a word that ends the program. -/
def leaving : String :=
  ": leave bye 2 ; 1 . 3 times \x7b 5 Leave 4 \x7d drop drop"

/-- The machine at the start of a call with that text. -/
def atLeaving : Machine where
  frame := {
    tokens := [.word ⟨"text", 1, 1⟩ ":", .word ⟨"text", 1, 3⟩ "leave", .word ⟨"text", 1, 9⟩ "bye",
      .literal ⟨"text", 1, 13⟩ (.int 2), .word ⟨"text", 1, 15⟩ ";",
      .literal ⟨"text", 1, 17⟩ (.int 1), .word ⟨"text", 1, 19⟩ ".",
      .literal ⟨"text", 1, 21⟩ (.int 3), .word ⟨"text", 1, 23⟩ "times",
      .block ⟨"text", 1, 29⟩ [.literal ⟨"text", 1, 31⟩ (.int 5), .word ⟨"text", 1, 33⟩ "Leave",
        .literal ⟨"text", 1, 39⟩ (.int 4)],
      .word ⟨"text", 1, 43⟩ "drop", .word ⟨"text", 1, 48⟩ "drop"] }

/-- The program ends in the first run of the block, and a file that is read afterwards is not run.
-/
theorem bye_ends_program_leaving :
    let o := ({} : Machine).runSource "text" leaving
    Token.readAll "text" leaving = .ok atLeaving.frame.tokens ∧
    (∃ d, Config.Reaches ⟨atLeaving, .fetch, []⟩ d ∧ d.performed? = some .bye ∧
      d.machine.depth = 2 ∧ d.machine.stack.values = [.int 5]) ∧
    o.fault = none ∧ o.machine.stack.values = [.int 5] ∧ o.machine.output = "1" ∧
    (o.machine.afterInputs [.file "more" (.ok "6 .".toUTF8)]).stack = o.machine.stack := by
  have hread : Token.readAll "text" leaving = .ok atLeaving.frame.tokens := by rfl
  obtain ⟨d, hreach, hbye, hdepth, hvalues, hwritten⟩ :
      ∃ d, Config.Reaches ⟨atLeaving, .fetch, []⟩ d ∧ d.performed? = some .bye ∧
        d.machine.depth = 2 ∧ d.machine.stack.values = [.int 5] ∧ d.machine.output = "1" := by
    refine ⟨_, ⟨30, rfl⟩, ?_⟩
    decide +kernel
  have hends := bye_ends_program {} "text" leaving rfl hread hreach hbye
  -- The outcome is known by these facts, and is not evaluated.
  generalize ({} : Machine).runSource "text" leaving = o at hends ⊢
  obtain ⟨-, hfault, -, hstack, -, houtput, hlater⟩ := hends
  obtain ⟨-, hkept, -, -⟩ := hlater [.file "more" (.ok "6 .".toUTF8)]
  refine ⟨hread, ⟨d, hreach, hbye, hdepth, hvalues⟩, hfault, ?_, ?_, hkept⟩
  · rw [hstack, hvalues]
  · rw [houtput, hwritten]

end Machine

end BlockForth
