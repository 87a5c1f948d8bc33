import BlockForth.Machine.Perform

/-!
# Running code

`Machine.runFrame` runs the innermost frame of a machine to its end. A token is run as often as the
repeat register asks, unless the skip register has it passed over. A block is run in a frame with
fresh flow registers, which are dropped afterwards. The body of a user word is run in a frame that
takes over the flow registers of its caller and hands them back, so that calling a word is the same
as writing its body in its place.

Every program comes to an end. At most `maxDepth` frames can be nested, a frame never moves back,
and how often a token is run is fixed before it is run. `Machine.enter` recurses on the levels that
are left, `Machine.stepAll` on the tokens that are left, and `Machine.repeatToken` on the count.
-/

namespace BlockForth

/-- A way to run a frame inside a machine. The outcome has that frame as its innermost one. -/
abbrev Inner := Frame → Machine → Outcome

namespace Machine

/-- Runs a block in a frame of its own, and goes back to the frame that it is in. -/
def runBlock (inner : Inner) (m : Machine) (body : List Token) : Outcome :=
  let o := inner { tokens := body } m
  { o with machine := { o.machine with frame := m.frame } }

/-- Runs the body of a user word, which `call` names. It shares the flow registers with its caller,
and hands them back if it ends without a fault. The call is on the list while the body runs. -/
def runBody (inner : Inner) (m : Machine) (call : Call) (body : List Token) : Outcome :=
  let o := inner { tokens := body, flow := m.frame.flow } { m with calls := call :: m.calls }
  let flow := if o.fault.isNone then o.machine.frame.flow else m.frame.flow
  { o with machine :=
    { o.machine with calls := o.machine.calls.tail, frame := { m.frame with flow := flow } } }

/-- Runs a word: a user word if the dictionary has one of that name, and else a built-in one. -/
def runWord (inner : Inner) (m : Machine) (location : Location) (spelling : String) : Outcome :=
  let name := lowercase spelling
  match m.dictionary.find? name with
  | some entry => m.runBody inner ⟨name, location⟩ entry.body
  | none =>
    match Builtin.find? name with
    | some word => m.perform word
    | none => m.fail (.unknownWord spelling)

/-- Runs a token once. -/
def runToken (inner : Inner) (m : Machine) : Token → Outcome
  | .word location spelling => m.runWord inner location spelling
  | .literal _ value => .done { m with stack := m.stack.push value }
  | .block _ body => m.runBlock inner body

/-- Runs a token the given number of times, unless the program ends before. -/
def repeatToken (inner : Inner) (t : Token) : (count : Nat) → Machine → Outcome
  | 0, m => .done m
  | count + 1, m =>
    if m.exiting then .done m
    else
      match m.runToken inner t with
      | ⟨m', none⟩ => repeatToken inner t count m'
      | failed => failed

/-- Runs a token as often as the repeat register asks, and resets the register first. A token that
is passed over leaves it alone. -/
def runUnit (inner : Inner) (m : Machine) (t : Token) : Outcome :=
  let flow := m.frame.flow
  if 0 < flow.skip then .done m
  else repeatToken inner t (countOf flow.repeats) (m.setFlow { flow with repeats := 1 })

/-- Whether the token is a user word. -/
def isUserWord (m : Machine) : Token → Bool
  | .word _ spelling => m.dictionary.contains spelling
  | _ => false

/-- Whether the token starts a definition, as a `:` does unless it is a user word. -/
def startsDefinition (m : Machine) (t : Token) : Bool :=
  t.isNamed ":" && !m.dictionary.contains ":"

/-- Stores the definition that follows, or passes over it. A repeat register that is set does not
apply to a definition, and is reset. -/
def runDefinition (m : Machine) : Outcome :=
  let flow := m.frame.flow
  if 0 < flow.skip then m.passDefinition else (m.setFlow { flow with repeats := 1 }).define

/-- Moves on to the next token. A unit that was passed over, or that set the skip register, counts
against it. A user word that was `inlined` does not, since the tokens of its body have counted. -/
def finishToken (m : Machine) (inlined : Bool) : Machine :=
  let flow := m.frame.flow
  let skip := if inlined then flow.skip else flow.skip - 1
  (m.setFlow { flow with skip := skip }).moveTo (m.frame.position + 1)

/-- Runs the token `t` that has been reached, a definition as a whole and any other token as a unit.
-/
def runReached (inner : Inner) (m : Machine) (t : Token) : Outcome :=
  let reached := { m with location := some t.location }
  if m.startsDefinition t then reached.runDefinition else reached.runUnit inner t

/-- Moves on from the token `t`, of which `o` is the outcome. A fault takes the place of the token,
unless it has one already. -/
def conclude (t : Token) (inlined : Bool) (o : Outcome) : Outcome :=
  match o.fault with
  | none => .done (o.machine.finishToken inlined)
  | some f => { o with fault := some (f.inContext t.location o.machine.calls) }

/-- Runs the current token `t`, and moves on. -/
def step (inner : Inner) (t : Token) (m : Machine) : Outcome :=
  conclude t (m.frame.flow.skip == 0 && m.isUserWord t) (m.runReached inner t)

/-- Runs the tokens of the innermost frame from position `i` on, until they or the program end or a
fault stops them. The tokens that the frame has moved past, as those of a definition, are left out.
-/
def stepAll (inner : Inner) : (i : Nat) → List Token → Machine → Outcome
  | _, [], m => .done m
  | i, t :: rest, m =>
    if m.exiting then .done m
    else if i < m.frame.position then stepAll inner (i + 1) rest m
    else
      match m.step inner t with
      | ⟨m', none⟩ => stepAll inner (i + 1) rest m'
      | failed => failed

/-- Running two lists of tokens one after the other is running the second where the first has ended.
-/
theorem stepAll_append (inner : Inner) (i : Nat) (first second : List Token) (m : Machine) :
    stepAll inner i (first ++ second) m =
      match stepAll inner i first m with
      | ⟨m', none⟩ => stepAll inner (i + first.length) second m'
      | failed => failed := by
  induction first generalizing i m with
  | nil => rfl
  | cons t rest ih =>
    have hlen : i + (t :: rest).length = i + 1 + rest.length := by
      rw [List.length_cons]
      omega
    rw [hlen, List.cons_append, stepAll, stepAll]
    by_cases hexit : m.exiting = true
    · -- The program has ended, so neither list is run any further.
      simp only [hexit, if_true, Outcome.done]
      cases second with
      | nil => rfl
      | cons u us => simp [stepAll, hexit, Outcome.done]
    · simp only [hexit]
      by_cases hpast : i < m.frame.position
      · simp only [hpast, if_true]
        exact ih (i + 1) m
      · simp only [hpast]
        rcases hstep : m.step inner t with ⟨m', _ | f⟩
        · exact ih (i + 1) m'
        · rfl

/-- Runs the innermost frame from where it is, with `inner` for the frames inside it. -/
def runFrameWith (inner : Inner) (m : Machine) : Outcome :=
  stepAll inner m.frame.position (m.frame.tokens.drop m.frame.position) m

/-- Runs a frame inside a machine, with at most `levels` frames nested, itself included. The depth
counts the frame while it runs. -/
def enter : (levels : Nat) → Inner
  | 0, _, m => m.fail .nestedTooDeep
  | levels + 1, f, m =>
    let o := runFrameWith (enter levels) { m with frame := f, depth := m.depth + 1 }
    { o with machine := { o.machine with depth := o.machine.depth - 1 } }

/-- Runs a frame inside a machine, unless as many frames are nested already as there may be. -/
def nested : Inner :=
  fun f m => enter (maxDepth - m.depth) f m

/-- Runs the innermost frame from where it is, until it or the program ends or a fault stops it. -/
def runFrame (m : Machine) : Outcome :=
  m.runFrameWith (enter (maxDepth - m.depth))

end Machine

end BlockForth
