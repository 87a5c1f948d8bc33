import BlockForth.Machine.Handler

/-!
# Definitions

A definition is a `:`, a name, the tokens of the body, and a `;`. It lies in one frame, so a `;`
inside a block does not end it. It is one unit, and both ways to go through it end at its `;`:
`Machine.define` stores the word, and `Machine.passDefinition` passes over it. Both read the frame
token by token, and a definition that is malformed leaves it at the last token that was read.
-/

namespace BlockForth

/-- Whether the token ends a definition. -/
def Token.endsDefinition (t : Token) : Bool :=
  t.isNamed ";"

/-- The spelling of a token that may be the name of a word. -/
def Token.definable? : Token → Option String
  | .word _ spelling => if spelling = ":" ∨ spelling = ";" then none else some spelling
  | _ => none

namespace Handler

/-- Reads on up to the token that ends the definition, and gives the tokens before it. `body` holds
those that have been read, last one first. There are at most `rounds` tokens to be read. -/
def readBody : (rounds : Nat) → (body : List Token) → Handler (List Token)
  | 0, _ => fail .definitionNotClosed
  | rounds + 1, body => do
    match ← nextToken with
    | none => fail .definitionNotClosed
    | some t => if t.endsDefinition then return body.reverse else readBody rounds (t :: body)

/-- Reads on up to the end of the definition. A frame has no more tokens to be read than it has. -/
def readToEnd : Handler (List Token) := do
  readBody (← get).frame.tokens.length []

/-- Defines the word whose definition follows the current token. Its location is that of the token
reached last. -/
def define : Handler Unit := do
  let location := (← get).location.getD {}
  match ← nextToken with
  | none => fail .missingName
  | some t =>
    match t.definable? with
    | none => fail (.invalidName t.text)
    | some name =>
      let body ← readToEnd
      modify fun m => { m with dictionary := m.dictionary.insert name location body }

/-- Passes over the definition that follows the current token. -/
def passDefinition : Handler Unit := do
  let _ ← readToEnd

end Handler

namespace Machine

/-- Defines the word whose definition follows the current token. -/
def define (m : Machine) : Outcome :=
  Handler.define.outcome m

/-- Passes over the definition that follows the current token. -/
def passDefinition (m : Machine) : Outcome :=
  Handler.passDefinition.outcome m

end Machine

end BlockForth
