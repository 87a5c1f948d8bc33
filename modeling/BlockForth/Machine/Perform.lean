import BlockForth.Builtin.Table
import BlockForth.Machine.Definition

/-!
# What the built-in words do

Each word has a handler. A word that can fail looks at its operands with `peek`, or makes sure with
`require` that they are there, and takes them off only when it cannot fail any more. A fault of its
own is raised by `/mod` for a zero divisor, by the words for characters, and by the ends of
definitions and blocks.
-/

namespace BlockForth

/-- The character with a code, if the code is a Unicode scalar value. -/
def charOfCode? (code : Int64) : Option Char :=
  if 0 ≤ code ∧ code.toInt.toNat.isValidChar then some (Char.ofNat code.toInt.toNat) else none

namespace Handler

/-- The character with a code. -/
def charOfCode (code : Int64) : Handler Char :=
  match charOfCode? code with
  | some c => return c
  | none => fail (.characterCode code)

/-- The first character of a text. -/
def firstChar (text : String) : Handler Char :=
  match text.toList with
  | c :: _ => return c
  | [] => fail .noFirstCharacter

/-- Replaces the top two values by the result of an operator on them. The top is the right operand.
-/
def binary (operator : Value → Value → Except Cause Value) : Handler Unit := do
  let b ← peek 0
  let a ← peek 1
  let v ← result (operator a b)
  let _ ← pop
  let _ ← pop
  push v

/-- What a built-in word does. -/
def ofBuiltin : Builtin → Handler Unit
  | .add => binary Value.add
  | .subtract => binary Value.subtract
  | .multiply => binary Value.multiply
  | .divide => do
    let b ← peek 0
    let a ← peek 1
    let vs ← result (a.divide b)
    let _ ← pop
    let _ ← pop
    vs.forM push
  | .quotient => binary Value.quotient
  | .remainder => binary Value.remainder
  | .divMod => do
    let b ← result (← peek 0).asInt
    let a ← result (← peek 1).asInt
    if b = 0 then fail (.divisionByZero "/mod")
    else
      let _ ← pop
      let _ ← pop
      push (.int (a % b))
      push (.int (a / b))
  | .compare c => binary fun a b => return .ofBool (← Value.compare c a b)
  | .dup => do
    let a ← peek 0
    push a
  | .drop => do
    let _ ← pop
  | .swap => do
    require 2
    let b ← pop
    let a ← pop
    push b
    push a
  | .over => do
    let a ← peek 1
    push a
  | .rot => do
    require 3
    let c ← pop
    let b ← pop
    let a ← pop
    push b
    push c
    push a
  | .reverse => modify fun m => { m with stack := m.stack.reverse }
  | .dup2 => do
    let b ← peek 0
    let a ← peek 1
    push a
    push b
  | .drop2 => do
    require 2
    let _ ← pop
    let _ ← pop
  | .swap2 => do
    require 4
    let d ← pop
    let c ← pop
    let b ← pop
    let a ← pop
    push c
    push d
    push a
    push b
  | .over2 => do
    let a ← peek 3
    let b ← peek 2
    push a
    push b
  | .depth => do push (.int (Int64.ofNat (← get).stack.size))
  | .chr => do
    let code ← result (← peek 0).asInt
    let c ← charOfCode code
    let _ ← pop
    push (.string c.toString)
  | .ord => do
    let text ← result (← peek 0).asString
    let c ← firstChar text
    let _ ← pop
    push (.int (Int64.ofNat c.toNat))
  | .kind => do
    let v ← pop
    push (.string v.kind.name)
  | .print => do
    let v ← pop
    write v.text
  | .newline => write "\n"
  | .space => write " "
  | .spaces => do
    let count ← result (← peek 0).asInt
    result (checkLength (some (countOf count)) "spaces")
    let _ ← pop
    write (repeatText " " (countOf count))
  | .emit => do
    let code ← result (← peek 0).asInt
    let c ← charOfCode code
    let _ ← pop
    write c.toString
  | .printStack => do write (← get).stack.listing
  | .printWords => do write (← get).dictionary.listing
  | .bye => modify fun m => { m with exiting := true }
  | .ifTrue => do
    let v ← pop
    setFlow fun flow => { flow with skip := if v.isTruthy then 0 else 2, lastIf := v.isTruthy }
  | .otherwise => setFlow fun flow => { flow with skip := if flow.lastIf then 2 else 0 }
  | .times => do
    let count ← popInt
    setFlow fun flow => { flow with repeats := count }
  | .define => define
  | .endDefinition => fail .strayDefinitionEnd
  | .endBlock => fail .strayBlockEnd

end Handler

/-- Runs a built-in word. -/
def Machine.perform (m : Machine) (w : Builtin) : Outcome :=
  (Handler.ofBuiltin w).outcome m

end BlockForth
