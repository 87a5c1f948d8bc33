import BlockForth.Limits
import BlockForth.Source.Location
import BlockForth.Value.Kind

/-!
# Faults

A fault is a cause, and where the program was when it arose, as far as that is known: a location,
and the user words that were being run. The cause fixes the kind and the message. Values and the
stack know no place, so they raise a bare fault, and `Fault.inContext` fills in what is missing
later.
-/

namespace BlockForth

/-- The broad class of a fault, by which a caller reacts to it. -/
inductive FaultKind where
  | lexical
  | stackUnderflow
  | type
  | unknownWord
  | malformed
  | divisionByZero
  | callDepth
  | limit
  | inputOutput
deriving DecidableEq, Repr

/-- The text of a kind. -/
def FaultKind.text : FaultKind → String
  | .lexical => "lex error"
  | .stackUnderflow => "stack underflow"
  | .type => "type error"
  | .unknownWord => "unknown word"
  | .malformed => "syntax error"
  | .divisionByZero => "division by zero"
  | .callDepth => "call depth exceeded"
  | .limit => "limit exceeded"
  | .inputOutput => "I/O error"

/-- Why a program cannot be read or cannot go on. -/
inductive Cause where
  /-- The text ends inside a string. -/
  | stringNotClosed
  /-- The text ends inside a block. -/
  | blockNotClosed
  /-- An integer numeral that needs more than 64 bits. -/
  | integerOutOfRange (numeral : String)
  /-- A word needs more values than the stack holds. -/
  | stackUnderflow
  /-- An operator does not apply to values of these kinds. -/
  | operandKinds (operator : String) (left right : ValueKind)
  /-- A word needs a value of another kind. -/
  | unexpectedKind (expected actual : ValueKind)
  /-- A text cannot be cut into chunks of this size. -/
  | chunkSize (size : Int64)
  /-- An integer that is no character's code. -/
  | characterCode (code : Int64)
  /-- The empty text has no first character. -/
  | noFirstCharacter
  /-- A word that is neither defined nor built in. -/
  | unknownWord (spelling : String)
  /-- A token that cannot be the name of a word. -/
  | invalidName (token : String)
  /-- A definition ends before its name. -/
  | missingName
  /-- A definition has no end. -/
  | definitionNotClosed
  /-- The end of a definition outside of one. -/
  | strayDefinitionEnd
  /-- The end of a block outside of one. -/
  | strayBlockEnd
  /-- An operator divides by zero. -/
  | divisionByZero (operator : String)
  /-- A frame is entered inside as many others as there may be. -/
  | nestedTooDeep
  /-- An operator would build a text beyond the limit. -/
  | textTooLong (operator : String)
  /-- A source file cannot be read. -/
  | unreadableFile (path reason : String)
  /-- Input or output fails. -/
  | inputOutput (reason : String)
  /-- A fault that the embedding program raises. -/
  | raised (kind : FaultKind) (message : String)
deriving DecidableEq, Repr

namespace Cause

/-- The kind of a cause. -/
def kind : Cause → FaultKind
  | stringNotClosed | blockNotClosed | integerOutOfRange _ => .lexical
  | stackUnderflow => .stackUnderflow
  | operandKinds .. | unexpectedKind .. | chunkSize _ | characterCode _ | noFirstCharacter => .type
  | unknownWord _ => .unknownWord
  | invalidName _ | missingName | definitionNotClosed | strayDefinitionEnd | strayBlockEnd =>
    .malformed
  | divisionByZero _ => .divisionByZero
  | nestedTooDeep => .callDepth
  | textTooLong _ => .limit
  | unreadableFile .. | inputOutput _ => .inputOutput
  | raised kind _ => kind

/-- The message of a cause. -/
def message : Cause → String
  | stringNotClosed => "string not closed"
  | blockNotClosed => "block not closed"
  | integerOutOfRange numeral => "integer literal " ++ numeral ++ " out of range"
  | stackUnderflow => "stack underflow"
  | operandKinds operator left right =>
    "can't apply " ++ operator ++ " to " ++ left.name ++ " and " ++ right.name
  | unexpectedKind expected actual =>
    "expected " ++ expected.name ++ " value, got " ++ actual.name
  | chunkSize size => "can't split a string into chunks of size " ++ size.toInt.repr
  | characterCode code => code.toInt.repr ++ " is not a valid character code"
  | noFirstCharacter => "can't take ord of an empty string"
  | unknownWord spelling => "can't find word \"" ++ spelling ++ "\" or parse it as number"
  | invalidName token => token ++ " is not a valid word name"
  | missingName => "missing name for word definition"
  | definitionNotClosed => "definition not closed"
  | strayDefinitionEnd => "; without a matching :"
  | strayBlockEnd => "\x7d without a matching \x7b"
  | divisionByZero operator => "division by zero in " ++ operator
  | nestedTooDeep => "execution nested deeper than " ++ maxDepth.repr ++ " levels"
  | textTooLong operator =>
    operator ++ " would build a string longer than " ++ maxTextBytes.repr ++ " bytes"
  | unreadableFile path reason => "Could not read file " ++ path ++ ": " ++ reason
  | inputOutput reason => "I/O error: " ++ reason
  | raised _ message => message

end Cause

/-- A user word that is being run: its name in lower case, and the location of the token that called
it. -/
structure Call where
  word : String
  location : Location
deriving DecidableEq, Repr

/-- The line of a call in a fault's text. -/
def Call.text (c : Call) : String :=
  "  " ++ c.location.text ++ ": " ++ c.word ++ "\n"

/-- A cause, and where the program was when it arose. -/
structure Fault where
  cause : Cause
  /-- Where the program was, if that is known. -/
  location : Option Location := none
  /-- The user words that were being run, innermost first, if that is known. -/
  calls : Option (List Call) := none
deriving DecidableEq, Repr

namespace Fault

/-- The kind of a fault. -/
def kind (f : Fault) : FaultKind :=
  f.cause.kind

/-- The message of a fault. -/
def message (f : Fault) : String :=
  f.cause.message

/-- A fault that knows no place. -/
def bare (cause : Cause) : Fault where
  cause := cause

/-- A fault at a location in source text that is not being run. -/
def inSource (cause : Cause) (location : Location) : Fault where
  cause := cause
  location := some location

/-- Fills in the location and the calls that the fault does not know. What it knows is kept. -/
def inContext (f : Fault) (location : Location) (calls : List Call) : Fault :=
  { f with location := f.location.or (some location), calls := f.calls.or (some calls) }

/-- The list of the calls in a fault's text, innermost first. There is none if no word was being
run. -/
def callsText : Option (List Call) → String
  | none | some [] => ""
  | some calls => "\n\nCall stack\n" ++ String.join (calls.map Call.text)

/-- The text of a fault for a reader of the program's output. -/
def text (f : Fault) : String :=
  (match f.location with
    | some location => location.text ++ ": " ++ f.message
    | none => f.message) ++ callsText f.calls

/-- The text of a fault with its kind. -/
def report (f : Fault) : String :=
  f.text ++ " (" ++ f.kind.text ++ ")"

end Fault

end BlockForth
