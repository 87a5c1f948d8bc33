import BlockForth.Pattern.WellFormed
import BlockForth.Text.Bytes

/-!
# Log filters

A log filter is a list of directives with commas between them. A directive is a target, a span in
brackets, which may have a field in braces, and a level after an equals sign, such as
`target[span{field}]=level`. All of them are optional, and a malformed directive is left out. A
field may have a value, a number or a pattern, after an equals sign. The program writes no log
lines, so no more is kept of a filter than whether it can be read.

The parts of a directive are found in the directive without the blanks around it, and are cut out of
the directive with its blanks, at the same byte offsets. Blanks in front thus shift every cut. One
that falls inside a character is the only way in which a filter cannot be read.
-/

namespace BlockForth.LogFilter

/-- Why the reading of a directive stops before its end. -/
inductive Problem where
  /-- The directive is left out. -/
  | malformed
  /-- A part would start or end inside a character. -/
  | characterCut
deriving DecidableEq, Repr

/-- The part of a directive that is being read. -/
inductive Part where
  | start
  /-- A target, or a level on its own. -/
  | target
  /-- A span, from an offset on. -/
  | span (first : Nat)
  /-- A field of a span, from an offset on. -/
  | field (first : Nat)
  | afterField
  | afterSpan
  /-- A level, from an offset on. -/
  | level (first : Nat)
deriving DecidableEq, Repr

/-- A text without the white space around it. -/
def trim (cs : List Char) : List Char :=
  ((cs.dropWhile isSpace).reverse.dropWhile isSpace).reverse

/-- Whether a target or a level may start with the character. -/
def isNameStart (c : Char) : Bool :=
  c == '-' || c == ':' || c == '_' || isAlphanumeric c

/-- A text without the sign at its start. -/
def dropSign : List Char → List Char
  | '+' :: rest | '-' :: rest => rest
  | cs => cs

/-- Whether a text is empty or an exponent, such as `e-7`. -/
def isExponent : List Char → Bool
  | [] => true
  | c :: rest =>
    let digits := dropSign rest
    (c == 'e' || c == 'E') && !digits.isEmpty && digits.all Char.isDigit

/-- Whether a text is a number: decimal digits, with a point and an exponent or without, or the word
for a value that is not finite. -/
def isNumber (cs : List Char) : Bool :=
  let cs := dropSign cs
  let whole := cs.takeWhile Char.isDigit
  let (fraction, rest) :=
    match cs.dropWhile Char.isDigit with
    | '.' :: rest => (rest.takeWhile Char.isDigit, rest.dropWhile Char.isDigit)
    | rest => ([], rest)
  ["inf", "infinity", "nan"].contains (String.ofList (cs.map Char.toLower)) ||
    ((!whole.isEmpty || !fraction.isEmpty) && isExponent rest)

/-- Whether a field is well formed. Its value stands between the first equals sign and the second
one, if there are any. -/
def isField (cs : List Char) : Bool :=
  match cs.splitOn '=' with
  | _ :: value :: _ => isNumber value || Pattern.isWellFormed value
  | _ => true

/-- Cuts the bytes from `first` to `last` out of a directive. -/
def cut (directive : List Char) (first last : Nat) : Except Problem (List Char) :=
  match sliceBytes? first last directive with
  | some cs => .ok cs
  | none => .error .characterCut

/-- Reads a character, which stands at `offset` in the trimmed directive. -/
def step (directive : List Char) (part : Part) (offset : Nat) (c : Char) : Except Problem Part :=
  match part with
  | .start =>
    if c = '[' then .ok (.span (offset + 1))
    else if isNameStart c then .ok .target
    else .error .malformed
  | .target =>
    if c = '=' then (cut directive 0 offset).map fun _ => .level (offset + 1)
    else if c = '[' then (cut directive 0 offset).map fun _ => .span (offset + 1)
    else .ok part
  | .span first =>
    if c = ']' then (cut directive first offset).map fun _ => .afterSpan
    else if c = '\x7b' then (cut directive first offset).map fun _ => .field (offset + 1)
    else .ok part
  | .field first =>
    if c = '\x7d' then do
      let field ← cut directive first offset
      if field.isEmpty || !isField field then .error .malformed else .ok .afterField
    else .ok part
  | .afterField => if c = ']' then .ok .afterSpan else .error .malformed
  | .afterSpan => if c = '=' then .ok (.level (offset + 1)) else .error .malformed
  | .level _ => .ok part

/-- Ends a directive. Its last part reaches to the end. -/
def finish (directive : List Char) : Part → Except Problem Unit
  | .target | .afterSpan => .ok ()
  | .level first => if isBoundary directive first then .ok () else .error .characterCut
  | _ => .error .malformed

/-- Reads the characters of the trimmed directive from `offset` on. -/
def readFrom (directive : List Char) (part : Part) (offset : Nat) :
    List Char → Except Problem Unit
  | [] => finish directive part
  | c :: rest => do
    let next ← step directive part offset c
    readFrom directive next (offset + c.utf8Size) rest

/-- Reads a directive. -/
def read (directive : List Char) : Except Problem Unit :=
  readFrom directive .start 0 (trim directive)

/-- Whether a filter can be read. -/
def isReadable (filter : String) : Bool :=
  (filter.toList.splitOn ',').all fun directive =>
    match read directive with
    | .error .characterCut => false
    | _ => true

end BlockForth.LogFilter
