import BlockForth.Pattern.Atom

/-!
# Brackets in a pattern

A bracket is a set of characters. Its items are literals, ranges, named classes, and brackets, with
operators between groups of them. A reader keeps no more of a set than its height, the number of
levels in it, since a pattern must not have too many.
-/

namespace BlockForth.Pattern

/-- The height of things that stand side by side. There is a level for them if they are several. -/
def joinedHeight : List Nat → Nat
  | [] => 0
  | [height] => height
  | heights => heights.foldl max 0 + 1

/-- A bracket that is open. -/
structure Bracket where
  negated : Bool := false
  /-- The heights of its items since the last operator. -/
  items : List Nat := []
  /-- The height of what stands before the last operator. -/
  left : Option Nat := none
deriving DecidableEq, Repr

namespace Bracket

/-- The height of what the bracket holds so far. -/
def height (b : Bracket) : Nat :=
  match b.left with
  | none => joinedHeight b.items
  | some left => max left (joinedHeight b.items) + 1

/-- Adds an item. -/
def add (b : Bracket) (height : Nat) : Bracket :=
  { b with items := height :: b.items }

/-- Goes on behind an operator. -/
def operate (b : Bracket) : Bracket :=
  { b with items := [], left := some b.height }

end Bracket

/-- A text that must not have ended. -/
def nonempty? : List Char → Option (List Char)
  | [] => none
  | cs => some cs

/-- Reads the dashes at the start of a bracket, which stand for themselves. -/
def dashes? (f : Flags) : (fuel : Nat) → Bracket → List Char → Option (Bracket × List Char)
  | fuel + 1, b, '-' :: rest => do
    let rest ← nonempty? (f.skipSpace rest)
    dashes? f fuel (b.add 0) rest
  | _, b, cs => some (b, cs)

/-- Reads the start of a bracket, behind its `[`. A `]` at once stands for itself. -/
def openBracket? (f : Flags) (cs : List Char) : Option (Bracket × List Char) := do
  let cs ← nonempty? (f.skipSpace cs)
  let (b, cs) ←
    match cs with
    | '^' :: rest => (nonempty? (f.skipSpace rest)).map (({ negated := true } : Bracket), ·)
    | cs => some ({}, cs)
  let (b, cs) ← dashes? f cs.length b cs
  let (b, cs) ←
    match b.items, cs with
    | [], ']' :: rest => (nonempty? (f.skipSpace rest)).map (b.add 0, ·)
    | _, cs => some (b, cs)
  -- Whatever was read stands for itself.
  if b.items.isEmpty || (Atom.literal '-' false).isMember f then some (b, cs) else none

/-- The names of classes. -/
def classNames : List String :=
  ["alnum", "alpha", "ascii", "blank", "cntrl", "digit", "graph", "lower", "print", "punct",
   "space", "upper", "word", "xdigit"]

/-- Reads a named class, behind its `[`, and gives whether it is negated. -/
def namedClass? : List Char → Option (Bool × List Char)
  | ':' :: cs =>
    let negated := cs.head? == some '^'
    let cs := if negated then cs.drop 1 else cs
    match cs.dropWhile (· != ':') with
    | ':' :: ']' :: rest =>
      if classNames.contains (String.ofList (cs.takeWhile (· != ':'))) then some (negated, rest)
      else none
    | _ => none
  | _ => none

/-- Reads an atom in a bracket. -/
def member? (f : Flags) : List Char → Option (Atom × List Char)
  | [] => none
  | '\\' :: rest => escape? f rest
  | c :: rest => some (.literal c false, rest)

/-- The character behind a dash that decides what the dash is. White space is passed over where
the flags say so, and with it a `#`, but not the comment that it starts. -/
def behindDash (f : Flags) (cs : List Char) : Option Char :=
  if f.spacious then
    let shown :=
      match cs.dropWhile isSpace with
      | '#' :: rest => rest.dropWhile isSpace
      | rest => rest
    shown.head?.or cs.head?
  else cs.head?

/-- Reads a literal, a shorthand class, or a range, and gives what follows it. -/
def range? (f : Flags) (cs : List Char) : Option (List Char) := do
  let (first, rest) ← member? f cs
  let single (rest : List Char) : Option (List Char) :=
    if first.isMember f then some rest else none
  match ← nonempty? (f.skipSpace rest) with
  | '-' :: behind =>
    if behindDash f behind == some ']' || behindDash f behind == some '-' then
      single ('-' :: behind)
    else
      let behind ← nonempty? (f.skipSpace behind)
      let (last, rest) ← member? f behind
      match first, last with
      | .literal a _, .literal b _ =>
        if a ≤ b && first.isMember f && last.isMember f then some rest else none
      | _, _ => none
  | rest => single rest

/-- Reads the rest of a bracket, and gives its height. `outer` holds the brackets around it,
innermost first. -/
def bracket? (f : Flags) : (fuel : Nat) → Bracket → (outer : List Bracket) → List Char →
    Option (Nat × List Char)
  | 0, _, _, _ => none
  | fuel + 1, b, outer, cs =>
    match f.skipSpace cs with
    | [] => none
    | '[' :: rest =>
      match namedClass? rest with
      | some (negated, rest) =>
        if (if f.unicode then f.caseless else negated) then none
        else bracket? f fuel (b.add 0) outer rest
      | none => do
        let (inner, rest) ← openBracket? f rest
        bracket? f fuel inner (b :: outer) rest
    | ']' :: rest =>
      if b.negated && !f.unicode then none
      else
        match outer with
        | [] => some (b.height + 1, rest)
        | o :: outer => bracket? f fuel (o.add (b.height + 1)) outer rest
    | '&' :: '&' :: rest | '-' :: '-' :: rest | '~' :: '~' :: rest =>
      bracket? f fuel b.operate outer rest
    | cs => do bracket? f fuel (b.add 0) outer (← range? f cs)

end BlockForth.Pattern
