import BlockForth.Pattern.Bracket

/-!
# Well-formed patterns

Whether a text is a pattern. It is read from left to right, with the groups that are open on a
stack. Flags that are set in a group hold up to its end. A pattern has at most `maxHeight` levels.

A count in braces is not read. The patterns here stand in braces themselves, so a brace is never
closed in them.
-/

namespace BlockForth.Pattern

/-- The greatest number of levels of a pattern. -/
def maxHeight : Nat := 250

/-- A group that is open, as it was left. -/
structure Group where
  flags : Flags
  /-- The heights of the items of its last branch, last one first. -/
  items : List Nat
  /-- The heights of the branches before. -/
  branches : List Nat
deriving DecidableEq, Repr

/-- What has been read of a pattern. -/
structure Reading where
  flags : Flags := {}
  /-- The heights of the items of the current branch, last one first. -/
  items : List Nat := []
  /-- Whether the last item can be repeated. -/
  repeatable : Bool := false
  /-- The heights of the branches before, in the same group. -/
  branches : List Nat := []
  /-- The groups around, innermost first. -/
  groups : List Group := []
  /-- The names of groups. -/
  names : List (List Char) := []
deriving DecidableEq, Repr

namespace Reading

/-- The height of the current group. -/
def height (r : Reading) : Nat :=
  joinedHeight (joinedHeight r.items :: r.branches)

/-- Adds an item that can be repeated. -/
def add (r : Reading) (height : Nat) : Reading :=
  { r with items := height :: r.items, repeatable := true }

/-- Adds an atom. -/
def addAtom? (r : Reading) (a : Atom) : Option Reading :=
  if a.isAllowed r.flags then some (r.add 0) else none

/-- Starts another branch. -/
def branch (r : Reading) : Reading :=
  { r with items := [], repeatable := false, branches := joinedHeight r.items :: r.branches }

/-- Repeats the last item. -/
def repeat? (r : Reading) : Option Reading :=
  match r.items with
  | height :: items => if r.repeatable then some { r with items := (height + 1) :: items } else none
  | [] => none

/-- Opens a group, in which the given flags are in force. -/
def enter (r : Reading) (flags : Flags) : Reading :=
  { r with
    flags := flags, items := [], repeatable := false, branches := [],
    groups := ⟨r.flags, r.items, r.branches⟩ :: r.groups }

/-- Closes the innermost group. -/
def leave? (r : Reading) : Option Reading :=
  match r.groups with
  | [] => none
  | g :: groups =>
    let outside : Reading :=
      { r with flags := g.flags, items := g.items, branches := g.branches, groups := groups }
    some (outside.add (r.height + 1))

end Reading

/-- Flags as they are written, and what ends them. -/
structure FlagList where
  flags : Flags
  isEmpty : Bool
  stop : Char
  rest : List Char

/-- The letters of the flags, and the dash that resets those behind it. -/
def flagLetters : List Char :=
  ['i', 'm', 's', 'U', 'u', 'R', 'x', '-']

/-- Reads flags. `seen` holds what was read before, last one first. -/
def flags? (f : Flags) (seen : List Char) : List Char → Option FlagList
  | [] => none
  | c :: rest =>
    if c == ':' || c == ')' then
      if seen.head? == some '-' then none else some ⟨f, seen.isEmpty, c, rest⟩
    else if seen.contains c || !flagLetters.contains c then none
    else flags? (f.set c (!seen.contains '-')) (c :: seen) rest

/-- Whether a text can be the name of a group. -/
def isGroupName : List Char → Bool
  | [] => false
  | c :: rest =>
    (c == '_' || isAlphabetic c) &&
      rest.all fun c => c == '_' || c == '.' || c == '[' || c == ']' || isAlphanumeric c

/-- Opens a group with a name, which starts `cs`. -/
def namedGroup? (r : Reading) (cs : List Char) : Option (Reading × List Char) :=
  let name := cs.takeWhile (· != '>')
  match cs.dropWhile (· != '>') with
  | [] => none
  | _ :: rest =>
    if isGroupName name && !r.names.contains name then
      some ({ r with names := name :: r.names }.enter r.flags, rest)
    else none

/-- Opens a group or sets flags, behind a `(`. Groups that look ahead or behind are refused. -/
def group? (r : Reading) (cs : List Char) : Option (Reading × List Char) :=
  match r.flags.skipSpace cs with
  | '?' :: '=' :: _ | '?' :: '!' :: _ | '?' :: '<' :: '=' :: _ | '?' :: '<' :: '!' :: _ => none
  | '?' :: 'P' :: '<' :: cs | '?' :: '<' :: cs => namedGroup? r cs
  | '?' :: cs => do
    let found ← flags? r.flags [] cs
    if found.stop == ':' then some (r.enter found.flags, found.rest)
    else if found.isEmpty then none
    else some ({ r.add 0 with flags := found.flags, repeatable := false }, found.rest)
  | cs => some (r.enter r.flags, cs)

/-- Reads the next part of a pattern, which starts with `c`. -/
def step? (r : Reading) (c : Char) (rest : List Char) : Option (Reading × List Char) :=
  match c with
  | '(' => group? r rest
  | ')' => r.leave?.map (·, rest)
  | '|' => some (r.branch, rest)
  | '[' => do
    let (b, rest) ← openBracket? r.flags rest
    let (height, rest) ← bracket? r.flags (rest.length + 1) b [] rest
    return (r.add height, rest)
  | '*' | '+' | '?' => r.repeat?.map (·, if rest.head? == some '?' then rest.drop 1 else rest)
  | '\x7b' => none
  | '\\' => do
    let (a, rest) ← escape? r.flags rest
    return (← r.addAtom? a, rest)
  | '.' => (r.addAtom? .any).map (·, rest)
  | '^' | '$' => (r.addAtom? .anchor).map (·, rest)
  | c => (r.addAtom? (.literal c false)).map (·, rest)

/-- Whether the rest of a pattern is well formed. -/
def isWellFormedFrom : (fuel : Nat) → Reading → List Char → Bool
  | 0, _, _ => false
  | fuel + 1, r, cs =>
    match r.flags.skipSpace cs with
    | [] => r.groups.isEmpty && r.height ≤ maxHeight
    | c :: rest =>
      match step? r c rest with
      | some (r, rest) => isWellFormedFrom fuel r rest
      | none => false

/-- Whether a text is a pattern. -/
def isWellFormed (cs : List Char) : Bool :=
  isWellFormedFrom (cs.length + 1) {} cs

end BlockForth.Pattern
