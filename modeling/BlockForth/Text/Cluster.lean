import BlockForth.Text.ClusterTable

/-!
# Grapheme clusters

What a reader takes for one character may be several: a letter with its accents, a flag made of two
regional indicators, a family of pictographs. The extended grapheme clusters of Unicode are these
units. Every character has a class, and `BreakClass.joins` decides from the classes of a cluster
whether the next character still belongs to it. `flatten_clusters` says that cutting a text into its
clusters loses nothing.
-/

namespace BlockForth

/-- What a character does to the clusters around it. -/
inductive BreakClass where
  | carriageReturn
  | lineFeed
  /-- Stands alone. -/
  | control
  /-- Extends the character before it. -/
  | extend
  /-- Extends the character before it, and links two consonants. -/
  | linker
  /-- Extends the character before it, and keeps two consonants apart. -/
  | nonJoiner
  /-- Extends the character before it, and puts pictographs together. -/
  | joiner
  /-- Follows the character before it, as a mark with space of its own. -/
  | spacing
  /-- Belongs to the character after it. -/
  | prepended
  /-- A consonant that forms conjuncts. -/
  | consonant
  | pictograph
  /-- Half of a flag. -/
  | regional
  /-- A leading consonant of a Hangul syllable. -/
  | leading
  /-- A vowel of a Hangul syllable. -/
  | vowel
  /-- A trailing consonant of a Hangul syllable. -/
  | trailing
  /-- A Hangul syllable that can still take a trailing consonant or a vowel. -/
  | openSyllable
  /-- A Hangul syllable that has a trailing consonant. -/
  | closedSyllable
  | other
deriving DecidableEq, Repr

/-- The class of a letter or a part of a syllable in a script with syllable blocks. -/
def syllableClass (n : Nat) : BreakClass :=
  if (0x1100 ≤ n && n ≤ 0x115F) || (0xA960 ≤ n && n ≤ 0xA97C) then .leading
  else if (0x1160 ≤ n && n ≤ 0x11A7) || (0xD7B0 ≤ n && n ≤ 0xD7C6) then .vowel
  else if n == 0x16D63 || (0x16D67 ≤ n && n ≤ 0x16D6A) then .vowel
  else if (0x11A8 ≤ n && n ≤ 0x11FF) || (0xD7CB ≤ n && n ≤ 0xD7FB) then .trailing
  else if 0xAC00 ≤ n && n ≤ 0xD7A3 then
    if (n - 0xAC00) % 28 == 0 then .openSyllable else .closedSyllable
  else .other

/-- The class of a character. -/
def breakClass (c : Char) : BreakClass :=
  if c == '\r' then .carriageReturn
  else if c == '\n' then .lineFeed
  else if ' ' ≤ c && c ≤ '~' then .other
  else if c.toNat == 0x200C then .nonJoiner
  else if c.toNat == 0x200D then .joiner
  else if linkers.contains c.toNat then .linker
  else if inRanges controlRanges c then .control
  else if inRanges extendRanges c then .extend
  else if inRanges spacingRanges c then .spacing
  else if inRanges prependedRanges c then .prepended
  else if inRanges consonantRanges c then .consonant
  else if inRanges pictographRanges c then .pictograph
  else if 0x1F1E6 ≤ c.toNat && c.toNat ≤ 0x1F1FF then .regional
  else syllableClass c.toNat

namespace BreakClass

/-- Whether a character of the class has nothing to do with its neighbours. -/
def isAlone (k : BreakClass) : Bool :=
  k == .control || k == .carriageReturn || k == .lineFeed

/-- Whether a character of the class extends the one before it without joining it to the next. -/
def isExtending (k : BreakClass) : Bool :=
  k == .extend || k == .linker || k == .nonJoiner

/-- Whether a character of the class may stand inside a conjunct. -/
def isConjoining (k : BreakClass) : Bool :=
  k == .extend || k == .linker || k == .joiner

/-- Whether a character of the class belongs to the one before it, whatever that is. -/
def isAttached (k : BreakClass) : Bool :=
  k.isExtending || k == .joiner || k == .spacing

/-- Whether two parts of a Hangul syllable, one after the other, belong to one syllable. -/
def inSyllable (last next : BreakClass) : Bool :=
  match last, next with
  | .leading, .leading | .leading, .vowel => true
  | .leading, .openSyllable | .leading, .closedSyllable => true
  | .openSyllable, .vowel | .vowel, .vowel => true
  | .openSyllable, .trailing | .vowel, .trailing => true
  | .closedSyllable, .trailing | .trailing, .trailing => true
  | _, _ => false

/-- Whether a conjunct is open after the classes `before`, last one first: there is a consonant and
a linker after it, with nothing but marks among them. -/
def opensConjunct (before : List BreakClass) : Bool :=
  (before.takeWhile isConjoining).contains .linker &&
    (before.dropWhile isConjoining).head? == some .consonant

/-- Whether a pictograph and a joiner come last in the classes `before`, last one first. -/
def opensPictograph (before : List BreakClass) : Bool :=
  match before with
  | .joiner :: rest => (rest.dropWhile isExtending).head? == some .pictograph
  | _ => false

/-- Whether half a flag comes last in the classes `before`, last one first. -/
def opensFlag (before : List BreakClass) : Bool :=
  (before.takeWhile (· == .regional)).length % 2 == 1

/-- Whether a character of class `next` belongs to the cluster before it, which has the classes
`before`, last one first. -/
def joins (before : List BreakClass) (next : BreakClass) : Bool :=
  match before with
  | [] => false
  | last :: _ =>
    if last.isAlone || next.isAlone then last == .carriageReturn && next == .lineFeed
    else
      next.isAttached || last == .prepended || inSyllable last next ||
        (next == .consonant && opensConjunct before) ||
        (next == .pictograph && opensPictograph before) ||
        (next == .regional && opensFlag before)

end BreakClass

/-- Cuts a text into clusters. `cluster` holds the current cluster and `classes` its classes, both
last one first, and `done` the clusters before it, last one first. -/
def clustersFrom (cluster : List Char) (classes : List BreakClass) (done : List (List Char)) :
    List Char → List (List Char)
  | [] => (cluster.reverse :: done).reverse
  | c :: rest =>
    let next := breakClass c
    if BreakClass.joins classes next then clustersFrom (c :: cluster) (next :: classes) done rest
    else clustersFrom [c] [next] (cluster.reverse :: done) rest

/-- The clusters of a text. -/
def clusters : List Char → List (List Char)
  | [] => []
  | c :: rest => clustersFrom [c] [breakClass c] [] rest

/-- Cutting goes on where the clusters before have ended. -/
theorem flatten_clustersFrom (cluster : List Char) (classes : List BreakClass)
    (done : List (List Char)) (cs : List Char) :
    (clustersFrom cluster classes done cs).flatten =
      done.reverse.flatten ++ cluster.reverse ++ cs := by
  induction cs generalizing cluster classes done with
  | nil => simp [clustersFrom]
  | cons c rest ih =>
    rw [clustersFrom]
    split <;> simp [ih]

/-- The clusters of a text make up the text. -/
theorem flatten_clusters (cs : List Char) : (clusters cs).flatten = cs := by
  cases cs with
  | nil => rfl
  | cons c rest => simp [clusters, flatten_clustersFrom]

end BlockForth
