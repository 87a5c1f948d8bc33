import BlockForth.Proofs.Token.Strings
import Mathlib.Data.Nat.Find
import Mathlib.Order.Basic

/-!
# Where a string ends

The reader takes the text up to the next blank as a string if it looks like one (`readWhole`), and
looks for the quote that ends the string otherwise (`readScanned`). A quote is free if no backslash
stands right before it. The scan ends behind the first free quote after the opening one, and fails
if there is none. So the two ways give the same string exactly if there is no free quote between the
ends of the chunk, which the first way does not look for (`readString_ways`).

The text before the first free quote is one in which every quote is escaped. Such texts are those
that escaping gives (`Quoted.escape_unescape`), and what the scan does with these is known.
-/

namespace BlockForth

/-- There is a quote at this index, not the first one of the text, and no backslash right before
it. -/
def FreeQuoteAt (cs : List Char) (i : ℕ) : Prop :=
  0 < i ∧ cs[i]? = some '"' ∧ cs[i - 1]? ≠ some '\\'

/-- The three conditions can be checked. -/
instance (cs : List Char) (i : ℕ) : Decidable (FreeQuoteAt cs i) :=
  inferInstanceAs (Decidable (_ ∧ _ ∧ _))

/-- A free quote is in the text. -/
theorem FreeQuoteAt.lt_length {cs : List Char} {i : ℕ} (h : FreeQuoteAt cs i) : i < cs.length :=
  (List.getElem?_eq_some_iff.1 h.2.1).1

/-- The character after the first one is a free quote if it is a quote and the first one is no
backslash. -/
theorem freeQuoteAt_cons_one {a : Char} {cs : List Char} :
    FreeQuoteAt (a :: cs) 1 ↔ cs.head? = some '"' ∧ a ≠ '\\' := by
  simp [FreeQuoteAt, List.head?_eq_getElem?]

/-- A free quote stays one behind one more character. -/
theorem FreeQuoteAt.cons {cs : List Char} {i : ℕ} (h : FreeQuoteAt cs i) (a : Char) :
    FreeQuoteAt (a :: cs) (i + 1) := by
  obtain ⟨hpos, hquote, hbackslash⟩ := h
  obtain ⟨i, rfl⟩ := Nat.exists_eq_succ_of_ne_zero hpos.ne'
  exact ⟨Nat.succ_pos _, hquote, hbackslash⟩

/-- What follows a text does not change which of its quotes are free. -/
theorem freeQuoteAt_append {cs : List Char} {i : ℕ} (hi : i < cs.length) (more : List Char) :
    FreeQuoteAt (cs ++ more) i ↔ FreeQuoteAt cs i := by
  unfold FreeQuoteAt
  rw [List.getElem?_append_left hi, List.getElem?_append_left (by omega)]

/-- If there are free quotes, then one of them is the first. -/
theorem exists_first_freeQuoteAt {cs : List Char} (h : ∃ i, FreeQuoteAt cs i) :
    ∃ i, FreeQuoteAt cs i ∧ ∀ j < i, ¬ FreeQuoteAt cs j :=
  ⟨Nat.find h, Nat.find_spec h, fun _ hj => Nat.find_min h hj⟩

/-- Without a free quote behind the opening one, every quote is an escaped one. -/
theorem Quoted.escape_unescape {a : Char} {cs : List Char} (ha : a = '\\' → cs.head? ≠ some '"')
    (h : ∀ i, ¬ FreeQuoteAt (a :: cs) i) : escape (unescape cs) = cs := by
  -- The character before the text goes along, since it decides about a quote at the start.
  fun_induction unescape cs generalizing a with
  | case1 => rfl
  | case2 rest ih =>
    have hrest : ∀ i, ¬ FreeQuoteAt ('"' :: rest) i :=
      fun i hi => h (i + 2) ((hi.cons '\\').cons a)
    rw [escape_cons_quote, ih (fun hquote => absurd hquote (by decide)) hrest]
  | case3 c rest hescape ih =>
    have hc : c ≠ '"' := by
      rintro rfl
      by_cases hbackslash : a = '\\'
      · exact ha hbackslash rfl
      · exact h 1 (freeQuoteAt_cons_one.2 ⟨rfl, hbackslash⟩)
    have hnext : c = '\\' → rest.head? ≠ some '"' := by
      intro hbackslash hhead
      obtain ⟨rest', rfl⟩ := List.head?_eq_some_iff.1 hhead
      exact hescape rest' hbackslash rfl
    rw [escape_cons hc, ih hnext fun i hi => h (i + 1) (hi.cons a)]

/-- The text up to the next blank is what comes first. -/
theorem Cursor.rawChunk_prefix (c : Cursor) : c.rawChunk <+: c.rest :=
  List.takeWhile_prefix _

namespace Token

/-! ## The two ways -/

/-- The text up to the next blank as a string. -/
def readWhole (c : Cursor) : Token × Cursor :=
  (literal c.location (.string (String.ofList (Quoted.unescape (c.rawChunk.drop 1).dropLast))),
    c.advance c.rawChunk.length)

/-- The string up to the quote that ends it. -/
def readScanned (c : Cursor) : Except Fault (Token × Cursor) :=
  match scanString [] (c.advance 1).rest (c.advance 1).location with
  | some (text, rest) => .ok (literal c.location (.string (String.ofList text)), rest)
  | none => .error (.inSource .stringNotClosed c.location)

/-- A string is read in one of two ways. -/
theorem readString_eq (c : Cursor) :
    readString c = if isWholeString c.rawChunk then .ok (readWhole c) else readScanned c := rfl

/-- The scan finds no end in an escaped text. -/
theorem scanString_escape_eq_none (read cs : List Char) (l : Location) :
    scanString read (Quoted.escape cs) l = none := by
  induction cs generalizing read l with
  | nil => rfl
  | cons c cs ih =>
    by_cases hc : c = '"'
    · rw [hc, Quoted.escape_cons_quote, scanString, ih]
    · have hhead : c = '\\' → (Quoted.escape cs).head? ≠ some '"' :=
        fun _ => Quoted.head?_escape_ne_quote cs
      rw [Quoted.escape_cons hc, scanString_cons l hhead hc, ih]

/-! ## Where the scan ends -/

section Scan

variable {cs inner rest : List Char} {l : Location}

/-- The scan ends at a free quote that has only escaped quotes before it. -/
theorem readScanned_append (hinner : ∀ i, ¬ FreeQuoteAt ('"' :: inner) i)
    (hlast : inner.getLast? ≠ some '\\') :
    readScanned ⟨'"' :: (inner ++ '"' :: rest), l⟩ =
      .ok (literal l (.string (String.ofList (Quoted.unescape inner))),
        ⟨rest, l.after ('"' :: (inner ++ ['"']))⟩) := by
  have hescape := Quoted.escape_unescape (fun hquote => absurd hquote (by decide)) hinner
  have hscan := scanString_escape [] (Quoted.unescape inner) rest (l.next '"')
    (by rwa [Quoted.getLast?_unescape])
  rw [hescape] at hscan
  unfold readScanned
  rw [Cursor.advance, List.drop_one, List.tail_cons]
  dsimp only
  rw [List.take_succ_cons, List.take_zero, Location.after_cons, Location.after_nil, hscan]
  rfl

/-- Without a free quote the scan finds no end, and the fault is at the quote that opens the string.
-/
theorem readScanned_eq_error (h : ∀ i, ¬ FreeQuoteAt ('"' :: cs) i) :
    readScanned ⟨'"' :: cs, l⟩ = .error (.inSource .stringNotClosed l) := by
  have hescape := Quoted.escape_unescape (fun hquote => absurd hquote (by decide)) h
  unfold readScanned
  rw [Cursor.advance, List.drop_one, List.tail_cons, ← hescape]
  dsimp only
  rw [scanString_escape_eq_none]

end Scan

variable {c : Cursor} {i : ℕ}

/-- The text before and behind a first free quote. -/
theorem exists_eq_append_of_first {cs : List Char} (hi : FreeQuoteAt ('"' :: cs) i)
    (hfirst : ∀ j < i, ¬ FreeQuoteAt ('"' :: cs) j) :
    ∃ inner rest, cs = inner ++ '"' :: rest ∧ i = inner.length + 1 ∧
      (∀ j, ¬ FreeQuoteAt ('"' :: inner) j) ∧ inner.getLast? ≠ some '\\' := by
  obtain ⟨hpos, hquote, hbackslash⟩ := hi
  obtain ⟨i, rfl⟩ := Nat.exists_eq_succ_of_ne_zero hpos.ne'
  obtain ⟨hlt, hget⟩ := List.getElem?_eq_some_iff.1 (show cs[i]? = some '"' from hquote)
  have hlength : (cs.take i).length = i := List.length_take_of_le hlt.le
  have hsplit : cs = cs.take i ++ '"' :: cs.drop (i + 1) := by
    rw [← hget, ← List.drop_eq_getElem_cons hlt, List.take_append_drop]
  refine ⟨cs.take i, cs.drop (i + 1), hsplit, by rw [hlength], fun j hj => ?_, fun hlast => ?_⟩
  · -- A free quote before the first one would be the first one.
    have hj' := hj.lt_length
    rw [← freeQuoteAt_append hj' ('"' :: cs.drop (i + 1)), List.cons_append, ← hsplit] at hj
    rw [List.length_cons, hlength] at hj'
    exact hfirst j hj' hj
  · obtain ⟨front, hfront⟩ := List.getLast?_eq_some_iff.1 hlast
    apply hbackslash
    rw [hsplit, hfront]
    have hcount : i = front.length + 1 := by
      rw [← hlength, hfront]
      simp
    simp [hcount]

/-- The scan ends behind the first free quote. -/
theorem readScanned_of_first (hquote : c.rest.head? = some '"')
    (hi : FreeQuoteAt c.rest i) (hfirst : ∀ j < i, ¬ FreeQuoteAt c.rest j) :
    readScanned c =
      .ok (literal c.location (.string (String.ofList (Quoted.unescape ((c.rest.take i).drop 1)))),
        c.advance (i + 1)) := by
  obtain ⟨chars, l⟩ := c
  obtain ⟨cs, rfl⟩ := List.head?_eq_some_iff.1 hquote
  obtain ⟨inner, rest, rfl, rfl, hinner, hlast⟩ := exists_eq_append_of_first hi hfirst
  have hsplit : inner ++ '"' :: rest = inner ++ ['"'] ++ rest := by simp
  have hlength : inner.length + 1 = (inner ++ ['"']).length := by simp
  rw [readScanned_append hinner hlast, Cursor.advance]
  dsimp only
  rw [List.take_succ_cons, List.drop_one, List.tail_cons, List.take_left, List.drop_succ_cons,
    List.take_succ_cons, hsplit, hlength, List.drop_left, List.take_left]

/-- The scan fails exactly if there is no free quote. -/
theorem readScanned_eq_error_iff {f : Fault} (hquote : c.rest.head? = some '"') :
    readScanned c = .error f ↔
      f = .inSource .stringNotClosed c.location ∧ ∀ i, ¬ FreeQuoteAt c.rest i := by
  by_cases hfree : ∃ i, FreeQuoteAt c.rest i
  · obtain ⟨i, hi, hfirst⟩ := exists_first_freeQuoteAt hfree
    rw [readScanned_of_first hquote hi hfirst]
    exact iff_of_false nofun fun h => h.2 i hi
  · rw [not_exists] at hfree
    obtain ⟨chars, l⟩ := c
    obtain ⟨cs, rfl⟩ := List.head?_eq_some_iff.1 hquote
    rw [readScanned_eq_error hfree, Except.error.injEq, and_iff_left hfree, eq_comm]

/-! ## Where the two ways part -/

/-- The last quote of a string on its own is free. -/
theorem exists_length_eq_of_isWholeString {chunk : List Char} (h : isWholeString chunk = true) :
    ∃ n, chunk.length = n + 1 ∧ FreeQuoteAt chunk n := by
  obtain ⟨inner, rfl, hlast⟩ := isWholeString_iff.1 h
  refine ⟨inner.length + 1, by simp, Nat.succ_pos _, by simp, ?_⟩
  rcases List.eq_nil_or_concat inner with rfl | ⟨front, d, rfl⟩
  · exact fun hquote => absurd (Option.some.inj hquote) (by decide)
  · simpa using hlast

/-- The text between the ends of a chunk. -/
theorem drop_take_rest {n : ℕ} (h : c.rawChunk.length = n + 1) :
    (c.rest.take n).drop 1 = (c.rawChunk.drop 1).dropLast := by
  obtain ⟨more, hmore⟩ := c.rawChunk_prefix
  rw [← hmore, List.take_append_of_le_length (by omega), List.drop_take, List.dropLast_eq_take,
    List.length_drop, h, Nat.add_sub_cancel]

/-- A string on its own is what the scan gives exactly if no quote between its ends is free. -/
theorem readScanned_eq_readWhole_iff (hquote : c.rest.head? = some '"')
    (hwhole : isWholeString c.rawChunk = true) :
    readScanned c = .ok (readWhole c) ↔
      ∀ i, i + 1 < c.rawChunk.length → ¬ FreeQuoteAt c.rawChunk i := by
  obtain ⟨n, hn, hend⟩ := exists_length_eq_of_isWholeString hwhole
  obtain ⟨more, hmore⟩ := c.rawChunk_prefix
  have hfree : ∀ j < c.rawChunk.length, (FreeQuoteAt c.rest j ↔ FreeQuoteAt c.rawChunk j) := by
    intro j hj
    rw [← hmore]
    exact freeQuoteAt_append hj more
  -- The scan ends in the chunk, at the latest where the chunk does.
  obtain ⟨j, hj, hfirst⟩ := exists_first_freeQuoteAt ⟨n, (hfree n (by omega)).2 hend⟩
  have hle : j ≤ n := by
    by_contra hlt
    exact hfirst n (Nat.lt_of_not_le hlt) ((hfree n (by omega)).2 hend)
  rw [readScanned_of_first hquote hj hfirst]
  constructor
  · intro heq i hi hstray
    have hcursor : c.advance (j + 1) = c.advance c.rawChunk.length :=
      congrArg Prod.snd (Except.ok.inj heq)
    have hlength : c.rest.length - (j + 1) = c.rest.length - c.rawChunk.length := by
      simpa [Cursor.advance] using congrArg (fun c : Cursor => c.rest.length) hcursor
    have hprefix : c.rawChunk.length ≤ c.rest.length := c.rawChunk_prefix.length_le
    exact hfirst i (by omega) ((hfree i (by omega)).2 hstray)
  · intro hinside
    obtain rfl : j = n := by
      by_contra hne
      exact hinside j (by omega) ((hfree j (by omega)).1 hj)
    rw [drop_take_rest hn, ← hn]
    rfl

/-- A string on its own is read as a whole, which gives the text and the place behind it that the
scan gives exactly if every quote between its ends has a backslash right before it. Any other string
is scanned. The scan ends behind the first quote after the opening one that has no backslash right
before it, and fails if there is none. -/
theorem readString_ways (c : Cursor) (hquote : c.rest.head? = some '"') :
    (isWholeString c.rawChunk = true →
      readString c = .ok (readWhole c) ∧
      (readScanned c = .ok (readWhole c) ↔
        ∀ i, i + 1 < c.rawChunk.length → ¬ FreeQuoteAt c.rawChunk i)) ∧
    (isWholeString c.rawChunk = false →
      readString c = readScanned c ∧
      (∀ i, FreeQuoteAt c.rest i → (∀ j < i, ¬ FreeQuoteAt c.rest j) →
        readScanned c =
          .ok (literal c.location
              (.string (String.ofList (Quoted.unescape ((c.rest.take i).drop 1)))),
            c.advance (i + 1))) ∧
      ((∃ f, readScanned c = .error f ∧ f.message = "string not closed" ∧
          f.location = some c.location) ↔
        ∀ i, ¬ FreeQuoteAt c.rest i)) := by
  constructor
  · intro hwhole
    refine ⟨?_, readScanned_eq_readWhole_iff hquote hwhole⟩
    rw [readString_eq, if_pos hwhole]
  · intro hwhole
    refine ⟨?_, fun i hi hfirst => readScanned_of_first hquote hi hfirst, ?_⟩
    · rw [readString_eq, hwhole, if_neg Bool.false_ne_true]
    · constructor
      · rintro ⟨f, hf, -⟩
        exact ((readScanned_eq_error_iff hquote).1 hf).2
      · intro hnone
        exact ⟨_, (readScanned_eq_error_iff hquote).2 ⟨rfl, hnone⟩, rfl, rfl⟩

/-- An escaped quote in a chunk does no harm, a free one does. A string with a blank ends at its
first free quote, and has to have one. -/
theorem readString_ways_quotes :
    let cursor := fun source => Cursor.start "quotes" source
    readScanned (cursor "\"a\\\"#\" x") = .ok (readWhole (cursor "\"a\\\"#\" x")) ∧
      readScanned (cursor "\"a\"#\" x") ≠ .ok (readWhole (cursor "\"a\"#\" x")) ∧
      readString (cursor "\"a b\"c") =
        .ok (literal ⟨"quotes", 1, 1⟩ (.string "a b"), ⟨['c'], ⟨"quotes", 1, 6⟩⟩) ∧
      ∃ f, readString (cursor "\"a b\\\"") = .error f ∧ f.message = "string not closed" := by
  intro cursor
  refine ⟨?_, ?_, ?_, ?_⟩
  · have hinside : ∀ i < 5, ¬ FreeQuoteAt (cursor "\"a\\\"#\" x").rawChunk i := by decide
    exact ((readString_ways _ rfl).1 (by decide)).2.2
      fun i hi => hinside i (Nat.lt_of_succ_lt_succ hi)
  · intro heq
    exact ((readString_ways _ rfl).1 (by decide)).2.1 heq 2 (by decide) (by decide)
  · obtain ⟨hread, hfirst, -⟩ := (readString_ways (cursor "\"a b\"c") rfl).2 (by decide)
    rw [hread]
    exact hfirst 4 (by decide) (by decide)
  · obtain ⟨hread, -, hnone⟩ := (readString_ways (cursor "\"a b\\\"") rfl).2 (by decide)
    have hquotes : ∀ i < 6, ¬ FreeQuoteAt (cursor "\"a b\\\"").rest i := by decide
    obtain ⟨f, hf, hmessage, -⟩ := hnone.2 fun i hi => hquotes i hi.lt_length hi
    exact ⟨f, hread.trans hf, hmessage⟩

end Token

end BlockForth
