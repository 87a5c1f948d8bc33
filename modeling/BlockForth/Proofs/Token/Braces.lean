import BlockForth.Proofs.Token.Reading

/-!
# Braces are matched after the text is read

The reader goes into a block as soon as it meets the opening brace, and comes back at the closing
one. It could as well read the whole text first, with every brace as a lexeme of its own, and match
the braces afterwards. `readAll_eq_finish` says that this is the same: the same tokens, or the same
fault.

`Cursor.lexemes` is the flat reading, which repeats `Cursor.lexeme?` up to the end of the text.
`Nesting` holds the blocks that are open, the innermost one first, and `Nesting.add` says what one
more lexeme does to them. The proof follows the reader round by round. `Nesting.readOn` is what the
flat way makes of the rest of the text, and the reader inside of a block gets to the closing brace
where `readOn` has one block less to close (`readOn_of_readFrom`).

Matching the braces keeps every lexeme in its place (`Nesting.lexemes_foldl_add`).
-/

namespace BlockForth

/-! ## Flat reading -/

/-- All lexemes from the cursor on, or the first fault among them. -/
def Cursor.lexemes (c : Cursor) : Except Fault (List Lexeme) :=
  match _h : c.lexeme? with
  | .error f => .error f
  | .ok none => .ok []
  | .ok (some (x, c')) => (lexemes c').map (x :: ·)
termination_by c.rest.length
decreasing_by exact Cursor.length_lexeme?_lt (by assumption)

/-- Flat reading by the next lexeme. -/
theorem Cursor.lexemes_eq (c : Cursor) :
    c.lexemes =
      match c.lexeme? with
      | .error f => .error f
      | .ok none => .ok []
      | .ok (some (x, c')) => c'.lexemes.map (x :: ·) := by
  rw [lexemes]
  split
  all_goals simp_all only

/-- A fault in the next lexeme is the first one. -/
theorem Cursor.lexemes_of_error {c : Cursor} {f : Fault} (h : c.lexeme? = .error f) :
    c.lexemes = .error f := by
  rw [lexemes_eq, h]

/-- At the end of the text there are no more lexemes. -/
theorem Cursor.lexemes_of_none {c : Cursor} (h : c.lexeme? = .ok none) : c.lexemes = .ok [] := by
  rw [lexemes_eq, h]

/-- The next lexeme comes in front of those after it. -/
theorem Cursor.lexemes_of_some {c c' : Cursor} {x : Lexeme} {r : Except Fault (List Lexeme)}
    (h : c.lexeme? = .ok (some (x, c'))) (hrest : c'.lexemes = r) :
    c.lexemes = r.map (x :: ·) := by
  rw [lexemes_eq, h, ← hrest]

/-! ## Matching the braces -/

/-- A block that is not closed yet. -/
structure OpenBlock where
  /-- The place of the opening brace. -/
  location : Location
  /-- The tokens in front of the block, in the block around it or outside of all, last one first. -/
  before : List Token

/-- The tokens that lexemes have been put together to, with blocks that are still open. -/
structure Nesting where
  /-- The open blocks, innermost first. -/
  opened : List OpenBlock := []
  /-- The tokens of the innermost open block, or those outside of all, last one first. -/
  read : List Token := []

namespace Nesting

/-- Adds a lexeme. An opening brace opens a block, and a closing one closes the innermost open
block. If there is none, then the closing brace is a word. -/
def add (n : Nesting) : Lexeme → Nesting
  | .token t => { n with read := t :: n.read }
  | .opening l => { opened := ⟨l, n.read⟩ :: n.opened, read := [] }
  | .closing l =>
    match n.opened with
    | [] => { n with read := .word l "\x7d" :: n.read }
    | b :: outer => { opened := outer, read := .block b.location n.read.reverse :: b.before }

/-- The tokens when there are no more lexemes. A block that is still open is a fault at its opening
brace, and of several ones the innermost counts. -/
def finish (n : Nesting) : Except Fault (List Token) :=
  match n.opened with
  | [] => .ok n.read.reverse
  | b :: _ => .error (.inSource .blockNotClosed b.location)

/-- The tokens that the rest of a text completes. -/
def readOn (n : Nesting) (c : Cursor) : Except Fault (List Token) :=
  c.lexemes.bind fun xs => (xs.foldl add n).finish

/-- A fault in the next lexeme ends the reading. -/
theorem readOn_of_error {c : Cursor} {f : Fault} (n : Nesting) (h : c.lexeme? = .error f) :
    n.readOn c = .error f := by
  rw [readOn, Cursor.lexemes_of_error h]
  rfl

/-- The end of the text completes the tokens as they are. -/
theorem readOn_of_none {c : Cursor} (n : Nesting) (h : c.lexeme? = .ok none) :
    n.readOn c = n.finish := by
  rw [readOn, Cursor.lexemes_of_none h]
  rfl

/-- The next lexeme is added before the rest is read. -/
theorem readOn_of_some {c c' : Cursor} {x : Lexeme} (n : Nesting)
    (h : c.lexeme? = .ok (some (x, c'))) : n.readOn c = (n.add x).readOn c' := by
  rw [readOn, Cursor.lexemes_of_some h rfl, readOn]
  rcases c'.lexemes with f | xs
  · rfl
  · rfl

end Nesting

namespace Token

/-! ## The reader round by round -/

/-- Inside of a block, the reader gets to the brace that closes it, and what follows is read on with
the block among the tokens of the block around it. If the text ends before, or a lexeme is faulty,
then both ways of reading have the same fault. -/
theorem readOn_of_readFrom {fuel : Nat} {l : Location} {read : List Token} {c : Cursor}
    (hfuel : c.rest.length < fuel) (before : List Token) (outer : List OpenBlock) :
    (readFrom fuel (some l) read c).bind
        (fun p => Nesting.readOn ⟨outer, block l p.1 :: before⟩ p.2) =
      Nesting.readOn ⟨⟨l, before⟩ :: outer, read⟩ c := by
  induction fuel generalizing l read c before outer with
  | zero => exact absurd hfuel (Nat.not_lt_zero _)
  | succ fuel ih =>
    rw [readFrom_of_pos (Nat.succ_pos fuel), Nat.succ_sub_one]
    rcases hlexeme : c.lexeme? with f | _ | ⟨t | l' | l', c₁⟩
    · rw [Nesting.readOn_of_error _ hlexeme]
      rfl
    · rw [Nesting.readOn_of_none _ hlexeme]
      rfl
    · have hlt := Cursor.length_lexeme?_lt hlexeme
      rw [Nesting.readOn_of_some _ hlexeme]
      exact ih (by omega) before outer
    · -- A block inside of the block: the hypothesis applies to it, and to what follows it.
      have hlt := Cursor.length_lexeme?_lt hlexeme
      have hinside : (readFrom fuel (some l') [] c₁).bind
            (fun p => Nesting.readOn ⟨⟨l, before⟩ :: outer, block l' p.1 :: read⟩ p.2) =
          Nesting.readOn ⟨⟨l', read⟩ :: ⟨l, before⟩ :: outer, []⟩ c₁ :=
        ih (by omega) read (⟨l, before⟩ :: outer)
      rw [Nesting.readOn_of_some _ hlexeme, Nesting.add, ← hinside]
      dsimp only
      rcases hbody : readFrom fuel (some l') [] c₁ with f | ⟨body, c₂⟩
      · rfl
      · obtain ⟨_, -, hreads⟩ := reads_of_readFrom (by omega) hbody
        have hle := hreads.length_le
        exact ih (by omega) before outer
    · rw [Nesting.readOn_of_some _ hlexeme]
      rfl

/-- Outside of every block, the reader gives the tokens that the rest of the text completes. -/
theorem readFrom_none_eq_readOn {fuel : Nat} {read : List Token} {c : Cursor}
    (hfuel : c.rest.length < fuel) :
    (readFrom fuel none read c).map Prod.fst = Nesting.readOn ⟨[], read⟩ c := by
  induction fuel generalizing read c with
  | zero => exact absurd hfuel (Nat.not_lt_zero _)
  | succ fuel ih =>
    rw [readFrom_of_pos (Nat.succ_pos fuel), Nat.succ_sub_one]
    rcases hlexeme : c.lexeme? with f | _ | ⟨t | l | l, c₁⟩
    · rw [Nesting.readOn_of_error _ hlexeme]
      rfl
    · rw [Nesting.readOn_of_none _ hlexeme]
      rfl
    · have hlt := Cursor.length_lexeme?_lt hlexeme
      rw [Nesting.readOn_of_some _ hlexeme]
      exact ih (by omega)
    · have hlt := Cursor.length_lexeme?_lt hlexeme
      have hinside : (readFrom fuel (some l) [] c₁).bind
            (fun p => Nesting.readOn ⟨[], block l p.1 :: read⟩ p.2) =
          Nesting.readOn ⟨[⟨l, read⟩], []⟩ c₁ :=
        readOn_of_readFrom (by omega) read []
      rw [Nesting.readOn_of_some _ hlexeme, Nesting.add, ← hinside]
      dsimp only
      rcases hbody : readFrom fuel (some l) [] c₁ with f | ⟨body, c₂⟩
      · rfl
      · obtain ⟨_, -, hreads⟩ := reads_of_readFrom (by omega) hbody
        have hle := hreads.length_le
        exact ih (by omega)
    · -- No block is open, so that the brace is a word for both.
      have hlt := Cursor.length_lexeme?_lt hlexeme
      rw [Nesting.readOn_of_some _ hlexeme]
      exact ih (by omega)

end Token

/-! ## No lexeme is lost -/

/-- The lexeme without the place of a closing brace, which a block does not keep. -/
def Lexeme.mark : Lexeme → Lexeme
  | closing _ => closing {}
  | x => x

/-- The token has no parts and is no closing brace. -/
def Token.IsAtom : Token → Prop
  | .word _ spelling => spelling ≠ "\x7d"
  | .literal _ _ => True
  | .block _ _ => False

mutual

/-- The lexemes that a token is put together from. A closing brace that is a word is one of them. -/
def Token.lexemes : Token → List Lexeme
  | .word l spelling => if spelling = "\x7d" then [.closing {}] else [.token (.word l spelling)]
  | .literal l v => [.token (.literal l v)]
  | .block l body => .opening l :: (Token.lexemesAll body ++ [.closing {}])

/-- The lexemes that tokens are put together from. -/
def Token.lexemesAll : List Token → List Lexeme
  | [] => []
  | t :: ts => t.lexemes ++ Token.lexemesAll ts

end

namespace Token

/-- The lexemes of tokens are those of each token in turn. -/
theorem lexemesAll_eq_flatMap (ts : List Token) : lexemesAll ts = ts.flatMap lexemes := by
  induction ts with
  | nil => rfl
  | cons t ts ih => rw [lexemesAll, ih, List.flatMap_cons]

/-- One more token at the end. -/
theorem lexemesAll_reverse_cons (t : Token) (read : List Token) :
    lexemesAll (t :: read).reverse = lexemesAll read.reverse ++ t.lexemes := by
  simp only [lexemesAll_eq_flatMap, List.reverse_cons, List.flatMap_append, List.flatMap_cons,
    List.flatMap_nil, List.append_nil]

/-- A token without parts is one lexeme. -/
theorem IsAtom.lexemes_eq {t : Token} (h : t.IsAtom) : t.lexemes = [.token t] := by
  cases t with
  | word l spelling => exact if_neg h
  | literal l v => rfl
  | block l body => exact h.elim

/-- The reader takes a token without parts from the text in one round. -/
theorem isAtom_of_lexeme? {c c' : Cursor} {t : Token} (h : c.lexeme? = .ok (some (.token t, c'))) :
    t.IsAtom := by
  rcases hrest : c.skip.rest with _ | ⟨a, rest⟩
  · rw [Cursor.lexeme?_of_nil hrest] at h
    cases h
  · by_cases hquote : a = '"'
    · rw [hquote] at hrest
      rw [Cursor.lexeme?_of_quote hrest] at h
      rcases hstring : readString c.skip with f | ⟨t', c₁⟩
      · rw [hstring] at h
        cases h
      · rw [hstring] at h
        cases h
        obtain ⟨s, rfl, -⟩ := readString_cases hstring
        exact trivial
    · rw [Cursor.lexeme?_of_chunk hrest hquote] at h
      obtain ⟨-, ⟨-, htoken⟩ | ⟨-, htoken⟩ | ⟨-, hclosing, t', hof, htoken⟩⟩ :=
        Lexeme.ofChunk_cases h
      · cases htoken
      · cases htoken
      · cases htoken
        unfold ofChunk at hof
        split at hof
        · -- A word, which is not the closing brace.
          cases hof
          exact fun heq => hclosing (String.ofList_injective heq)
        · cases hof
          exact trivial
        · split at hof
          · cases hof
            exact trivial
          · cases hof

end Token

/-- Every token among the lexemes of a text is without parts. -/
theorem Cursor.isAtom_of_mem_lexemes {c : Cursor} {xs : List Lexeme} (h : c.lexemes = .ok xs)
    {t : Token} (ht : .token t ∈ xs) : t.IsAtom := by
  induction xs generalizing c with
  | nil => exact absurd ht List.not_mem_nil
  | cons x xs ih =>
    rw [lexemes_eq] at h
    rcases hlexeme : c.lexeme? with f | _ | ⟨y, c'⟩
    · rw [hlexeme] at h
      cases h
    · rw [hlexeme] at h
      cases h
    · rw [hlexeme] at h
      dsimp only at h
      rcases hrest : c'.lexemes with f | ys
      · rw [hrest] at h
        cases h
      · rw [hrest] at h
        cases h
        rcases List.mem_cons.1 ht with rfl | hmem
        · exact Token.isAtom_of_lexeme? hlexeme
        · exact ih hrest hmem

namespace Nesting

/-- The lexemes in front of the innermost open block, with its opening brace. -/
def openedLexemes : List OpenBlock → List Lexeme
  | [] => []
  | b :: outer =>
    openedLexemes outer ++ (Token.lexemesAll b.before.reverse ++ [.opening b.location])

/-- The lexemes that the tokens and the open blocks have been put together from. -/
def lexemes (n : Nesting) : List Lexeme :=
  openedLexemes n.opened ++ Token.lexemesAll n.read.reverse

/-- A lexeme is added behind all others. -/
theorem lexemes_add (n : Nesting) (x : Lexeme) (hx : ∀ t, x = .token t → t.IsAtom) :
    (n.add x).lexemes = n.lexemes ++ [x.mark] := by
  obtain ⟨opened, read⟩ := n
  cases x with
  | token t =>
    have ht : t.lexemes = [.token t] := (hx t rfl).lexemes_eq
    simp only [add, lexemes, Lexeme.mark, Token.lexemesAll_reverse_cons, ht, List.append_assoc]
  | opening l =>
    simp only [add, lexemes, openedLexemes, Lexeme.mark, Token.lexemesAll, List.reverse_nil,
      List.append_nil, List.append_assoc]
  | closing l =>
    cases opened with
    | nil =>
      -- The brace is a word outside of every block.
      have hbrace : (Token.word l "\x7d").lexemes = [.closing {}] := by
        rw [Token.lexemes, if_pos rfl]
      simp only [add, lexemes, Lexeme.mark, Token.lexemesAll_reverse_cons, hbrace,
        List.append_assoc]
    | cons b outer =>
      simp only [add, lexemes, openedLexemes, Lexeme.mark, Token.lexemesAll_reverse_cons,
        Token.lexemes, List.append_assoc, List.cons_append, List.nil_append]

/-- Lexemes that are added one after the other stand in that order behind those before them. -/
theorem lexemes_foldl_add (xs : List Lexeme) (n : Nesting)
    (hxs : ∀ t, .token t ∈ xs → t.IsAtom) :
    (xs.foldl add n).lexemes = n.lexemes ++ xs.map Lexeme.mark := by
  induction xs generalizing n with
  | nil => simp
  | cons x xs ih =>
    have hx : ∀ t, x = .token t → t.IsAtom := by
      rintro t rfl
      exact hxs t List.mem_cons_self
    have hrest : ∀ t, .token t ∈ xs → t.IsAtom := fun t ht => hxs t (List.mem_cons_of_mem x ht)
    rw [List.foldl_cons, ih _ hrest, lexemes_add n x hx, List.map_cons, List.append_assoc,
      List.singleton_append]

/-- When nothing is open, the tokens hold all lexemes. -/
theorem lexemesAll_of_finish {n : Nesting} {ts : List Token} (h : n.finish = .ok ts) :
    Token.lexemesAll ts = n.lexemes := by
  obtain ⟨opened, read⟩ := n
  cases opened with
  | nil =>
    cases h
    rfl
  | cons b outer => cases h

end Nesting

namespace Token

/-- Reading a text is reading all its lexemes first, and matching the braces among them afterwards.
A faulty lexeme is the fault of the text. Otherwise the tokens are those that the lexemes are put
together to, or there is a fault at the innermost block that is still open at the end. The tokens
hold the lexemes of the text in their order, each of them once. -/
theorem readAll_eq_finish (path source : String) :
    (∀ f, (Cursor.start path source).lexemes = .error f → readAll path source = .error f) ∧
    ∀ xs, (Cursor.start path source).lexemes = .ok xs →
      readAll path source = (xs.foldl Nesting.add {}).finish ∧
      ∀ ts, readAll path source = .ok ts → lexemesAll ts = xs.map Lexeme.mark := by
  have hread : readAll path source = Nesting.readOn {} (Cursor.start path source) := by
    rw [← readFrom_start (Nat.lt_succ_self _)]
    exact readFrom_none_eq_readOn (Nat.lt_succ_self _)
  refine ⟨fun f hf => ?_, fun xs hxs => ?_⟩
  · rw [hread, Nesting.readOn, hf]
    rfl
  · have hfinish : readAll path source = (xs.foldl Nesting.add {}).finish := by
      rw [hread, Nesting.readOn, hxs]
      rfl
    refine ⟨hfinish, fun ts hts => ?_⟩
    rw [hfinish] at hts
    rw [Nesting.lexemesAll_of_finish hts,
      Nesting.lexemes_foldl_add xs {} fun t ht => Cursor.isAtom_of_mem_lexemes hxs ht]
    rfl

/-- A block in a block, with closing braces in a string and behind the end of both blocks, and an
opening one in a comment. The same blocks without their ends, once with a string that has none. -/
theorem readAll_eq_finish_nested :
    let source := "\x7b \"\x7d\" \x7b 1 \x7d \x7d # \x7b\n\x7d Dup"
    let place := fun line column => Location.mk "nested" line column
    let xs : List Lexeme := [
      .opening (place 1 1),
      .token (literal (place 1 3) (.string "\x7d")),
      .opening (place 1 7),
      .token (literal (place 1 9) (.int 1)),
      .closing (place 1 11),
      .closing (place 1 13),
      .closing (place 2 1),
      .token (word (place 2 3) "Dup")]
    let ts := [
      block (place 1 1) [
        literal (place 1 3) (.string "\x7d"),
        block (place 1 7) [literal (place 1 9) (.int 1)]],
      word (place 2 1) "\x7d",
      word (place 2 3) "Dup"]
    (Cursor.start "nested" source).lexemes = .ok xs ∧ readAll "nested" source = .ok ts ∧
      lexemesAll ts = xs.map Lexeme.mark ∧
      readAll "nested" "\x7b \"\x7d\" \x7b 1" =
        .error (.inSource .blockNotClosed (place 1 7)) ∧
      readAll "nested" "\x7b \x7b 1 \"\x7d" = .error (.inSource .stringNotClosed (place 1 7)) := by
  intro source place xs ts
  have hxs : (Cursor.start "nested" source).lexemes = .ok xs := by
    dsimp only [source, place, xs]
    exact .trans (Cursor.lexemes_of_some (by rfl) <| Cursor.lexemes_of_some (by rfl) <|
      Cursor.lexemes_of_some (by rfl) <| Cursor.lexemes_of_some (by rfl) <|
      Cursor.lexemes_of_some (by rfl) <| Cursor.lexemes_of_some (by rfl) <|
      Cursor.lexemes_of_some (by rfl) <| Cursor.lexemes_of_some (by rfl) <|
      Cursor.lexemes_of_none (by rfl)) rfl
  have hopen : (Cursor.start "nested" "\x7b \"\x7d\" \x7b 1").lexemes = .ok (xs.take 4) := by
    dsimp only [place, xs]
    exact .trans (Cursor.lexemes_of_some (by rfl) <| Cursor.lexemes_of_some (by rfl) <|
      Cursor.lexemes_of_some (by rfl) <| Cursor.lexemes_of_some (by rfl) <|
      Cursor.lexemes_of_none (by rfl)) rfl
  have hfaulty : (Cursor.start "nested" "\x7b \x7b 1 \"\x7d").lexemes =
      .error (.inSource .stringNotClosed (place 1 7)) := by
    dsimp only [place]
    exact .trans (Cursor.lexemes_of_some (by rfl) <| Cursor.lexemes_of_some (by rfl) <|
      Cursor.lexemes_of_some (by rfl) <| Cursor.lexemes_of_error (by rfl)) rfl
  obtain ⟨hread, hlexemes⟩ := (readAll_eq_finish "nested" source).2 xs hxs
  exact ⟨hxs, hread, hlexemes ts hread, ((readAll_eq_finish "nested" _).2 _ hopen).1,
    (readAll_eq_finish "nested" _).1 _ hfaulty⟩

end Token

end BlockForth
