import BlockForth.Proofs.Number.Numeral
import BlockForth.Proofs.Token.Reading

/-!
# Tokens read back

`Token.text` writes a token as source text. `readAll_text` says that the texts of the tokens of a
program, with a space between any two of them, read as these tokens again, though at other places.
Doubles are left out, since their texts are not exact.

The proof goes through `Token.Written`, which says what the tokens of a program are like: a word is
a chunk that is no numeral and no brace, though it may be a closing brace outside of every block,
and a string does not end in a backslash. The reader gives only such tokens (`Reads.written`), and
the text of such a token reads as that token, whatever follows after a blank (`reads_text`).
-/

namespace BlockForth

namespace Token

mutual

/-- The token without its place and the places inside it. -/
def unlocated : Token → Token
  | word _ spelling => word {} spelling
  | literal _ value => literal {} value
  | block _ body => block {} (unlocatedAll body)

/-- Tokens without their places and the places inside them. -/
def unlocatedAll : List Token → List Token
  | [] => []
  | t :: ts => t.unlocated :: unlocatedAll ts

end

mutual

/-- Whether the token is a double or has one inside. -/
def hasFloat : Token → Bool
  | word _ _ => false
  | literal _ (.float _) => true
  | literal _ _ => false
  | block _ body => anyFloat body

/-- Whether one of the tokens is a double or has one inside. -/
def anyFloat : List Token → Bool
  | [] => false
  | t :: ts => t.hasFloat || anyFloat ts

end

/-- The characters are those of a chunk that starts no string. -/
structure IsChunk (cs : List Char) : Prop where
  ne_nil : cs ≠ []
  isBlank_eq : ∀ a ∈ cs, isBlank a = false
  ne_comment : ∀ a ∈ cs, a ≠ '#'
  head_ne_quote : cs.head? ≠ some '"'

mutual

/-- The token is one that source text can stand for, inside of a block or outside of all. -/
def Written (inside : Bool) : Token → Prop
  | word _ spelling =>
    IsChunk spelling.toList ∧ spelling ≠ "\x7b" ∧ (spelling = "\x7d" → inside = false) ∧
      Numeral.read? spelling.toList = none
  | literal _ (.string s) => s.toList.getLast? ≠ some '\\'
  | literal _ _ => True
  | block _ body => AllWritten body

/-- The tokens are ones that source text inside of a block can stand for. -/
def AllWritten : List Token → Prop
  | [] => True
  | t :: ts => t.Written true ∧ AllWritten ts

end

/-- Tokens lose their places one by one. -/
theorem unlocatedAll_eq_map (ts : List Token) : unlocatedAll ts = ts.map unlocated := by
  induction ts with
  | nil => rfl
  | cons t ts ih => rw [unlocatedAll, ih, List.map_cons]

/-- Tokens are written inside of a block if each one is. -/
theorem allWritten_iff {ts : List Token} : AllWritten ts ↔ ∀ t ∈ ts, t.Written true := by
  induction ts with
  | nil => simp [AllWritten]
  | cons t ts ih => rw [AllWritten, ih, List.forall_mem_cons]

/-- There is no double among tokens if there is none in any of them. -/
theorem anyFloat_eq_false_iff {ts : List Token} :
    anyFloat ts = false ↔ ∀ t ∈ ts, t.hasFloat = false := by
  induction ts with
  | nil => simp [anyFloat]
  | cons t ts ih => rw [anyFloat, Bool.or_eq_false_iff, ih, List.forall_mem_cons]

/-! ## What the reader gives -/

/-- A character that neither separates, comments, nor quotes is a chunk. -/
theorem isChunk_singleton {a : Char} (hblank : isBlank a = false) (hcomment : a ≠ '#')
    (hquote : a ≠ '"') : IsChunk [a] := by
  refine ⟨List.cons_ne_nil a [], fun b hb => ?_, fun b hb => ?_, fun h => hquote ?_⟩
  · rw [List.mem_singleton.1 hb]
    exact hblank
  · rw [List.mem_singleton.1 hb]
    exact hcomment
  · exact Option.some.inj h

/-- The opening brace is a chunk. -/
theorem isChunk_opening : IsChunk ['\x7b'] :=
  isChunk_singleton rfl (by decide) (by decide)

/-- The closing brace is a chunk. -/
theorem isChunk_closing : IsChunk ['\x7d'] :=
  isChunk_singleton rfl (by decide) (by decide)

/-- The chunk at a character that starts one. -/
theorem isChunk_chunk {c : Cursor} {a : Char} {rest : List Char} (hrest : c.rest = a :: rest)
    (hblank : isBlank a = false) (hcomment : a ≠ '#') (hquote : a ≠ '"') : IsChunk c.chunk := by
  have hmem : ∀ b ∈ c.chunk, isBlank b = false ∧ b ≠ '#' := by
    intro b hb
    have hall := List.all_eq_true.1 (List.all_takeWhile (l := c.rest)) b hb
    simpa using hall
  have hchunk : c.chunk = a :: rest.takeWhile fun a => !isBlank a && a != '#' := by
    rw [Cursor.chunk, hrest, List.takeWhile_cons_of_pos (by simp [hblank, hcomment])]
  refine ⟨?_, fun b hb => (hmem b hb).1, fun b hb => (hmem b hb).2, ?_⟩
  · rw [hchunk]
    exact List.cons_ne_nil _ _
  · rw [hchunk]
    exact fun h => hquote (Option.some.inj h)

/-- A chunk that is neither brace stands for a token inside of blocks and outside. -/
theorem written_ofChunk {l : Location} {chunk : List Char} {t : Token} (inside : Bool)
    (hchunk : IsChunk chunk) (hopening : chunk ≠ ['\x7b']) (hclosing : chunk ≠ ['\x7d'])
    (h : ofChunk l chunk = .ok t) : t.Written inside := by
  unfold ofChunk at h
  split at h
  · rename_i hnumeral
    cases h
    have hof : ∀ cs : List Char, chunk ≠ cs → String.ofList chunk ≠ String.ofList cs :=
      fun cs hne heq => hne (String.ofList_injective heq)
    rw [Written, String.toList_ofList]
    exact ⟨hchunk, hof _ hopening, fun heq => absurd heq (hof _ hclosing), hnumeral⟩
  · cases h
    exact trivial
  · split at h
    · cases h
      exact trivial
    · cases h

/-- A token that is read as one lexeme is one that source text can stand for, anywhere. -/
theorem written_of_lexeme? {c c' : Cursor} {t : Token} (inside : Bool)
    (h : c.lexeme? = .ok (some (.token t, c'))) : t.Written inside := by
  rcases hrest : c.skip.rest with _ | ⟨a, rest⟩
  · rw [Cursor.lexeme?_of_nil hrest] at h
    cases h
  · by_cases hquote : a = '"'
    · rw [hquote] at hrest
      rw [Cursor.lexeme?_of_quote hrest] at h
      rcases hstring : readString c.skip with e | ⟨t', c₁⟩
      · rw [hstring] at h
        cases h
      · rw [hstring] at h
        cases h
        obtain ⟨s, rfl, hlast⟩ := readString_cases hstring
        exact hlast
    · rw [Cursor.lexeme?_of_chunk hrest hquote] at h
      obtain ⟨hblank, hcomment⟩ := Cursor.head_skipFrom hrest
      have hchunk := isChunk_chunk hrest hblank hcomment hquote
      obtain ⟨-, ⟨-, htoken⟩ | ⟨-, htoken⟩ | ⟨hopening, hclosing, t', hof, htoken⟩⟩ :=
        Lexeme.ofChunk_cases h
      · cases htoken
      · cases htoken
      · cases htoken
        exact written_ofChunk inside hchunk hopening hclosing hof

/-- The reader gives tokens that source text can stand for. -/
theorem Reads.written {opened : Option Location} {c c' : Cursor} {ts : List Token}
    (h : Reads opened c ts c') : ∀ t ∈ ts, t.Written opened.isSome := by
  induction h with
  | finish h => exact fun t ht => absurd ht List.not_mem_nil
  | close h => exact fun t ht => absurd ht List.not_mem_nil
  | stray h hrest ih =>
    have hbrace : ("\x7d" : String) ≠ "\x7b" := by decide
    exact List.forall_mem_cons.2 ⟨⟨isChunk_closing, hbrace, fun _ => rfl, rfl⟩, ih⟩
  | token h hrest ih => exact List.forall_mem_cons.2 ⟨written_of_lexeme? _ h, ih⟩
  | block h hbody hrest ihbody ih =>
    exact List.forall_mem_cons.2 ⟨allWritten_iff.2 ihbody, ih⟩

/-! ## Reading a token's text -/

/-- A cursor at a character that starts a chunk or a string is already there. -/
theorem skip_of_not_blank {a : Char} (rest : List Char) (l : Location) (hblank : isBlank a = false)
    (hcomment : a ≠ '#') : (Cursor.mk (a :: rest) l).skip = ⟨a :: rest, l⟩ := by
  rw [Cursor.skip, Cursor.skipFrom, if_neg (by decide), if_neg (by simpa using hcomment),
    if_neg (by rw [hblank]; exact Bool.false_ne_true)]

/-- What a chunk is read as, before a blank or at the end. -/
theorem lexeme?_chunk {cs rest : List Char} (l : Location) (hcs : IsChunk cs)
    (hrest : StartsBlank rest) :
    (Cursor.mk (cs ++ rest) l).lexeme? = Lexeme.ofChunk l cs ⟨rest, l.after cs⟩ := by
  obtain ⟨a, cs', rfl⟩ := List.exists_cons_of_ne_nil hcs.ne_nil
  have hblank := hcs.isBlank_eq a List.mem_cons_self
  have hcomment := hcs.ne_comment a List.mem_cons_self
  have hskip : (Cursor.mk (a :: cs' ++ rest) l).skip = ⟨a :: cs' ++ rest, l⟩ :=
    skip_of_not_blank _ l hblank hcomment
  have hchunk : (Cursor.mk (a :: cs' ++ rest) l).chunk = a :: cs' := by
    refine takeWhile_append_of_startsBlank (fun b hb => ?_) (fun b hb => ?_) hrest
    · simp [hcs.isBlank_eq b hb, hcs.ne_comment b hb]
    · simp [hb]
  have hadvance : (Cursor.mk (a :: cs' ++ rest) l).advance (a :: cs').length =
      ⟨rest, l.after (a :: cs')⟩ := by
    rw [Cursor.advance, List.drop_left, List.take_left]
  have hquote : a ≠ '"' := fun h => hcs.head_ne_quote (by rw [h]; rfl)
  have hhead : (Cursor.mk (a :: cs' ++ rest) l).skip.rest = a :: (cs' ++ rest) := by
    rw [hskip, List.cons_append]
  rw [Cursor.lexeme?_of_chunk hhead hquote, hskip, hchunk, hadvance]

/-- What a string literal is read as, before a blank or at the end. -/
theorem lexeme?_literal (s : String) {rest : List Char} (l : Location)
    (hlast : s.toList.getLast? ≠ some '\\') (hrest : StartsBlank rest) :
    (Cursor.mk ((Quoted.literal s).toList ++ rest) l).lexeme? =
      .ok (some (.token (literal l (.string s)), ⟨rest, l.after (Quoted.literal s).toList⟩)) := by
  have htext : (Quoted.literal s).toList = '"' :: (Quoted.escape s.toList ++ ['"']) := by
    simp [Quoted.literal]
  have hsplit : (Quoted.literal s).toList ++ rest =
      '"' :: (Quoted.escape s.toList ++ '"' :: rest) := by
    rw [htext]
    simp
  have hskip : (Cursor.mk ('"' :: (Quoted.escape s.toList ++ '"' :: rest)) l).skip =
      ⟨'"' :: (Quoted.escape s.toList ++ '"' :: rest), l⟩ :=
    skip_of_not_blank _ l rfl (by decide)
  rw [hsplit, Cursor.lexeme?_of_quote (by rw [hskip]), hskip,
    readString_literal s.toList rest l hlast hrest, String.ofList_toList, htext]
  rfl

/-- A text without one of its characters is another text. -/
theorem repr_ne_singleton {a : Char} (z : Int) (ha : ¬ (a = '-' ∨ a.isDigit = true)) :
    z.repr.toList ≠ [a] := by
  intro h
  apply ha
  apply Numeral.isDigit_of_mem_repr
  rw [h]
  exact List.mem_singleton_self a

/-- The decimal form of an integer is a chunk. -/
theorem isChunk_repr (z : Int) : IsChunk z.repr.toList := by
  have hne : ∀ {a b : Char}, a ∈ z.repr.toList → ¬ (b = '-' ∨ b.isDigit = true) → a ≠ b := by
    rintro a _ ha hb rfl
    exact hb (Numeral.isDigit_of_mem_repr ha)
  refine ⟨Numeral.repr_ne_nil z, fun a ha => ?_, fun a ha => hne ha (by decide), fun h => ?_⟩
  · simp [isBlank, hne ha (b := ' ') (by decide), hne ha (b := '\t') (by decide),
      hne ha (b := '\r') (by decide), hne ha (b := '\n') (by decide)]
  · exact hne (List.mem_of_mem_head? h) (by decide) rfl

/-- An integer is read as itself. -/
theorem ofChunk_repr (n : Int64) (l : Location) :
    ofChunk l n.toInt.repr.toList = .ok (literal l (.int n)) := by
  rw [ofChunk, Numeral.read?_repr]
  dsimp only
  rw [Numeral.toInt64?_eq, if_pos ⟨n.minValue_le_toInt, n.toInt_le⟩, Int64.ofInt_toInt]

/-- A blank before the next token does not matter. -/
theorem Reads.blank {opened : Option Location} {a : Char} {cs : List Char} {l : Location}
    {ts : List Token} {c' : Cursor} (ha : isBlank a = true)
    (h : Reads opened ⟨cs, l.next a⟩ ts c') : Reads opened ⟨a :: cs, l⟩ ts c' := by
  have hcomment : ¬ (a == '#') = true := by
    rintro hhash
    rw [beq_iff_eq.1 hhash] at ha
    cases ha
  have hskip : (Cursor.mk (a :: cs) l).skip = (Cursor.mk cs (l.next a)).skip := by
    rw [Cursor.skip, Cursor.skipFrom, if_neg Bool.false_ne_true, if_neg hcomment, if_pos ha]
    rfl
  have hlexeme : (Cursor.mk (a :: cs) l).lexeme? = (Cursor.mk cs (l.next a)).lexeme? := by
    rw [Cursor.lexeme?, Cursor.lexeme?, hskip]
  cases h with
  | finish h =>
    rw [← hskip]
    exact .finish (hlexeme.trans h)
  | close h => exact .close (hlexeme.trans h)
  | stray h hrest => exact .stray (hlexeme.trans h) hrest
  | token h hrest => exact .token (hlexeme.trans h) hrest
  | block h hbody hrest => exact .block (hlexeme.trans h) hbody hrest

/-- A space comes before each token of a block, so that the token before it has ended. -/
theorem startsBlank_bodyText (body : List Token) {rest : List Char} (hrest : StartsBlank rest) :
    StartsBlank ((bodyText body).toList ++ rest) := by
  cases body with
  | nil => exact hrest
  | cons t body =>
    rw [bodyText, String.toList_append, String.toList_append]
    exact startsBlank_cons rfl _

mutual

/-- Before a blank or at the end, the text of a token reads as the token at another place. -/
theorem reads_text (t : Token) {opened : Option Location} {rest : List Char} {l : Location}
    {ts : List Token} {c : Cursor} (ht : t.Written opened.isSome) (hfloat : t.hasFloat = false)
    (hrest : StartsBlank rest) (h : Reads opened ⟨rest, l.after t.text.toList⟩ ts c) :
    ∃ t', t'.unlocated = t.unlocated ∧
      Reads opened ⟨t.text.toList ++ rest, l⟩ (t' :: ts) c := by
  cases t with
  | word place spelling =>
    obtain ⟨hchunk, hopening, hclosing, hnumeral⟩ := ht
    have hlexeme := lexeme?_chunk l hchunk hrest
    have hchars : spelling.toList ≠ ['\x7b'] := fun heq => hopening (String.toList_inj.1 heq)
    by_cases hbrace : spelling = "\x7d"
    · -- A closing brace is a word outside of every block only.
      obtain rfl : opened = none := by simpa using hclosing hbrace
      subst hbrace
      exact ⟨word l "\x7d", rfl, .stray hlexeme h⟩
    · have hchars' : spelling.toList ≠ ['\x7d'] := fun heq => hbrace (String.toList_inj.1 heq)
      have hof : ofChunk l spelling.toList = .ok (word l spelling) := by
        rw [ofChunk, hnumeral, String.ofList_toList]
      rw [Lexeme.ofChunk_of_ne hchars hchars', hof] at hlexeme
      exact ⟨word l spelling, rfl, .token hlexeme h⟩
  | literal place value =>
    cases value with
    | int n =>
      have hlexeme := lexeme?_chunk l (isChunk_repr n.toInt) hrest
      rw [Lexeme.ofChunk_of_ne (repr_ne_singleton _ (by decide))
        (repr_ne_singleton _ (by decide)), ofChunk_repr] at hlexeme
      exact ⟨literal l (.int n), rfl, .token hlexeme h⟩
    | float x => cases hfloat
    | string s => exact ⟨literal l (.string s), rfl, .token (lexeme?_literal s l ht hrest) h⟩
  | block place body =>
    have htext : (block place body).text.toList =
        ['\x7b'] ++ ((bodyText body).toList ++ [' ', '\x7d']) := by
      simp [text]
    rw [htext, Location.after_append, Location.after_append] at h
    -- The space before the closing brace ends the last token of the body.
    have hblank : StartsBlank (' ' :: '\x7d' :: rest) := startsBlank_cons rfl _
    have hopening := lexeme?_chunk l isChunk_opening (startsBlank_bodyText body hblank)
    have hclosing : ∀ l' : Location, Reads (some l) ⟨[' ', '\x7d'] ++ rest, l'⟩ []
        ⟨rest, l'.after [' ', '\x7d']⟩ :=
      fun l' => .blank rfl (.close (lexeme?_chunk _ isChunk_closing hrest))
    have hbody : ∀ t ∈ body, t.Written (some l).isSome := allWritten_iff.1 ht
    obtain ⟨body', hbody', hreads⟩ :=
      reads_bodyText body hbody (anyFloat_eq_false_iff.1 hfloat) hblank (hclosing _)
    refine ⟨block l body', ?_, ?_⟩
    · rw [unlocated, unlocated, hbody']
    · rw [htext, List.append_assoc, List.append_assoc]
      rw [List.append_nil] at hreads
      exact .block hopening hreads h

/-- The texts of tokens, each after a space, read as these tokens at other places. -/
theorem reads_bodyText (body : List Token) {opened : Option Location} {rest : List Char}
    {l : Location} {ts : List Token} {c : Cursor} (hbody : ∀ t ∈ body, t.Written opened.isSome)
    (hfloat : ∀ t ∈ body, t.hasFloat = false) (hrest : StartsBlank rest)
    (h : Reads opened ⟨rest, l.after (bodyText body).toList⟩ ts c) :
    ∃ body', unlocatedAll body' = unlocatedAll body ∧
      Reads opened ⟨(bodyText body).toList ++ rest, l⟩ (body' ++ ts) c := by
  cases body with
  | nil => exact ⟨[], rfl, h⟩
  | cons t body =>
    rw [List.forall_mem_cons] at hbody hfloat
    have htext : (bodyText (t :: body)).toList =
        ' ' :: (t.text.toList ++ (bodyText body).toList) := by
      simp [bodyText]
    rw [htext, Location.after_cons, Location.after_append] at h
    -- What follows is read first, since `Reads` is built from the end of the text.
    obtain ⟨body', hbody', hreads⟩ := reads_bodyText body hbody.2 hfloat.2 hrest h
    obtain ⟨t', ht', hreads⟩ :=
      reads_text t hbody.1 hfloat.1 (startsBlank_bodyText body hrest) hreads
    refine ⟨t' :: body', by rw [unlocatedAll, unlocatedAll, ht', hbody'], ?_⟩
    rw [htext, List.cons_append, List.append_assoc]
    exact .blank rfl hreads

end

/-- The texts of a program's tokens with a space between any two of them. -/
theorem intercalate_text (t : Token) (ts : List Token) :
    " ".intercalate ((t :: ts).map text) = t.text ++ bodyText ts := by
  induction ts generalizing t with
  | nil => simp [bodyText]
  | cons u ts ih =>
    rw [List.map_cons, List.map_cons, String.intercalate_cons_cons, ← List.map_cons, ih, bodyText]
    simp only [String.append_assoc]

/-- The tokens of a program without doubles read back from their texts, at other places. -/
theorem readAll_text {path source : String} {ts : List Token} (h : readAll path source = .ok ts)
    (hfloat : ∀ t ∈ ts, t.hasFloat = false) (path' : String) :
    ∃ ts', readAll path' (" ".intercalate (ts.map text)) = .ok ts' ∧
      ts'.map unlocated = ts.map unlocated := by
  obtain ⟨c, hreads⟩ := readAll_eq_ok_iff.1 h
  have hwritten := hreads.written
  cases ts with
  | nil => exact ⟨[], rfl, rfl⟩
  | cons t ts =>
    rw [List.forall_mem_cons] at hwritten hfloat
    -- From the end of the text: nothing, the tokens behind the first one, and the first one.
    have hend : ∀ l : Location, Reads none ⟨[], l⟩ [] ⟨[], l⟩ := fun l => .finish rfl
    obtain ⟨ts', hts', hrest⟩ :=
      reads_bodyText ts (l := (Location.start path').after t.text.toList) hwritten.2 hfloat.2
        startsBlank_nil (hend _)
    obtain ⟨t', ht', hall⟩ :=
      reads_text t hwritten.1 hfloat.1 (startsBlank_bodyText ts startsBlank_nil) hrest
    rw [List.append_nil, List.append_nil] at hall
    have hstart : Cursor.start path' (" ".intercalate ((t :: ts).map text)) =
        ⟨t.text.toList ++ (bodyText ts).toList, .start path'⟩ := by
      rw [intercalate_text, Cursor.start, String.toList_append]
    refine ⟨t' :: ts', readAll_eq_ok_iff.2 ⟨_, by rw [hstart]; exact hall⟩, ?_⟩
    rw [List.map_cons, List.map_cons, ht', ← unlocatedAll_eq_map, ← unlocatedAll_eq_map, hts']

/-- Strings with quotes, blanks, and backslashes, blocks in blocks, and braces that close none. -/
theorem readAll_text_nested :
    let source := "-0x1f \x7b \"a \\\" b\" \x7b\x7b \x7b \x7d \x7d \"\\c\"\n\x7d Dup\" # end"
    let place := fun line column => Location.mk "nested" line column
    let ts := [
      literal (place 1 1) (.int (-31)),
      block (place 1 7) [
        literal (place 1 9) (.string "a \" b"),
        word (place 1 18) "\x7b\x7b",
        block (place 1 21) []],
      literal (place 1 27) (.string "\\c"),
      word (place 2 1) "\x7d",
      word (place 2 3) "Dup\""]
    readAll "nested" source = .ok ts ∧ (∀ t ∈ ts, t.hasFloat = false) ∧
      ∃ ts', readAll "again" (" ".intercalate (ts.map text)) = .ok ts' ∧
        ts'.map unlocated = ts.map unlocated := by
  intro source place ts
  obtain ⟨n, hn, hread⟩ : ∃ n : Int64, n = -31 ∧
      readAll "nested" source = .ok (literal (place 1 1) (.int n) :: ts.tail) := by
    dsimp only [source, place, ts]
    refine ⟨_, ?_, rfl⟩
    decide +kernel
  subst hn
  have hfloat : ∀ t ∈ ts, t.hasFloat = false := by
    rw [← anyFloat_eq_false_iff]
    rfl
  exact ⟨hread, hfloat, readAll_text hread hfloat "again"⟩

end Token

end BlockForth
