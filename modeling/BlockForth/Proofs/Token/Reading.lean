import BlockForth.Proofs.Token.Strings

/-!
# Reading, lexeme by lexeme

A round of `Token.readFrom` reads one lexeme: a token without parts, or a brace. `Cursor.lexeme?` is
that round on its own, and it always gets further in the text. `Token.Reads` says which tokens a
text reads as, without the fuel and without the accumulator. `Token.Reads.readFrom_eq` and
`Token.reads_of_readFrom` say that `readFrom` finds exactly these once the fuel is more than the
characters that are left, and `Token.readAll_eq_ok_iff` says so for whole texts.
-/

namespace BlockForth

/-- What a round of reading finds. -/
inductive Lexeme where
  /-- A word, a number, or a string. -/
  | token (t : Token)
  /-- The brace that opens a block. -/
  | opening (location : Location)
  /-- The brace that closes a block. -/
  | closing (location : Location)

/-- The lexeme that a chunk at `l` stands for, before the cursor `rest`. -/
def Lexeme.ofChunk (l : Location) (chunk : List Char) (rest : Cursor) :
    Except Fault (Option (Lexeme × Cursor)) :=
  if chunk = ['\x7b'] then .ok (some (.opening l, rest))
  else if chunk = ['\x7d'] then .ok (some (.closing l, rest))
  else (Token.ofChunk l chunk).map fun t => some (.token t, rest)

/-- A chunk that is no brace is a token. -/
theorem Lexeme.ofChunk_of_ne {l : Location} {chunk : List Char} {rest : Cursor}
    (hopening : chunk ≠ ['\x7b']) (hclosing : chunk ≠ ['\x7d']) :
    Lexeme.ofChunk l chunk rest = (Token.ofChunk l chunk).map fun t => some (.token t, rest) := by
  rw [Lexeme.ofChunk, if_neg hopening, if_neg hclosing]

/-- A chunk is a brace or a token, and the cursor goes on after it. -/
theorem Lexeme.ofChunk_cases {l : Location} {chunk : List Char} {rest c' : Cursor} {x : Lexeme}
    (h : Lexeme.ofChunk l chunk rest = .ok (some (x, c'))) :
    c' = rest ∧ ((chunk = ['\x7b'] ∧ x = .opening l) ∨ (chunk = ['\x7d'] ∧ x = .closing l) ∨
      chunk ≠ ['\x7b'] ∧ chunk ≠ ['\x7d'] ∧ ∃ t, Token.ofChunk l chunk = .ok t ∧ x = .token t) := by
  by_cases hopening : chunk = ['\x7b']
  · rw [Lexeme.ofChunk, if_pos hopening] at h
    cases h
    exact ⟨rfl, .inl ⟨hopening, rfl⟩⟩
  · by_cases hclosing : chunk = ['\x7d']
    · rw [Lexeme.ofChunk, if_neg hopening, if_pos hclosing] at h
      cases h
      exact ⟨rfl, .inr (.inl ⟨hclosing, rfl⟩)⟩
    · rw [Lexeme.ofChunk_of_ne hopening hclosing] at h
      rcases htoken : Token.ofChunk l chunk with e | t
      · rw [htoken] at h
        cases h
      · rw [htoken] at h
        cases h
        exact ⟨rfl, .inr (.inr ⟨hopening, hclosing, t, rfl, rfl⟩)⟩

namespace Cursor

/-- Reads the next lexeme, if there is one. -/
def lexeme? (c : Cursor) : Except Fault (Option (Lexeme × Cursor)) :=
  let c := c.skip
  match c.rest with
  | [] => .ok none
  | '"' :: _ => (Token.readString c).map fun p => some (.token p.1, p.2)
  | _ :: _ => Lexeme.ofChunk c.location c.chunk (c.advance c.chunk.length)

/-- Behind the last chunk there is no lexeme. -/
theorem lexeme?_of_nil {c : Cursor} (h : c.skip.rest = []) : c.lexeme? = .ok none := by
  simp only [lexeme?, h]

/-- A quote starts a string. -/
theorem lexeme?_of_quote {c : Cursor} {rest : List Char} (h : c.skip.rest = '"' :: rest) :
    c.lexeme? = (Token.readString c.skip).map fun p => some (.token p.1, p.2) := by
  simp only [lexeme?, h]

/-- Any other character starts a chunk. -/
theorem lexeme?_of_chunk {c : Cursor} {a : Char} {rest : List Char} (h : c.skip.rest = a :: rest)
    (ha : a ≠ '"') :
    c.lexeme? =
      Lexeme.ofChunk c.skip.location c.skip.chunk (c.skip.advance c.skip.chunk.length) := by
  unfold lexeme?
  dsimp only
  split
  · rename_i hnil
    rw [hnil] at h
    cases h
  · rename_i hquote
    rw [hquote] at h
    cases h
    exact absurd rfl ha
  · rfl

/-! ## Every lexeme gets further -/

/-- Skipping adds no characters. -/
theorem length_skipFrom_le (inComment : Bool) (cs : List Char) (l : Location) :
    (skipFrom inComment cs l).rest.length ≤ cs.length := by
  induction cs generalizing inComment l with
  | nil => exact Nat.le_refl 0
  | cons a rest ih =>
    rw [skipFrom, List.length_cons]
    split
    · exact Nat.le_succ_of_le (ih _ _)
    · split
      · exact Nat.le_succ_of_le (ih _ _)
      · split
        · exact Nat.le_succ_of_le (ih _ _)
        · exact Nat.le_refl _

/-- Blanks and comments end where a chunk starts. -/
theorem head_skipFrom {inComment : Bool} {cs : List Char} {l : Location} {a : Char}
    {rest : List Char} (h : (skipFrom inComment cs l).rest = a :: rest) :
    isBlank a = false ∧ a ≠ '#' := by
  induction cs generalizing inComment l with
  | nil => cases h
  | cons b bs ih =>
    rw [skipFrom] at h
    split at h
    · exact ih h
    · split at h
      · exact ih h
      · rename_i hcomment
        split at h
        · exact ih h
        · rename_i hblank
          cases h
          exact ⟨Bool.eq_false_iff.2 hblank, by simpa using hcomment⟩

/-- Skipping adds no characters to what a cursor has still to read. -/
theorem length_skip_le (c : Cursor) : c.skip.rest.length ≤ c.rest.length :=
  length_skipFrom_le _ _ _

/-- A chunk is read up to what does not belong to it. -/
theorem length_advance_chunk_lt {c : Cursor} {a : Char} {rest : List Char}
    (hrest : c.rest = a :: rest) (hblank : isBlank a = false) (hcomment : a ≠ '#') :
    (c.advance c.chunk.length).rest.length < c.rest.length := by
  have hchunk : 0 < c.chunk.length := by
    rw [chunk, hrest, List.takeWhile_cons_of_pos (by simp [hblank, hcomment])]
    exact Nat.succ_pos _
  show (c.rest.drop _).length < _
  rw [List.length_drop]
  have hpos : 0 < c.rest.length := by
    rw [hrest]
    exact Nat.succ_pos _
  omega

/-- A scanned string takes up at least its closing quote. -/
theorem length_scanString_lt {read cs text : List Char} {l : Location} {c : Cursor}
    (h : Token.scanString read cs l = some (text, c)) : c.rest.length < cs.length := by
  fun_induction Token.scanString read cs l with
  | case1 => cases h
  | case2 read rest l ih =>
    have hlt := ih h
    rw [List.length_cons, List.length_cons]
    omega
  | case3 =>
    cases h
    exact Nat.lt_succ_self _
  | case4 read c rest l hescape hquote ih =>
    exact Nat.lt_succ_of_lt (ih h)

/-- A string that starts with a quote is at least that long. -/
theorem length_readString_lt {c c' : Cursor} {t : Token} {rest : List Char}
    (hrest : c.rest = '"' :: rest) (h : Token.readString c = .ok (t, c')) :
    c'.rest.length < c.rest.length := by
  unfold Token.readString at h
  dsimp only at h
  split at h
  · -- The chunk has the quote in it.
    cases h
    have hchunk : 0 < c.rawChunk.length := by
      rw [rawChunk, hrest, List.takeWhile_cons_of_pos (by decide)]
      exact Nat.succ_pos _
    show (c.rest.drop _).length < _
    rw [List.length_drop, hrest, List.length_cons]
    omega
  · split at h
    · rename_i hscan
      cases h
      have hlt := length_scanString_lt hscan
      have hdrop : (c.advance 1).rest.length ≤ c.rest.length := by
        show (c.rest.drop 1).length ≤ _
        rw [List.length_drop]
        omega
      omega
    · cases h

/-- Every lexeme takes at least one character. -/
theorem length_lexeme?_lt {c c' : Cursor} {x : Lexeme} (h : c.lexeme? = .ok (some (x, c'))) :
    c'.rest.length < c.rest.length := by
  refine Nat.lt_of_lt_of_le ?_ (length_skip_le c)
  rcases hrest : c.skip.rest with _ | ⟨a, rest⟩
  · rw [lexeme?_of_nil hrest] at h
    cases h
  · rw [← hrest]
    by_cases hquote : a = '"'
    · rw [hquote] at hrest
      rw [lexeme?_of_quote hrest] at h
      rcases hstring : Token.readString c.skip with e | ⟨t, c₁⟩
      · rw [hstring] at h
        cases h
      · rw [hstring] at h
        cases h
        exact length_readString_lt hrest hstring
    · rw [lexeme?_of_chunk hrest hquote] at h
      obtain ⟨hblank, hcomment⟩ := head_skipFrom hrest
      obtain ⟨rfl, -⟩ := Lexeme.ofChunk_cases h
      exact length_advance_chunk_lt hrest hblank hcomment

end Cursor

namespace Token

/-- A round of reading, by the lexeme that it finds. -/
theorem readFrom_of_pos {fuel : Nat} (hfuel : 0 < fuel) (opened : Option Location)
    (read : List Token) (c : Cursor) :
    readFrom fuel opened read c =
      match c.lexeme? with
      | .error e => .error e
      | .ok none =>
        match opened with
        | some l => .error (.inSource .blockNotClosed l)
        | none => .ok (read.reverse, c.skip)
      | .ok (some (.token t, c')) => readFrom (fuel - 1) opened (t :: read) c'
      | .ok (some (.opening l, c')) =>
        match readFrom (fuel - 1) (some l) [] c' with
        | .error e => .error e
        | .ok (body, c'') => readFrom (fuel - 1) opened (block l body :: read) c''
      | .ok (some (.closing l, c')) =>
        if opened.isSome then .ok (read.reverse, c')
        else readFrom (fuel - 1) opened (word l "\x7d" :: read) c' := by
  obtain ⟨fuel, rfl⟩ := Nat.exists_eq_succ_of_ne_zero (Nat.ne_of_gt hfuel)
  simp only [readFrom, Nat.succ_sub_one]
  split
  · rename_i hnil
    rcases opened with _ | l
    · simp only [Cursor.lexeme?_of_nil hnil]
    · simp only [Cursor.lexeme?_of_nil hnil]
  · rename_i hquote
    rcases hstring : readString c.skip with e | ⟨t, c'⟩
    · simp only [Cursor.lexeme?_of_quote hquote, hstring, Except.map]
    · simp only [Cursor.lexeme?_of_quote hquote, hstring, Except.map]
  · rename_i hquote hrest
    rw [Cursor.lexeme?_of_chunk hrest hquote]
    by_cases hopening : c.skip.chunk = ['\x7b']
    · rcases hbody : readFrom fuel (some c.skip.location) []
        (c.skip.advance c.skip.chunk.length) with e | ⟨body, c''⟩
      · simp only [Lexeme.ofChunk, if_pos hopening, hbody]
      · simp only [Lexeme.ofChunk, if_pos hopening, hbody]
    · by_cases hclosing : c.skip.chunk = ['\x7d']
      · -- Outside of every block the brace is a word, since it is no numeral.
        have hword : ofChunk c.skip.location c.skip.chunk = .ok (word c.skip.location "\x7d") := by
          rw [hclosing]
          rfl
        simp only [Lexeme.ofChunk, eq_false hopening, eq_true hclosing, hword, true_and, if_true,
          if_false]
      · rw [Lexeme.ofChunk_of_ne hopening hclosing]
        rcases ofChunk c.skip.location c.skip.chunk with e | t
        · simp only [if_neg hopening, hclosing, false_and, if_false, Except.map]
        · simp only [if_neg hopening, hclosing, false_and, if_false, Except.map]

/-! ## Reading without fuel -/

/-- From the cursor, inside the block that starts at `opened` if there is one, the text up to the
end or up to the brace that closes the block reads as these tokens, and leaves this cursor. -/
inductive Reads : (opened : Option Location) → Cursor → List Token → Cursor → Prop where
  | finish {c : Cursor} (h : c.lexeme? = .ok none) : Reads none c [] c.skip
  | close {c c' : Cursor} {l l' : Location} (h : c.lexeme? = .ok (some (.closing l', c'))) :
    Reads (some l) c [] c'
  | stray {c c' c'' : Cursor} {l : Location} {ts : List Token}
    (h : c.lexeme? = .ok (some (.closing l, c'))) (hrest : Reads none c' ts c'') :
    Reads none c (word l "\x7d" :: ts) c''
  | token {opened : Option Location} {c c' c'' : Cursor} {t : Token} {ts : List Token}
    (h : c.lexeme? = .ok (some (.token t, c'))) (hrest : Reads opened c' ts c'') :
    Reads opened c (t :: ts) c''
  | block {opened : Option Location} {c c₁ c₂ c₃ : Cursor} {l : Location} {body ts : List Token}
    (h : c.lexeme? = .ok (some (.opening l, c₁))) (hbody : Reads (some l) c₁ body c₂)
    (hrest : Reads opened c₂ ts c₃) : Reads opened c (block l body :: ts) c₃

variable {opened : Option Location} {c c' : Cursor} {ts : List Token}

/-- Reading never goes back. -/
theorem Reads.length_le (h : Reads opened c ts c') : c'.rest.length ≤ c.rest.length := by
  induction h with
  | finish h => exact Cursor.length_skip_le _
  | close h => exact Nat.le_of_lt (Cursor.length_lexeme?_lt h)
  | stray h _ ih =>
    have hlt := Cursor.length_lexeme?_lt h
    omega
  | token h _ ih =>
    have hlt := Cursor.length_lexeme?_lt h
    omega
  | block h _ _ ihbody ih =>
    have hlt := Cursor.length_lexeme?_lt h
    omega

/-- What a text reads as is what `readFrom` finds with enough fuel. -/
theorem Reads.readFrom_eq (h : Reads opened c ts c') :
    ∀ fuel read, c.rest.length < fuel →
      readFrom fuel opened read c = .ok (read.reverse ++ ts, c') := by
  induction h with
  | finish h =>
    intro fuel read hfuel
    rw [readFrom_of_pos (Nat.zero_lt_of_lt hfuel), h, List.append_nil]
  | close h =>
    intro fuel read hfuel
    rw [readFrom_of_pos (Nat.zero_lt_of_lt hfuel), h, List.append_nil]
    rfl
  | stray h _ ih =>
    intro fuel read hfuel
    have hlt := Cursor.length_lexeme?_lt h
    rw [readFrom_of_pos (Nat.zero_lt_of_lt hfuel), h]
    dsimp only
    rw [if_neg (by decide), ih (fuel - 1) _ (by omega), List.reverse_cons, List.append_assoc]
    rfl
  | token h _ ih =>
    intro fuel read hfuel
    have hlt := Cursor.length_lexeme?_lt h
    rw [readFrom_of_pos (Nat.zero_lt_of_lt hfuel), h]
    dsimp only
    rw [ih (fuel - 1) _ (by omega), List.reverse_cons, List.append_assoc]
    rfl
  | block h hbody _ ihbody ih =>
    -- The fuel is handed on whole to the block and then to what is behind it.
    intro fuel read hfuel
    have hlt := Cursor.length_lexeme?_lt h
    have hle := hbody.length_le
    rw [readFrom_of_pos (Nat.zero_lt_of_lt hfuel), h]
    dsimp only
    rw [ihbody (fuel - 1) _ (by omega)]
    dsimp only
    rw [ih (fuel - 1) _ (by omega), List.reverse_cons, List.append_assoc]
    rfl

/-- What `readFrom` finds with enough fuel is what the text reads as. -/
theorem reads_of_readFrom {fuel : Nat} {read result : List Token} (hfuel : c.rest.length < fuel)
    (h : readFrom fuel opened read c = .ok (result, c')) :
    ∃ ts, result = read.reverse ++ ts ∧ Reads opened c ts c' := by
  induction fuel generalizing opened read c c' result with
  | zero => exact absurd hfuel (Nat.not_lt_zero _)
  | succ fuel ih =>
    rw [readFrom_of_pos (Nat.succ_pos fuel), Nat.succ_sub_one] at h
    rcases hlexeme : c.lexeme? with e | _ | ⟨t | l | l, c₁⟩
    · rw [hlexeme] at h
      cases h
    · rw [hlexeme] at h
      rcases opened with _ | l
      · cases h
        exact ⟨[], (List.append_nil _).symm, .finish hlexeme⟩
      · cases h
    · rw [hlexeme] at h
      have hlt := Cursor.length_lexeme?_lt hlexeme
      obtain ⟨ts, rfl, hreads⟩ := ih (by omega) h
      refine ⟨t :: ts, ?_, .token hlexeme hreads⟩
      rw [List.reverse_cons, List.append_assoc]
      rfl
    · rw [hlexeme] at h
      dsimp only at h
      have hlt := Cursor.length_lexeme?_lt hlexeme
      rcases hinside : readFrom fuel (some l) [] c₁ with e | ⟨body, c₂⟩
      · rw [hinside] at h
        cases h
      · rw [hinside] at h
        -- The body is no longer than the text, so that the fuel is enough for what follows it too.
        obtain ⟨_, rfl, hbody⟩ := ih (by omega) hinside
        have hle := hbody.length_le
        obtain ⟨ts, rfl, hreads⟩ := ih (by omega) h
        refine ⟨block l body :: ts, ?_, .block hlexeme hbody hreads⟩
        rw [List.reverse_cons, List.append_assoc]
        rfl
    · rw [hlexeme] at h
      have hlt := Cursor.length_lexeme?_lt hlexeme
      rcases opened with _ | l'
      · obtain ⟨ts, rfl, hreads⟩ := ih (by omega) h
        refine ⟨word l "\x7d" :: ts, ?_, .stray hlexeme hreads⟩
        rw [List.reverse_cons, List.append_assoc]
        rfl
      · cases h
        exact ⟨[], (List.append_nil _).symm, .close hlexeme⟩

/-- More fuel than there are characters makes no difference, also to a fault. -/
theorem readFrom_eq_readFrom {fuel fuel' : Nat} (read : List Token) (hfuel : c.rest.length < fuel)
    (hfuel' : c.rest.length < fuel') :
    readFrom fuel opened read c = readFrom fuel' opened read c := by
  induction fuel generalizing fuel' opened read c with
  | zero => exact absurd hfuel (Nat.not_lt_zero _)
  | succ fuel ih =>
    rw [readFrom_of_pos (Nat.succ_pos fuel), readFrom_of_pos (Nat.zero_lt_of_lt hfuel'),
      Nat.succ_sub_one]
    rcases hlexeme : c.lexeme? with e | _ | ⟨t | l | l, c₁⟩
    · rfl
    · rfl
    · have hlt := Cursor.length_lexeme?_lt hlexeme
      exact ih _ (by omega) (by omega)
    · have hlt := Cursor.length_lexeme?_lt hlexeme
      dsimp only
      rw [← ih [] (by omega) (show c₁.rest.length < fuel' - 1 by omega)]
      rcases hinside : readFrom fuel (some l) [] c₁ with e | ⟨body, c₂⟩
      · rfl
      · -- Behind the block there are even fewer characters.
        obtain ⟨_, -, hbody⟩ := reads_of_readFrom (by omega) hinside
        have hle := hbody.length_le
        exact ih _ (by omega) (by omega)
    · have hlt := Cursor.length_lexeme?_lt hlexeme
      rcases opened with _ | l'
      · exact ih _ (by omega) (by omega)
      · rfl

/-- Any fuel beyond the length of a source text is enough to read it. -/
theorem readFrom_start {fuel : Nat} {path source : String}
    (hfuel : (Cursor.start path source).rest.length < fuel) :
    (readFrom fuel none [] (Cursor.start path source)).map Prod.fst = readAll path source := by
  rw [readFrom_eq_readFrom [] hfuel (Nat.lt_succ_self _), readAll]
  rcases readFrom _ none [] (Cursor.start path source) with f | ⟨tokens, c⟩
  · rfl
  · rfl

/-- A source text has the tokens that it reads as outside of every block. -/
theorem readAll_eq_ok_iff {path source : String} :
    readAll path source = .ok ts ↔ ∃ c, Reads none (Cursor.start path source) ts c := by
  rw [← readFrom_start (Nat.lt_succ_self _)]
  constructor
  · intro h
    rcases hread : readFrom ((Cursor.start path source).rest.length + 1) none []
      (Cursor.start path source) with e | ⟨result, c⟩
    · rw [hread] at h
      cases h
    · rw [hread] at h
      cases h
      obtain ⟨ts, rfl, hreads⟩ := reads_of_readFrom (Nat.lt_succ_self _) hread
      exact ⟨c, hreads⟩
  · rintro ⟨c, hreads⟩
    rw [hreads.readFrom_eq _ [] (Nat.lt_succ_self _)]
    rfl

end Token

end BlockForth
