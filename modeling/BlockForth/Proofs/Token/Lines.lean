import BlockForth.Proofs.Token.Reading

/-!
# Reading line by line

A source text can be cut at the ends of its lines and read piece by piece. `readAll_append_line`
says so for two pieces: the tokens of the first one are followed by the tokens of the second one, or
by its fault, as many lines further down as there are before the second piece.

Two facts are behind it. Nothing that is read depends on what comes after the blank behind it, not
even a string, whose reader looks ahead up to the next blank (`Cursor.lexeme?_followedBy`). And
nothing depends on the line where a text starts, but for the locations, which are that many lines
further down (`Token.readFrom_down`).
-/

namespace BlockForth

/-! ## Further down -/

/-- The location `n` lines further down. -/
def Location.down (n : Nat) (l : Location) : Location :=
  { l with line := l.line + n }

mutual

/-- The token and everything inside it `n` lines further down. -/
def Token.down (n : Nat) : Token → Token
  | .word l spelling => .word (l.down n) spelling
  | .literal l value => .literal (l.down n) value
  | .block l body => .block (l.down n) (Token.downAll n body)

/-- The tokens and everything inside them `n` lines further down. -/
def Token.downAll (n : Nat) : List Token → List Token
  | [] => []
  | t :: ts => t.down n :: Token.downAll n ts

end

/-- The fault `n` lines further down. A fault of the reader knows no calls. -/
def Fault.down (n : Nat) (f : Fault) : Fault :=
  { f with location := f.location.map (Location.down n) }

/-- The lexeme `n` lines further down. -/
def Lexeme.down (n : Nat) : Lexeme → Lexeme
  | .token t => .token (t.down n)
  | .opening l => .opening (l.down n)
  | .closing l => .closing (l.down n)

/-- The cursor over the same text `n` lines further down. -/
def Cursor.down (n : Nat) (c : Cursor) : Cursor :=
  ⟨c.rest, c.location.down n⟩

/-- The result of reading `n` lines further down, if `move` says what becomes of what is read. -/
def downResult {α : Type} (n : Nat) (move : α → α) : Except Fault α → Except Fault α
  | .ok a => .ok (move a)
  | .error f => .error (f.down n)

/-- Tokens are moved down one by one. -/
theorem Token.downAll_eq_map (n : Nat) (ts : List Token) :
    Token.downAll n ts = ts.map (Token.down n) := by
  induction ts with
  | nil => rfl
  | cons t ts ih => rw [Token.downAll, ih, List.map_cons]

namespace Location

/-- Passing a character commutes with moving down. -/
theorem next_down (n : Nat) (l : Location) (a : Char) : (l.down n).next a = (l.next a).down n := by
  unfold next
  split
  · have hline : l.line + n + 1 = l.line + 1 + n := by omega
    simp only [down, hline]
  · rfl

/-- Passing a text commutes with moving down. -/
theorem after_down (n : Nat) (l : Location) (cs : List Char) :
    (l.down n).after cs = (l.after cs).down n := by
  induction cs generalizing l with
  | nil => rfl
  | cons a cs ih => rw [after_cons, after_cons, next_down, ih]

/-- A text leads as many lines further down as it has newlines. -/
theorem line_after (l : Location) (cs : List Char) :
    (l.after cs).line = l.line + cs.count '\n' := by
  induction cs generalizing l with
  | nil => rfl
  | cons a cs ih =>
    rw [after_cons, ih, List.count_cons]
    unfold next
    by_cases ha : a = '\n'
    · simp only [ha, if_true, beq_self_eq_true]
      omega
    · simp only [ha, if_false, beq_iff_eq]
      omega

/-- Passing a text keeps the path. -/
theorem path_after (l : Location) (cs : List Char) : (l.after cs).path = l.path := by
  induction cs generalizing l with
  | nil => rfl
  | cons a cs ih =>
    rw [after_cons, ih]
    unfold next
    split
    · rfl
    · rfl

/-- After a newline the column is the first one. -/
theorem after_concat_newline (l : Location) (cs : List Char) :
    l.after (cs ++ ['\n']) = ⟨l.path, l.line + cs.count '\n' + 1, 1⟩ := by
  have hnext : ∀ k : Location, k.next '\n' = ⟨k.path, k.line + 1, 1⟩ := fun _ => rfl
  rw [after_append, after_cons, after_nil, hnext, path_after, line_after]

end Location

namespace Cursor

/-- Blanks and comments are skipped alike further down. -/
theorem skipFrom_down (n : Nat) (inComment : Bool) (cs : List Char) (l : Location) :
    skipFrom inComment cs (l.down n) = (skipFrom inComment cs l).down n := by
  induction cs generalizing inComment l with
  | nil => rfl
  | cons a rest ih =>
    rw [skipFrom, skipFrom, Location.next_down, ih, ih, ih]
    split
    · rfl
    · split
      · rfl
      · split
        · rfl
        · rfl

/-- A cursor further down skips the same blanks and comments. -/
theorem skip_down (n : Nat) (c : Cursor) : (c.down n).skip = c.skip.down n :=
  skipFrom_down n false c.rest c.location

/-- A cursor further down advances by the same characters. -/
theorem advance_down (n : Nat) (c : Cursor) (count : Nat) :
    (c.down n).advance count = (c.advance count).down n := by
  simp only [advance, down, Location.after_down]

end Cursor

namespace Token

/-- A string is scanned alike further down, and ends that much further down. -/
theorem scanString_down (n : Nat) (read cs : List Char) (l : Location) :
    scanString read cs (l.down n) =
      (scanString read cs l).map fun p => (p.1, p.2.down n) := by
  fun_induction scanString read cs l with
  | case1 => rfl
  | case2 read rest l ih => rw [scanString, Location.next_down, Location.next_down, ih]
  | case3 read rest l =>
    simp only [scanString, if_true, Location.next_down]
    rfl
  | case4 read c rest l hescape hquote ih =>
    rw [scanString, if_neg hquote, Location.next_down, ih]
    exact hescape

/-- A string is read alike further down. -/
theorem readString_down (n : Nat) (c : Cursor) :
    readString (c.down n) = downResult n (fun p => (p.1.down n, p.2.down n)) (readString c) := by
  have hchunk : (c.down n).rawChunk = c.rawChunk := rfl
  have hplace : (c.down n).location = c.location.down n := rfl
  unfold readString
  dsimp only
  rw [hchunk, hplace, Cursor.advance_down, Cursor.advance_down]
  split
  · rfl
  · have hscan := scanString_down n [] (c.advance 1).rest (c.advance 1).location
    have hrest : ((c.advance 1).down n).rest = (c.advance 1).rest := rfl
    have hstart : ((c.advance 1).down n).location = (c.advance 1).location.down n := rfl
    rw [hrest, hstart, hscan]
    rcases scanString [] (c.advance 1).rest (c.advance 1).location with _ | ⟨text, c'⟩
    · rfl
    · rfl

/-- A chunk stands for the same token further down, or for the same fault. -/
theorem ofChunk_down (n : Nat) (l : Location) (chunk : List Char) :
    ofChunk (l.down n) chunk = downResult n (Token.down n) (ofChunk l chunk) := by
  unfold ofChunk
  split
  · rfl
  · rfl
  · split
    · rfl
    · rfl

end Token

/-- A lexeme is read alike further down. -/
theorem Cursor.lexeme?_down (n : Nat) (c : Cursor) :
    (c.down n).lexeme? =
      downResult n (Option.map fun p => (p.1.down n, p.2.down n)) c.lexeme? := by
  have hskip := skip_down n c
  rcases hrest : c.skip.rest with _ | ⟨a, rest⟩
  · have hnil : (c.down n).skip.rest = [] := by rw [hskip]; exact hrest
    rw [lexeme?_of_nil hnil, lexeme?_of_nil hrest]
    rfl
  · have hcons : (c.down n).skip.rest = a :: rest := by rw [hskip]; exact hrest
    by_cases hquote : a = '"'
    · subst hquote
      rw [lexeme?_of_quote hcons, lexeme?_of_quote hrest, hskip, Token.readString_down]
      rcases Token.readString c.skip with f | ⟨t, c'⟩
      · rfl
      · rfl
    · have hchunk : (c.skip.down n).chunk = c.skip.chunk := rfl
      have hplace : (c.skip.down n).location = c.skip.location.down n := rfl
      rw [lexeme?_of_chunk hcons hquote, lexeme?_of_chunk hrest hquote, hskip, hchunk, hplace,
        advance_down]
      unfold Lexeme.ofChunk
      rw [Token.ofChunk_down]
      split
      · rfl
      · split
        · rfl
        · rcases Token.ofChunk c.skip.location c.skip.chunk with f | t
          · rfl
          · rfl

/-- Tokens are read alike further down. -/
theorem Token.readFrom_down (n fuel : Nat) (opened : Option Location) (read : List Token)
    (c : Cursor) :
    readFrom fuel (opened.map (Location.down n)) (read.map (Token.down n)) (c.down n) =
      downResult n (fun p => (p.1.map (Token.down n), p.2.down n))
        (readFrom fuel opened read c) := by
  induction fuel generalizing opened read c with
  | zero =>
    simp only [readFrom, downResult, List.map_reverse]
  | succ fuel ih =>
    have hread : (read.map (Token.down n)).reverse = read.reverse.map (Token.down n) :=
      List.map_reverse.symm
    rw [readFrom_of_pos (Nat.succ_pos fuel), readFrom_of_pos (Nat.succ_pos fuel),
      Nat.succ_sub_one, Cursor.lexeme?_down, Cursor.skip_down, hread]
    rcases c.lexeme? with f | _ | ⟨t | l | l, c'⟩
    · rfl
    · rcases opened with _ | l
      · rfl
      · rfl
    · exact ih opened (t :: read) c'
    · -- The body of the block is moved down, and so is the block.
      have hbody := ih (some l) [] c'
      rw [Option.map_some, List.map_nil] at hbody
      simp only [downResult, Option.map_some, Lexeme.down, hbody]
      rcases readFrom fuel (some l) [] c' with f | ⟨body, c''⟩
      · rfl
      · have hblock : Token.block (l.down n) (body.map (Token.down n)) :: read.map (Token.down n) =
            (Token.block l body :: read).map (Token.down n) := by
          rw [List.map_cons, Token.down, downAll_eq_map]
        simp only [hblock]
        exact ih opened (Token.block l body :: read) c''
    · rcases opened with _ | l'
      · exact ih none (Token.word l "\x7d" :: read) c'
      · rfl

/-! ## The end of the text

Reading moves the cursor along the text, so the end of the text stays where it is. -/

namespace Cursor

/-- The location of the end of the text. -/
def ending (c : Cursor) : Location :=
  c.location.after c.rest

/-- Skipped characters are passed, so the text ends where it ended. -/
theorem ending_skipFrom (inComment : Bool) (cs : List Char) (l : Location) :
    (skipFrom inComment cs l).ending = l.after cs := by
  induction cs generalizing inComment l with
  | nil => rfl
  | cons a rest ih =>
    rw [skipFrom, Location.after_cons]
    split
    · exact ih _ _
    · split
      · exact ih _ _
      · split
        · exact ih _ _
        · rfl

/-- Skipping does not change where the text ends. -/
theorem ending_skip (c : Cursor) : c.skip.ending = c.ending :=
  ending_skipFrom false c.rest c.location

/-- Advancing does not change where the text ends. -/
theorem ending_advance (c : Cursor) (count : Nat) : (c.advance count).ending = c.ending := by
  have hsplit := List.take_append_drop count c.rest
  rw [ending, ending, advance, ← Location.after_append, hsplit]

/-- A scanned string is passed, so the text ends where it ended. -/
theorem ending_scanString {read cs text : List Char} {l : Location} {c : Cursor}
    (h : Token.scanString read cs l = some (text, c)) : c.ending = l.after cs := by
  fun_induction Token.scanString read cs l with
  | case1 => cases h
  | case2 read rest l ih => exact ih h
  | case3 =>
    cases h
    rfl
  | case4 read c rest l hescape hquote ih => exact ih h

/-- Reading a string does not change where the text ends. -/
theorem ending_readString {c c' : Cursor} {t : Token} (h : Token.readString c = .ok (t, c')) :
    c'.ending = c.ending := by
  unfold Token.readString at h
  dsimp only at h
  split at h
  · cases h
    exact ending_advance c _
  · split at h
    · rename_i hscan
      cases h
      exact (ending_scanString hscan).trans (ending_advance c 1)
    · cases h

/-- Reading a lexeme does not change where the text ends. -/
theorem ending_lexeme? {c c' : Cursor} {x : Lexeme} (h : c.lexeme? = .ok (some (x, c'))) :
    c'.ending = c.ending := by
  rw [← ending_skip c]
  rcases hrest : c.skip.rest with _ | ⟨a, rest⟩
  · rw [lexeme?_of_nil hrest] at h
    cases h
  · by_cases hquote : a = '"'
    · rw [hquote] at hrest
      rw [lexeme?_of_quote hrest] at h
      rcases hstring : Token.readString c.skip with e | ⟨t, c₁⟩
      · rw [hstring] at h
        cases h
      · rw [hstring] at h
        cases h
        exact ending_readString hstring
    · rw [lexeme?_of_chunk hrest hquote] at h
      obtain ⟨rfl, -⟩ := Lexeme.ofChunk_cases h
      exact ending_advance c.skip _

end Cursor

/-- Reading tokens does not change where the text ends. -/
theorem Token.Reads.ending {opened : Option Location} {c c' : Cursor} {ts : List Token}
    (h : Reads opened c ts c') : c'.ending = c.ending := by
  induction h with
  | finish h => exact Cursor.ending_skip _
  | close h => exact Cursor.ending_lexeme? h
  | stray h _ ih => exact ih.trans (Cursor.ending_lexeme? h)
  | token h _ ih => exact ih.trans (Cursor.ending_lexeme? h)
  | block h _ _ ihbody ih => exact (ih.trans ihbody).trans (Cursor.ending_lexeme? h)

/-! ## More text after a blank -/

namespace Cursor

/-- The cursor over a text with more behind it. -/
def followedBy (c : Cursor) (more : List Char) : Cursor :=
  ⟨c.rest ++ more, c.location⟩

/-- Blanks and comments that end in the text end at the same place. -/
theorem skipFrom_append {inComment : Bool} {cs : List Char} {l : Location} (more : List Char)
    (h : (skipFrom inComment cs l).rest ≠ []) :
    skipFrom inComment (cs ++ more) l = (skipFrom inComment cs l).followedBy more := by
  induction cs generalizing inComment l with
  | nil => exact absurd rfl h
  | cons a rest ih =>
    rw [List.cons_append]
    rw [skipFrom] at h ⊢
    rw [skipFrom]
    -- Each character in front of the rest is looked at in the same way in both texts.
    split
    · rename_i hcomment
      rw [if_pos hcomment] at h
      exact ih h
    · rename_i hcomment
      rw [if_neg hcomment] at h
      split
      · rename_i hstarts
        rw [if_pos hstarts] at h
        exact ih h
      · rename_i hstarts
        rw [if_neg hstarts] at h
        split
        · rename_i hblank
          rw [if_pos hblank] at h
          exact ih h
        · rfl

/-- Blanks and comments up to the end of the text go on in what follows it, inside a comment or
not. -/
theorem exists_skipFrom_append {inComment : Bool} {cs : List Char} {l : Location}
    (h : (skipFrom inComment cs l).rest = []) :
    ∃ inComment', ∀ more, skipFrom inComment (cs ++ more) l =
      skipFrom inComment' more (l.after cs) := by
  -- The induction carries along whether the skipping is inside a comment.
  induction cs generalizing inComment l with
  | nil => exact ⟨inComment, fun _ => rfl⟩
  | cons a rest ih =>
    rw [skipFrom] at h
    split at h
    · rename_i hcomment
      obtain ⟨inComment', hmore⟩ := ih h
      refine ⟨inComment', fun more => ?_⟩
      rw [List.cons_append, skipFrom, if_pos hcomment]
      exact hmore more
    · rename_i hcomment
      split at h
      · rename_i hstarts
        obtain ⟨inComment', hmore⟩ := ih h
        refine ⟨inComment', fun more => ?_⟩
        rw [List.cons_append, skipFrom, if_neg hcomment, if_pos hstarts]
        exact hmore more
      · rename_i hstarts
        split at h
        · rename_i hblank
          obtain ⟨inComment', hmore⟩ := ih h
          refine ⟨inComment', fun more => ?_⟩
          rw [List.cons_append, skipFrom, if_neg hcomment, if_neg hstarts, if_pos hblank]
          exact hmore more
        · cases h

variable {more : List Char}

/-- A run of characters other than blanks does not reach beyond the text. -/
theorem takeWhile_followedBy {p : Char → Bool} (hp : ∀ a, isBlank a = true → p a = false)
    (hmore : StartsBlank more) (cs : List Char) : (cs ++ more).takeWhile p = cs.takeWhile p := by
  have hend : more.takeWhile p = [] := by
    rcases more with _ | ⟨a, more⟩
    · rfl
    · rw [List.takeWhile_cons_of_neg]
      rw [hp a (hmore a more rfl)]
      exact Bool.false_ne_true
  induction cs with
  | nil => exact hend
  | cons a cs ih => rw [List.cons_append, List.takeWhile_cons, List.takeWhile_cons, ih]

/-- A blank behind the text adds nothing to the chunk at the cursor. -/
theorem chunk_followedBy (hmore : StartsBlank more) (c : Cursor) :
    (c.followedBy more).chunk = c.chunk :=
  takeWhile_followedBy (fun a ha => by simp [ha]) hmore c.rest

/-- A blank behind the text adds nothing to the text up to the next blank. -/
theorem rawChunk_followedBy (hmore : StartsBlank more) (c : Cursor) :
    (c.followedBy more).rawChunk = c.rawChunk :=
  takeWhile_followedBy (fun a ha => by simp [ha]) hmore c.rest

/-- Characters of the first text are passed without regard to what follows it. -/
theorem advance_followedBy {c : Cursor} {count : Nat} (h : count ≤ c.rest.length) :
    (c.followedBy more).advance count = (c.advance count).followedBy more := by
  simp only [advance, followedBy, List.drop_append_of_le_length h, List.take_append_of_le_length h]

/-- A string that ends in the first text is the same with more text behind it. -/
theorem scanString_followedBy (more : List Char) {read cs text : List Char} {l : Location}
    {c : Cursor} (h : Token.scanString read cs l = some (text, c)) :
    Token.scanString read (cs ++ more) l = some (text, c.followedBy more) := by
  fun_induction Token.scanString read cs l with
  | case1 => cases h
  | case2 read rest l ih =>
    rw [List.cons_append, List.cons_append, Token.scanString]
    exact ih h
  | case3 read rest l =>
    cases h
    rfl
  | case4 read a rest l hescape hquote ih =>
    -- The string goes on, so the character after this one is in the text as well.
    obtain ⟨b, rest, rfl⟩ : ∃ b bs, rest = b :: bs := by
      rcases rest with _ | ⟨b, bs⟩
      · cases h
      · exact ⟨b, bs, rfl⟩
    have hhead : a = '\\' → (b :: rest ++ more).head? ≠ some '"' := by
      rintro ha hb
      cases hb
      exact hescape rest ha rfl
    rw [List.cons_append, Token.scanString_cons l hhead hquote]
    exact ih h

/-- A string is read alike, though its reader looks at what follows it up to the next blank. -/
theorem readString_followedBy (hmore : StartsBlank more) {c c' : Cursor} {t : Token}
    (hne : c.rest ≠ []) (h : Token.readString c = .ok (t, c')) :
    Token.readString (c.followedBy more) = .ok (t, c'.followedBy more) := by
  have hplace : (c.followedBy more).location = c.location := rfl
  have hlength : c.rawChunk.length ≤ c.rest.length := (List.takeWhile_prefix _).length_le
  have hstart : (c.followedBy more).advance 1 = (c.advance 1).followedBy more :=
    advance_followedBy (List.length_pos_iff.2 hne)
  unfold Token.readString at h ⊢
  dsimp only at h ⊢
  rw [rawChunk_followedBy hmore, advance_followedBy hlength, hplace, hstart]
  split at h
  · -- A string up to the next blank.
    rename_i hwhole
    rw [if_pos hwhole]
    cases h
    rfl
  · -- A string that is scanned, and whose end is in the first text.
    rename_i hwhole
    rw [if_neg hwhole]
    split at h
    · rename_i hscan
      cases h
      have hfound := scanString_followedBy more hscan
      have hrest : ((c.advance 1).followedBy more).rest = (c.advance 1).rest ++ more := rfl
      have hlocation : ((c.advance 1).followedBy more).location = (c.advance 1).location := rfl
      rw [hrest, hlocation, hfound]
    · cases h

/-- A lexeme is read alike before a blank and at the end of the text. -/
theorem lexeme?_followedBy (hmore : StartsBlank more) {c c' : Cursor} {x : Lexeme}
    (h : c.lexeme? = .ok (some (x, c'))) :
    (c.followedBy more).lexeme? = .ok (some (x, c'.followedBy more)) := by
  rcases hrest : c.skip.rest with _ | ⟨a, rest⟩
  · rw [lexeme?_of_nil hrest] at h
    cases h
  · have hne : c.skip.rest ≠ [] := by
      rw [hrest]
      exact List.cons_ne_nil a rest
    have hskip : (c.followedBy more).skip = c.skip.followedBy more := skipFrom_append more hne
    have hmoved : (c.followedBy more).skip.rest = a :: (rest ++ more) := by
      rw [hskip, followedBy, hrest]
      rfl
    by_cases hquote : a = '"'
    · -- A string.
      subst hquote
      rw [lexeme?_of_quote hrest] at h
      rw [lexeme?_of_quote hmoved, hskip]
      rcases hstring : Token.readString c.skip with f | ⟨t, c₁⟩
      · rw [hstring] at h
        cases h
      · rw [hstring] at h
        cases h
        rw [readString_followedBy hmore hne hstring]
        rfl
    · -- A chunk, which the blank behind the text ends where the text has ended it.
      have hlength : c.skip.chunk.length ≤ c.skip.rest.length := (List.takeWhile_prefix _).length_le
      rw [lexeme?_of_chunk hrest hquote] at h
      rw [lexeme?_of_chunk hmoved hquote, hskip, chunk_followedBy hmore,
        advance_followedBy hlength]
      obtain ⟨rfl, hcases⟩ := Lexeme.ofChunk_cases h
      unfold Lexeme.ofChunk
      rcases hcases with ⟨hopening, rfl⟩ | ⟨hclosing, rfl⟩ | ⟨hopening, hclosing, t, htoken, rfl⟩
      · rw [if_pos hopening]
        rfl
      · rw [if_neg (by rw [hclosing]; decide), if_pos hclosing]
        rfl
      · have hplace : (c.skip.followedBy more).location = c.skip.location := rfl
        rw [if_neg hopening, if_neg hclosing, hplace, htoken]
        rfl

/-- No lexeme is left only where blanks and comments are all that is left. -/
theorem skip_of_lexeme?_eq_none {c : Cursor} (h : c.lexeme? = .ok none) : c.skip.rest = [] := by
  rcases hrest : c.skip.rest with _ | ⟨a, rest⟩
  · rfl
  · by_cases hquote : a = '"'
    · rw [hquote] at hrest
      rw [lexeme?_of_quote hrest] at h
      rcases hstring : Token.readString c.skip with f | ⟨t, c₁⟩
      · rw [hstring] at h
        cases h
      · rw [hstring] at h
        cases h
    · rw [lexeme?_of_chunk hrest hquote] at h
      unfold Lexeme.ofChunk at h
      split at h
      · cases h
      · split at h
        · cases h
        · rcases htoken : Token.ofChunk c.skip.location c.skip.chunk with f | t
          · rw [htoken] at h
            cases h
          · rw [htoken] at h
            cases h

end Cursor

/-- A block that ends in the text is read alike. -/
theorem Token.Reads.followedBy {more : List Char} (hmore : StartsBlank more)
    {opened : Option Location} {c c' : Cursor} {ts : List Token} (h : Reads opened c ts c')
    (hopened : opened.isSome = true) :
    Reads opened (c.followedBy more) ts (c'.followedBy more) := by
  induction h with
  | finish h => cases hopened
  | close h => exact .close (Cursor.lexeme?_followedBy hmore h)
  | stray h _ ih => cases hopened
  | token h _ ih => exact .token (Cursor.lexeme?_followedBy hmore h) (ih hopened)
  | block h _ _ ihbody ih =>
    exact .block (Cursor.lexeme?_followedBy hmore h) (ihbody rfl) (ih hopened)

/-! ## Line by line -/

/-- The text ends a line: it is a newline, or a space, a comment, and a newline. -/
def IsLineEnd (t : String) : Prop :=
  t = "\n" ∨ ∃ comment : String, '\n' ∉ comment.toList ∧ t = " #" ++ comment ++ "\n"

namespace IsLineEnd

variable {t : String}

/-- The end of a line starts with a blank, whatever comes behind it. -/
theorem startsBlank (ht : IsLineEnd t) (rest : List Char) : StartsBlank (t.toList ++ rest) := by
  rcases ht with rfl | ⟨comment, -, rfl⟩
  · exact startsBlank_cons rfl rest
  · rw [String.toList_append, String.toList_append]
    exact startsBlank_cons rfl _

/-- The end of a line is one newline and the characters before it. -/
theorem exists_eq_concat (ht : IsLineEnd t) :
    ∃ cs, t.toList = cs ++ ['\n'] ∧ cs.count '\n' = 0 := by
  rcases ht with rfl | ⟨comment, hcomment, rfl⟩
  · exact ⟨[], rfl, rfl⟩
  · refine ⟨' ' :: '#' :: comment.toList, by simp, ?_⟩
    rw [List.count_eq_zero]
    simpa using hcomment

/-- A comment is skipped up to its newline, and the newline with it. -/
theorem skipFrom_comment {comment : List Char} (h : '\n' ∉ comment) (rest : List Char)
    (l : Location) :
    Cursor.skipFrom true (comment ++ '\n' :: rest) l =
      Cursor.skipFrom false rest (l.after (comment ++ ['\n'])) := by
  induction comment generalizing l with
  | nil => rfl
  | cons a comment ih =>
    rw [List.mem_cons, not_or] at h
    have ha : (a != '\n') = true := bne_iff_ne.2 (Ne.symm h.1)
    rw [List.cons_append, Cursor.skipFrom, if_pos rfl, ha, ih h.2]
    rfl

/-- The end of a line ends blanks and comments alike. -/
theorem skipFrom_append (ht : IsLineEnd t) (inComment : Bool) (rest : List Char) (l : Location) :
    Cursor.skipFrom inComment (t.toList ++ rest) l =
      Cursor.skipFrom false rest (l.after t.toList) := by
  rcases ht with rfl | ⟨comment, hcomment, rfl⟩
  · cases inComment with
    | false => rfl
    | true => rfl
  · -- A comment may run already, which then goes on through the space and the number sign.
    have hchars : (" #" ++ comment ++ "\n").toList = ' ' :: '#' :: (comment.toList ++ ['\n']) := by
      simp
    have hsplit : (" #" ++ comment ++ "\n").toList ++ rest =
        ' ' :: '#' :: (comment.toList ++ '\n' :: rest) := by
      rw [hchars]
      simp
    rw [hsplit, hchars, Location.after_cons, Location.after_cons, ← skipFrom_comment hcomment]
    cases inComment with
    | false => rfl
    | true => rfl

end IsLineEnd

namespace Token

/-- Blanks and comments in front of the text do not matter. -/
theorem readFrom_of_skip_eq {fuel : Nat} (hfuel : 0 < fuel) (opened : Option Location)
    (read : List Token) {c c' : Cursor} (h : c.skip = c'.skip) :
    readFrom fuel opened read c = readFrom fuel opened read c' := by
  obtain ⟨fuel, rfl⟩ := Nat.exists_eq_succ_of_ne_zero (Nat.ne_of_gt hfuel)
  simp only [readFrom, h]

/-- The tokens read before are in front of the ones that are read. -/
theorem readFrom_read (fuel : Nat) (opened : Option Location) (read : List Token) (c : Cursor) :
    readFrom fuel opened read c =
      (readFrom fuel opened [] c).map fun p => (read.reverse ++ p.1, p.2) := by
  induction fuel generalizing opened read c with
  | zero =>
    rw [readFrom, readFrom, Except.map, List.reverse_nil, List.append_nil]
  | succ fuel ih =>
    -- A token that is read now is behind those read before, and in front of those read later.
    have hcons : ∀ (t : Token) (c' : Cursor), readFrom fuel opened (t :: read) c' =
        (readFrom fuel opened [t] c').map fun p => (read.reverse ++ p.1, p.2) := by
      intro t c'
      rw [ih opened (t :: read), ih opened [t]]
      rcases readFrom fuel opened [] c' with f | ⟨ts, c''⟩
      · rfl
      · simp [Except.map]
    rw [readFrom_of_pos (Nat.succ_pos fuel), readFrom_of_pos (Nat.succ_pos fuel), Nat.succ_sub_one]
    rcases c.lexeme? with f | _ | ⟨t | l | l, c'⟩
    · rfl
    · rcases opened with _ | l
      · simp [Except.map]
      · rfl
    · exact hcons t c'
    · dsimp only
      rcases readFrom fuel (some l) [] c' with f | ⟨body, c''⟩
      · rfl
      · exact hcons (block l body) c''
    · rcases opened with _ | l'
      · exact hcons (word l "\x7d") c'
      · simp [Except.map]

/-- The text at the cursor reads as these tokens, and after the end of a line `t` reading goes on
with `rest`. -/
def ReadsOn (t : String) (rest : List Char) (c : Cursor) (ts : List Token) : Prop :=
  ∀ fuel read, c.rest.length + t.toList.length + rest.length < fuel →
    readFrom fuel none read (c.followedBy (t.toList ++ rest)) =
      readFrom fuel none (ts.reverse ++ read) ⟨rest, c.ending.after t.toList⟩

/-- One token more in front, which a round of reading has found. -/
theorem ReadsOn.cons {t : String} {rest : List Char} {c c' : Cursor} {u : Token} {ts : List Token}
    (h : ReadsOn t rest c' ts) (hlt : c'.rest.length < c.rest.length)
    (hending : c'.ending = c.ending)
    (hround : ∀ fuel read, c.rest.length + t.toList.length + rest.length < fuel →
      readFrom fuel none read (c.followedBy (t.toList ++ rest)) =
        readFrom (fuel - 1) none (u :: read) (c'.followedBy (t.toList ++ rest))) :
    ReadsOn t rest c (u :: ts) := by
  intro fuel read hfuel
  -- The round has used up some fuel, and there is enough left.
  have hless : readFrom (fuel - 1) none (ts.reverse ++ u :: read) ⟨rest, c'.ending.after t.toList⟩ =
      readFrom fuel none (ts.reverse ++ u :: read) ⟨rest, c'.ending.after t.toList⟩ :=
    readFrom_eq_readFrom _ (show rest.length < fuel - 1 by omega) (show rest.length < fuel by omega)
  rw [hround fuel read hfuel, h (fuel - 1) (u :: read) (by omega), hless, hending,
    List.reverse_cons, List.append_assoc]
  rfl

/-- After the tokens of a text and the end of a line, reading goes on with what follows. -/
theorem Reads.readsOn {opened : Option Location} {c c' : Cursor} {ts : List Token} {t : String}
    (h : Reads opened c ts c') (hopened : opened = none) (ht : IsLineEnd t) (rest : List Char) :
    ReadsOn t rest c ts := by
  have hblank := ht.startsBlank rest
  induction h with
  | @finish c h =>
    intro fuel read hfuel
    -- The text may end inside a comment, and the end of the line ends that too.
    obtain ⟨inComment, hmore⟩ := Cursor.exists_skipFrom_append (Cursor.skip_of_lexeme?_eq_none h)
    refine readFrom_of_skip_eq (Nat.zero_lt_of_lt hfuel) none read ?_
    calc (c.followedBy (t.toList ++ rest)).skip
        = Cursor.skipFrom inComment (t.toList ++ rest) c.ending := hmore _
      _ = Cursor.skipFrom false rest (c.ending.after t.toList) := ht.skipFrom_append _ _ _
  | close h => cases hopened
  | stray h _ ih =>
    refine (ih rfl).cons (Cursor.length_lexeme?_lt h) (Cursor.ending_lexeme? h) ?_
    intro fuel read hfuel
    rw [readFrom_of_pos (Nat.zero_lt_of_lt hfuel), Cursor.lexeme?_followedBy hblank h]
    rfl
  | token h _ ih =>
    refine (ih hopened).cons (Cursor.length_lexeme?_lt h) (Cursor.ending_lexeme? h) ?_
    intro fuel read hfuel
    rw [readFrom_of_pos (Nat.zero_lt_of_lt hfuel), Cursor.lexeme?_followedBy hblank h]
  | block h hbody _ ihbody ih =>
    have hlt := Cursor.length_lexeme?_lt h
    have hle := hbody.length_le
    refine (ih hopened).cons (by omega) (hbody.ending.trans (Cursor.ending_lexeme? h)) ?_
    intro fuel read hfuel
    -- The whole block comes before the end of the line.
    have hblock := (hbody.followedBy hblank rfl).readFrom_eq (fuel - 1) [] (by
      simp only [Cursor.followedBy, List.length_append]
      omega)
    rw [readFrom_of_pos (Nat.zero_lt_of_lt hfuel), Cursor.lexeme?_followedBy hblank h]
    dsimp only
    rw [hblock]
    rfl

variable {path a t : String} {ta : List Token}

/-- A source text further down. -/
theorem readFrom_start_down (n : Nat) (path source : String) :
    (readFrom (source.toList.length + 1) none [] ((Cursor.start path source).down n)).map Prod.fst =
      downResult n (List.map (Token.down n)) (readAll path source) := by
  have hdown := readFrom_down n (source.toList.length + 1) none [] (Cursor.start path source)
  rw [Option.map_none, List.map_nil] at hdown
  rw [hdown, ← readFrom_start (Nat.lt_succ_self _)]
  show _ = downResult n _ (Except.map _ (readFrom (source.toList.length + 1) none [] _))
  rcases readFrom (source.toList.length + 1) none [] (Cursor.start path source) with f | ⟨ts, c⟩
  · rfl
  · rfl

/-- A text behind a program and the end of a line is read as on its own, further down. -/
theorem readAll_append (ht : IsLineEnd t) (ha : readAll path a = .ok ta) (b : String) :
    readAll path (a ++ t ++ b) =
      (downResult (1 + a.toList.count '\n') (List.map (Token.down (1 + a.toList.count '\n')))
        (readAll path b)).map (ta ++ ·) := by
  obtain ⟨c, hreads⟩ := readAll_eq_ok_iff.1 ha
  have hstart : Cursor.start path (a ++ t ++ b) =
      (Cursor.start path a).followedBy (t.toList ++ b.toList) := by
    simp [Cursor.start, Cursor.followedBy]
  -- The line of the second text starts after all newlines of the first one and one more.
  have hplace : (Cursor.start path a).ending.after t.toList =
      (Location.start path).down (1 + a.toList.count '\n') := by
    obtain ⟨cs, hcs, hcount⟩ := ht.exists_eq_concat
    have hline : 1 + a.toList.count '\n' + 0 + 1 = 1 + (1 + a.toList.count '\n') := by omega
    rw [hcs, Location.after_concat_newline, hcount]
    simp only [Cursor.ending, Cursor.start, Location.path_after, Location.line_after]
    simp only [Location.start, Location.down, hline]
  have hfuel : (Cursor.start path (a ++ t ++ b)).rest.length <
      (Cursor.start path (a ++ t ++ b)).rest.length + 1 := Nat.lt_succ_self _
  have hlength : b.toList.length ≤ (Cursor.start path (a ++ t ++ b)).rest.length := by
    simp only [Cursor.start, String.toList_append, List.length_append]
    omega
  have hgo := hreads.readsOn rfl ht b.toList
    ((Cursor.start path (a ++ t ++ b)).rest.length + 1) [] (by
      simp only [Cursor.start, String.toList_append, List.length_append]
      omega)
  rw [← hstart, hplace, List.append_nil] at hgo
  have hsame : readFrom ((Cursor.start path (a ++ t ++ b)).rest.length + 1) none ta.reverse
        ((Cursor.start path b).down (1 + a.toList.count '\n')) =
      readFrom (b.toList.length + 1) none ta.reverse
        ((Cursor.start path b).down (1 + a.toList.count '\n')) :=
    readFrom_eq_readFrom _ (Nat.lt_succ_of_le hlength) (Nat.lt_succ_self _)
  rw [← readFrom_start hfuel, hgo]
  show Except.map _ (readFrom _ none ta.reverse
    ((Cursor.start path b).down (1 + a.toList.count '\n'))) = _
  rw [hsame, readFrom_read _ _ ta.reverse, List.reverse_reverse, ← readFrom_start_down]
  rcases readFrom (b.toList.length + 1) none []
    ((Cursor.start path b).down (1 + a.toList.count '\n')) with f | ⟨ts, c⟩
  · rfl
  · rfl

/-- A text that reads well, the end of a line, and any text read as the first and then the second,
which is as many lines further down as there are before it. If the second text has a fault, then it
is the fault of the whole. -/
theorem readAll_append_line (ht : IsLineEnd t) (ha : readAll path a = .ok ta) (b : String) :
    readAll path (a ++ t ++ b) =
      match readAll path b with
      | .ok tb => .ok (ta ++ tb.map (Token.down (1 + a.toList.count '\n')))
      | .error f => .error (f.down (1 + a.toList.count '\n')) := by
  rw [readAll_append ht ha b]
  rcases readAll path b with f | tb
  · rfl
  · rfl

/-- A comment that runs on into the end of the line, before a good text and before a bad one. -/
theorem readAll_append_line_comment :
    let first := "1\n\x7b \"a # b\" \x7d dup# c"
    let lineEnd := " # d\n"
    let place := fun line column => Location.mk "lines" line column
    let ts := [
      literal (place 1 1) (.int 1),
      block (place 2 1) [literal (place 2 3) (.string "a # b")],
      word (place 2 13) "dup"]
    IsLineEnd lineEnd ∧ readAll "lines" first = .ok ts ∧
      readAll "lines" (first ++ lineEnd ++ "\x7d\n\x7b 2 \x7d") =
        .ok (ts ++ [word (place 3 1) "\x7d",
          block (place 4 1) [literal (place 4 3) (.int 2)]]) ∧
      readAll "lines" (first ++ lineEnd ++ " \x7b") =
        .error (.inSource .blockNotClosed (place 3 2)) := by
  intro first lineEnd place ts
  have hend : IsLineEnd lineEnd := .inr ⟨" d", by decide, rfl⟩
  have hfirst : readAll "lines" first = .ok ts := by
    dsimp only [first, place, ts]
    rfl
  have hgood : readAll "lines" "\x7d\n\x7b 2 \x7d" =
      .ok [word (place 1 1) "\x7d", block (place 2 1) [literal (place 2 3) (.int 2)]] := by rfl
  have hbad : readAll "lines" " \x7b" = .error (.inSource .blockNotClosed (place 1 2)) := by rfl
  have hcount : first.toList.count '\n' = 1 := by decide
  refine ⟨hend, hfirst, ?_, ?_⟩
  · rw [readAll_append_line hend hfirst, hgood, hcount]
    rfl
  · rw [readAll_append_line hend hfirst, hbad, hcount]
    rfl

end Token

end BlockForth
