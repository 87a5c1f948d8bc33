import BlockForth.Proofs.Token.Braces
import BlockForth.Proofs.Token.Lines
import BlockForth.Proofs.Token.RoundTrip
import BlockForth.Proofs.Token.StringEnds
import Mathlib.Algebra.Group.Int.Defs
import Mathlib.Data.List.DropRight
import Mathlib.Data.List.Forall2
import Mathlib.Data.List.Induction
import Mathlib.Logic.Relation

/-!
# Where tokens and faults are

The reader keeps a location and moves it with every character that it takes. `locationAt` is the
location that the character with a given index has in the text as a whole: its line and its column
are counted from the newlines before it. `readAll_places` says that both are the same. Every token,
at every depth, has an index of its own where it is written, and so has the fault if the text has
one, and the locations are those of the indices.

`Cursor.LeadsTo` is what every part of the reader keeps: it takes some characters, and moves the
location over exactly these. So the cursor between two lexemes is the one at its index
(`Cursor.eq_cursorAt`), and the order of the tokens is the order of what is left of the text.
-/

namespace BlockForth

/-! ## Locations by index -/

/-- The location of the character with the index `p`: there are as many lines before it as there are
newlines, and the characters between the last of these, or the start, and it are the columns before
it. -/
def locationAt (path source : String) (p : ℕ) : Location where
  path := path
  line := 1 + (source.toList.take p).count '\n'
  column := 1 + ((source.toList.take p).rtakeWhile (· ≠ '\n')).length

/-- The cursor at the character with the index `p`. -/
def cursorAt (path source : String) (p : ℕ) : Cursor :=
  ⟨source.toList.drop p, locationAt path source p⟩

/-- A text leads as many columns further as there are characters behind its last newline. -/
theorem Location.column_after_start (path : String) (cs : List Char) :
    ((Location.start path).after cs).column = 1 + (cs.rtakeWhile (· ≠ '\n')).length := by
  -- From the end of the text, since only what is behind the last newline counts.
  induction cs using List.reverseRecOn with
  | nil => rfl
  | append_singleton cs a ih =>
    rw [after_append, after_cons, after_nil]
    unfold next
    by_cases ha : a = '\n'
    · rw [if_pos ha, List.rtakeWhile_concat_neg _ _ _ (by simpa using ha)]
      rfl
    · rw [if_neg ha, List.rtakeWhile_concat_pos _ _ _ (by simpa using ha), List.length_append]
      dsimp only
      rw [ih]
      rfl

/-- The text before an index leads from the start to the location of the index. -/
theorem Location.after_start (path source : String) (p : ℕ) :
    (Location.start path).after (source.toList.take p) = locationAt path source p := by
  have hpath := path_after (.start path) (source.toList.take p)
  have hline := line_after (.start path) (source.toList.take p)
  have hcolumn := column_after_start path (source.toList.take p)
  rcases hafter : (Location.start path).after (source.toList.take p) with ⟨path', line, column⟩
  rw [hafter] at hpath hline hcolumn
  exact Location.mk.injEq .. ▸ ⟨hpath, hline, hcolumn⟩

/-- Advancing adds to the index. -/
theorem advance_cursorAt (path source : String) (p n : ℕ) :
    (cursorAt path source p).advance n = cursorAt path source (p + n) := by
  rw [Cursor.advance, cursorAt, cursorAt, List.drop_drop, ← Location.after_start,
    ← Location.after_start, ← Location.after_append, ← List.take_add]

namespace Cursor

/-! ## The reader moves the location over what it takes -/

/-- The second cursor is behind some of the text of the first one. -/
def LeadsTo (c c' : Cursor) : Prop :=
  ∃ taken, c.rest = taken ++ c'.rest ∧ c'.location = c.location.after taken

/-- A cursor is behind none of its text. -/
theorem LeadsTo.refl (c : Cursor) : c.LeadsTo c :=
  ⟨[], rfl, rfl⟩

/-- The pieces that are taken in two stages stand one behind the other. -/
theorem LeadsTo.trans {c₁ c₂ c₃ : Cursor} (h : c₁.LeadsTo c₂) (h' : c₂.LeadsTo c₃) :
    c₁.LeadsTo c₃ := by
  obtain ⟨taken, hrest, hlocation⟩ := h
  obtain ⟨taken', hrest', hlocation'⟩ := h'
  refine ⟨taken ++ taken', ?_, ?_⟩
  · rw [hrest, hrest', List.append_assoc]
  · rw [hlocation', hlocation, Location.after_append]

/-- One character is taken first. -/
theorem LeadsTo.cons {a : Char} {rest : List Char} {l : Location} {c : Cursor}
    (h : (Cursor.mk rest (l.next a)).LeadsTo c) : (Cursor.mk (a :: rest) l).LeadsTo c :=
  LeadsTo.trans ⟨[a], rfl, rfl⟩ h

/-- Advancing takes characters only. -/
theorem leadsTo_advance (c : Cursor) (n : ℕ) : c.LeadsTo (c.advance n) :=
  ⟨c.rest.take n, (List.take_append_drop n c.rest).symm, rfl⟩

/-- Skipping takes characters only, from inside a comment too. -/
theorem leadsTo_skipFrom (inComment : Bool) (cs : List Char) (l : Location) :
    (Cursor.mk cs l).LeadsTo (skipFrom inComment cs l) := by
  induction cs generalizing inComment l with
  | nil => exact .refl _
  | cons a rest ih =>
    rw [skipFrom]
    split_ifs
    · exact (ih _ _).cons
    · exact (ih _ _).cons
    · exact (ih _ _).cons
    · exact .refl _

/-- Skipping leads on. -/
theorem leadsTo_skip (c : Cursor) : c.LeadsTo c.skip :=
  leadsTo_skipFrom false c.rest c.location

/-- Scanning a string leads on. -/
theorem leadsTo_scanString {read cs text : List Char} {l : Location} {c : Cursor}
    (h : Token.scanString read cs l = some (text, c)) : (Cursor.mk cs l).LeadsTo c := by
  fun_induction Token.scanString read cs l with
  | case1 => cases h
  | case2 read rest l ih => exact (ih h).cons.cons
  | case3 =>
    cases h
    exact (LeadsTo.refl _).cons
  | case4 read a rest l hescape hquote ih => exact (ih h).cons

/-- Reading a string leads on, whichever way it is read. -/
theorem leadsTo_readString {c c' : Cursor} {t : Token} (h : Token.readString c = .ok (t, c')) :
    c.LeadsTo c' := by
  unfold Token.readString at h
  dsimp only at h
  split at h
  · cases h
    exact leadsTo_advance c _
  · split at h
    · rename_i hscan
      cases h
      exact (leadsTo_advance c 1).trans (leadsTo_scanString hscan)
    · cases h

/-- What the reader has before it behind blanks and comments: nothing, a string, or a chunk. -/
theorem lexeme?_cases (c : Cursor) :
    c.lexeme? = .ok none ∨
      (c.skip.rest.head? = some '"' ∧
        c.lexeme? = (Token.readString c.skip).map fun p => some (.token p.1, p.2)) ∨
      (Token.IsChunk c.skip.chunk ∧ c.lexeme? =
        Lexeme.ofChunk c.skip.location c.skip.chunk (c.skip.advance c.skip.chunk.length)) := by
  rcases hrest : c.skip.rest with _ | ⟨a, rest⟩
  · exact .inl (lexeme?_of_nil hrest)
  · by_cases hquote : a = '"'
    · rw [hquote] at hrest ⊢
      exact .inr (.inl ⟨rfl, lexeme?_of_quote hrest⟩)
    · obtain ⟨hblank, hcomment⟩ := head_skipFrom hrest
      exact .inr (.inr ⟨Token.isChunk_chunk hrest hblank hcomment hquote,
        lexeme?_of_chunk hrest hquote⟩)

/-- Reading a lexeme leads on from where the lexeme starts. -/
theorem leadsTo_lexeme? {c c' : Cursor} {x : Lexeme} (h : c.lexeme? = .ok (some (x, c'))) :
    c.skip.LeadsTo c' := by
  rcases c.lexeme?_cases with hnone | ⟨-, hstring⟩ | ⟨-, hchunk⟩
  · rw [hnone] at h
    cases h
  · rw [hstring] at h
    rcases hread : Token.readString c.skip with f | ⟨t, c₁⟩
    · rw [hread] at h
      cases h
    · rw [hread] at h
      cases h
      exact leadsTo_readString hread
  · rw [hchunk] at h
    obtain ⟨rfl, -⟩ := Lexeme.ofChunk_cases h
    exact leadsTo_advance _ _

/-- The blanks and comments before a lexeme are no part of it. -/
theorem skip_skip (c : Cursor) : c.skip.skip = c.skip := by
  rcases hskip : c.skip with ⟨_ | ⟨a, rest⟩, l⟩
  · rfl
  · obtain ⟨hblank, hcomment⟩ := head_skipFrom (congrArg Cursor.rest hskip)
    exact Token.skip_of_not_blank rest l hblank hcomment

/-- The lexeme is the same one from where it starts. -/
theorem lexeme?_skip (c : Cursor) : c.skip.lexeme? = c.lexeme? := by
  unfold lexeme?
  rw [skip_skip]

/-- A lexeme has at least one character, apart from the blanks and comments before it. -/
theorem length_lexeme?_lt_skip {c c' : Cursor} {x : Lexeme}
    (h : c.lexeme? = .ok (some (x, c'))) : c'.rest.length < c.skip.rest.length :=
  length_lexeme?_lt (by rw [lexeme?_skip, h])

/-! ## The cursor between two lexemes -/

/-- The reader takes one lexeme. -/
def Next (c c' : Cursor) : Prop :=
  ∃ x, c.lexeme? = .ok (some (x, c'))

/-- Reading any number of lexemes leads on. -/
theorem leadsTo_of_next {c c' : Cursor} (h : Relation.ReflTransGen Next c c') : c.LeadsTo c' := by
  induction h with
  | refl => exact .refl c
  | tail _ hnext ih =>
    obtain ⟨x, hx⟩ := hnext
    exact ih.trans ((leadsTo_skip _).trans (leadsTo_lexeme? hx))

/-- The index in the source text of the next character. -/
def index (source : String) (c : Cursor) : ℕ :=
  source.toList.length - c.rest.length

/-- A cursor that the text leads to is the one at its index. -/
theorem eq_cursorAt {path source : String} {c : Cursor} (h : (start path source).LeadsTo c) :
    c = cursorAt path source (c.index source) ∧ c.rest.length ≤ source.toList.length := by
  obtain ⟨rest, l⟩ := c
  obtain ⟨taken, hrest, hlocation⟩ := h
  have htext : source.toList = taken ++ rest := hrest
  have hplace : l = (Location.start path).after taken := hlocation
  have hindex : (Cursor.mk rest l).index source = taken.length := by
    rw [index, htext, List.length_append]
    exact Nat.add_sub_cancel _ _
  refine ⟨?_, by rw [htext, List.length_append]; exact Nat.le_add_left _ _⟩
  rw [hindex, cursorAt, ← Location.after_start, htext, List.drop_left, List.take_left, hplace]

end Cursor

/-- The reader gets to the index `p`, over lexemes, blanks and comments, and has a lexeme or the end
before it there. -/
def Reached (path source : String) (p : ℕ) : Prop :=
  ∃ c, Relation.ReflTransGen Cursor.Next (Cursor.start path source) c ∧
    c.skip = cursorAt path source p

namespace Token

/-! ## Tokens at an index -/

mutual

/-- The token, and the tokens inside it after it, in reading order. -/
def inOrder : Token → List Token
  | word l spelling => [word l spelling]
  | literal l v => [literal l v]
  | block l body => block l body :: inOrderAll body

/-- The tokens at every depth, in reading order. -/
def inOrderAll : List Token → List Token
  | [] => []
  | t :: ts => t.inOrder ++ inOrderAll ts

end

/-- A token without parts is alone in its reading order. -/
theorem IsAtom.inOrder_eq {t : Token} (h : t.IsAtom) : t.inOrder = [t] := by
  cases t with
  | word l spelling => rfl
  | literal l v => rfl
  | block l body => exact h.elim

/-- The text at the cursor is that of the token: the chunk there is the spelling of the word, or
stands for the number, or is the brace that opens the block, or the quote there opens the string. -/
def IsWrittenAt (c : Cursor) : Token → Prop
  | word _ spelling => IsChunk spelling.toList ∧ c.chunk = spelling.toList
  | literal l (.string s) =>
    c.rest.head? = some '"' ∧ ∃ c', readString c = .ok (literal l (.string s), c')
  | literal l v => IsChunk c.chunk ∧ ofChunk l c.chunk = .ok (literal l v)
  | block _ _ => c.chunk = ['\x7b']

/-- The token is at the index `p` of the source text. -/
structure StandsAt (path source : String) (t : Token) (p : ℕ) : Prop where
  /-- The reader has the token before it there. -/
  reached : Reached path source p
  /-- The token has the location of the index. -/
  location_eq : t.location = locationAt path source p
  /-- The text there is that of the token. -/
  isWrittenAt : t.IsWrittenAt (cursorAt path source p)

/-- The tokens are at indices from `i` up to `j`, each one behind those before it. -/
def Spread (path source : String) (i j : ℕ) (ts : List Token) : Prop :=
  ∃ ps, List.Forall₂ (StandsAt path source) ts ps ∧ ps.Pairwise (· < ·) ∧ ∀ p ∈ ps, i ≤ p ∧ p < j

/-- No tokens are spread over any stretch. -/
theorem spread_nil (path source : String) (i j : ℕ) : Spread path source i j [] :=
  ⟨[], .nil, .nil, fun _ hp => absurd hp List.not_mem_nil⟩

/-- A token is spread over every stretch that its index lies in. -/
theorem StandsAt.spread {path source : String} {t : Token} {i p j : ℕ}
    (h : StandsAt path source t p) (hi : i ≤ p) (hj : p < j) : Spread path source i j [t] := by
  refine ⟨[p], .cons h .nil, List.pairwise_singleton _ p, fun q hq => ?_⟩
  rw [List.mem_singleton.1 hq]
  exact ⟨hi, hj⟩

/-- Tokens spread over one stretch and tokens spread over the next one are spread over both. -/
theorem Spread.append {path source : String} {i j k : ℕ} {ts us : List Token}
    (hts : Spread path source i j ts) (hus : Spread path source j k us) (hij : i ≤ j)
    (hjk : j ≤ k) : Spread path source i k (ts ++ us) := by
  obtain ⟨ps, hps, hsorted, hbounds⟩ := hts
  obtain ⟨qs, hqs, hsorted', hbounds'⟩ := hus
  refine ⟨ps ++ qs, List.rel_append hps hqs, ?_, ?_⟩
  · refine List.pairwise_append.2 ⟨hsorted, hsorted', fun p hp q hq => ?_⟩
    exact lt_of_lt_of_le (hbounds p hp).2 (hbounds' q hq).1
  · refine List.forall_mem_append.2 ⟨fun p hp => ?_, fun q hq => ?_⟩
    · exact ⟨(hbounds p hp).1, lt_of_lt_of_le (hbounds p hp).2 hjk⟩
    · exact ⟨le_trans hij (hbounds' q hq).1, (hbounds' q hq).2⟩

/-- The token of a chunk is written where the chunk is, and has its location. -/
theorem isWrittenAt_of_ofChunk {c : Cursor} {t : Token} (hchunk : IsChunk c.chunk)
    (h : ofChunk c.location c.chunk = .ok t) :
    t.location = c.location ∧ t.IsWrittenAt c := by
  have hof := h
  unfold ofChunk at h
  split at h
  · cases h
    refine ⟨rfl, ?_⟩
    rw [IsWrittenAt, String.toList_ofList]
    exact ⟨hchunk, rfl⟩
  · cases h
    exact ⟨rfl, hchunk, hof⟩
  · split at h
    · cases h
      exact ⟨rfl, hchunk, hof⟩
    · cases h

/-- The token is one that the lexeme can be or open. A closing brace outside of every block is a
word. -/
def IsOf (t : Token) : Lexeme → Prop
  | .token t' => t = t'
  | .opening l => ∃ body, t = block l body
  | .closing l => t = word l "\x7d"

/-- The token of a lexeme is written where the lexeme is. -/
theorem isWrittenAt_of_lexeme? {c c' : Cursor} {x : Lexeme} {t : Token}
    (h : c.lexeme? = .ok (some (x, c'))) (ht : t.IsOf x) :
    t.location = c.skip.location ∧ t.IsWrittenAt c.skip := by
  rcases c.lexeme?_cases with hnone | ⟨hquote, hstring⟩ | ⟨hchunk, hlexeme⟩
  · rw [hnone] at h
    cases h
  · rw [hstring] at h
    rcases hread : readString c.skip with f | ⟨t', c₁⟩
    · rw [hread] at h
      cases h
    · rw [hread] at h
      cases h
      obtain rfl : t = t' := ht
      obtain ⟨s, rfl, -⟩ := readString_cases hread
      exact ⟨rfl, hquote, _, hread⟩
  · rw [hlexeme] at h
    obtain ⟨-, ⟨hopening, rfl⟩ | ⟨hclosing, rfl⟩ | ⟨-, -, t', hof, rfl⟩⟩ := Lexeme.ofChunk_cases h
    · obtain ⟨body, rfl⟩ := ht
      exact ⟨rfl, hopening⟩
    · obtain rfl := ht
      exact ⟨rfl, isChunk_closing, hclosing⟩
    · obtain rfl : t = t' := ht
      exact isWrittenAt_of_ofChunk hchunk hof

variable {path source : String} {opened : Option Location} {c c' : Cursor} {ts : List Token}

/-- The token of a lexeme is at an index between those of the cursors before and behind it. -/
theorem spread_of_lexeme? {x : Lexeme} {t : Token}
    (hc : Relation.ReflTransGen Cursor.Next (Cursor.start path source) c)
    (h : c.lexeme? = .ok (some (x, c'))) (ht : t.IsOf x) :
    Spread path source (c.index source) (c'.index source) [t] := by
  have hskip := (Cursor.leadsTo_of_next hc).trans c.leadsTo_skip
  obtain ⟨heq, hle⟩ := Cursor.eq_cursorAt hskip
  obtain ⟨hlocation, hwritten⟩ := isWrittenAt_of_lexeme? h ht
  have hstands : StandsAt path source t (c.skip.index source) := by
    refine ⟨⟨c, hc, heq⟩, ?_, ?_⟩
    · rw [hlocation]
      exact congrArg Cursor.location heq
    · rw [← heq]
      exact hwritten
  have hbefore := c.length_skip_le
  have hbehind := Cursor.length_lexeme?_lt_skip h
  refine hstands.spread ?_ ?_
  · unfold Cursor.index
    omega
  · unfold Cursor.index
    omega

/-- With fewer characters left the index is greater. -/
theorem index_le_of_length_le (h : c'.rest.length ≤ c.rest.length) :
    c.index source ≤ c'.index source := by
  unfold Cursor.index
  omega

/-- One token more in front of those behind it. -/
theorem spread_cons {c'' : Cursor} {x : Lexeme} {t : Token}
    (hc : Relation.ReflTransGen Cursor.Next (Cursor.start path source) c)
    (h : c.lexeme? = .ok (some (x, c'))) (ht : t.IsOf x)
    (hts : Spread path source (c'.index source) (c''.index source) ts)
    (hle : c''.rest.length ≤ c'.rest.length) :
    Spread path source (c.index source) (c''.index source) (t :: ts) := by
  have hlt := Cursor.length_lexeme?_lt h
  exact (spread_of_lexeme? hc h ht).append hts (index_le_of_length_le hlt.le)
    (index_le_of_length_le hle)

/-- A block is read lexeme by lexeme, up to the cursor behind it. -/
theorem Reads.reflTransGen (h : Reads opened c ts c') (hopened : opened.isSome = true) :
    Relation.ReflTransGen Cursor.Next c c' := by
  induction h with
  | finish h => cases hopened
  | close h => exact .single ⟨_, h⟩
  | stray h _ ih => cases hopened
  | token h _ ih => exact .head ⟨_, h⟩ (ih hopened)
  | block h _ _ ihbody ih => exact .head ⟨_, h⟩ ((ihbody rfl).trans (ih hopened))

/-- The tokens that a text reads as are spread over it, at every depth. -/
theorem Reads.spread (h : Reads opened c ts c')
    (hc : Relation.ReflTransGen Cursor.Next (Cursor.start path source) c) :
    Spread path source (c.index source) (c'.index source) (inOrderAll ts) := by
  induction h with
  | finish h => exact spread_nil _ _ _ _
  | close h => exact spread_nil _ _ _ _
  | stray h hrest ih => exact spread_cons hc h rfl (ih (hc.tail ⟨_, h⟩)) hrest.length_le
  | token h hrest ih =>
    rw [inOrderAll, (isAtom_of_lexeme? h).inOrder_eq]
    exact spread_cons hc h rfl (ih (hc.tail ⟨_, h⟩)) hrest.length_le
  | @block _ _ _ _ _ _ body _ h hbody hrest ihbody ih =>
    -- The brace is in front of the body, and the body in front of what follows the block.
    have hinside := hc.tail ⟨_, h⟩
    have hblock := spread_cons hc h ⟨body, rfl⟩ (ihbody hinside) hbody.length_le
    have hbehind := ih (hinside.trans (hbody.reflTransGen rfl))
    have hlt := Cursor.length_lexeme?_lt h
    exact hblock.append hbehind (index_le_of_length_le (hbody.length_le.trans hlt.le))
      (index_le_of_length_le hrest.length_le)

/-! ## Faults at an index -/

/-- The text from the cursor on is made of whole tokens up to the end, and none of them is a closing
brace, so that a block that is open before it is not closed in it. -/
def ReadsToEnd (c : Cursor) (ts : List Token) : Prop :=
  (∃ c', Reads none c ts c') ∧ ∀ l, word l "\x7d" ∉ ts

/-- A lexeme that the reader gets to is faulty, or is the brace of a block that is not closed, while
every block inside of it is. -/
def FaultAhead (c : Cursor) (f : Fault) : Prop :=
  ∃ c₁, Relation.ReflTransGen Cursor.Next c c₁ ∧
    (c₁.lexeme? = .error f ∨
      ∃ l c₂ ts, f = .inSource .blockNotClosed l ∧ c₁.lexeme? = .ok (some (.opening l, c₂)) ∧
        ReadsToEnd c₂ ts)

/-- A fault that lies ahead of a later cursor lies ahead of an earlier one. -/
theorem FaultAhead.of_reflTransGen {f : Fault} (h : Relation.ReflTransGen Cursor.Next c c')
    (hf : FaultAhead c' f) : FaultAhead c f := by
  obtain ⟨c₁, hc₁, hfault⟩ := hf
  exact ⟨c₁, h.trans hc₁, hfault⟩

/-- A token in front of whole tokens up to the end. -/
theorem ReadsToEnd.token {t : Token} (h : c.lexeme? = .ok (some (.token t, c')))
    (hts : ReadsToEnd c' ts) : ReadsToEnd c (t :: ts) := by
  obtain ⟨⟨c₁, hreads⟩, hnone⟩ := hts
  refine ⟨⟨c₁, .token h hreads⟩, fun l hmem => ?_⟩
  rcases List.mem_cons.1 hmem with rfl | hmem
  · exact isAtom_of_lexeme? h rfl
  · exact hnone l hmem

/-- A closed block in front of whole tokens up to the end. -/
theorem ReadsToEnd.block {c₁ c₂ : Cursor} {l : Location} {body : List Token}
    (h : c.lexeme? = .ok (some (.opening l, c₁))) (hbody : Reads (some l) c₁ body c₂)
    (hts : ReadsToEnd c₂ ts) : ReadsToEnd c (block l body :: ts) := by
  obtain ⟨⟨c₃, hreads⟩, hnone⟩ := hts
  refine ⟨⟨c₃, .block h hbody hreads⟩, fun l' hmem => ?_⟩
  rcases List.mem_cons.1 hmem with heq | hmem
  · cases heq
  · exact hnone l' hmem

/-- A text that the reader fails on has a fault ahead, or it is inside of a block and does not close
it. -/
theorem faultAhead_of_readFrom {fuel : ℕ} {read : List Token} {f : Fault}
    (hfuel : c.rest.length < fuel) (h : readFrom fuel opened read c = .error f) :
    FaultAhead c f ∨
      ∃ l ts, opened = some l ∧ f = .inSource .blockNotClosed l ∧ ReadsToEnd c ts := by
  induction fuel generalizing opened read c with
  | zero => exact absurd hfuel (Nat.not_lt_zero _)
  | succ fuel ih =>
    rw [readFrom_of_pos (Nat.succ_pos fuel), Nat.succ_sub_one] at h
    rcases hlexeme : c.lexeme? with e | _ | ⟨t | l | l, c₁⟩
    · rw [hlexeme] at h
      cases h
      exact .inl ⟨c, .refl, .inl hlexeme⟩
    · rw [hlexeme] at h
      rcases opened with _ | l
      · cases h
      · -- The text ends inside of the block.
        cases h
        exact .inr ⟨l, [], rfl, rfl, ⟨_, .finish hlexeme⟩, fun _ => List.not_mem_nil⟩
    · rw [hlexeme] at h
      have hlt := Cursor.length_lexeme?_lt hlexeme
      rcases ih (by omega) h with hahead | ⟨l, ts, hopened, hf, hts⟩
      · exact .inl (hahead.of_reflTransGen (.single ⟨_, hlexeme⟩))
      · exact .inr ⟨l, t :: ts, hopened, hf, hts.token hlexeme⟩
    · rw [hlexeme] at h
      dsimp only at h
      have hlt := Cursor.length_lexeme?_lt hlexeme
      rcases hinside : readFrom fuel (some l) [] c₁ with e | ⟨body, c₂⟩
      · rw [hinside] at h
        cases h
        rcases ih (by omega) hinside with hahead | ⟨l', ts, hopened, hf, hts⟩
        · exact .inl (hahead.of_reflTransGen (.single ⟨_, hlexeme⟩))
        · -- The block that starts here is the innermost one that is not closed.
          cases hopened
          exact .inl ⟨c, .refl, .inr ⟨l, c₁, ts, hf, hlexeme, hts⟩⟩
      · rw [hinside] at h
        obtain ⟨_, rfl, hbody⟩ := reads_of_readFrom (by omega) hinside
        have hle := hbody.length_le
        rcases ih (by omega) h with hahead | ⟨l', ts, hopened, hf, hts⟩
        · exact .inl (hahead.of_reflTransGen (.head ⟨_, hlexeme⟩ (hbody.reflTransGen rfl)))
        · exact .inr ⟨l', block l body :: ts, hopened, hf, hts.block hlexeme hbody⟩
    · rw [hlexeme] at h
      have hlt := Cursor.length_lexeme?_lt hlexeme
      rcases opened with _ | l'
      · rcases ih (by omega) h with hahead | ⟨l', ts, hopened, -, -⟩
        · exact .inl (hahead.of_reflTransGen (.single ⟨_, hlexeme⟩))
        · cases hopened
      · -- The brace closes the block, and there is no fault.
        cases h

/-- What is wrong at the index `p`. -/
inductive FaultyAt (path source : String) (p : ℕ) : Cause → Prop where
  /-- A quote opens a string there, and every quote behind it is escaped. -/
  | string (hquote : source.toList[p]? = some '"')
    (hopen : ∀ q, p < q → source.toList[q]? = some '"' → source.toList[q - 1]? = some '\\') :
    FaultyAt path source p .stringNotClosed
  /-- A brace opens a block there, and what follows has a closing brace for every other block, but
  none for this one. -/
  | block {ts : List Token} (hbrace : (cursorAt path source p).chunk = ['\x7b'])
    (hrest : ReadsToEnd (cursorAt path source (p + 1)) ts) :
    FaultyAt path source p .blockNotClosed
  /-- The chunk there is an integer that is out of range. -/
  | integer {n : ℤ} (hread : Numeral.read? (cursorAt path source p).chunk = some (.integer n))
    (hrange : n < -2 ^ 63 ∨ 2 ^ 63 ≤ n) :
    FaultyAt path source p (.integerOutOfRange (String.ofList (cursorAt path source p).chunk))

/-- A string that is not read has no free quote, and the fault is at the quote that opens it. -/
theorem readString_eq_error {f : Fault} (hquote : c.rest.head? = some '"')
    (h : readString c = .error f) :
    f = .inSource .stringNotClosed c.location ∧ ∀ i, ¬ FreeQuoteAt c.rest i := by
  rw [readString_eq] at h
  split at h
  · cases h
  · exact (readScanned_eq_error_iff hquote).1 h

/-- A chunk that is no token is an integer that 64 bits do not hold. -/
theorem ofChunk_eq_error {l : Location} {chunk : List Char} {f : Fault}
    (h : ofChunk l chunk = .error f) :
    f = .inSource (.integerOutOfRange (String.ofList chunk)) l ∧
      ∃ n, Numeral.read? chunk = some (.integer n) ∧ (n < -2 ^ 63 ∨ 2 ^ 63 ≤ n) := by
  have hmin : Int64.minValue.toInt = -2 ^ 63 := rfl
  have hmax : Int64.maxValue.toInt = 2 ^ 63 - 1 := rfl
  unfold ofChunk at h
  split at h
  · cases h
  · cases h
  · rename_i n hread
    rw [Numeral.toInt64?_eq] at h
    split at h
    · cases h
    · rename_i hnone
      cases h
      refine ⟨rfl, n, hread, ?_⟩
      have hrange : ¬ (Int64.minValue.toInt ≤ n ∧ n ≤ Int64.maxValue.toInt) := by
        intro hrange
        rw [if_pos hrange] at hnone
        cases hnone
      rw [hmin, hmax] at hrange
      omega

/-- A string that the reader does not find the end of is not closed. -/
theorem faultyAt_of_readString {p : ℕ} {f : Fault}
    (hquote : (cursorAt path source p).rest.head? = some '"')
    (h : readString (cursorAt path source p) = .error f) :
    f = .inSource .stringNotClosed (locationAt path source p) ∧
      FaultyAt path source p .stringNotClosed := by
  obtain ⟨hf, hnone⟩ := readString_eq_error hquote h
  refine ⟨hf, .string ?_ fun q hpq hq => ?_⟩
  · rw [← List.head?_drop]
    exact hquote
  · -- Otherwise the quote would be a free one behind the opening quote.
    obtain ⟨k, rfl⟩ : ∃ k, q = p + (k + 1) := ⟨q - (p + 1), by omega⟩
    by_contra hbackslash
    refine hnone (k + 1) ⟨Nat.succ_pos k, ?_, ?_⟩
    · rw [← hq]
      exact List.getElem?_drop ..
    · rw [Nat.add_sub_cancel]
      exact fun hk => hbackslash (hk ▸ (List.getElem?_drop ..).symm)

/-- A lexeme that is not read is faulty at the index where it starts. -/
theorem faultyAt_of_lexeme? {p : ℕ} {f : Fault} (hp : c.skip = cursorAt path source p)
    (h : c.lexeme? = .error f) :
    ∃ cause, f = .inSource cause (locationAt path source p) ∧ FaultyAt path source p cause := by
  rcases c.lexeme?_cases with hnone | ⟨hquote, hstring⟩ | ⟨-, hchunk⟩
  · rw [hnone] at h
    cases h
  · rw [hstring] at h
    rcases hread : readString c.skip with f' | ⟨t, c₁⟩
    · rw [hread] at h
      cases h
      rw [hp] at hquote hread
      exact ⟨_, faultyAt_of_readString hquote hread⟩
    · rw [hread] at h
      cases h
  · rw [hchunk, hp] at h
    unfold Lexeme.ofChunk at h
    split_ifs at h
    rcases hof : ofChunk (cursorAt path source p).location (cursorAt path source p).chunk
      with f' | t
    · rw [hof] at h
      cases h
      obtain ⟨hf, n, hread, hrange⟩ := ofChunk_eq_error hof
      exact ⟨_, hf, .integer hread hrange⟩
    · rw [hof] at h
      cases h

/-- The brace that opens a block, and the cursor behind it. -/
theorem lexeme?_eq_opening {l : Location} (h : c.lexeme? = .ok (some (.opening l, c'))) :
    c.skip.chunk = ['{'] ∧ l = c.skip.location ∧ c' = c.skip.advance 1 := by
  rcases c.lexeme?_cases with hnone | ⟨-, hstring⟩ | ⟨-, hchunk⟩
  · rw [hnone] at h
    cases h
  · rw [hstring] at h
    rcases hread : readString c.skip with f | ⟨t, c₁⟩
    · rw [hread] at h
      cases h
    · rw [hread] at h
      cases h
  · rw [hchunk] at h
    obtain ⟨rfl, ⟨hopening, hx⟩ | ⟨-, hx⟩ | ⟨-, -, t, -, hx⟩⟩ := Lexeme.ofChunk_cases h
    · cases hx
      exact ⟨hopening, rfl, by rw [hopening]; rfl⟩
    · cases hx
    · cases hx

/-- A fault ahead in a text is at an index of the text. -/
theorem exists_faultyAt {f : Fault} (h : FaultAhead (Cursor.start path source) f) :
    ∃ p cause, f = .inSource cause (locationAt path source p) ∧ Reached path source p ∧
      FaultyAt path source p cause := by
  obtain ⟨c, hc, hfault⟩ := h
  obtain ⟨hp, -⟩ := Cursor.eq_cursorAt ((Cursor.leadsTo_of_next hc).trans c.leadsTo_skip)
  generalize c.skip.index source = p at hp
  rcases hfault with hlexeme | ⟨l, c', ts, hf, hlexeme, hts⟩
  · obtain ⟨cause, hf, hfaulty⟩ := faultyAt_of_lexeme? hp hlexeme
    exact ⟨p, cause, hf, ⟨c, hc, hp⟩, hfaulty⟩
  · obtain ⟨hbrace, rfl, rfl⟩ := lexeme?_eq_opening hlexeme
    rw [hp, advance_cursorAt] at hts
    rw [hp] at hf hbrace
    exact ⟨p, .blockNotClosed, hf, ⟨c, hc, hp⟩, .block hbrace hts⟩

/-- The tokens of a source text are at indices that grow in reading order, where a block is in front
of its body, and have the locations of their indices. If the text has a fault instead, it has the
location of the index of what is wrong: the quote of a string that is not closed, the brace of the
innermost block that is not closed, or an integer that is out of range. -/
theorem readAll_places (path source : String) :
    (∀ ts, readAll path source = .ok ts →
      ∃ ps, ps.Pairwise (· < ·) ∧ List.Forall₂ (StandsAt path source) (inOrderAll ts) ps) ∧
    ∀ f, readAll path source = .error f →
      ∃ p cause, f = .inSource cause (locationAt path source p) ∧ Reached path source p ∧
        FaultyAt path source p cause := by
  constructor
  · intro ts h
    obtain ⟨c, hreads⟩ := readAll_eq_ok_iff.1 h
    have hspread : Spread path source _ _ (inOrderAll ts) := hreads.spread .refl
    obtain ⟨ps, hps, hsorted, -⟩ := hspread
    exact ⟨ps, hsorted, hps⟩
  · -- Outside of every block the only faults are ahead.
    intro f h
    rw [← readFrom_start (Nat.lt_succ_self _)] at h
    rcases hread : readFrom ((Cursor.start path source).rest.length + 1) none []
      (Cursor.start path source) with f' | p
    · rw [hread] at h
      cases h
      rcases faultAhead_of_readFrom (Nat.lt_succ_self _) hread with hahead | ⟨_, _, hopened, -⟩
      · exact exists_faultyAt hahead
      · cases hopened
    · rw [hread] at h
      cases h

/-- A text with a string over two lines in a block, and one where an outer block and a later block
inside of it are not closed. -/
theorem readAll_places_nested :
    let good := "1 # \"c\n\x7b \"a\nb\" \x7b X \x7d \x7d 5"
    let bad := "\x7b \x7b a \x7d\n \x7b b"
    let place := fun line column => Location.mk "places" line column
    let inner := block (place 3 4) [word (place 3 6) "X"]
    let outer := block (place 2 1) [literal (place 2 3) (.string "a\nb"), inner]
    (∃ ps, ps.Pairwise (· < ·) ∧ List.Forall₂ (StandsAt "places" good)
      [literal (place 1 1) (.int 1), outer, literal (place 2 3) (.string "a\nb"), inner,
        word (place 3 6) "X", literal (place 3 12) (.int 5)] ps) ∧
    ∃ p cause, Fault.inSource .blockNotClosed (place 2 2) =
        .inSource cause (locationAt "places" bad p) ∧ Reached "places" bad p ∧
      FaultyAt "places" bad p cause := by
  intro good bad place inner outer
  have hgood : readAll "places" good =
      .ok [literal (place 1 1) (.int 1), outer, literal (place 3 12) (.int 5)] := by
    dsimp only [good, place, inner, outer]
    rfl
  have hbad : readAll "places" bad = .error (.inSource .blockNotClosed (place 2 2)) := by
    dsimp only [bad, place]
    rfl
  exact ⟨(readAll_places "places" good).1 _ hgood, (readAll_places "places" bad).2 _ hbad⟩

end Token

end BlockForth
