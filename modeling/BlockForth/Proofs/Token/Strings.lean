import BlockForth.Token.Reader

/-!
# Strings in source text

A literal escapes quotes only, so a text that ends in a backslash has none: the backslash would
escape the quote that ends the literal. `readString_literal` says that the literal of every other
text reads as that text, on whichever of the two ways the reader takes, and `readString_cases` that
the reader gives no text that ends in a backslash.
-/

namespace BlockForth

/-- The text is empty or starts with a blank, so that a chunk can end before it. -/
def StartsBlank (cs : List Char) : Prop :=
  ∀ a rest, cs = a :: rest → isBlank a = true

/-- The end of the text ends a chunk. -/
theorem startsBlank_nil : StartsBlank [] := by
  intro a rest h
  cases h

/-- A blank ends a chunk. -/
theorem startsBlank_cons {a : Char} (h : isBlank a = true) (rest : List Char) :
    StartsBlank (a :: rest) := by
  intro b rest' h'
  cases h'
  exact h

/-- A run of characters that are no blanks ends before a blank. -/
theorem takeWhile_append_of_startsBlank {p : Char → Bool} {cs rest : List Char}
    (hcs : ∀ a ∈ cs, p a = true) (hp : ∀ a, isBlank a = true → p a = false)
    (hrest : StartsBlank rest) : (cs ++ rest).takeWhile p = cs := by
  rw [List.takeWhile_append_of_pos hcs]
  rcases rest with _ | ⟨a, rest⟩
  · rw [List.takeWhile_nil, List.append_nil]
  · rw [List.takeWhile_cons_of_neg, List.append_nil]
    rw [hp a (hrest a rest rfl)]
    exact Bool.false_ne_true

/-! ## Escaping -/

namespace Quoted

/-- A quote gets a backslash. -/
theorem escape_cons_quote (cs : List Char) : escape ('"' :: cs) = '\\' :: '"' :: escape cs := rfl

/-- Any other character stays as it is. -/
theorem escape_cons {c : Char} (h : c ≠ '"') (cs : List Char) :
    escape (c :: cs) = c :: escape cs := by
  rw [escape, List.flatMap_cons, if_neg h]
  rfl

/-- Texts are escaped piece by piece. -/
theorem escape_append (cs ds : List Char) : escape (cs ++ ds) = escape cs ++ escape ds :=
  List.flatMap_append

/-- An escaped text does not start with a quote. -/
theorem head?_escape_ne_quote (cs : List Char) : (escape cs).head? ≠ some '"' := by
  rcases cs with _ | ⟨c, cs⟩
  · exact nofun
  · by_cases hc : c = '"'
    · rw [hc, escape_cons_quote]
      exact fun h => absurd (Option.some.inj h) (by decide)
    · rw [escape_cons hc]
      exact fun h => hc (Option.some.inj h)

/-- A character before something other than a quote stands for itself. -/
theorem unescape_cons {c : Char} {cs : List Char} (h : c = '\\' → cs.head? ≠ some '"') :
    unescape (c :: cs) = c :: unescape cs := by
  rw [unescape]
  intro rest hc hcs
  rw [hcs] at h
  exact h hc rfl

/-- An escaped text is read back. -/
theorem unescape_escape (cs : List Char) : unescape (escape cs) = cs := by
  induction cs with
  | nil => rfl
  | cons c cs ih =>
    by_cases hc : c = '"'
    · rw [hc, escape_cons_quote, unescape, ih]
    · rw [escape_cons hc, unescape_cons fun _ => head?_escape_ne_quote cs, ih]

/-- Escaping adds no blanks. -/
theorem isBlank_of_mem_escape {cs : List Char} (h : ∀ a ∈ cs, isBlank a = false) :
    ∀ a ∈ escape cs, isBlank a = false := by
  intro a ha
  obtain ⟨c, hc, hmem⟩ := List.mem_flatMap.1 ha
  split at hmem
  · rcases List.mem_cons.1 hmem with rfl | hquote
    · rfl
    · rw [List.mem_singleton.1 hquote]
      rfl
  · rw [List.mem_singleton.1 hmem]
    exact h c hc

/-- Reading the escapes keeps the last character. -/
theorem getLast?_unescape (cs : List Char) : (unescape cs).getLast? = cs.getLast? := by
  fun_induction unescape cs with
  | case1 => rfl
  | case2 rest ih =>
    rw [List.getLast?_cons, List.getLast?_cons, List.getLast?_cons, ih]
    rfl
  | case3 c rest hescape ih => rw [List.getLast?_cons, List.getLast?_cons, ih]

end Quoted

/-! ## Whole strings -/

namespace Token

/-- A chunk is a string on its own if it stands between two quotes and no backslash stands before
the second one. -/
theorem isWholeString_iff {chunk : List Char} :
    isWholeString chunk = true ↔
      ∃ inner, chunk = '"' :: (inner ++ ['"']) ∧ inner.getLast? ≠ some '\\' := by
  constructor
  · intro h
    unfold isWholeString at h
    split at h
    · -- The chunk read forwards and read backwards share the characters in between.
      rename_i d ds c cs hreverse
      have hchunk : '"' :: d :: ds = cs.reverse ++ [c, '"'] := by
        rw [← List.reverse_inj, hreverse]
        simp
      rcases hcs : cs.reverse with _ | ⟨e, es⟩
      · rw [hcs] at hchunk
        cases hchunk
        exact ⟨[], rfl, nofun⟩
      · rw [hcs, List.cons_append, List.cons.injEq] at hchunk
        refine ⟨es ++ [c], by rw [hchunk.2, List.append_assoc]; rfl, ?_⟩
        rw [List.getLast?_concat]
        simpa using h
    · cases h
  · rintro ⟨inner, rfl, hlast⟩
    have hreverse : ('"' :: (inner ++ ['"'])).reverse = '"' :: (inner.reverse ++ ['"']) := by simp
    rcases List.eq_nil_or_concat inner with rfl | ⟨ds, c, hinner⟩
    · rfl
    · rw [List.concat_eq_append] at hinner
      subst hinner
      rw [List.getLast?_concat] at hlast
      have hc : c ≠ '\\' := fun h => hlast (congrArg some h)
      unfold isWholeString
      rw [hreverse]
      rcases ds with _ | ⟨d, ds⟩
      · simp [hc]
      · simp [hc]

/-- A quote and an escaped text behind it are no string on their own: the last quote of the text has
a backslash before it. -/
theorem isWholeString_cons_escape (cs : List Char) :
    isWholeString ('"' :: Quoted.escape cs) = false := by
  rw [Bool.eq_false_iff]
  intro h
  obtain ⟨inner, hinner, hlast⟩ := isWholeString_iff.1 h
  rw [List.cons.injEq] at hinner
  obtain ⟨-, hinner⟩ := hinner
  rcases List.eq_nil_or_concat cs with rfl | ⟨ds, c, hcs⟩
  · cases inner <;> cases hinner
  · rw [List.concat_eq_append] at hcs
    rw [hcs, Quoted.escape_append] at hinner
    by_cases hc : c = '"'
    · have hescape : Quoted.escape [c] = ['\\'] ++ ['"'] := by rw [hc]; rfl
      rw [hescape, ← List.append_assoc] at hinner
      rw [← List.append_cancel_right hinner, List.getLast?_concat] at hlast
      exact hlast rfl
    · have hescape : Quoted.escape [c] = [c] := Quoted.escape_cons hc []
      rw [hescape] at hinner
      have hend := congrArg List.getLast? hinner
      rw [List.getLast?_concat, List.getLast?_concat] at hend
      exact hc (Option.some.inj hend)

/-! ## Scanning -/

/-- A character that starts no escape and ends no string belongs to the text. -/
theorem scanString_cons {read cs : List Char} {c : Char} (l : Location)
    (hescape : c = '\\' → cs.head? ≠ some '"') (hquote : c ≠ '"') :
    scanString read (c :: cs) l = scanString (c :: read) cs (l.next c) := by
  rw [scanString, if_neg hquote]
  intro rest hc hcs
  rw [hcs] at hescape
  exact hescape hc rfl

/-- The scan goes through an escaped text up to the quote behind it. -/
theorem scanString_escape (read cs rest : List Char) (l : Location)
    (hlast : cs.getLast? ≠ some '\\') :
    scanString read (Quoted.escape cs ++ '"' :: rest) l =
      some (read.reverse ++ cs, ⟨rest, l.after (Quoted.escape cs ++ ['"'])⟩) := by
  induction cs generalizing read l with
  | nil =>
    rw [List.append_nil]
    rfl
  | cons c cs ih =>
    have hlast' : cs.getLast? ≠ some '\\' := by
      intro h
      rw [List.getLast?_cons, h] at hlast
      exact hlast rfl
    by_cases hc : c = '"'
    · rw [hc, Quoted.escape_cons_quote, List.cons_append, List.cons_append, scanString,
        ih _ _ hlast', List.reverse_cons, List.append_assoc]
      rfl
    · have hescape : c = '\\' → (Quoted.escape cs ++ '"' :: rest).head? ≠ some '"' := by
        rintro rfl
        rcases hcs : Quoted.escape cs with _ | ⟨d, ds⟩
        · -- Then the text would end in this backslash.
          have hnil : cs = [] := by rw [← Quoted.unescape_escape cs, hcs]; rfl
          rw [hnil] at hlast
          exact absurd rfl hlast
        · have hhead := Quoted.head?_escape_ne_quote cs
          rw [hcs] at hhead
          exact hhead
      rw [Quoted.escape_cons hc, List.cons_append, scanString_cons l hescape hc, ih _ _ hlast',
        List.reverse_cons, List.append_assoc]
      rfl

/-- A scan gives no text that ends in a backslash, since that would have escaped the quote at the
end. -/
theorem getLast?_scanString_ne {read cs text : List Char} {l : Location} {c : Cursor}
    (hread : read.head? = some '\\' → cs.head? ≠ some '"')
    (h : scanString read cs l = some (text, c)) : text.getLast? ≠ some '\\' := by
  fun_induction scanString read cs l with
  | case1 => cases h
  | case2 read rest l ih => exact ih (fun hquote => absurd (Option.some.inj hquote) (by decide)) h
  | case3 =>
    cases h
    rw [List.getLast?_reverse]
    exact fun hbackslash => hread hbackslash rfl
  | case4 read c rest l hescape hquote ih =>
    refine ih (fun hbackslash hhead => ?_) h
    rcases rest with _ | ⟨d, rest⟩
    · cases hhead
    · cases hhead
      exact hescape rest (Option.some.inj hbackslash) rfl

/-! ## Reading strings -/

/-- The text up to the next blank is what stands before that blank. -/
theorem rawChunk_append {cs rest : List Char} (l : Location) (hcs : ∀ a ∈ cs, isBlank a = false)
    (hrest : StartsBlank rest) : (Cursor.mk (cs ++ rest) l).rawChunk = cs :=
  takeWhile_append_of_startsBlank (fun a ha => by rw [hcs a ha]; rfl)
    (fun a ha => by rw [ha]; rfl) hrest

/-- A text with a blank is what stands before its first blank, that blank, and a rest. -/
theorem exists_eq_append_blank {cs : List Char} (h : ¬ ∀ a ∈ cs, isBlank a = false) :
    ∃ before b after, cs = before ++ b :: after ∧ (∀ a ∈ before, isBlank a = false) ∧
      isBlank b = true := by
  induction cs with
  | nil => exact absurd (fun a ha => absurd ha List.not_mem_nil) h
  | cons c cs ih =>
    by_cases hc : isBlank c = true
    · exact ⟨[], c, cs, rfl, fun a ha => absurd ha List.not_mem_nil, hc⟩
    · have hc' : isBlank c = false := Bool.eq_false_iff.2 hc
      obtain ⟨before, b, after, rfl, hbefore, hb⟩ :=
        ih fun hcs => h (List.forall_mem_cons.2 ⟨hc', hcs⟩)
      exact ⟨c :: before, b, after, rfl, List.forall_mem_cons.2 ⟨hc', hbefore⟩, hb⟩

/-- The literal of a text that does not end in a backslash reads as that text. -/
theorem readString_literal (cs rest : List Char) (l : Location) (hlast : cs.getLast? ≠ some '\\')
    (hrest : StartsBlank rest) :
    readString ⟨'"' :: (Quoted.escape cs ++ '"' :: rest), l⟩ =
      .ok (literal l (.string (String.ofList cs)),
        ⟨rest, l.after ('"' :: (Quoted.escape cs ++ ['"']))⟩) := by
  by_cases hblank : ∀ a ∈ cs, isBlank a = false
  · -- Without a blank the literal is a chunk, and that chunk is a string on its own.
    have hsplit : '"' :: (Quoted.escape cs ++ '"' :: rest) =
        '"' :: (Quoted.escape cs ++ ['"']) ++ rest := by simp
    have hchunk : (Cursor.mk ('"' :: (Quoted.escape cs ++ '"' :: rest)) l).rawChunk =
        '"' :: (Quoted.escape cs ++ ['"']) := by
      rw [hsplit]
      refine rawChunk_append l (List.forall_mem_cons.2 ⟨rfl, ?_⟩) hrest
      refine List.forall_mem_append.2 ⟨Quoted.isBlank_of_mem_escape hblank, ?_⟩
      exact List.forall_mem_singleton.2 rfl
    have hwhole : isWholeString ('"' :: (Quoted.escape cs ++ ['"'])) = true := by
      refine isWholeString_iff.2 ⟨Quoted.escape cs, rfl, ?_⟩
      rw [← Quoted.getLast?_unescape, Quoted.unescape_escape]
      exact hlast
    unfold readString
    rw [hchunk]
    dsimp only
    rw [if_pos hwhole, List.drop_one, List.tail_cons, List.dropLast_concat, Quoted.unescape_escape,
      Cursor.advance, hsplit, List.drop_left, List.take_left]
  · -- With a blank the text before it is a quote and an escaped text, so the literal is scanned.
    obtain ⟨before, b, after, hcs, hbefore, hb⟩ := exists_eq_append_blank hblank
    have hb' : b ≠ '"' := by
      rintro rfl
      exact absurd hb (by decide)
    have hsplit : '"' :: (Quoted.escape cs ++ '"' :: rest) =
        '"' :: Quoted.escape before ++ b :: (Quoted.escape after ++ '"' :: rest) := by
      rw [hcs, Quoted.escape_append, Quoted.escape_cons hb']
      simp
    have hchunk : (Cursor.mk ('"' :: (Quoted.escape cs ++ '"' :: rest)) l).rawChunk =
        '"' :: Quoted.escape before := by
      rw [hsplit]
      refine rawChunk_append l (List.forall_mem_cons.2 ⟨rfl, ?_⟩) (startsBlank_cons hb _)
      exact Quoted.isBlank_of_mem_escape hbefore
    unfold readString
    rw [hchunk]
    dsimp only
    rw [if_neg (by rw [isWholeString_cons_escape]; exact Bool.false_ne_true), Cursor.advance,
      List.drop_one, List.tail_cons]
    dsimp only
    rw [scanString_escape [] cs rest _ hlast]
    rfl

/-- A string that is read does not end in a backslash. -/
theorem readString_cases {c c' : Cursor} {t : Token} (h : readString c = .ok (t, c')) :
    ∃ s, t = literal c.location (.string s) ∧ s.toList.getLast? ≠ some '\\' := by
  unfold readString at h
  dsimp only at h
  split at h
  · rename_i hwhole
    cases h
    obtain ⟨inner, hinner, hlast⟩ := isWholeString_iff.1 hwhole
    refine ⟨_, rfl, ?_⟩
    rw [String.toList_ofList, Quoted.getLast?_unescape, hinner, List.drop_one, List.tail_cons,
      List.dropLast_concat]
    exact hlast
  · split at h
    · rename_i hscan
      cases h
      refine ⟨_, rfl, ?_⟩
      rw [String.toList_ofList]
      exact getLast?_scanString_ne (fun hread => by cases hread) hscan
    · cases h

end Token

end BlockForth
