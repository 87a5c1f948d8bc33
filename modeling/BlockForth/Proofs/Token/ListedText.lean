import BlockForth.Proofs.Token.RoundTrip

/-!
# Listed texts as source text

The listing form of a text looks like its literal, but a listing escapes more than the reader knows
of. Reading it takes the backslashes before quotes away and keeps all others, so that the listing
form is the literal of another text (`Quoted.listing_eq_literal`). `readAll_listing_iff` says when
that text is the listed one: when nothing but quotes was escaped.
-/

namespace BlockForth

namespace Quoted

/-- Whether a listing escapes the character in a way that the reader does not know. -/
def isForeign (c : Char) : Bool :=
  c == '\\' || c == '\n' || c == '\r' || c == '\t'

/-- A listed character as the reader takes it, which knows the escape of a quote only. -/
def asReadChar (c : Char) : List Char :=
  if isForeign c then listingChar c else [c]

/-- A listed text as the reader takes it. -/
def asRead (cs : List Char) : List Char :=
  cs.flatMap asReadChar

/-- The characters that a listing writes in a way that is not read back. -/
theorem isForeign_iff {c : Char} :
    isForeign c = true ↔ c = '\\' ∨ c = '\n' ∨ c = '\r' ∨ c = '\t' := by
  simp [isForeign, or_assoc]

/-- Any other character is read back as itself. -/
theorem asReadChar_of_not_isForeign {c : Char} (h : isForeign c = false) : asReadChar c = [c] :=
  if_neg (Bool.eq_false_iff.1 h)

/-- Such a character becomes a backslash and a letter, and the letter is a backslash for a backslash
only. -/
theorem asReadChar_of_isForeign {c : Char} (h : isForeign c = true) :
    ∃ d, asReadChar c = ['\\', d] ∧ (d = '\\' → c = '\\') := by
  obtain rfl | rfl | rfl | rfl := isForeign_iff.1 h
  all_goals exact ⟨_, rfl, by decide⟩

/-- A character is listed as the string literal of what it is read back as. -/
theorem escape_asReadChar (c : Char) : escape (asReadChar c) = listingChar c := by
  rcases hforeign : isForeign c
  · rw [asReadChar_of_not_isForeign hforeign]
    unfold listingChar
    split
    case h_1 => rfl
    case h_6 hquote _ _ _ _ => exact escape_cons hquote []
    all_goals cases hforeign
  · obtain rfl | rfl | rfl | rfl := isForeign_iff.1 hforeign
    all_goals rfl

/-- The listing form of a text is the literal of the text that the reader takes it for. -/
theorem listing_eq_literal (text : String) :
    listing text = literal (String.ofList (asRead text.toList)) := by
  have hescape : escape (asRead text.toList) = text.toList.flatMap listingChar := by
    calc escape (asRead text.toList)
        = text.toList.flatMap fun c => escape (asReadChar c) := List.flatMap_assoc
      _ = text.toList.flatMap listingChar := by simp only [escape_asReadChar]
  rw [listing, literal, String.toList_ofList, hescape]

/-- A text that is read back with a backslash at its end has one at its own end. -/
theorem getLast?_of_asRead {cs : List Char} (h : (asRead cs).getLast? = some '\\') :
    cs.getLast? = some '\\' := by
  rcases List.eq_nil_or_concat cs with rfl | ⟨front, c, rfl⟩
  · cases h
  · rw [List.concat_eq_append, asRead, List.flatMap_append, List.flatMap_singleton] at h
    rw [List.concat_eq_append, List.getLast?_concat]
    rcases hforeign : isForeign c
    · rw [asReadChar_of_not_isForeign hforeign, List.getLast?_concat] at h
      exact h
    · obtain ⟨d, hd, hletter⟩ := asReadChar_of_isForeign hforeign
      rw [hd, List.append_cons, List.getLast?_concat] at h
      rw [hletter (Option.some.inj h)]

/-- No character is lost when a listing is read back. -/
theorem length_le_length_asRead (cs : List Char) : cs.length ≤ (asRead cs).length := by
  induction cs with
  | nil => exact Nat.le_refl 0
  | cons c cs ih =>
    rw [asRead, List.flatMap_cons, ← asRead, List.length_append, List.length_cons]
    rcases hforeign : isForeign c
    · rw [asReadChar_of_not_isForeign hforeign, List.length_singleton]
      omega
    · obtain ⟨d, hd, -⟩ := asReadChar_of_isForeign hforeign
      rw [hd, List.length_cons]
      omega

/-- The reader takes a listed text for the text itself exactly if it knows every escape. -/
theorem asRead_eq_self_iff {cs : List Char} :
    asRead cs = cs ↔ ∀ c ∈ cs, isForeign c = false := by
  induction cs with
  | nil => simp [asRead]
  | cons c cs ih =>
    rw [asRead, List.flatMap_cons, ← asRead, List.forall_mem_cons, ← ih]
    rcases hforeign : isForeign c
    · rw [asReadChar_of_not_isForeign hforeign]
      simp
    · -- The text that is read is longer by a letter at least.
      obtain ⟨d, hd, -⟩ := asReadChar_of_isForeign hforeign
      refine iff_of_false (fun heq => ?_) fun h => absurd h.1 (by decide)
      have hlength := congrArg List.length heq
      have hle := length_le_length_asRead cs
      rw [hd] at hlength
      simp only [List.length_append, List.length_cons, List.length_nil] at hlength
      omega

/-- A text without foreign characters, spelled out. -/
theorem forall_not_isForeign_iff {cs : List Char} :
    (∀ c ∈ cs, isForeign c = false) ↔ '\\' ∉ cs ∧ '\n' ∉ cs ∧ '\r' ∉ cs ∧ '\t' ∉ cs := by
  simp only [Bool.eq_false_iff, ne_eq, isForeign_iff, not_or]
  constructor
  · intro h
    exact ⟨fun hc => (h _ hc).1 rfl, fun hc => (h _ hc).2.1 rfl, fun hc => (h _ hc).2.2.1 rfl,
      fun hc => (h _ hc).2.2.2 rfl⟩
  · rintro ⟨hbackslash, hnewline, hreturn, htab⟩ c hc
    refine ⟨?_, ?_, ?_, ?_⟩ <;> rintro rfl
    · exact hbackslash hc
    · exact hnewline hc
    · exact hreturn hc
    · exact htab hc

end Quoted

namespace Token

/-- A literal on its own reads as one string. -/
theorem readAll_literal (path : String) {s : String} (hlast : s.toList.getLast? ≠ some '\\') :
    readAll path (Quoted.literal s) = .ok [literal (.start path) (.string s)] := by
  have hlexeme := lexeme?_literal s (.start path) hlast startsBlank_nil
  rw [List.append_nil] at hlexeme
  exact readAll_eq_ok_iff.2 ⟨_, .token hlexeme (.finish rfl)⟩

/-- A string that is read does not end in a backslash. -/
theorem getLast?_of_readAll {path source s : String} {l : Location}
    (h : readAll path source = .ok [literal l (.string s)]) : s.toList.getLast? ≠ some '\\' := by
  obtain ⟨c, hreads⟩ := readAll_eq_ok_iff.1 h
  exact hreads.written _ List.mem_cons_self

/-- The listing form of a text is source text for that text exactly if the text has no backslash, no
line end, and no tab. -/
theorem readAll_listing_iff (path text : String) :
    (∃ l, readAll path (Quoted.listing text) = .ok [literal l (.string text)]) ↔
      '\\' ∉ text.toList ∧ '\n' ∉ text.toList ∧ '\r' ∉ text.toList ∧ '\t' ∉ text.toList := by
  rw [← Quoted.forall_not_isForeign_iff, ← Quoted.asRead_eq_self_iff, Quoted.listing_eq_literal]
  constructor
  · rintro ⟨l, h⟩
    have hlast : (Quoted.asRead text.toList).getLast? ≠ some '\\' :=
      fun hlast => getLast?_of_readAll h (Quoted.getLast?_of_asRead hlast)
    rw [readAll_literal path (by rwa [String.toList_ofList]), Except.ok.injEq, List.cons.injEq,
      literal.injEq, Value.string.injEq] at h
    rw [← String.toList_ofList (l := Quoted.asRead text.toList), h.1.2]
  · intro hself
    have hlast : text.toList.getLast? ≠ some '\\' := by
      intro hlast
      have hforeign := Quoted.asRead_eq_self_iff.1 hself _ (List.mem_of_getLast? hlast)
      exact absurd hforeign (by decide)
    rw [hself, String.ofList_toList]
    exact ⟨_, readAll_literal path hlast⟩

end Token

end BlockForth
