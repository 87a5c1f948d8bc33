import BlockForth.Value.Arithmetic
import Mathlib.Data.List.Infix
import Mathlib.Data.Nat.Find

/-!
# Deleted occurrences

Subtracting from a text deletes the occurrences of a pattern. Which ones these are has to be said
where occurrences overlap, or where a deletion brings the parts of a new one together.

`LeftmostPieces` says what is left of the text. If the pattern does not occur, the text is the only
piece. Otherwise the first piece ends where the pattern occurs first, and the other pieces are those
of the text behind that occurrence. Every text has such pieces (`exists_leftmostPieces`), and no
others (`LeftmostPieces.unique`). The loop of `deleteFrom` keeps just them
(`deleteFrom_of_leftmostPieces`), since what it has kept is not looked at again.
-/

namespace BlockForth

/-- The pattern occurs at this index of the text, and at none before it. -/
structure FirstAt (pattern text : List Char) (i : ℕ) : Prop where
  occurs : pattern <+: text.drop i
  not_before : ∀ j < i, ¬ pattern <+: text.drop j

/-- The pieces are what the leftmost occurrences of the pattern that do not overlap leave of the
text. -/
inductive LeftmostPieces (pattern : List Char) : (text : List Char) → List (List Char) → Prop where
  | last {s : List Char} (hs : ¬ pattern <:+: s) : LeftmostPieces pattern s [s]
  | cons {s text : List Char} {pieces : List (List Char)}
    (hfirst : FirstAt pattern (s ++ pattern ++ text) s.length)
    (hrest : LeftmostPieces pattern text pieces) :
    LeftmostPieces pattern (s ++ pattern ++ text) (s :: pieces)

variable {pattern text : List Char} {pieces : List (List Char)}

/-! ## First occurrences -/

/-- A pattern occurs in a text if it starts some end of it. -/
theorem infix_iff_exists_prefix_drop : pattern <:+: text ↔ ∃ i, pattern <+: text.drop i := by
  rw [List.infix_iff_prefix_suffix]
  constructor
  · rintro ⟨t, hpattern, hsuffix⟩
    exact ⟨text.length - t.length, List.suffix_iff_eq_drop.1 hsuffix ▸ hpattern⟩
  · rintro ⟨i, hpattern⟩
    exact ⟨text.drop i, hpattern, List.drop_suffix i text⟩

/-- A pattern that occurs has a first occurrence. -/
theorem exists_firstAt (h : pattern <:+: text) : ∃ i, FirstAt pattern text i := by
  have hex := infix_iff_exists_prefix_drop.1 h
  classical
  exact ⟨Nat.find hex, Nat.find_spec hex, fun j hj => Nat.find_min hex hj⟩

/-- A pattern has one first occurrence. -/
theorem FirstAt.unique {i j : ℕ} (hi : FirstAt pattern text i) (hj : FirstAt pattern text j) :
    i = j := by
  rcases Nat.lt_trichotomy i j with hlt | heq | hlt
  · exact absurd hi.occurs (hj.not_before i hlt)
  · exact heq
  · exact absurd hj.occurs (hi.not_before j hlt)

/-- The text before and behind the first occurrence. -/
theorem FirstAt.exists_eq_append {i : ℕ} (h : FirstAt pattern text i) (hpattern : pattern ≠ []) :
    ∃ s rest, text = s ++ pattern ++ rest ∧ s.length = i := by
  obtain ⟨rest, hrest⟩ := h.occurs
  have hi : i < text.length := by
    by_contra hge
    rw [List.drop_eq_nil_of_le (Nat.le_of_not_lt hge), List.append_eq_nil_iff] at hrest
    exact hpattern hrest.1
  refine ⟨text.take i, rest, ?_, List.length_take_of_le hi.le⟩
  rw [List.append_assoc, hrest, List.take_append_drop]

/-! ## The pieces of a text -/

namespace LeftmostPieces

/-- The pieces with the pattern between them are the text. -/
theorem intercalate_eq (h : LeftmostPieces pattern text pieces) :
    pattern.intercalate pieces = text := by
  induction h with
  | last hs => rw [List.intercalate_singleton]
  | @cons s text pieces hfirst hrest ih =>
    rcases pieces with _ | ⟨s', pieces⟩
    · cases hrest
    · rw [List.intercalate_cons_cons, ih]

/-- There is one piece more than there are occurrences deleted. -/
theorem length_eq (h : LeftmostPieces pattern text pieces) :
    text.length + pattern.length = pieces.flatten.length + pieces.length * pattern.length := by
  induction h with
  | last hs => simp
  | cons hfirst hrest ih =>
    simp only [List.length_append, List.flatten_cons, List.length_cons, Nat.succ_mul]
    omega

/-- There is at least one piece. -/
theorem length_pos (h : LeftmostPieces pattern text pieces) : 0 < pieces.length := by
  cases h with
  | last hs => exact Nat.one_pos
  | cons hfirst hrest => exact Nat.succ_pos _

/-- The pieces together are not longer than the text. -/
theorem length_flatten_le (h : LeftmostPieces pattern text pieces) :
    pieces.flatten.length ≤ text.length := by
  have hlength := h.length_eq
  have hone := Nat.le_mul_of_pos_left pattern.length h.length_pos
  omega

/-- Nothing is deleted exactly if the pattern does not occur. -/
theorem flatten_eq_iff (h : LeftmostPieces pattern text pieces) (hpattern : pattern ≠ []) :
    pieces.flatten = text ↔ ¬ pattern <:+: text := by
  cases h with
  | last hs => simpa using hs
  | cons hfirst hrest =>
    refine iff_of_false (fun heq => ?_) (not_not_intro (List.infix_append _ _ _))
    have hlength := congrArg List.length heq
    have hle := hrest.length_flatten_le
    have hpos := List.length_pos_iff.2 hpattern
    simp only [List.flatten_cons, List.length_append] at hlength
    omega

/-- The text alone determines its pieces. -/
theorem unique {pieces' : List (List Char)} (h : LeftmostPieces pattern text pieces)
    (h' : LeftmostPieces pattern text pieces') : pieces' = pieces := by
  induction h generalizing pieces' with
  | last hs =>
    cases h' with
    | last _ => rfl
    | cons hfirst hrest => exact absurd (List.infix_append _ _ _) hs
  | @cons s text pieces hfirst hrest ih =>
    generalize hwhole : s ++ pattern ++ text = whole at h' hfirst
    cases h' with
    | last hs => exact absurd (hwhole ▸ List.infix_append _ _ _) hs
    | @cons s' text' pieces' hfirst' hrest' =>
      rw [List.append_assoc, List.append_assoc] at hwhole
      obtain ⟨rfl, hbehind⟩ := List.append_inj hwhole (hfirst.unique hfirst')
      rw [List.append_cancel_left hbehind] at ih
      rw [ih hrest']

end LeftmostPieces

/-- Every text falls into pieces at the leftmost occurrences of the pattern. -/
theorem exists_leftmostPieces (hpattern : pattern ≠ []) (text : List Char) :
    ∃ pieces, LeftmostPieces pattern text pieces := by
  -- What stands behind an occurrence is shorter than the text.
  induction hlength : text.length using Nat.strong_induction_on generalizing text with
  | h n ih =>
    by_cases hoccurs : pattern <:+: text
    · obtain ⟨i, hi⟩ := exists_firstAt hoccurs
      obtain ⟨s, rest, rfl, rfl⟩ := hi.exists_eq_append hpattern
      have hshorter : rest.length < n := by
        have hpos := List.length_pos_iff.2 hpattern
        simp only [List.length_append] at hlength
        omega
      obtain ⟨pieces, hpieces⟩ := ih rest.length hshorter rest rfl
      exact ⟨s :: pieces, .cons hi hpieces⟩
    · exact ⟨[text], .last hoccurs⟩

/-! ## The loop -/

/-- The characters of an occurrence are passed over. -/
theorem deleteFrom_skip (skip : ℕ) (kept text : List Char) :
    deleteFrom pattern skip kept text = deleteFrom pattern 0 kept (text.drop skip) := by
  induction text generalizing skip with
  | nil => rw [List.drop_nil, deleteFrom, deleteFrom]
  | cons c rest ih =>
    cases skip with
    | zero => rw [List.drop_zero]
    | succ skip => rw [deleteFrom, List.drop_succ_cons, ih]

/-- An occurrence at the start is dropped, and the deletion goes on behind it. -/
theorem deleteFrom_pattern (hpattern : pattern ≠ []) (kept text : List Char) :
    deleteFrom pattern 0 kept (pattern ++ text) = deleteFrom pattern 0 kept text := by
  obtain ⟨c, rest, rfl⟩ := List.exists_cons_of_ne_nil hpattern
  have hoccurs : (c :: rest).isPrefixOf (c :: (rest ++ text)) = true :=
    List.isPrefixOf_iff_prefix.2 (List.prefix_append (c :: rest) text)
  rw [List.cons_append, deleteFrom, if_pos hoccurs, deleteFrom_skip, List.length_cons,
    Nat.add_sub_cancel, List.drop_left]

/-- What stands before the first occurrence is kept. -/
theorem deleteFrom_append {s : List Char} (kept text : List Char)
    (h : ∀ j < s.length, ¬ pattern <+: (s ++ text).drop j) :
    deleteFrom pattern 0 kept (s ++ text) = deleteFrom pattern 0 (s.reverse ++ kept) text := by
  induction s generalizing kept with
  | nil => rfl
  | cons c s ih =>
    have hnot : ¬ pattern.isPrefixOf (c :: (s ++ text)) = true :=
      fun hprefix => h 0 (Nat.succ_pos _) (List.isPrefixOf_iff_prefix.1 hprefix)
    have hrest : ∀ j < s.length, ¬ pattern <+: (s ++ text).drop j :=
      fun j hj => h (j + 1) (Nat.succ_lt_succ hj)
    rw [List.cons_append, deleteFrom, if_neg hnot, ih _ hrest, List.reverse_cons, List.append_assoc]
    rfl

/-- The loop keeps the pieces behind what it has kept. -/
theorem deleteFrom_of_leftmostPieces (hpattern : pattern ≠ []) (kept : List Char)
    (h : LeftmostPieces pattern text pieces) :
    deleteFrom pattern 0 kept text = kept.reverse ++ pieces.flatten := by
  induction h generalizing kept with
  | @last s hs =>
    have hnot : ∀ j < s.length, ¬ pattern <+: (s ++ []).drop j := by
      intro j _ hoccurs
      rw [List.append_nil] at hoccurs
      exact hs (infix_iff_exists_prefix_drop.2 ⟨j, hoccurs⟩)
    have hloop := deleteFrom_append kept [] hnot
    rw [List.append_nil] at hloop
    rw [hloop, deleteFrom]
    simp
  | cons hfirst hrest ih =>
    have hnot := hfirst.not_before
    rw [List.append_assoc] at hnot ⊢
    rw [deleteFrom_append kept _ hnot, deleteFrom_pattern hpattern, ih]
    simp

/-- What is left of a text are its pieces. -/
theorem deleteAll_of_leftmostPieces {pattern text : String} (hpattern : pattern ≠ "")
    (h : LeftmostPieces pattern.toList text.toList pieces) :
    deleteAll pattern text = String.ofList pieces.flatten := by
  have hne : pattern.toList ≠ [] := by simpa using hpattern
  rw [deleteAll, if_neg (by simpa using hpattern), deleteFrom_of_leftmostPieces hne [] h]
  rfl

/-! ## Subtracting from a text -/

namespace Value

/-- A text less another value is the text without the leftmost occurrences of that value's text
that do not overlap. All else stays, also an occurrence that a deletion has brought about. -/
theorem subtract_deletes_leftmost (t : String) (b : Value) :
    (b.text ≠ "" → ∃ pieces,
      LeftmostPieces b.text.toList t.toList pieces ∧
      (∀ pieces', LeftmostPieces b.text.toList t.toList pieces' → pieces' = pieces) ∧
      b.text.toList.intercalate pieces = t.toList ∧
      (string t).subtract b = .ok (string (String.ofList pieces.flatten)) ∧
      pieces.flatten.length + (pieces.length - 1) * b.text.length = t.length ∧
      (String.ofList pieces.flatten = t ↔ ¬ b.text.toList <:+: t.toList)) ∧
    (b.text = "" → (string t).subtract b = .ok (string t)) := by
  constructor
  · intro hpattern
    have hne : b.text.toList ≠ [] := by simpa using hpattern
    obtain ⟨pieces, h⟩ := exists_leftmostPieces hne t.toList
    refine ⟨pieces, h, fun _ h' => h.unique h', h.intercalate_eq, ?_, ?_, ?_⟩
    · rw [subtract, deleteAll_of_leftmostPieces hpattern h]
    · have hlength := h.length_eq
      have hcount : pieces.length = pieces.length - 1 + 1 := (Nat.sub_add_cancel h.length_pos).symm
      rw [hcount, Nat.succ_mul, String.length_toList, String.length_toList] at hlength
      omega
    · rw [← h.flatten_eq_iff hne, ← String.toList_inj, String.toList_ofList]
  · intro hpattern
    rw [subtract, hpattern, deleteAll]
    rfl

/-- The second of two occurrences that overlap stays, and so does one that the deletion of the first
has brought about. -/
theorem subtract_deletes_leftmost_overlapping :
    (int 121).text ≠ "" ∧
      (string "a1121211b").subtract (int 121) = .ok (string "a1211b") ∧
      "121".toList <:+: "a1211b".toList ∧
      (string "a1").subtract (string "") = .ok (string "a1") := by
  have htext : (int 121).text = "121" := by decide
  have hpattern : (int 121).text ≠ "" := by decide
  obtain ⟨pieces, -, hunique, -, hsubtract, -⟩ :=
    (subtract_deletes_leftmost "a1121211b" (int 121)).1 hpattern
  have hpieces : LeftmostPieces "121".toList "a1121211b".toList ["a1".toList, "211b".toList] := by
    have hfirst : FirstAt "121".toList ("a1".toList ++ "121".toList ++ "211b".toList) 2 :=
      ⟨by decide, by decide⟩
    exact .cons hfirst (.last (by decide))
  rw [← hunique _ (htext ▸ hpieces)] at hsubtract
  exact ⟨hpattern, hsubtract, by decide, (subtract_deletes_leftmost "a1" (string "")).2 rfl⟩

end Value

end BlockForth
