import BlockForth.Text.CaseTable

/-!
# Lower-casing

Words are looked up by their lower-case form. Lower-casing is that of Unicode: a character may
become more than one (`İ` becomes `i` and a combining dot), and a capital sigma becomes the final
one at the end of a word, which depends on the characters around it.
-/

namespace BlockForth

/-- The lower-case form of a character on its own. -/
def lowerChar (c : Char) : List Char :=
  if c.val < 0x80 then [c.toLower]
  else if c == 'İ' then ['i', '\u0307']
  else
    match lowerSpans.find? (·.contains c.toNat) with
    | some span => [Char.ofNat (span.lower c.toNat)]
    | none => [c]

/-- Whether the first character that is not case-ignorable is cased. -/
def startsCased (cs : List Char) : Bool :=
  match cs.dropWhile isCaseIgnorable with
  | [] => false
  | c :: _ => isCased c

/-- The lower-case form of a capital sigma between `before`, nearest character first, and `after`:
the final form when a letter comes before it and none follows. -/
def lowerSigma (before after : List Char) : Char :=
  if startsCased before && !startsCased after then 'ς' else 'σ'

/-- The lower-case form of the characters that follow `before`, whose nearest character comes first.
-/
def lowerFrom (before : List Char) : List Char → List Char
  | [] => []
  | c :: rest =>
    (if c = 'Σ' then [lowerSigma before rest] else lowerChar c) ++ lowerFrom (c :: before) rest

/-- Whether the character is an ASCII character other than a capital letter. -/
def isPlain (c : Char) : Bool :=
  c.val < 0x80 && !c.isUpper

/-- The lower-case form of a text. Most words are in lower case already. -/
def lowercase (s : String) : String :=
  let cs := s.toList
  if cs.all isPlain then s else String.ofList (lowerFrom [] cs)

/-- Such a character is its own lower-case form. -/
theorem lowerChar_of_isPlain {c : Char} (h : isPlain c = true) : lowerChar c = [c] := by
  simp only [isPlain, Bool.and_eq_true, decide_eq_true_eq, Bool.not_eq_true'] at h
  have hc : c.toLower = c := dif_neg (of_decide_eq_false h.2)
  simp [lowerChar, h.1, hc]

/-- A text of such characters is its own lower-case form. -/
theorem lowerFrom_of_isPlain (before cs : List Char) (h : cs.all isPlain = true) :
    lowerFrom before cs = cs := by
  induction cs generalizing before with
  | nil => rfl
  | cons c rest ih =>
    rw [List.all_cons, Bool.and_eq_true] at h
    have hc : c ≠ 'Σ' := by
      rintro rfl
      exact absurd h.1 (by decide)
    simp [lowerFrom, hc, lowerChar_of_isPlain h.1, ih _ h.2]

/-- Lower-casing has one rule for every text. -/
theorem lowercase_eq (s : String) : lowercase s = String.ofList (lowerFrom [] s.toList) := by
  by_cases h : s.toList.all isPlain = true
  · simp only [lowercase, h, if_true, lowerFrom_of_isPlain _ _ h, String.ofList_toList]
  · simp only [lowercase, h]
    rfl

end BlockForth
