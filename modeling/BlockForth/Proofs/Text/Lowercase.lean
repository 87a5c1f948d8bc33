import BlockForth.Text.Lowercase

/-!
# Lower-casing twice

A word is looked up by its lower-case form, and the dictionary takes the lower-case form of the name
that it is given once more. `lowercase_lowercase` says that this makes no difference, so that both
agree on what a user word is.

The reason lies in the table of the characters that have a lower-case form. The forms of the
characters of a span are apart from every span of the table (`CaseSpan.apart`), so that they are
their own lower-case forms. The context in which a capital sigma stands is of no matter the second
time, since there is none left.

The table also tells that a sign, which is an ASCII character other than a letter, comes from no
other character. So the words `:` and `;` have one spelling each (`lowercase_eq_sign_iff`).
-/

namespace BlockForth

/-- The character is in lower case: it stands for itself in every context. -/
def IsLower (c : Char) : Prop :=
  c ≠ 'Σ' ∧ lowerChar c = [c]

/-- Characters in lower case are left as they are, whatever comes before them. -/
theorem lowerFrom_of_isLower (before : List Char) {cs : List Char} (h : ∀ c ∈ cs, IsLower c) :
    lowerFrom before cs = cs := by
  induction cs generalizing before with
  | nil => rfl
  | cons c rest ih =>
    rw [List.forall_mem_cons] at h
    obtain ⟨⟨hsigma, hchar⟩, hrest⟩ := h
    rw [lowerFrom, if_neg hsigma, hchar, ih (c :: before) hrest, List.singleton_append]

/-! ## The table -/

namespace CaseSpan

/-- No lower-case form of a character of `s` is in `t`: all of them come before it or after it, or
they lie in between its characters. -/
def apart (s t : CaseSpan) : Bool :=
  Nat.blt (s.lower s.last) t.first || Nat.blt t.last (s.lower s.first) ||
    ((s.step == 2 || s.first == s.last) && t.step == 2 && (s.lower s.first + t.first) % 2 == 1)

/-- The lower-case forms of a span are between those of its ends. -/
theorem lower_mem_of_contains {s : CaseSpan} {n : Nat} (h : s.contains n = true) :
    s.lower s.first ≤ s.lower n ∧ s.lower n ≤ s.lower s.last := by
  simp only [contains, Bool.and_eq_true, decide_eq_true_eq] at h
  unfold lower
  omega

/-- The lower-case form of a character of one span is not in a span apart from it. -/
theorem contains_lower_of_apart {s t : CaseSpan} {n : Nat} (hapart : s.apart t = true)
    (hdown : s.down ≤ s.first + s.up) (h : s.contains n = true) :
    t.contains (s.lower n) = false := by
  obtain ⟨hlow, hhigh⟩ := lower_mem_of_contains h
  rw [Bool.eq_false_iff]
  intro hcontains
  simp only [contains, Bool.and_eq_true, decide_eq_true_eq, beq_iff_eq] at h hcontains
  obtain ⟨⟨hfirst, hlast⟩, hstep⟩ := h
  obtain ⟨⟨hfirst', hlast'⟩, hstep'⟩ := hcontains
  simp only [apart, Bool.or_eq_true, Bool.and_eq_true, Nat.blt_eq, beq_iff_eq] at hapart
  rcases hapart with (hbefore | hafter) | ⟨⟨hspan, htwo⟩, hodd⟩
  · omega
  · omega
  · -- The forms have the parity of the first one, and the characters of `t` have the other.
    have hparity : (n - s.first) % 2 = 0 := by
      rcases hspan with hs | hs
      · rw [hs] at hstep
        exact hstep
      · omega
    rw [htwo] at hstep'
    unfold lower at *
    omega

end CaseSpan

/-- The span of `İ`, the one character with two lower-case characters. -/
def dottedSpan : CaseSpan := ⟨0x130, 0x130, 1, 0, 0⟩

/-- The lower-case forms of the span are small ASCII letters, or else they are beyond ASCII and
apart from all characters with a lower-case form. -/
def CaseSpan.isSettled (s : CaseSpan) : Bool :=
  Nat.ble s.down (s.first + s.up) &&
    (Nat.ble 0x61 (s.lower s.first) && Nat.blt (s.lower s.last) 0x80 ||
      Nat.ble 0x80 (s.lower s.first) && (dottedSpan :: lowerSpans).all s.apart)

/-- Every span of the table is settled. -/
theorem lowerSpans_isSettled : lowerSpans.all CaseSpan.isSettled = true := by
  decide +kernel

/-! ## Characters -/

/-- A plain character is its own lower-case form. -/
theorem isLower_of_isPlain {c : Char} (h : isPlain c = true) : IsLower c := by
  refine ⟨?_, lowerChar_of_isPlain h⟩
  rintro rfl
  exact absurd h (by decide)

/-- The plain characters are those of ASCII without the capital letters. -/
theorem isPlain_iff {c : Char} :
    isPlain c = true ↔ c.toNat < 0x80 ∧ ¬ (0x41 ≤ c.toNat ∧ c.toNat ≤ 0x5A) := by
  have hascii : decide (c.val < 0x80) = true ↔ c.toNat < 0x80 := by
    rw [decide_eq_true_eq, UInt32.lt_iff_toNat_lt]
    rfl
  have hupper : c.isUpper = true ↔ 0x41 ≤ c.toNat ∧ c.toNat ≤ 0x5A := by
    show decide ('A'.val ≤ c.val ∧ c.val ≤ 'Z'.val) = true ↔ _
    rw [decide_eq_true_eq]
    rfl
  rw [isPlain, Bool.and_eq_true, Bool.not_eq_true', ← Bool.not_eq_true, hascii, hupper]

/-- The small letter of a capital ASCII letter. -/
theorem toNat_toLower {c : Char} (h : 0x41 ≤ c.toNat ∧ c.toNat ≤ 0x5A) :
    c.toLower.toNat = c.toNat + 0x20 := by
  have hlow : 'A'.val ≤ c.val := h.1
  have hhigh : c.val ≤ 'Z'.val := h.2
  have hcode : (c.val + ('a'.val - 'A'.val)).toNat = c.val.toNat + 0x20 := by
    rw [UInt32.toNat_add]
    show (c.val.toNat + 0x20) % 2 ^ 32 = _
    have hsmall : c.val.toNat ≤ 0x5A := h.2
    omega
  have hlower : c.toLower.val = c.val + ('a'.val - 'A'.val) :=
    congrArg Char.val (dif_pos ⟨hlow, hhigh⟩)
  show c.toLower.val.toNat = _
  rw [hlower]
  exact hcode

/-- An ASCII character in lower case is no capital letter. -/
theorem isPlain_toLower {c : Char} (h : c.toNat < 0x80) : isPlain c.toLower = true := by
  by_cases hupper : 0x41 ≤ c.toNat ∧ c.toNat ≤ 0x5A
  · rw [isPlain_iff, toNat_toLower hupper]
    omega
  · have hplain : isPlain c = true := isPlain_iff.2 ⟨h, hupper⟩
    have hsame : c.toLower = c := dif_neg hupper
    rw [hsame]
    exact hplain

/-- A character beyond ASCII that no span has is in lower case. -/
theorem isLower_of_contains {c : Char} (hascii : 0x80 ≤ c.toNat)
    (h : ∀ t ∈ dottedSpan :: lowerSpans, t.contains c.toNat = false) : IsLower c := by
  rw [List.forall_mem_cons] at h
  -- The capital sigma has a lower-case form on its own as well, so that a span has it.
  have hsigma : c ≠ 'Σ' := by
    rintro rfl
    have hspan : lowerSpans.any (·.contains 'Σ'.toNat) = true := by decide +kernel
    obtain ⟨t, ht, hcontains⟩ := List.any_eq_true.1 hspan
    exact Bool.false_ne_true ((h.2 t ht).symm.trans hcontains)
  have hdotted : c ≠ 'İ' := by
    rintro rfl
    exact absurd h.1 (by decide)
  have hval : ¬ c.val < 0x80 := by
    have hnat : c.val.toNat = c.toNat := rfl
    rw [UInt32.lt_iff_toNat_lt, hnat]
    exact Nat.not_lt.2 hascii
  have hfind : lowerSpans.find? (·.contains c.toNat) = none := by
    rw [List.find?_eq_none]
    intro t ht
    rw [h.2 t ht]
    exact Bool.false_ne_true
  refine ⟨hsigma, ?_⟩
  rw [lowerChar, if_neg hval, if_neg (by simpa using hdotted), hfind]

/-- The lower-case forms of the characters of a span are in lower case. -/
theorem isLower_ofNat_lower {s : CaseSpan} (hs : s ∈ lowerSpans) {n : Nat}
    (h : s.contains n = true) : IsLower (Char.ofNat (s.lower n)) := by
  have hsettled := List.all_eq_true.1 lowerSpans_isSettled s hs
  simp only [CaseSpan.isSettled, Bool.and_eq_true, Bool.or_eq_true, Nat.ble_eq, Nat.blt_eq,
    List.all_eq_true] at hsettled
  obtain ⟨hdown, hforms⟩ := hsettled
  obtain ⟨hlow, hhigh⟩ := CaseSpan.lower_mem_of_contains h
  by_cases hvalid : (s.lower n).isValidChar
  · have hcode : (Char.ofNat (s.lower n)).toNat = s.lower n := by
      rw [Char.ofNat, dif_pos hvalid]
      rfl
    rcases hforms with ⟨hsmall, hascii⟩ | ⟨hascii, hapart⟩
    · exact isLower_of_isPlain (isPlain_iff.2 (by omega))
    · refine isLower_of_contains (by omega) fun t ht => ?_
      rw [hcode]
      exact CaseSpan.contains_lower_of_apart (hapart t ht) hdown h
  · -- There is no character with this code, and the code zero is taken in its place.
    have hzero : Char.ofNat (s.lower n) = '\x00' := dif_neg hvalid
    rw [hzero]
    exact isLower_of_isPlain (by decide)

/-- Lower-casing a character gives characters in lower case. -/
theorem isLower_of_mem_lowerChar {a c : Char} (h : a ∈ lowerChar c) : IsLower a := by
  unfold lowerChar at h
  split at h
  · -- A character of ASCII.
    rename_i hascii
    rw [List.mem_singleton.1 h]
    exact isLower_of_isPlain (isPlain_toLower (UInt32.lt_iff_toNat_lt.1 hascii))
  · rename_i hascii
    have hbeyond : 0x80 ≤ c.toNat := Nat.not_lt.1 fun hlt => hascii (UInt32.lt_iff_toNat_lt.2 hlt)
    split at h
    · -- The capital `i` with a dot, which has a lower-case form of two characters.
      have hmem : a = 'i' ∨ a = '\u0307' := by simpa using h
      rcases hmem with rfl | rfl
      · exact isLower_of_isPlain (by decide)
      · refine ⟨by decide, by decide +kernel⟩
    · rename_i hdotted
      split at h
      · rename_i s hs
        rw [List.mem_singleton.1 h]
        have hcontains := List.find?_some hs
        exact isLower_ofNat_lower (List.mem_of_find?_eq_some hs) hcontains
      · -- A character that no span of the table has, nor is it the one with a dot.
        rename_i hnone
        rw [List.mem_singleton.1 h]
        refine isLower_of_contains hbeyond (List.forall_mem_cons.2 ⟨?_, fun t ht => ?_⟩)
        · have hne : c.toNat ≠ 0x130 := by
            intro hcode
            refine hdotted ?_
            rw [← Char.ofNat_toNat c, hcode]
            rfl
          rw [Bool.eq_false_iff]
          intro hcontains
          obtain ⟨hlow, hhigh⟩ := CaseSpan.lower_mem_of_contains hcontains
          exact hne (Nat.le_antisymm hhigh hlow)
        · exact Bool.eq_false_iff.2 (List.find?_eq_none.1 hnone t ht)

/-- Either form of the small sigma is in lower case. -/
theorem isLower_lowerSigma (before after : List Char) : IsLower (lowerSigma before after) := by
  unfold lowerSigma
  split
  · exact ⟨by decide, by decide +kernel⟩
  · exact ⟨by decide, by decide +kernel⟩

/-! ## Texts -/

/-- Lower-casing a text leaves lower-case characters only. -/
theorem isLower_of_mem_lowerFrom {before cs : List Char} {a : Char} (h : a ∈ lowerFrom before cs) :
    IsLower a := by
  induction cs generalizing before with
  | nil => exact absurd h List.not_mem_nil
  | cons c rest ih =>
    rw [lowerFrom, List.mem_append] at h
    rcases h with hfirst | hrest
    · split at hfirst
      · rw [List.mem_singleton.1 hfirst]
        exact isLower_lowerSigma before rest
      · exact isLower_of_mem_lowerChar hfirst
    · exact ih hrest

/-- Lower-casing a text twice is lower-casing it once. -/
theorem lowercase_lowercase (s : String) : lowercase (lowercase s) = lowercase s := by
  rw [lowercase_eq (lowercase s), lowercase_eq s, String.toList_ofList]
  rw [lowerFrom_of_isLower [] fun a ha => isLower_of_mem_lowerFrom ha]

/-! ## Signs

An ASCII character that is no letter is the lower-case form of itself alone. So a sign is in the
lower-case form of a text only where it is in the text. -/

/-- Whether the character is an ASCII character other than a letter. -/
def isSign (c : Char) : Bool :=
  isPlain c && !c.isLower

/-- The signs are the characters of ASCII that are no letters. -/
theorem isSign_iff {c : Char} :
    isSign c = true ↔ c.toNat < 0x80 ∧ ¬ (0x41 ≤ c.toNat ∧ c.toNat ≤ 0x5A) ∧
      ¬ (0x61 ≤ c.toNat ∧ c.toNat ≤ 0x7A) := by
  have hlower : c.isLower = true ↔ 0x61 ≤ c.toNat ∧ c.toNat ≤ 0x7A := by
    show (decide ('a'.val ≤ c.val) && decide (c.val ≤ 'z'.val)) = true ↔ _
    rw [Bool.and_eq_true, decide_eq_true_eq, decide_eq_true_eq]
    rfl
  rw [isSign, Bool.and_eq_true, isPlain_iff, Bool.not_eq_true', ← Bool.not_eq_true, hlower,
    and_assoc]

/-- The lower-case forms of the span are characters, and no signs. -/
def CaseSpan.isLetters (s : CaseSpan) : Bool :=
  (Nat.blt (s.lower s.last) 0xD800 ||
      Nat.blt 0xDFFF (s.lower s.first) && Nat.blt (s.lower s.last) 0x110000) &&
    (Nat.ble 0x61 (s.lower s.first) && Nat.ble (s.lower s.last) 0x7A ||
      Nat.ble 0x80 (s.lower s.first))

/-- No span of the table has a sign as a lower-case form. -/
theorem lowerSpans_isLetters : lowerSpans.all CaseSpan.isLetters = true := by
  decide +kernel

/-- No lower-case form of a character of a span is a sign. -/
theorem isSign_ofNat_lower {s : CaseSpan} (hs : s ∈ lowerSpans) {n : Nat}
    (h : s.contains n = true) : isSign (Char.ofNat (s.lower n)) = false := by
  have hletters := List.all_eq_true.1 lowerSpans_isLetters s hs
  simp only [CaseSpan.isLetters, Bool.and_eq_true, Bool.or_eq_true, Nat.ble_eq, Nat.blt_eq]
    at hletters
  obtain ⟨hlow, hhigh⟩ := CaseSpan.lower_mem_of_contains h
  have hvalid : (s.lower n).isValidChar := by
    unfold Nat.isValidChar
    omega
  have hcode : (Char.ofNat (s.lower n)).toNat = s.lower n := by
    rw [Char.ofNat, dif_pos hvalid]
    rfl
  rw [Bool.eq_false_iff, Ne, isSign_iff, hcode]
  omega

/-- A sign is in the lower-case form of no other character. -/
theorem eq_of_mem_lowerChar {a c : Char} (ha : isSign a = true) (h : a ∈ lowerChar c) : c = a := by
  by_cases hplain : isPlain c = true
  · rw [lowerChar_of_isPlain hplain, List.mem_singleton] at h
    exact h.symm
  · unfold lowerChar at h
    split at h
    · -- A capital letter becomes a small one, which is no sign.
      rename_i hascii
      have hascii' : c.toNat < 0x80 := UInt32.lt_iff_toNat_lt.1 hascii
      have hupper : 0x41 ≤ c.toNat ∧ c.toNat ≤ 0x5A := by
        rw [isPlain_iff] at hplain
        omega
      rw [List.mem_singleton.1 h, isSign_iff, toNat_toLower hupper] at ha
      omega
    · split at h
      · have hmem : a = 'i' ∨ a = '\u0307' := by simpa using h
        rcases hmem with rfl | rfl
        · exact absurd ha (by decide)
        · exact absurd ha (by decide)
      · split at h
        · rename_i s hs
          have hcontains := List.find?_some hs
          rw [List.mem_singleton.1 h,
            isSign_ofNat_lower (List.mem_of_find?_eq_some hs) hcontains] at ha
          cases ha
        · exact (List.mem_singleton.1 h).symm

/-- No character is dropped. -/
theorem lowerChar_ne_nil (c : Char) : lowerChar c ≠ [] := by
  unfold lowerChar
  split
  · exact List.cons_ne_nil _ _
  · split
    · exact List.cons_ne_nil _ _
    · split
      · exact List.cons_ne_nil _ _
      · exact List.cons_ne_nil _ _

/-- The lower-case form of a character in a text: a sign comes from itself alone. -/
theorem exists_lowerFrom_cons (before : List Char) (c : Char) (rest : List Char) :
    ∃ cs, lowerFrom before (c :: rest) = cs ++ lowerFrom (c :: before) rest ∧ cs ≠ [] ∧
      ∀ a ∈ cs, isSign a = true → c = a := by
  rw [lowerFrom]
  split
  · refine ⟨_, rfl, List.cons_ne_nil _ _, fun a ha hsign => ?_⟩
    -- Neither form of the small sigma is a sign.
    rw [List.mem_singleton.1 ha] at hsign
    unfold lowerSigma at hsign
    split at hsign
    · exact absurd hsign (by decide)
    · exact absurd hsign (by decide)
  · exact ⟨_, rfl, lowerChar_ne_nil c, fun a ha hsign => eq_of_mem_lowerChar hsign ha⟩

/-- A sign in the lower-case form of a text is in the text. -/
theorem mem_of_mem_lowerFrom {before cs : List Char} {a : Char} (ha : isSign a = true)
    (h : a ∈ lowerFrom before cs) : a ∈ cs := by
  induction cs generalizing before with
  | nil => exact absurd h List.not_mem_nil
  | cons c rest ih =>
    obtain ⟨cs, hcs, -, hsign⟩ := exists_lowerFrom_cons before c rest
    rw [hcs, List.mem_append] at h
    rcases h with hfirst | hrest
    · rw [hsign a hfirst ha]
      exact List.mem_cons_self
    · exact List.mem_cons_of_mem c (ih hrest)

/-- A text whose lower-case form starts with a sign starts with it. -/
theorem head?_of_head?_lowerFrom {before cs : List Char} {a : Char} (ha : isSign a = true)
    (h : (lowerFrom before cs).head? = some a) : cs.head? = some a := by
  cases cs with
  | nil => cases h
  | cons c rest =>
    obtain ⟨ds, hds, hne, hsign⟩ := exists_lowerFrom_cons before c rest
    obtain ⟨d, ds', rfl⟩ := List.exists_cons_of_ne_nil hne
    rw [hds, List.cons_append, List.head?_cons] at h
    cases h
    rw [List.head?_cons, hsign a List.mem_cons_self ha]

/-- Only the empty text becomes empty. -/
theorem lowerFrom_eq_nil {before cs : List Char} (h : lowerFrom before cs = []) : cs = [] := by
  cases cs with
  | nil => rfl
  | cons c rest =>
    obtain ⟨ds, hds, hne, -⟩ := exists_lowerFrom_cons before c rest
    rw [hds] at h
    exact absurd (List.append_eq_nil_iff.1 h).1 hne

/-- A text whose lower-case form is a sign is that sign. -/
theorem lowercase_eq_sign_iff {s : String} {a : Char} (ha : isSign a = true) :
    lowercase s = String.ofList [a] ↔ s = String.ofList [a] := by
  constructor
  · intro h
    rw [lowercase_eq] at h
    have hlower : lowerFrom [] s.toList = [a] := String.ofList_injective h
    have hhead : s.toList.head? = some a := head?_of_head?_lowerFrom ha (by rw [hlower]; rfl)
    obtain ⟨rest, hs⟩ := List.head?_eq_some_iff.1 hhead
    obtain ⟨ds, hds, hne, -⟩ := exists_lowerFrom_cons [] a rest
    obtain ⟨d, ds', rfl⟩ := List.exists_cons_of_ne_nil hne
    rw [hs, hds, List.cons_append] at hlower
    -- The first character has taken the whole of the lower-case form.
    have hrest : lowerFrom [a] rest = [] :=
      (List.append_eq_nil_iff.1 (List.cons.inj hlower).2).2
    rw [lowerFrom_eq_nil hrest] at hs
    rw [← hs, String.ofList_toList]
  · rintro rfl
    have hplain : isPlain a = true := by
      rw [isSign, Bool.and_eq_true] at ha
      exact ha.1
    rw [lowercase_eq, String.toList_ofList, lowerFrom_of_isPlain]
    rw [List.all_cons, hplain]
    rfl

end BlockForth
