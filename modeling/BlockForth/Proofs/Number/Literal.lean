import BlockForth.Proofs.Number.Numeral
import BlockForth.Proofs.Token.RoundTrip
import Mathlib.Data.List.Forall2
import Mathlib.Data.Nat.Digits.Defs

/-!
# Which texts are numbers, and which numbers they are

`IsInteger` and `IsDecimal` say how a number is written, without saying how it is read: the digits
of a radix stand for numbers below the radix, and a list of digits for the number that it is in the
positional system, which is `Nat.ofDigits` of the digits from the last one on.

The reader tries the forms one after the other, and a text that starts like one form is never read
as another. So each form is found (`magnitude?_of_isInteger`, `magnitude?_of_isDecimal`), and
whatever is found has one of the forms (`form_of_magnitude?`). `ofChunk_exact` puts this together
for chunks of source text, with the bounds of an integer.
-/

namespace BlockForth

namespace Numeral

/-! ## How numbers are written -/

/-- The character is the digit `d` of the radix, in either case. -/
def IsDigit (radix : ℕ) (c : Char) (d : ℕ) : Prop :=
  d < radix ∧ (c = Nat.digitChar d ∨ c = (Nat.digitChar d).toUpper)

/-- The text is made of these digits of the radix, and has at least one. -/
def AreDigits (radix : ℕ) (cs : List Char) (ds : List ℕ) : Prop :=
  cs ≠ [] ∧ List.Forall₂ (IsDigit radix) cs ds

/-- The number that digits stand for in the positional system, first digit first. -/
def positional (radix : ℕ) (ds : List ℕ) : ℕ :=
  Nat.ofDigits radix ds.reverse

/-- The four bases of integers: what is in front of the digits, and their radix. -/
def bases : List (List Char × ℕ) :=
  [([], 10), (['0', 'x'], 16), (['0', 'o'], 8), (['0', 'b'], 2)]

/-- The text without a sign is the integer `n` in one of the bases. -/
def IsInteger (cs : List Char) (n : ℕ) : Prop :=
  ∃ mark radix digits ds, (mark, radix) ∈ bases ∧ cs = mark ++ digits ∧
    AreDigits radix digits ds ∧ n = positional radix ds

/-- The text without a sign has decimal digits on both sides of a point. -/
def IsDecimal (cs : List Char) (before after : List ℕ) : Prop :=
  ∃ whole fraction, cs = whole ++ '.' :: fraction ∧ AreDigits 10 whole before ∧
    AreDigits 10 fraction after

/-- No base has a radix beyond sixteen. -/
theorem radix_le_of_mem_bases {mark : List Char} {radix : ℕ} (h : (mark, radix) ∈ bases) :
    radix ≤ 16 := by
  have hle : ∀ b ∈ bases, b.2 ≤ 16 := by decide
  exact hle _ h

/-! ## Digits -/

/-- A range of characters by their codes. -/
theorem between_iff {a b c : Char} :
    (decide (a ≤ c) && decide (c ≤ b)) = true ↔ a.toNat ≤ c.toNat ∧ c.toNat ≤ b.toNat := by
  rw [Bool.and_eq_true, decide_eq_true_eq, decide_eq_true_eq]
  rfl

/-- The codes of the digits from ten on, in lower and in upper case. -/
theorem toNat_digitChar_of_ten_le : ∀ d < 16, 10 ≤ d →
    (Nat.digitChar d).toNat = d + 87 ∧ (Nat.digitChar d).toUpper.toNat = d + 55 := by
  decide

/-- What is read as a digit is a digit of radix sixteen. -/
theorem digit?_eq_some_iff {c : Char} {d : ℕ} : digit? c = some d ↔ IsDigit 16 c d := by
  have hcodes : '0'.toNat = 48 ∧ '9'.toNat = 57 ∧ 'a'.toNat = 97 ∧ 'f'.toNat = 102 ∧
      'A'.toNat = 65 ∧ 'F'.toNat = 70 := by decide
  constructor
  · intro h
    unfold digit? at h
    simp only [between_iff] at h
    split_ifs at h with hdecimal hlower hupper
    · obtain rfl := Option.some.inj h
      have hcode := Nat.toNat_digitChar_of_lt_ten (n := c.toNat - '0'.toNat) (by omega)
      exact ⟨by omega, .inl (Char.toNat_inj.1 (by omega))⟩
    · obtain rfl := Option.some.inj h
      have hcode := toNat_digitChar_of_ten_le (c.toNat - 'a'.toNat + 10) (by omega) (by omega)
      exact ⟨by omega, .inl (Char.toNat_inj.1 (by omega))⟩
    · obtain rfl := Option.some.inj h
      have hcode := toNat_digitChar_of_ten_le (c.toNat - 'A'.toNat + 10) (by omega) (by omega)
      exact ⟨by omega, .inr (Char.toNat_inj.1 (by omega))⟩
  · -- There are only sixteen digits to check, in two cases.
    rintro ⟨hd, rfl | rfl⟩
    · have hlower : ∀ d < 16, digit? (Nat.digitChar d) = some d := by decide
      exact hlower d hd
    · have hupper : ∀ d < 16, digit? (Nat.digitChar d).toUpper = some d := by decide
      exact hupper d hd

/-- The digits of a radix are the characters that have a value below it. -/
theorem isDigit_iff {radix d : ℕ} {c : Char} (hradix : radix ≤ 16) :
    IsDigit radix c d ↔ digit? c = some d ∧ d < radix := by
  rw [digit?_eq_some_iff]
  unfold IsDigit
  constructor
  · rintro ⟨hd, hc⟩
    exact ⟨⟨by omega, hc⟩, hd⟩
  · rintro ⟨⟨-, hc⟩, hd⟩
    exact ⟨hd, hc⟩

/-- Digits behind a number: each digit before them counts for a power of the radix more. -/
theorem positional_cons (radix d : ℕ) (ds : List ℕ) :
    positional radix (d :: ds) = radix ^ ds.length * d + positional radix ds := by
  unfold positional
  rw [Nat.ofDigits_reverse_cons]
  ring

/-- Digits are read as their positional value, behind digits with the value `n`. -/
theorem digitsFrom?_eq_some_iff {radix : ℕ} (hradix : radix ≤ 16) {cs : List Char} {n v : ℕ} :
    digitsFrom? radix n cs = some v ↔
      ∃ ds, List.Forall₂ (IsDigit radix) cs ds ∧
        v = radix ^ ds.length * n + positional radix ds := by
  induction cs generalizing n with
  | nil =>
    constructor
    · intro h
      cases h
      exact ⟨[], .nil, by simp [positional]⟩
    · rintro ⟨ds, hds, rfl⟩
      cases hds
      simp [digitsFrom?, positional]
  | cons c cs ih =>
    -- One digit more is the radix times the number so far and the digit.
    have hstep : ∀ (d : ℕ) (ds : List ℕ),
        radix ^ ds.length * (radix * n + d) + positional radix ds =
          radix ^ (d :: ds).length * n + positional radix (d :: ds) := by
      intro d ds
      rw [positional_cons, List.length_cons, pow_succ]
      ring
    rw [digitsFrom?]
    constructor
    · intro h
      split at h
      · cases h
      · rename_i d hd
        split_ifs at h with hlt
        obtain ⟨ds, hds, rfl⟩ := ih.1 h
        exact ⟨d :: ds, .cons ((isDigit_iff hradix).2 ⟨hd, hlt⟩) hds, hstep d ds⟩
    · rintro ⟨ds, hds, rfl⟩
      cases hds with
      | cons hd hds =>
        rename_i d ds
        obtain ⟨hdigit, hlt⟩ := (isDigit_iff hradix).1 hd
        rw [hdigit]
        dsimp only
        rw [if_pos hlt]
        exact ih.2 ⟨ds, hds, (hstep d ds).symm⟩

/-- One or more digits are read as their positional value. -/
theorem digits?_eq_some_iff {radix : ℕ} (hradix : radix ≤ 16) {cs : List Char} {v : ℕ} :
    digits? radix cs = some v ↔ ∃ ds, AreDigits radix cs ds ∧ v = positional radix ds := by
  unfold digits? AreDigits
  split_ifs with hnil
  · have hcs : cs = [] := List.isEmpty_iff.1 hnil
    constructor
    · intro h
      cases h
    · rintro ⟨ds, ⟨hne, -⟩, -⟩
      exact absurd hcs hne
  · have hcs : cs ≠ [] := fun h => hnil (List.isEmpty_iff.2 h)
    rw [digitsFrom?_eq_some_iff hradix]
    simp [hcs]

/-- Digits are read as their positional value. -/
theorem digits?_of_areDigits {radix : ℕ} (hradix : radix ≤ 16) {cs : List Char} {ds : List ℕ}
    (h : AreDigits radix cs ds) : digits? radix cs = some (positional radix ds) :=
  (digits?_eq_some_iff hradix).2 ⟨ds, h, rfl⟩

/-- Every character of a text of digits is a digit. -/
theorem AreDigits.exists_isDigit {radix : ℕ} {cs : List Char} {ds : List ℕ}
    (h : AreDigits radix cs ds) {c : Char} (hc : c ∈ cs) : ∃ d, IsDigit radix c d := by
  obtain ⟨-, hds⟩ := h
  induction hds with
  | nil => cases hc
  | cons hd _ ih =>
    rcases List.mem_cons.1 hc with rfl | hc
    · exact ⟨_, hd⟩
    · exact ih hc

/-- Digits behind digits are digits. -/
theorem AreDigits.append {radix : ℕ} {cs cs' : List Char} {ds ds' : List ℕ}
    (h : AreDigits radix cs ds) (h' : AreDigits radix cs' ds') :
    AreDigits radix (cs ++ cs') (ds ++ ds') :=
  ⟨List.append_ne_nil_of_left_ne_nil h.1 cs', List.rel_append h.2 h'.2⟩

/-- The marks of the bases and the point are no decimal digits. -/
theorem not_isDigit_of_mem {c : Char} (hc : c ∈ ['x', 'o', 'b', '.']) (d : ℕ) :
    ¬ IsDigit 10 c d := by
  rw [isDigit_iff (by decide)]
  rintro ⟨hdigit, hd⟩
  simp only [List.mem_cons, List.not_mem_nil, or_false] at hc
  rcases hc with rfl | rfl | rfl | rfl
  · cases hdigit
  · cases hdigit
  · -- This one is a digit, but only of radixes from twelve on.
    obtain rfl : 11 = d := Option.some.inj hdigit
    omega
  · cases hdigit

/-! ## Numbers without a sign -/

/-- Decimal digits are an integer, since no base has a mark that is one of them. -/
theorem magnitude?_of_digits? (negative : Bool) {cs : List Char} {n : ℕ}
    (h : digits? 10 cs = some n) :
    magnitude? negative cs = some (integer (signed negative n)) := by
  unfold magnitude?
  split
  case h_1 | h_2 | h_3 => cases h
  case h_4 => rw [h]

/-- An integer in any base is read as its positional value. -/
theorem magnitude?_of_isInteger (negative : Bool) {cs : List Char} {n : ℕ} (h : IsInteger cs n) :
    magnitude? negative cs = some (integer (signed negative n)) := by
  obtain ⟨mark, radix, digits, ds, hbase, rfl, hdigits, rfl⟩ := h
  simp only [bases, List.mem_cons, Prod.mk.injEq, List.not_mem_nil, or_false] at hbase
  rcases hbase with ⟨rfl, rfl⟩ | ⟨rfl, rfl⟩ | ⟨rfl, rfl⟩ | ⟨rfl, rfl⟩
  · exact magnitude?_of_digits? negative (digits?_of_areDigits (by decide) hdigits)
  all_goals
    show (digits? _ digits).map _ = _
    rw [digits?_of_areDigits (by decide) hdigits]
    rfl

/-- The double that decimal digits before and after a point stand for. -/
def double (negative : Bool) (before after : List ℕ) : Float :=
  let x := Float.ofScientific (positional 10 (before ++ after)) true after.length
  if negative then -x else x

/-- Digits on both sides of a point are read as the double that is nearest to the decimal. -/
theorem decimal?_of_areDigits (negative : Bool) {whole fraction : List Char} {before after : List ℕ}
    (hwhole : AreDigits 10 whole before) (hfraction : AreDigits 10 fraction after) :
    decimal? negative whole fraction = some (double negative before after) := by
  unfold decimal?
  rw [digits?_of_areDigits (by decide) hwhole, digits?_of_areDigits (by decide) hfraction,
    digits?_of_areDigits (by decide) (hwhole.append hfraction), hfraction.2.length_eq]
  rfl

/-- Digits on both sides of a point are no integer, and are read as a double. -/
theorem magnitude?_of_isDecimal (negative : Bool) {cs : List Char} {before after : List ℕ}
    (h : IsDecimal cs before after) :
    magnitude? negative cs = some (float (double negative before after)) := by
  obtain ⟨whole, fraction, rfl, hwhole, hfraction⟩ := h
  have hchars : ∀ c ∈ whole ++ '.' :: fraction, c ≠ '.' → ∃ d, IsDigit 10 c d := by
    intro c hc hpoint
    rcases List.mem_append.1 hc with hc | hc
    · exact hwhole.exists_isDigit hc
    · exact hfraction.exists_isDigit (List.mem_of_ne_of_mem hpoint hc)
  have hmark : ∀ (x : Char) (ds : List Char), whole ++ '.' :: fraction = '0' :: x :: ds →
      x ∈ ['x', 'o', 'b'] → False := by
    intro x ds hcs hx
    have hmem : x ∈ whole ++ '.' :: fraction := by
      rw [hcs]
      simp
    obtain ⟨d, hd⟩ := hchars x hmem (by rintro rfl; simp at hx)
    exact not_isDigit_of_mem (List.mem_append_left ['.'] hx) d hd
  -- The point is the first one, since there is none among the digits before it.
  have hbefore : ∀ c ∈ whole, (c != '.') = true := by
    intro c hc
    obtain ⟨d, hd⟩ := hwhole.exists_isDigit hc
    rw [bne_iff_ne]
    rintro rfl
    exact not_isDigit_of_mem (by simp) d hd
  have hnone : digits? 10 (whole ++ '.' :: fraction) = none := by
    by_contra hsome
    obtain ⟨n, hn⟩ := Option.ne_none_iff_exists'.1 hsome
    obtain ⟨ds, hds, -⟩ := (digits?_eq_some_iff (by decide)).1 hn
    obtain ⟨d, hd⟩ := hds.exists_isDigit (c := '.') (by simp)
    exact not_isDigit_of_mem (by simp) d hd
  unfold magnitude?
  split
  case h_1 ds hcs => exact (hmark 'x' ds hcs (by simp)).elim
  case h_2 ds hcs => exact (hmark 'o' ds hcs (by simp)).elim
  case h_3 ds hcs => exact (hmark 'b' ds hcs (by simp)).elim
  case h_4 =>
    rw [hnone, List.dropWhile_append_of_pos hbefore, List.takeWhile_append_of_pos hbefore]
    simp only [List.dropWhile_cons, List.takeWhile_cons, bne_self_eq_false, Bool.false_eq_true,
      if_false, List.append_nil]
    rw [decimal?_of_areDigits negative hwhole hfraction]
    rfl

/-- Digits that are read behind the mark of a base are an integer. -/
theorem isInteger_of_digits? (mark : List Char) (radix : ℕ) {digits : List Char} {n : ℕ}
    (hbase : (mark, radix) ∈ bases) (h : digits? radix digits = some n) :
    IsInteger (mark ++ digits) n := by
  obtain ⟨ds, hds, hn⟩ := (digits?_eq_some_iff (radix_le_of_mem_bases hbase)).1 h
  exact ⟨mark, radix, digits, ds, hbase, rfl, hds, hn⟩

/-- A decimal that is read has digits on both sides of the point. -/
theorem exists_areDigits_of_decimal? {negative : Bool} {whole fraction : List Char}
    (h : decimal? negative whole fraction ≠ none) :
    ∃ before after, AreDigits 10 whole before ∧ AreDigits 10 fraction after := by
  unfold decimal? at h
  split at h
  · rename_i m n hwhole hfraction
    obtain ⟨before, hbefore, -⟩ := (digits?_eq_some_iff (by decide)).1 hwhole
    obtain ⟨after, hafter, -⟩ := (digits?_eq_some_iff (by decide)).1 hfraction
    exact ⟨before, after, hbefore, hafter⟩
  · exact absurd rfl h

/-- What is read as a number has the form of an integer or of a decimal. -/
theorem form_of_magnitude? {negative : Bool} {cs : List Char} (h : magnitude? negative cs ≠ none) :
    (∃ n, IsInteger cs n) ∨ ∃ before after, IsDecimal cs before after := by
  unfold magnitude? at h
  split at h
  -- A text with the mark of a base is an integer in that base or nothing.
  case h_1 ds =>
    obtain ⟨n, hn⟩ := Option.ne_none_iff_exists'.1 (mt Option.map_eq_none_iff.2 h)
    exact .inl ⟨n, isInteger_of_digits? ['0', 'x'] 16 (by decide) hn⟩
  case h_2 ds =>
    obtain ⟨n, hn⟩ := Option.ne_none_iff_exists'.1 (mt Option.map_eq_none_iff.2 h)
    exact .inl ⟨n, isInteger_of_digits? ['0', 'o'] 8 (by decide) hn⟩
  case h_3 ds =>
    obtain ⟨n, hn⟩ := Option.ne_none_iff_exists'.1 (mt Option.map_eq_none_iff.2 h)
    exact .inl ⟨n, isInteger_of_digits? ['0', 'b'] 2 (by decide) hn⟩
  case h_4 =>
    split at h
    · rename_i n hn
      exact .inl ⟨n, isInteger_of_digits? [] 10 (by decide) hn⟩
    · split at h
      · exact absurd rfl h
      · rename_i point fraction hpoint
        obtain ⟨before, after, hwhole, hfraction⟩ :=
          exists_areDigits_of_decimal? (mt Option.map_eq_none_iff.2 h)
        -- What stops the first run is the point.
        have hstop : point = '.' := by
          have hhead := List.head?_dropWhile_not (· != '.') cs
          rw [hpoint] at hhead
          simpa using hhead
        refine .inr ⟨before, after, cs.takeWhile (· != '.'), fraction, ?_, hwhole, hfraction⟩
        rw [hstop] at hpoint
        rw [← hpoint, List.takeWhile_append_dropWhile]

/-! ## The sign -/

/-- Whether the text has a sign. -/
def isNegative (cs : List Char) : Bool :=
  cs.head? == some '-'

/-- The text behind its sign, if it has one. -/
def unsigned (cs : List Char) : List Char :=
  if isNegative cs then cs.tail else cs

/-- At most one sign is read, and then a number without a sign. -/
theorem read?_eq (cs : List Char) : read? cs = magnitude? (isNegative cs) (unsigned cs) := by
  unfold read?
  split
  · rfl
  · rename_i hsign
    have hnegative : isNegative cs = false := by
      rw [Bool.eq_false_iff]
      intro h
      obtain ⟨rest, hcs⟩ := List.head?_eq_some_iff.1 (beq_iff_eq.1 h)
      exact hsign rest hcs
    rw [unsigned, hnegative]
    rfl

/-- The sign of an integer in front of its digits. -/
def signText (z : ℤ) : List Char :=
  if z < 0 then ['-'] else []

/-- The text of an integer in a base, with any number of zeros in front of its digits. -/
def IsTextOf (z : ℤ) (cs : List Char) : Prop :=
  ∃ mark radix zeros digits, (mark, radix) ∈ bases ∧ cs = signText z ++ (mark ++ digits) ∧
    AreDigits radix digits (List.replicate zeros 0 ++ (Nat.digits radix z.natAbs).reverse)

/-- The digits of a number, with any zeros in front of them, stand for that number. -/
theorem positional_digits (radix zeros n : ℕ) :
    positional radix (List.replicate zeros 0 ++ (Nat.digits radix n).reverse) = n := by
  unfold positional
  rw [List.reverse_append, List.reverse_reverse, List.reverse_replicate,
    Nat.ofDigits_append_replicate_zero, Nat.ofDigits_digits]

/-- The characters that are blank or have a meaning of their own in source text. -/
def separators : List Char :=
  [' ', '\t', '\r', '\n', '#', '"', '\x7b', '\x7d']

/-- The digits and the mark of an integer are no sign, and have no meaning of their own. -/
theorem not_mem_separators {mark digits : List Char} {radix : ℕ} {ds : List ℕ}
    (hbase : (mark, radix) ∈ bases) (hdigits : AreDigits radix digits ds) {c : Char}
    (hc : c ∈ mark ++ digits) : c ∉ '-' :: separators := by
  rcases List.mem_append.1 hc with hmark | hdigit
  · simp only [bases, List.mem_cons, Prod.mk.injEq, List.not_mem_nil, or_false] at hbase
    rcases hbase with ⟨rfl, -⟩ | ⟨rfl, -⟩ | ⟨rfl, -⟩ | ⟨rfl, -⟩
    · cases hmark
    all_goals
      simp only [List.mem_cons, List.not_mem_nil, or_false] at hmark
      rcases hmark with rfl | rfl
      · decide
      · decide
  · have hchars : ∀ d < 16, Nat.digitChar d ∉ '-' :: separators ∧
        (Nat.digitChar d).toUpper ∉ '-' :: separators := by decide
    obtain ⟨d, hd, rfl | rfl⟩ := hdigits.exists_isDigit hdigit
    · exact (hchars d (by have := radix_le_of_mem_bases hbase; omega)).1
    · exact (hchars d (by have := radix_le_of_mem_bases hbase; omega)).2

/-- The text of an integer has its sign, and behind that the digits of its magnitude. -/
theorem IsTextOf.isInteger {z : ℤ} {cs : List Char} (h : IsTextOf z cs) :
    isNegative cs = decide (z < 0) ∧ IsInteger (unsigned cs) z.natAbs := by
  obtain ⟨mark, radix, zeros, digits, hbase, rfl, hdigits⟩ := h
  have hinteger : IsInteger (mark ++ digits) z.natAbs :=
    ⟨mark, radix, digits, _, hbase, rfl, hdigits, (positional_digits radix zeros _).symm⟩
  by_cases hz : z < 0
  · have hsign : signText z = ['-'] := if_pos hz
    rw [hsign]
    exact ⟨by simp [isNegative, hz], hinteger⟩
  · have hsign : signText z = [] := if_neg hz
    -- Neither a digit nor the mark of a base looks like a sign.
    have hnegative : isNegative (mark ++ digits) = false := by
      rw [isNegative, beq_eq_false_iff_ne]
      intro hhead
      exact not_mem_separators hbase hdigits (List.mem_of_mem_head? hhead) List.mem_cons_self
    rw [hsign, List.nil_append, unsigned, hnegative]
    exact ⟨by simp [hz], hinteger⟩

end Numeral

namespace Token

/-- A chunk that is no brace is the token that it stands for, as a source text too. -/
theorem readAll_chunk {path : String} {cs : List Char} {t : Token} (hchunk : IsChunk cs)
    (hopening : cs ≠ ['\x7b']) (hclosing : cs ≠ ['\x7d'])
    (h : ofChunk (.start path) cs = .ok t) : readAll path (String.ofList cs) = .ok [t] := by
  have hlexeme : (Cursor.start path (String.ofList cs)).lexeme? =
      .ok (some (.token t, ⟨[], (Location.start path).after cs⟩)) := by
    have hread := lexeme?_chunk (.start path) hchunk startsBlank_nil
    rw [List.append_nil, Lexeme.ofChunk_of_ne hopening hclosing, h] at hread
    rw [Cursor.start, String.toList_ofList, hread]
    rfl
  exact readAll_eq_ok_iff.2 ⟨_, .token hlexeme (.finish (Cursor.lexeme?_of_nil rfl))⟩

/-- The text of an integer is one chunk, and no brace. -/
theorem isChunk_of_isTextOf {z : ℤ} {cs : List Char} (h : Numeral.IsTextOf z cs) :
    IsChunk cs ∧ cs ≠ ['\x7b'] ∧ cs ≠ ['\x7d'] := by
  obtain ⟨mark, radix, zeros, digits, hbase, rfl, hdigits⟩ := h
  have hchars : ∀ c ∈ Numeral.signText z ++ (mark ++ digits), c ∉ Numeral.separators := by
    intro c hc
    rcases List.mem_append.1 hc with hsign | hc
    · unfold Numeral.signText at hsign
      split_ifs at hsign
      · rw [List.mem_singleton.1 hsign]
        decide
      · cases hsign
    · exact fun h => Numeral.not_mem_separators hbase hdigits hc (List.mem_cons_of_mem _ h)
  have hne : ∀ a ∈ Numeral.separators, ∀ c ∈ Numeral.signText z ++ (mark ++ digits), c ≠ a := by
    rintro a ha c hc rfl
    exact hchars c hc ha
  refine ⟨⟨by simp [hdigits.1], fun c hc => ?_, hne '#' (by decide), fun h => ?_⟩, fun h => ?_,
    fun h => ?_⟩
  · simp [isBlank, hne ' ' (by decide) c hc, hne '\t' (by decide) c hc,
      hne '\r' (by decide) c hc, hne '\n' (by decide) c hc]
  · exact hne '"' (by decide) '"' (List.mem_of_mem_head? h) rfl
  · exact hne '\x7b' (by decide) '\x7b' (by rw [h]; exact List.mem_cons_self) rfl
  · exact hne '\x7d' (by decide) '\x7d' (by rw [h]; exact List.mem_cons_self) rfl

/-- The integer fits into 64 bits. -/
def InRange (z : ℤ) : Prop :=
  -2 ^ 63 ≤ z ∧ z ≤ 2 ^ 63 - 1

/-- Whether an integer fits can be checked. -/
instance (z : ℤ) : Decidable (InRange z) :=
  inferInstanceAs (Decidable (_ ∧ _))

/-- A chunk that is an integer is that integer if it fits into 64 bits, and a fault if not. -/
theorem ofChunk_of_integer {cs : List Char} {z : ℤ} (l : Location)
    (h : Numeral.read? cs = some (.integer z)) :
    (InRange z → ∃ k : Int64, k.toInt = z ∧ ofChunk l cs = .ok (literal l (.int k))) ∧
    (¬ InRange z →
      ofChunk l cs = .error (.inSource (.integerOutOfRange (String.ofList cs)) l)) := by
  have hfits : Numeral.toInt64? z = if InRange z then some (Int64.ofInt z) else none :=
    Numeral.toInt64?_eq z
  unfold ofChunk
  rw [h]
  dsimp only
  constructor
  · intro hrange
    rw [hfits, if_pos hrange]
    exact ⟨Int64.ofInt z, Int64.toInt_ofInt_of_le hrange.1 (Int.lt_of_le_sub_one hrange.2), rfl⟩
  · intro hrange
    rw [hfits, if_neg hrange]

/-- Numbers are recognised exactly, and integers have exactly their value. With the sign taken off,
an integer in one of the bases stands for its positional value with that sign if that fits into 64
bits, and is a fault if not. Digits on both sides of a point stand for a double. Any other text is a
word. So an integer that fits is read from each of its texts, in any base, in either case, and with
any number of zeros in front. -/
theorem ofChunk_exact (l : Location) (text : List Char) :
    let negative := Numeral.isNegative text
    let magnitude := Numeral.unsigned text
    (∀ n, Numeral.IsInteger magnitude n →
      let z : ℤ := if negative then -n else n
      (InRange z → ∃ k : Int64, k.toInt = z ∧ ofChunk l text = .ok (literal l (.int k))) ∧
      (¬ InRange z →
        ofChunk l text = .error (.inSource (.integerOutOfRange (String.ofList text)) l))) ∧
    (∀ before after, Numeral.IsDecimal magnitude before after →
      ofChunk l text = .ok (literal l (.float (Numeral.double negative before after)))) ∧
    ((¬ ∃ n, Numeral.IsInteger magnitude n) →
      (¬ ∃ before after, Numeral.IsDecimal magnitude before after) →
      ofChunk l text = .ok (word l (String.ofList text))) ∧
    ∀ (path : String) (k : Int64), Numeral.IsTextOf k.toInt text →
      readAll path (String.ofList text) = .ok [literal (.start path) (.int k)] := by
  intro negative magnitude
  have hread : Numeral.read? text = Numeral.magnitude? negative magnitude := Numeral.read?_eq text
  have hinteger : ∀ n, Numeral.IsInteger magnitude n →
      Numeral.read? text = some (.integer (if negative then -n else n)) := by
    intro n hn
    rw [hread, Numeral.magnitude?_of_isInteger negative hn]
    rfl
  refine ⟨fun n hn => ofChunk_of_integer l (hinteger n hn), fun before after h => ?_,
    fun hinteger hdecimal => ?_, fun path k htext => ?_⟩
  · rw [Numeral.magnitude?_of_isDecimal negative h] at hread
    rw [ofChunk, hread]
  · have hnone : Numeral.magnitude? negative magnitude = none := by
      by_contra hsome
      rcases Numeral.form_of_magnitude? hsome with h | h
      · exact hinteger h
      · exact hdecimal h
    rw [ofChunk, hread, hnone]
  · obtain ⟨hnegative, hdigits⟩ := htext.isInteger
    obtain ⟨hchunk, hopening, hclosing⟩ := isChunk_of_isTextOf htext
    -- The sign and the magnitude of an integer give it back.
    have hvalue : (if negative then -(k.toInt.natAbs : ℤ) else k.toInt.natAbs) = k.toInt := by
      show (if Numeral.isNegative text then _ else _) = _
      rw [hnegative]
      by_cases hk : k.toInt < 0
      · simp only [hk, decide_true, if_true]
        omega
      · simp only [hk, decide_false, Bool.false_eq_true, if_false]
        omega
    have hz := hinteger _ hdigits
    rw [hvalue] at hz
    obtain ⟨k', hk', htoken⟩ := (ofChunk_of_integer (.start path) hz).1
      ⟨k.le_toInt, Int.le_sub_one_of_lt k.toInt_lt⟩
    obtain rfl : k' = k := Int64.toInt_inj.1 hk'
    exact readAll_chunk hchunk hopening hclosing htoken

/-- The least integer with a zero in front, the first one that is too large, a text with a digit
that its base does not have, and an integer with digits in both cases. -/
theorem ofChunk_exact_bounds :
    let least := ['-', '0', 'x', '0', '8'] ++ List.replicate 15 '0'
    let large := ['0', 'b', '1'] ++ List.replicate 63 '0'
    let other := ['0', 'b', '1', '2']
    let mixed := ['-', '0', 'x', '0', 'f', 'F']
    (∃ k : Int64, k.toInt = -2 ^ 63 ∧ ofChunk {} least = .ok (literal {} (.int k))) ∧
    ofChunk {} large = .error (.inSource (.integerOutOfRange (String.ofList large)) {}) ∧
    ofChunk {} other = .ok (word {} (String.ofList other)) ∧
    readAll "hex" (String.ofList mixed) = .ok [literal (.start "hex") (.int (-255))] := by
  intro least large other mixed
  have hleast : Numeral.IsInteger (Numeral.unsigned least) (2 ^ 63) :=
    Numeral.isInteger_of_digits? ['0', 'x'] 16 (by decide) (by decide +kernel)
  have hlarge : Numeral.IsInteger (Numeral.unsigned large) (2 ^ 63) :=
    Numeral.isInteger_of_digits? ['0', 'b'] 2 (by decide) (by decide +kernel)
  have hother : Numeral.magnitude? false (Numeral.unsigned other) = none := by decide +kernel
  have hmixed : Numeral.IsTextOf (Int64.toInt (-255)) mixed := by
    have habs : (Int64.toInt (-255)).natAbs = 255 := by decide
    have hdigits : List.replicate 1 0 ++ (Nat.digits 16 255).reverse = [0, 15, 15] := by norm_num
    refine ⟨['0', 'x'], 16, 1, ['0', 'f', 'F'], by decide, rfl, by decide, ?_⟩
    rw [habs, hdigits]
    exact .cons ⟨by decide, .inl rfl⟩
      (.cons ⟨by decide, .inl rfl⟩ (.cons ⟨by decide, .inr rfl⟩ .nil))
  refine ⟨?_, ?_, ?_, ?_⟩
  · exact ((ofChunk_exact {} least).1 _ hleast).1 (by decide)
  · exact ((ofChunk_exact {} large).1 _ hlarge).2 (by decide)
  · refine (ofChunk_exact {} other).2.2.1 ?_ ?_
    · rintro ⟨n, hn⟩
      rw [Numeral.magnitude?_of_isInteger false hn] at hother
      cases hother
    · rintro ⟨before, after, h⟩
      rw [Numeral.magnitude?_of_isDecimal false h] at hother
      cases hother
  · exact (ofChunk_exact {} mixed).2.2.2 "hex" (-255) hmixed

end Token

end BlockForth
