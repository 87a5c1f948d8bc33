import BlockForth.Value.Order
import Mathlib.Algebra.Group.Nat.Defs
import Mathlib.Data.List.Lex
import Mathlib.Order.Lattice

/-!
# Bytes and characters have one order

Texts are compared by the bytes of their UTF-8 forms. `texts_ordered_by_scalars` says that this is
the lexicographic order of their Unicode scalar values, in which a proper prefix comes first, and
that the six comparisons are those of this order.

A character takes up one to four bytes, and the forms are made so that they can be compared without
being decoded. `firstBelow_utf8EncodeChar` says it for two characters: their forms differ at some
byte that both of them have, and at the first such byte the lesser character has the lesser one. No
form is the beginning of another then, and it is of no matter what follows (`FirstBelow.append`). So
the first character in which two texts differ decides, whatever its length in bytes is.
-/

namespace BlockForth

/-- The Unicode scalar values of a text. -/
def scalars (s : String) : List Nat :=
  s.toList.map Char.toNat

/-- The scalar values end before `0x110000`. -/
theorem scalar_lt (c : Char) : c.toNat < 0x110000 := by
  have hvalid : c.toNat < 0xD800 ∨ 0xDFFF < c.toNat ∧ c.toNat < 0x110000 := c.valid
  omega

/-- Texts with the same scalar values are the same. -/
theorem scalars_inj {a b : String} : scalars a = scalars b ↔ a = b := by
  have hinjective : Function.Injective Char.toNat := fun _ _ => Char.toNat_inj.1
  unfold scalars
  rw [hinjective.list_map.eq_iff, String.toList_inj]

/-! ## The first difference -/

/-- At the first byte in which the two differ, which both of them have, the first one has the lesser
byte. -/
inductive FirstBelow : List UInt8 → List UInt8 → Prop
  | here {a b : UInt8} {x y : List UInt8} (h : a < b) : FirstBelow (a :: x) (b :: y)
  | there {a : UInt8} {x y : List UInt8} (h : FirstBelow x y) : FirstBelow (a :: x) (a :: y)

namespace FirstBelow

variable {x y : List UInt8}

/-- For a byte that is given as a number. -/
theorem of_lt {k n : Nat} (h : k < n) (hn : n < 256) :
    FirstBelow (UInt8.ofNat k :: x) (UInt8.ofNat n :: y) := by
  refine .here ?_
  rw [UInt8.lt_iff_toNat_lt, UInt8.toNat_ofNat', UInt8.toNat_ofNat']
  omega

/-- What follows does not matter. -/
theorem append (h : FirstBelow x y) (x' y' : List UInt8) : FirstBelow (x ++ x') (y ++ y') := by
  induction h with
  | here hbyte => exact .here hbyte
  | there _ ih => exact .there ih

/-- Bytes that both start with do not matter. -/
theorem append_left (h : FirstBelow x y) (front : List UInt8) :
    FirstBelow (front ++ x) (front ++ y) := by
  induction front with
  | nil => exact h
  | cons b front ih => exact .there ih

/-- A list that is below another in the first place where they differ comes first. -/
theorem compare_eq (h : FirstBelow x y) : compare x y = .lt := by
  induction h with
  | here hbyte =>
    rw [List.compare_cons_cons, Std.compare_eq_lt.2 hbyte]
    rfl
  | there _ ih =>
    rw [List.compare_cons_cons, ih, Std.ReflOrd.compare_self]
    rfl

end FirstBelow

/-! ## The bytes of a character

A scalar value is written to the base 64. The first byte holds the leading digit and a mark that
says how many bytes follow, and each byte that follows holds one more digit. -/

/-- How many bytes follow the first one in the form of a scalar value. -/
def followers (n : Nat) : Nat :=
  if n ≤ 0x7F then 0 else if n ≤ 0x7FF then 1 else if n ≤ 0xFFFF then 2 else 3

/-- The mark of a first byte that is followed by so many. -/
def firstMark : (count : Nat) → Nat
  | 0 => 0
  | 1 => 0xC0
  | 2 => 0xE0
  | _ => 0xF0

/-- The digits of a number in `count + 1` bytes, with a mark in the first one. -/
def digitBytes (mark : Nat) : (count n : Nat) → List UInt8
  | 0, n => [UInt8.ofNat (mark + n)]
  | count + 1, n => digitBytes mark count (n / 64) ++ [UInt8.ofNat (0x80 + n % 64)]

/-- The bytes of a character are digits of its scalar value, with a mark in the first one. -/
theorem utf8EncodeChar_eq (c : Char) :
    String.utf8EncodeChar c =
      digitBytes (firstMark (followers c.toNat)) (followers c.toNat) c.toNat := by
  have hmax := scalar_lt c
  have hval : c.val.toNat = c.toNat := rfl
  unfold String.utf8EncodeChar followers
  simp only [hval]
  split_ifs
  all_goals
    simp only [digitBytes, firstMark, List.nil_append, List.cons_append, List.cons.injEq,
      Nat.div_div_eq_div_mul, and_true]
    and_intros <;> exact congrArg UInt8.ofNat (by omega)

/-- The first byte holds the leading digit. -/
theorem exists_digitBytes_eq (mark count n : Nat) :
    ∃ rest, digitBytes mark count n = UInt8.ofNat (mark + n / 64 ^ count) :: rest := by
  induction count generalizing n with
  | zero => exact ⟨[], by simp [digitBytes]⟩
  | succ count ih =>
    obtain ⟨rest, hrest⟩ := ih (n / 64)
    refine ⟨rest ++ [UInt8.ofNat (0x80 + n % 64)], ?_⟩
    rw [digitBytes, hrest, Nat.div_div_eq_div_mul, Nat.pow_succ', List.cons_append]

/-- Forms of one length have the order of the numbers. -/
theorem firstBelow_digitBytes {mark count k n : Nat} (h : k < n)
    (hfirst : mark + n / 64 ^ count < 256) :
    FirstBelow (digitBytes mark count k) (digitBytes mark count n) := by
  induction count generalizing k n with
  | zero =>
    rw [Nat.pow_zero, Nat.div_one] at hfirst
    exact .of_lt (by omega) hfirst
  | succ count ih =>
    rw [Nat.pow_succ', ← Nat.div_div_eq_div_mul] at hfirst
    rw [digitBytes, digitBytes]
    -- The numbers differ before the last digit, or else in the last digit.
    rcases (Nat.div_le_div_right h.le : k / 64 ≤ n / 64).lt_or_eq with hbefore | hbefore
    · exact (ih hbefore hfirst).append _ _
    · rw [hbefore]
      exact (FirstBelow.of_lt (by omega) (by omega)).append_left _

/-- What the first byte in the form of a scalar value holds. -/
def firstByte (n : Nat) : Nat :=
  firstMark (followers n) + n / 64 ^ followers n

/-- What the first byte holds fits into a byte. -/
theorem firstByte_lt {n : Nat} (h : n < 0x110000) : firstByte n < 256 := by
  unfold firstByte followers
  split_ifs
  all_goals
    simp only [firstMark]
    omega

/-- A greater scalar value has no shorter form. -/
theorem followers_mono {k n : Nat} (h : k ≤ n) : followers k ≤ followers n := by
  unfold followers
  split_ifs
  all_goals omega

/-- A longer form has a greater first byte, whatever the digits are. -/
theorem firstByte_lt_of_followers_lt {k n : Nat} (h : followers k < followers n) :
    firstByte k < firstByte n := by
  unfold firstByte followers at *
  -- The leading digit is too small to reach the mark of the next length.
  split_ifs at *
  all_goals
    simp only [firstMark]
    omega

/-- The form of the lesser character is below that of the greater one. -/
theorem firstBelow_utf8EncodeChar {c d : Char} (h : c.toNat < d.toNat) :
    FirstBelow (String.utf8EncodeChar c) (String.utf8EncodeChar d) := by
  have hbyte : firstByte d.toNat < 256 := firstByte_lt (scalar_lt d)
  rw [utf8EncodeChar_eq, utf8EncodeChar_eq]
  rcases (followers_mono h.le).lt_or_eq with hlength | hlength
  · -- The first bytes differ already.
    obtain ⟨x, hx⟩ := exists_digitBytes_eq (firstMark (followers c.toNat)) _ c.toNat
    obtain ⟨y, hy⟩ := exists_digitBytes_eq (firstMark (followers d.toNat)) _ d.toNat
    rw [hx, hy]
    exact .of_lt (firstByte_lt_of_followers_lt hlength) hbyte
  · rw [hlength]
    exact firstBelow_digitBytes h hbyte

/-! ## The bytes of a text -/

/-- The bytes of a text are those of its characters one after the other. -/
theorem toList_toUTF8 (s : String) :
    s.toUTF8.data.toList = s.toList.flatMap String.utf8EncodeChar := by
  calc s.toUTF8.data.toList = (String.ofList s.toList).toUTF8.data.toList := by
        rw [String.ofList_toList]
    _ = s.toList.flatMap String.utf8EncodeChar := List.toList_data_toByteArray

/-- Bytes that both texts start with can be left out. -/
theorem compare_append_left (front x y : List UInt8) :
    compare (front ++ x) (front ++ y) = compare x y := by
  induction front with
  | nil => rfl
  | cons b front ih =>
    rw [List.cons_append, List.cons_append, List.compare_cons_cons, Std.ReflOrd.compare_self, ih]
    rfl

/-- Characters that come first by their scalar values come first by their bytes. -/
theorem compare_bytes_of_lt {cs ds : List Char} (h : cs.map Char.toNat < ds.map Char.toNat) :
    compare (cs.flatMap String.utf8EncodeChar) (ds.flatMap String.utf8EncodeChar) = .lt := by
  induction cs generalizing ds with
  | nil =>
    cases ds with
    | nil => exact absurd h (lt_irrefl _)
    | cons d ds =>
      -- A character has at least one byte, and there is none to compare it with.
      obtain ⟨b, bytes, hbytes⟩ :=
        List.exists_cons_of_ne_nil (String.utf8EncodeChar_ne_nil (c := d))
      rw [List.flatMap_nil, List.flatMap_cons, hbytes, List.cons_append, List.compare_nil_cons]
  | cons c cs ih =>
    cases ds with
    | nil => exact absurd h (List.not_lt_nil _)
    | cons d ds =>
      rw [List.map_cons, List.map_cons, List.cons_lt_cons_iff] at h
      rw [List.flatMap_cons, List.flatMap_cons]
      rcases h with hless | ⟨hsame, hrest⟩
      · exact ((firstBelow_utf8EncodeChar hless).append _ _).compare_eq
      · rw [Char.toNat_inj.1 hsame, compare_append_left]
        exact ih hrest

/-- The order of two texts is that of their scalar values. -/
theorem compareText_eq (a b : String) :
    compareText a b = compareOfLessAndEq (scalars a) (scalars b) := by
  have hless : ∀ {s t : String}, scalars s < scalars t → compareText s t = .lt := by
    intro s t h
    unfold compareText
    rw [toList_toUTF8, toList_toUTF8]
    exact compare_bytes_of_lt h
  unfold compareOfLessAndEq
  rcases lt_trichotomy (scalars a) (scalars b) with h | h | h
  · rw [if_pos h]
    exact hless h
  · rw [if_neg h.not_lt, if_pos h, scalars_inj.1 h]
    exact Std.ReflOrd.compare_self
  · rw [if_neg h.not_gt, if_neg h.ne']
    have hswap : compareText a b = (compareText b a).swap := Std.OrientedOrd.eq_swap
    rw [hswap, hless h]
    rfl

/-! ## Comparisons -/

namespace Comparison

/-- What a comparison asks of two elements of an order. -/
def Holds {α : Type} [LinearOrder α] (c : Comparison) (x y : α) : Prop :=
  match c with
  | equal => x = y
  | notEqual => x ≠ y
  | less => x < y
  | lessEqual => x ≤ y
  | greater => y < x
  | greaterEqual => y ≤ x

/-- A comparison can be checked where the order can be. -/
instance {α : Type} [LinearOrder α] (c : Comparison) (x y : α) : Decidable (c.Holds x y) :=
  match c with
  | equal => inferInstanceAs (Decidable (x = y))
  | notEqual => inferInstanceAs (Decidable (x ≠ y))
  | less => inferInstanceAs (Decidable (x < y))
  | lessEqual => inferInstanceAs (Decidable (x ≤ y))
  | greater => inferInstanceAs (Decidable (y < x))
  | greaterEqual => inferInstanceAs (Decidable (y ≤ x))

end Comparison

namespace Value

/-- A comparison of two texts is answered as that of their scalar values. -/
theorem compare_string (c : Comparison) (a b : String) :
    compare c (.string a) (.string b) = .ok (decide (c.Holds (scalars a) (scalars b))) := by
  have horder : (Value.string a).order? (.string b) =
      some (compareOfLessAndEq (scalars a) (scalars b)) := congrArg some (compareText_eq a b)
  unfold compare
  rw [horder]
  unfold compareOfLessAndEq
  rcases lt_trichotomy (scalars a) (scalars b) with h | h | h
  · cases c
    all_goals simp [Comparison.Holds, h, h.le, h.ne, h.not_gt, h.not_ge]
  · cases c
    all_goals simp [Comparison.Holds, h]
  · cases c
    all_goals simp [Comparison.Holds, h, h.le, h.ne', h.not_gt, h.not_ge]

/-- The comparison of two texts is answered with yes. -/
def TextsAre (c : Comparison) (a b : String) : Prop :=
  compare c (.string a) (.string b) = .ok true

/-- Two texts compare as their scalar values do. -/
theorem textsAre_iff {c : Comparison} {a b : String} :
    TextsAre c a b ↔ c.Holds (scalars a) (scalars b) := by
  unfold TextsAre
  rw [compare_string, Except.ok.injEq, decide_eq_true_iff]

/-- Texts are compared by their Unicode scalar values in lexicographic order. On texts, being less
is a strict total order and being equal is being one text, and the other four comparisons follow
from these two. -/
theorem texts_ordered_by_scalars :
    (∀ c a b, compare c (.string a) (.string b) =
      .ok (decide (c.Holds (scalars a) (scalars b)))) ∧
    IsStrictTotalOrder String (TextsAre .less) ∧
    ∀ a b, (TextsAre .equal a b ↔ a = b) ∧
      (TextsAre .notEqual a b ↔ ¬ TextsAre .equal a b) ∧
      (TextsAre .lessEqual a b ↔ TextsAre .less a b ∨ TextsAre .equal a b) ∧
      (TextsAre .greater a b ↔ TextsAre .less b a) ∧
      (TextsAre .greaterEqual a b ↔ TextsAre .greater a b ∨ TextsAre .equal a b) := by
  refine ⟨compare_string, ?_, fun a b => ?_⟩
  · -- The order of texts is the lexicographic one, taken along the injective `scalars`.
    have hless : TextsAre .less = fun a b => scalars a < scalars b := by
      funext a b
      exact propext textsAre_iff
    rw [hless]
    exact
      { trichotomous := fun a b hab hba => scalars_inj.1 (le_antisymm (not_lt.1 hba) (not_lt.1 hab))
        irrefl := fun a => lt_irrefl (scalars a)
        trans := fun a b c => lt_trans }
  · refine ⟨textsAre_iff.trans scalars_inj, ?_, ?_, ?_, ?_⟩
    · rw [textsAre_iff, textsAre_iff]
      exact Iff.rfl
    · rw [textsAre_iff, textsAre_iff, textsAre_iff]
      exact le_iff_lt_or_eq
    · rw [textsAre_iff, textsAre_iff]
      exact Iff.rfl
    · rw [textsAre_iff, textsAre_iff, textsAre_iff]
      exact le_iff_lt_or_eq.trans (or_congr_right eq_comm)

/-- The last character of three bytes comes before the first one of four. -/
example : compare .less (.string "a\uFFFF") (.string "a𐀀") = .ok true := by decide +kernel

end Value

end BlockForth
