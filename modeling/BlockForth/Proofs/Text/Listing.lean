import BlockForth.Proofs.Number.Numeral
import BlockForth.Stack
import Mathlib.Data.Int.Notation
import Mathlib.Data.List.Basic

/-!
# Listings of the stack

A listing shows what the stack holds: integers and texts that are listed differently are different,
and so are the stacks (`Stack.listing_eq_iff`). A text may hold quotes, commas, brackets, or a whole
listing of its own, but it cannot feign the end of its listing form, since the quotes in it have
backslashes before them, and so have the backslashes.

Listing forms are told apart with anything behind them. A listed character is either a backslash and
a letter, or the character itself (`Quoted.listingChar_cases`), so that the next character of a text
can be read off, and the quote at its end too. An integer ends where its digits do.
-/

namespace BlockForth

namespace Quoted

/-- The character that a backslash and this character stand for in a listing. -/
def listedChar (d : Char) : Char :=
  match d with
  | 'n' => '\n'
  | 'r' => '\r'
  | 't' => '\t'
  | d => d

/-- A character is listed as a backslash and a letter for it, or as itself. -/
theorem listingChar_cases (c : Char) :
    (∃ d, listingChar c = ['\\', d] ∧ listedChar d = c) ∨
      listingChar c = [c] ∧ c ≠ '\\' ∧ c ≠ '"' := by
  unfold listingChar
  split
  case h_6 hquote _ _ _ hbackslash => exact .inr ⟨rfl, hbackslash, hquote⟩
  all_goals exact .inl ⟨_, rfl, rfl⟩

/-- Listed characters are told apart with anything behind them. -/
theorem listingChar_append_inj {c d : Char} {x y : List Char}
    (h : listingChar c ++ x = listingChar d ++ y) : c = d ∧ x = y := by
  rcases listingChar_cases c with ⟨c', hc, rfl⟩ | ⟨hc, hc', -⟩ <;>
  rcases listingChar_cases d with ⟨d', hd, rfl⟩ | ⟨hd, hd', -⟩
  all_goals
    rw [hc, hd] at h
    injection h with hhead htail
  · injection htail with hletter hrest
    exact ⟨congrArg listedChar hletter, hrest⟩
  · exact absurd hhead.symm hd'
  · exact absurd hhead hc'
  · exact ⟨hhead, htail⟩

/-- No listed character looks like the quote at the end. -/
theorem listingChar_append_ne (c : Char) (x y : List Char) : listingChar c ++ x ≠ '"' :: y := by
  intro h
  rcases listingChar_cases c with ⟨d, hc, -⟩ | ⟨hc, -, hquote⟩
  · rw [hc] at h
    exact absurd (List.cons.inj h).1 (by decide)
  · rw [hc] at h
    exact hquote (List.cons.inj h).1

/-- Listed texts are told apart with anything behind the quote at their end. -/
theorem flatMap_listingChar_append_inj {s t x y : List Char}
    (h : s.flatMap listingChar ++ '"' :: x = t.flatMap listingChar ++ '"' :: y) :
    s = t ∧ x = y := by
  induction s generalizing t with
  | nil =>
    cases t with
    | nil => exact ⟨rfl, (List.cons.inj h).2⟩
    | cons d t =>
      rw [List.flatMap_cons, List.append_assoc] at h
      exact absurd h.symm (listingChar_append_ne d _ x)
  | cons c s ih =>
    rw [List.flatMap_cons, List.append_assoc] at h
    cases t with
    | nil => exact absurd h (listingChar_append_ne c _ y)
    | cons d t =>
      rw [List.flatMap_cons, List.append_assoc] at h
      obtain ⟨rfl, hrest⟩ := listingChar_append_inj h
      obtain ⟨rfl, hend⟩ := ih hrest
      exact ⟨rfl, hend⟩

/-- A listed text stands between quotes, character by character. -/
theorem toList_listing (text : String) :
    (listing text).toList = '"' :: (text.toList.flatMap listingChar ++ ['"']) := by
  simp [listing]

end Quoted

/-! ## Integers -/

/-- Whether the character may belong to the decimal form of an integer. -/
def isDecimal (c : Char) : Bool :=
  c == '-' || c.isDigit

/-- The text does not go on with the decimal form of an integer. -/
def EndsDecimal (cs : List Char) : Prop :=
  ∀ c ∈ cs.head?, isDecimal c = false

/-- The decimal form of an integer has only digits and the sign in it. -/
theorem isDecimal_of_mem_repr {z : ℤ} {c : Char} (h : c ∈ z.repr.toList) : isDecimal c = true := by
  simpa [isDecimal] using Numeral.isDigit_of_mem_repr h

/-- The decimal form of an integer ends where the digits end. -/
theorem takeWhile_repr_append (z : ℤ) {x : List Char} (hx : EndsDecimal x) :
    (z.repr.toList ++ x).takeWhile isDecimal = z.repr.toList := by
  rw [List.takeWhile_append_of_pos fun c hc => isDecimal_of_mem_repr hc]
  rcases x with _ | ⟨c, x⟩
  · rw [List.takeWhile_nil, List.append_nil]
  · rw [List.takeWhile_cons_of_neg (by simp [hx c rfl]), List.append_nil]

/-- Integers are told apart with anything behind them that does not go on with digits. -/
theorem repr_append_inj {m n : ℤ} {x y : List Char} (hx : EndsDecimal x) (hy : EndsDecimal y)
    (h : m.repr.toList ++ x = n.repr.toList ++ y) : m = n ∧ x = y := by
  have hrepr : m.repr.toList = n.repr.toList := by
    rw [← takeWhile_repr_append m hx, h, takeWhile_repr_append n hy]
  -- Both integers are what their decimal form reads as.
  have hread : some (Numeral.integer m) = some (Numeral.integer n) := by
    rw [← Numeral.read?_repr m, hrepr, Numeral.read?_repr]
  rw [hrepr] at h
  exact ⟨Numeral.integer.inj (Option.some.inj hread), List.append_cancel_left h⟩

/-- An integer starts with a digit or a sign. -/
theorem repr_append_ne (z : ℤ) {c : Char} (hc : isDecimal c = false) (x y : List Char) :
    z.repr.toList ++ x ≠ c :: y := by
  obtain ⟨d, ds, hrepr⟩ := List.exists_cons_of_ne_nil (Numeral.repr_ne_nil z)
  have hd : isDecimal d = true := isDecimal_of_mem_repr (hrepr ▸ List.mem_cons_self)
  intro h
  rw [hrepr] at h
  rw [(List.cons.inj h).1, hc] at hd
  cases hd

/-! ## Values -/

namespace Value

/-- A text is listed as a quoted one. -/
theorem listing_string (s : String) : (string s).listing = Quoted.listing s := rfl

/-- Integers and texts are told apart with anything behind them that does not go on with digits. -/
theorem listing_append_inj {a b : Value} (ha : a.kind ≠ .float) (hb : b.kind ≠ .float)
    {x y : List Char} (hx : EndsDecimal x) (hy : EndsDecimal y)
    (h : a.listing.toList ++ x = b.listing.toList ++ y) : a = b ∧ x = y := by
  cases a with
  | float _ => exact absurd rfl ha
  | int m =>
    cases b with
    | float _ => exact absurd rfl hb
    | int n =>
      obtain ⟨hmn, hrest⟩ := repr_append_inj hx hy h
      exact ⟨congrArg int (Int64.toInt_inj.1 hmn), hrest⟩
    | string t =>
      -- No integer starts with a quote.
      rw [listing_string, Quoted.toList_listing] at h
      exact absurd h (repr_append_ne _ rfl _ _)
  | string s =>
    rw [listing_string, Quoted.toList_listing] at h
    cases b with
    | float _ => exact absurd rfl hb
    | int n => exact absurd h.symm (repr_append_ne _ rfl _ _)
    | string t =>
      rw [listing_string, Quoted.toList_listing, List.cons_append, List.cons_append,
        List.append_assoc, List.append_assoc] at h
      obtain ⟨hst, hrest⟩ := Quoted.flatMap_listingChar_append_inj (List.cons.inj h).2
      exact ⟨congrArg string (String.toList_inj.1 hst), hrest⟩

/-- No integer or text looks like the end of a listing. -/
theorem listing_append_ne {a : Value} (ha : a.kind ≠ .float) (x y : List Char) :
    a.listing.toList ++ x ≠ ']' :: y := by
  cases a with
  | float _ => exact absurd rfl ha
  | int n => exact repr_append_ne _ rfl _ _
  | string s =>
    rw [listing_string, Quoted.toList_listing]
    exact fun h => absurd (List.cons.inj h).1 (by decide)

/-- The listing behind a value, up to the end. -/
def listingBehind : List Value → List Char
  | [] => [']']
  | v :: vs => ',' :: ' ' :: (v.listing.toList ++ listingBehind vs)

/-- What comes behind a value in a listing does not go on with digits. -/
theorem endsDecimal_listingBehind (vs : List Value) : EndsDecimal (listingBehind vs) := by
  cases vs <;> rintro _ ⟨⟩ <;> rfl

/-- Lists without doubles are told apart by what is listed of them, value by value. -/
theorem listingBehind_inj {vs ws : List Value} (hvs : ∀ v ∈ vs, v.kind ≠ .float)
    (hws : ∀ v ∈ ws, v.kind ≠ .float) (h : listingBehind vs = listingBehind ws) : vs = ws := by
  induction vs generalizing ws with
  | nil =>
    cases ws with
    | nil => rfl
    | cons w ws => exact absurd (List.cons.inj h).1 (by decide)
  | cons v vs ih =>
    cases ws with
    | nil => exact absurd (List.cons.inj h).1 (by decide)
    | cons w ws =>
      rw [List.forall_mem_cons] at hvs hws
      obtain ⟨rfl, hbehind⟩ := listing_append_inj hvs.1 hws.1 (endsDecimal_listingBehind vs)
        (endsDecimal_listingBehind ws) (List.cons.inj (List.cons.inj h).2).2
      rw [ih hvs.2 hws.2 hbehind]

/-- The listing behind the opening bracket. -/
def listingInside : List Value → List Char
  | [] => [']']
  | v :: vs => v.listing.toList ++ listingBehind vs

/-- Lists of integers and texts are told apart by their listings. -/
theorem listingInside_inj {vs ws : List Value} (hvs : ∀ v ∈ vs, v.kind ≠ .float)
    (hws : ∀ v ∈ ws, v.kind ≠ .float) (h : listingInside vs = listingInside ws) : vs = ws := by
  cases vs with
  | nil =>
    cases ws with
    | nil => rfl
    | cons w ws => exact absurd h.symm (listing_append_ne (hws w List.mem_cons_self) _ _)
  | cons v vs =>
    cases ws with
    | nil => exact absurd h (listing_append_ne (hvs v List.mem_cons_self) _ _)
    | cons w ws =>
      rw [List.forall_mem_cons] at hvs hws
      obtain ⟨rfl, hbehind⟩ := listing_append_inj hvs.1 hws.1 (endsDecimal_listingBehind vs)
        (endsDecimal_listingBehind ws) h
      rw [listingBehind_inj hvs.2 hws.2 hbehind]

/-- The values with commas between them, up to the closing bracket. -/
theorem toList_intercalate_listing (vs : List Value) :
    (", ".intercalate (vs.map listing)).toList ++ [']'] = listingInside vs := by
  cases vs with
  | nil => rfl
  | cons v vs =>
    rw [listingInside]
    induction vs generalizing v with
    | nil => simp [listingBehind]
    | cons w vs ih =>
      rw [List.map_cons, List.map_cons, String.intercalate_cons_cons, ← List.map_cons,
        String.toList_append, String.toList_append, List.append_assoc, ih, List.append_assoc]
      rfl

end Value

/-! ## Stacks -/

namespace Stack

/-- The listing of a stack starts with a bracket and goes from the bottom up. -/
theorem toList_listing (s : Stack) :
    s.listing.toList = '[' :: Value.listingInside s.values.reverse := by
  rw [← Value.toList_intercalate_listing, listing, String.toList_append, String.toList_append]
  rfl

/-- Stacks of integers and texts have one listing exactly if they hold the same values in the same
order. -/
theorem listing_eq_iff (s t : Stack) (hs : ∀ v ∈ s.values, v.kind ≠ .float)
    (ht : ∀ v ∈ t.values, v.kind ≠ .float) : s.listing = t.listing ↔ s.values = t.values := by
  constructor
  · intro h
    have hinside : Value.listingInside s.values.reverse = Value.listingInside t.values.reverse := by
      have hchars := congrArg String.toList h
      rw [toList_listing, toList_listing] at hchars
      exact (List.cons.inj hchars).2
    apply List.reverse_injective
    refine Value.listingInside_inj (fun v hv => ?_) (fun v hv => ?_) hinside
    · exact hs v (List.mem_reverse.1 hv)
    · exact ht v (List.mem_reverse.1 hv)
  · intro h
    rw [listing, listing, h]

/-- A text that looks like two texts or like the end of a listing is not listed like them. -/
theorem listing_eq_iff_feigned :
    let feigned := Stack.empty.push (.string "a\", \"1]")
    let plain := (Stack.empty.push (.string "a")).push (.string "1]")
    (∀ v ∈ feigned.values, v.kind ≠ .float) ∧ (∀ v ∈ plain.values, v.kind ≠ .float) ∧
      feigned.listing ≠ plain.listing := by
  intro feigned plain
  have hfeigned : ∀ v ∈ feigned.values, v.kind ≠ .float := by decide
  have hplain : ∀ v ∈ plain.values, v.kind ≠ .float := by decide
  refine ⟨hfeigned, hplain, fun h => ?_⟩
  have hvalues := (listing_eq_iff feigned plain hfeigned hplain).1 h
  exact absurd (congrArg List.length hvalues) (by decide)

end Stack

end BlockForth
