import BlockForth.Proofs.Machine.Operands
import BlockForth.Proofs.Text.Pieces

/-!
# Words that repeat and cut texts

The words `*` and `spaces` write a text several times, within a limit on the bytes of the result.
The limit is exact (`repetition_limit_exact`). It is checked before anything is built, on a product
that need not fit into a machine word. A product that does not fit is beyond the limit as well
(`checkLength_lengthTimes`), and never counts as the small number that it would wrap around to.

The word `/` cuts a text into chunks and puts all of them on the stack, the first one undermost.
Nothing of the text is lost (`divide_text`). There is no chunk size below one.
-/

namespace BlockForth

/-! ## The limit -/

/-- The limit for texts is a word. -/
theorem maxTextBytes_lt : maxTextBytes < UInt64.size := by decide

/-- The check of a product is one of the product itself, whether it fits into a word or not. -/
theorem checkLength_lengthTimes (length count : Nat) (operator : String) :
    checkLength (lengthTimes length count) operator =
      if length * count ≤ maxTextBytes then .ok () else .error (.textTooLong operator) := by
  unfold lengthTimes
  by_cases hfits : length * count < UInt64.size
  · rw [if_pos hfits]
    rfl
  · -- What does not fit into a word is beyond the limit.
    have hlimit := maxTextBytes_lt
    rw [if_neg hfits, if_neg (by omega)]
    rfl

/-- A count is the integer, or zero for a negative one. -/
theorem countOf_eq {n : Int64} {c : Nat} (hc : (c : Int) = max n.toInt 0) : countOf n = c := by
  unfold countOf
  omega

/-- The result is `v` if the length is within the limit, and the fault of the limit otherwise. -/
structure Limited (length : Nat) (v : Value) (result : Except Cause Value) : Prop where
  ok_iff : result = .ok v ↔ length ≤ maxTextBytes
  limit_iff : (∃ cause, result = .error cause ∧ cause.kind = .limit) ↔ ¬ length ≤ maxTextBytes

/-- A repeated text is there exactly if its bytes are within the limit. -/
theorem limited_repeated (s : String) (n : Int64) :
    Limited (s.utf8ByteSize * countOf n) (.string (repeatText s (countOf n)))
      (Value.repeated s n) := by
  unfold Value.repeated
  rw [checkLength_lengthTimes]
  by_cases hwithin : s.utf8ByteSize * countOf n ≤ maxTextBytes
  · rw [if_pos hwithin]
    refine ⟨iff_of_true rfl hwithin, iff_of_false ?_ (not_not_intro hwithin)⟩
    rintro ⟨cause, hcause, -⟩
    cases hcause
  · rw [if_neg hwithin]
    refine ⟨iff_of_false ?_ hwithin, iff_of_true ⟨.textTooLong "*", rfl, rfl⟩ hwithin⟩
    intro hok
    cases hok

namespace Machine

variable {m : Machine} {w : Builtin} {base : List Value}

/-- The word succeeds, appends this text to the output, and leaves these values on the stack, top
first. Outside of the stack and the output nothing changes. -/
def Writes (m : Machine) (w : Builtin) (text : String) (values : List Value) : Prop :=
  ∃ s, m.perform w = .done { m with stack := s, output := m.output ++ text } ∧ s.values = values

/-- A word that fails writes nothing. -/
theorem Refuses.not_writes {kind : FaultKind} (h : m.Refuses w kind) (text : String)
    (values : List Value) : ¬ m.Writes w text values := by
  obtain ⟨f, hf, -⟩ := h
  rintro ⟨s, hs, -⟩
  rw [hf] at hs
  exact absurd (congrArg Outcome.fault hs) (Option.some_ne_none f)

/-- What `spaces` does with an integer on top, up to the check of the length. -/
theorem exists_perform_spaces {n : Int64} (h : m.stack.values = .int n :: base) :
    ∃ s : Stack, s.values = base ∧ m.perform .spaces =
      m.given (checkLength (some (countOf n)) "spaces") fun _ =>
        .done ({ m with stack := s }.write (repeatText " " (countOf n))) := by
  obtain ⟨s, hpop, hs⟩ := Stack.exists_popInt h
  refine ⟨s, hs, ?_⟩
  rw [perform_eq_performAtOnce, performAtOnce, hpop]
  rfl

/-- Within the limit, `spaces` takes the integer off and writes as many spaces. -/
theorem spaces_writes {n : Int64} (h : m.stack.values = .int n :: base)
    (hwithin : countOf n ≤ maxTextBytes) :
    m.Writes .spaces (repeatText " " (countOf n)) base := by
  obtain ⟨s, hs, hperform⟩ := exists_perform_spaces h
  have hcheck : checkLength (some (countOf n)) "spaces" = .ok () := if_pos hwithin
  rw [hcheck] at hperform
  exact ⟨s, hperform, hs⟩

/-- Beyond the limit, `spaces` fails. -/
theorem spaces_refuses {n : Int64} (h : m.stack.values = .int n :: base)
    (hbeyond : ¬ countOf n ≤ maxTextBytes) : m.Refuses .spaces .limit := by
  obtain ⟨s, -, hperform⟩ := exists_perform_spaces h
  have hcheck : checkLength (some (countOf n)) "spaces" = .error (.textTooLong "spaces") :=
    if_neg hbeyond
  rw [hcheck] at hperform
  exact ⟨.bare (.textTooLong "spaces"), hperform, rfl⟩

/-- A text is repeated as often as a count asks, a negative count being zero, exactly if the bytes
of the result are within the limit, and so are spaces. Otherwise the limit is the fault, and nothing
changes. -/
theorem repetition_limit_exact (s : String) (n : Int64) (c : Nat) (hc : (c : Int) = max n.toInt 0)
    (m : Machine) (base : List Value) (h : m.stack.values = .int n :: base) :
    Limited (s.utf8ByteSize * c) (.string (String.join (List.replicate c s)))
        ((Value.string s).multiply (.int n)) ∧
      Limited (s.utf8ByteSize * c) (.string (String.join (List.replicate c s)))
        ((Value.int n).multiply (.string s)) ∧
      (String.join (List.replicate c s)).utf8ByteSize = s.utf8ByteSize * c ∧
      (m.Writes .spaces (String.ofList (List.replicate c ' ')) base ↔ c ≤ maxTextBytes) ∧
      (m.Refuses .spaces .limit ↔ ¬ c ≤ maxTextBytes) := by
  have hcount := countOf_eq hc
  have hrepeated := limited_repeated s n
  rw [hcount, repeatText_eq] at hrepeated
  have hsize := utf8ByteSize_repeatText s c
  rw [repeatText_eq] at hsize
  have hspaces : repeatText " " (countOf n) = String.ofList (List.replicate c ' ') := by
    rw [hcount]
    exact repeatText_space c
  refine ⟨hrepeated, hrepeated, hsize, ?_⟩
  rw [← hspaces]
  by_cases hwithin : c ≤ maxTextBytes
  · have hwrites := spaces_writes h (hcount.symm ▸ hwithin)
    exact ⟨iff_of_true hwrites hwithin,
      iff_of_false (fun hrefuses => hrefuses.not_writes _ _ hwrites) (not_not_intro hwithin)⟩
  · have hrefuses := spaces_refuses h (hcount.symm ▸ hwithin)
    exact ⟨iff_of_false (hrefuses.not_writes _ _) hwithin, iff_of_true hrefuses hwithin⟩

/-- A machine that has written something, with a count on its stack. -/
def spacing (n : Int64) : Machine where
  stack := (Stack.empty.push (.string "x")).push (.int n)
  output := "so far"

/-- Four bytes times `2^62` wraps around to nothing in a machine word, and is refused. -/
theorem repetition_limit_exact_wrapping :
    "abcd".utf8ByteSize * 4611686018427387904 % UInt64.size = 0 ∧
      (∃ cause, (Value.string "abcd").multiply (.int 4611686018427387904) = .error cause ∧
        cause.kind = .limit) ∧
      (spacing 4611686018427387904).Refuses .spaces .limit ∧
      (Value.int (-3)).multiply (.string "abcd") = .ok (.string "") ∧
      (spacing 2).Writes .spaces "  " [.string "x"] := by
  have hfour : "abcd".utf8ByteSize = 4 := by decide
  have hlarge : (4611686018427387904 : Nat) = max (4611686018427387904 : Int64).toInt 0 := by decide
  obtain ⟨hleft, -, -, -, hspaces⟩ := repetition_limit_exact "abcd" 4611686018427387904
    4611686018427387904 hlarge (spacing 4611686018427387904) [.string "x"] rfl
  obtain ⟨-, hright, -, -, -⟩ := repetition_limit_exact "abcd" (-3) 0 (by decide) (spacing (-3))
    [.string "x"] rfl
  obtain ⟨-, -, -, hwrites, -⟩ := repetition_limit_exact "abcd" 2 2 (by decide) (spacing 2)
    [.string "x"] rfl
  rw [hfour] at hleft
  refine ⟨by rw [hfour]; decide, hleft.limit_iff.2 (by decide), hspaces.2 (by decide), ?_, ?_⟩
  · exact hright.ok_iff.2 (by decide)
  · exact hwrites.2 (by decide)

/-! ## Chunks -/

section Divide

variable {a b : Value}

/-- The word `/` puts all results in the place of the operands. -/
theorem exists_perform_divide (h : m.stack.values = b :: a :: base) :
    ∃ u : Stack, u.values = base ∧
      m.perform .divide = m.onStack ((a.divide b).map u.pushAll) := by
  obtain ⟨t, u, hb, ha, hu⟩ := Stack.exists_pop_pop h
  refine ⟨u, hu, ?_⟩
  rw [perform_eq_performAtOnce, performAtOnce]
  simp only [hb, ha, bind, Except.bind]
  rcases a.divide b with cause | vs
  · rfl
  · rfl

/-- A division that has results leaves them in place of its operands, the last one on top. -/
theorem leaves_of_divide (h : m.stack.values = b :: a :: base) {vs : List Value}
    (hvs : a.divide b = .ok vs) : m.Leaves .divide (vs.reverse ++ base) := by
  obtain ⟨u, hu, hperform⟩ := exists_perform_divide h
  rw [hvs] at hperform
  exact ⟨u.pushAll vs, hperform, by rw [Stack.values_pushAll, hu]⟩

/-- A division without results fails as the operator does. -/
theorem refuses_of_divide (h : m.stack.values = b :: a :: base) {cause : Cause}
    (hcause : a.divide b = .error cause) : m.Refuses .divide cause.kind := by
  obtain ⟨u, -, hperform⟩ := exists_perform_divide h
  rw [hcause] at hperform
  exact ⟨.bare cause, hperform, rfl⟩

end Divide

/-- Cutting a text puts chunks on the stack that make up the text, each of the size asked for, but
for the last one, which may be shorter. A size that is not positive is refused. -/
theorem divide_text (m : Machine) (s : String) (n : Int64) (base : List Value)
    (h : m.stack.values = .int n :: .string s :: base) :
    (0 < n → ∃ chunks, IsChunked n.toInt s chunks ∧
      m.Leaves .divide ((chunks.map Value.string).reverse ++ base)) ∧
    (n ≤ 0 → m.Refuses .divide .type) := by
  constructor
  · intro hpos
    have hsize : (countOf n : Int) = n.toInt ∧ 0 < countOf n := by
      have hlt : (0 : Int) < n.toInt := Int64.lt_iff_toInt_lt.1 hpos
      unfold countOf
      omega
    have hdivide : (Value.string s).divide (.int n) = .ok ((chunks (countOf n) s).map .string) :=
      if_neg fun hle => absurd (Int64.le_iff_toInt_le.1 hle)
        (Int.not_le.2 (Int64.lt_iff_toInt_lt.1 hpos))
    refine ⟨chunks (countOf n) s, ?_, leaves_of_divide h hdivide⟩
    rw [← hsize.1]
    exact isChunked_chunks hsize.2 s
  · intro hle
    have hdivide : (Value.string s).divide (.int n) = .error (.chunkSize n) := if_pos hle
    exact refuses_of_divide h hdivide

/-- A machine with a text of five characters, one of which has four bytes, and a chunk size. -/
def splitting (n : Int64) : Machine where
  stack := ((Stack.empty.push (.int 7)).push (.string "ab😀de")).push (.int n)

/-- Chunks of two characters: the first one is undermost, and the last one is shorter. -/
theorem divide_text_pairs :
    (splitting 2).Leaves .divide [.string "e", .string "😀d", .string "ab", .int 7] ∧
      (splitting 0).Refuses .divide .type := by
  have htwo : (2 : Int64).toInt = 2 := by decide
  obtain ⟨chunks, hchunks, hleaves⟩ :=
    (divide_text (splitting 2) "ab😀de" 2 [.int 7] rfl).1 (by decide)
  rw [htwo] at hchunks
  have hcount : (chunks.length : ℤ) = 3 := by
    rw [hchunks.count_eq, show "ab😀de".length = 5 by decide, Int.ceil_eq_iff]
    norm_num
  obtain ⟨x, y, z, rfl⟩ : ∃ x y z, chunks = [x, y, z] := List.length_eq_three.1 (by omega)
  have hx : (x.length : ℤ) = 2 := hchunks.full x (by simp)
  have hy : (y.length : ℤ) = 2 := hchunks.full y (by simp)
  have hjoin : x.toList ++ (y.toList ++ z.toList) = "ab".toList ++ ("😀d".toList ++ "e".toList) := by
    have hlist := congrArg String.toList hchunks.join_eq
    rw [String.toList_join] at hlist
    simpa using hlist
  -- The lengths of the full chunks say where the text was cut.
  obtain ⟨hfirst, hrest⟩ := List.append_inj hjoin (by rw [String.length_toList]; simp; omega)
  obtain ⟨hsecond, hthird⟩ := List.append_inj hrest (by rw [String.length_toList]; simp; omega)
  rw [String.toList_inj.1 hfirst, String.toList_inj.1 hsecond,
    String.toList_inj.1 hthird] at hleaves
  exact ⟨hleaves, (divide_text (splitting 0) "ab😀de" 0 [.int 7] rfl).2 (by decide)⟩

end Machine

end BlockForth
