import BlockForth.Text.Pieces
import Mathlib.Data.Rat.Floor

/-!
# Cut and repeated texts

What cutting a text into chunks and repeating it give, apart from how they go through the text.

A list is cut into runs of one length when the runs make up the list, none of them is empty, and all
but the last have that length (`IsCut`). The cutting loop has full runs behind it at every point,
and a run that is not over yet, which takes as many more elements as it lacks (`isCut_runsFrom`).
How many runs there are follows from the lengths alone (`IsCut.length_eq`).

A text that is written several times has that many times its bytes (`utf8ByteSize_repeatText`).
-/

namespace BlockForth

/-! ## Cutting lists -/

/-- The pieces are the list, cut after every `size` elements. -/
structure IsCut {α : Type} (size : Nat) (l : List α) (pieces : List (List α)) : Prop where
  flatten_eq : pieces.flatten = l
  ne_nil : ∀ p ∈ pieces, p ≠ []
  length_le : ∀ p ∈ pieces, p.length ≤ size
  full : ∀ p ∈ pieces.dropLast, p.length = size

section Cut

variable {α : Type} {size : Nat} {l : List α} {pieces : List (List α)}

/-- Full runs are a list cut into them. -/
theorem isCut_flatten (hsize : 0 < size) (hfull : ∀ p ∈ pieces, p.length = size) :
    IsCut size pieces.flatten pieces where
  flatten_eq := rfl
  ne_nil p hp := by
    rintro rfl
    have hlength := hfull [] hp
    simp only [List.length_nil] at hlength
    omega
  length_le p hp := Nat.le_of_eq (hfull p hp)
  full p hp := hfull p (List.dropLast_subset pieces hp)

/-- A run that may be shorter comes last. -/
theorem isCut_concat {last : List α} (hfull : ∀ p ∈ pieces, p.length = size) (hlast : last ≠ [])
    (hle : last.length ≤ size) : IsCut size (pieces.flatten ++ last) (pieces ++ [last]) where
  flatten_eq := by simp
  ne_nil p hp := by
    rcases List.mem_append.1 hp with hp | hp
    · rintro rfl
      have hlength := hfull [] hp
      have hpos := List.length_pos_iff.2 hlast
      simp only [List.length_nil] at hlength
      omega
    · rwa [List.mem_singleton.1 hp]
  length_le p hp := by
    rcases List.mem_append.1 hp with hp | hp
    · exact Nat.le_of_eq (hfull p hp)
    · rwa [List.mem_singleton.1 hp]
  full p hp := by
    rw [List.dropLast_concat] at hp
    exact hfull p hp

/-- The loop has cut off full runs, and is in a run that takes `room` more elements. -/
theorem isCut_runsFrom {room : Nat} {run : List α} {runs : List (List α)} (hsize : 0 < size)
    (hroom : run.length + room = size) (hfull : ∀ p ∈ runs, p.length = size) :
    IsCut size (runs.reverse.flatten ++ run.reverse ++ l) (runsFrom size room run runs l) := by
  induction l generalizing room run runs with
  | nil =>
    have hfull' : ∀ p ∈ runs.reverse, p.length = size := by simpa using hfull
    rw [runsFrom, List.append_nil]
    by_cases hrun : run = []
    · -- No run was started, since the list is over, or empty altogether.
      subst hrun
      simpa using isCut_flatten hsize hfull'
    · have hlast : run.reverse ≠ [] := by simpa using hrun
      have hle : run.reverse.length ≤ size := by
        rw [List.length_reverse]
        omega
      simpa [hrun] using isCut_concat hfull' hlast hle
  | cons a rest ih =>
    cases room with
    | zero =>
      -- The run is full, and `a` starts the next one.
      have hnext : ∀ p ∈ run.reverse :: runs, p.length = size := by
        intro p hp
        rcases List.mem_cons.1 hp with rfl | hp
        · rw [List.length_reverse]
          omega
        · exact hfull p hp
      have hstart : [a].length + (size - 1) = size := by
        simp only [List.length_singleton]
        omega
      rw [runsFrom]
      simpa using ih hstart hnext
    | succ room =>
      have hlonger : (a :: run).length + room = size := by
        simp only [List.length_cons]
        omega
      rw [runsFrom]
      simpa using ih hlonger hfull

/-- The length of the list lies between that of the full runs and that of one run more. -/
theorem IsCut.length_bounds (h : IsCut size l pieces) :
    l.length ≤ pieces.length * size ∧ pieces.length * size < l.length + size ∨
      l = [] ∧ pieces = [] := by
  rcases List.eq_nil_or_concat pieces with rfl | ⟨front, last, rfl⟩
  · exact .inr ⟨h.flatten_eq.symm, rfl⟩
  · left
    have hfront : front.flatten.length = front.length * size := by
      have hfull := h.full
      rw [List.concat_eq_append, List.dropLast_concat] at hfull
      rw [List.length_flatten, List.map_eq_replicate_iff.2 hfull, List.sum_replicate_nat]
    have hlast : last ∈ front.concat last := by simp
    have hpos := List.length_pos_iff.2 (h.ne_nil last hlast)
    have hle := h.length_le last hlast
    rw [← h.flatten_eq]
    simp only [List.concat_eq_append, List.flatten_append, List.flatten_singleton,
      List.length_append, List.length_singleton, hfront, Nat.add_mul, Nat.one_mul]
    omega

/-- There are as many runs as the length holds the size, rounded up. -/
theorem IsCut.length_eq (h : IsCut size l pieces) (hsize : 0 < size) :
    (pieces.length : ℤ) = ⌈(l.length : ℚ) / size⌉ := by
  have hpos : (0 : ℚ) < size := by exact_mod_cast hsize
  symm
  rw [Int.ceil_eq_iff, div_le_iff₀ hpos, lt_div_iff₀ hpos]
  rcases h.length_bounds with ⟨hle, hlt⟩ | ⟨rfl, rfl⟩
  · constructor
    · have hlt' : (pieces.length : ℚ) * size < l.length + size := by exact_mod_cast hlt
      push_cast
      linarith
    · exact_mod_cast hle
  · simpa using hpos

end Cut

/-! ## Cutting texts -/

/-- The chunks are the text, cut after every `size` characters. -/
structure IsChunked (size : ℤ) (text : String) (chunks : List String) : Prop where
  join_eq : String.join chunks = text
  length_pos : ∀ c ∈ chunks, 0 < c.length
  length_le : ∀ c ∈ chunks, (c.length : ℤ) ≤ size
  full : ∀ c ∈ chunks.dropLast, (c.length : ℤ) = size
  count_eq : (chunks.length : ℤ) = ⌈(text.length : ℚ) / size⌉
  nil_of_empty : text = "" → chunks = []

/-- The chunks of a text are a cut of it. -/
theorem isCut_chunks {size : Nat} (hsize : 0 < size) (text : String) :
    IsCut size text.toList (runsFrom size size [] [] text.toList) := by
  have h : IsCut size ([].reverse.flatten ++ [].reverse ++ text.toList)
      (runsFrom size size [] [] text.toList) :=
    isCut_runsFrom hsize (Nat.zero_add size) (by simp)
  simpa using h

/-- The chunks of a text lose nothing of it. -/
theorem isChunked_chunks {size : Nat} (hsize : 0 < size) (text : String) :
    IsChunked size text (chunks size text) := by
  have h := isCut_chunks hsize text
  unfold chunks
  generalize runsFrom size size [] [] text.toList = runs at h
  refine ⟨?_, fun c hc => ?_, fun c hc => ?_, fun c hc => ?_, ?_, ?_⟩
  · rw [← String.toList_inj, String.toList_join, List.flatMap_map]
    simpa [List.flatMap_id] using h.flatten_eq
  · obtain ⟨p, hp, rfl⟩ := List.mem_map.1 hc
    rw [String.length_ofList]
    exact List.length_pos_iff.2 (h.ne_nil p hp)
  · obtain ⟨p, hp, rfl⟩ := List.mem_map.1 hc
    rw [String.length_ofList]
    exact_mod_cast h.length_le p hp
  · rw [← List.map_dropLast] at hc
    obtain ⟨p, hp, rfl⟩ := List.mem_map.1 hc
    rw [String.length_ofList]
    exact_mod_cast h.full p hp
  · rw [List.length_map, h.length_eq hsize, String.length_toList]
    simp
  · rintro rfl
    have hnil : runs.flatten = [] := h.flatten_eq
    rw [List.flatten_eq_nil_iff] at hnil
    rw [List.map_eq_nil_iff, List.eq_nil_iff_forall_not_mem]
    intro p hp
    exact h.ne_nil p hp (hnil p hp)

/-! ## Repeating texts -/

/-- Repeating the empty text gives the empty text. -/
theorem join_replicate_empty (count : Nat) : String.join (List.replicate count "") = "" := by
  induction count with
  | zero => rfl
  | succ count ih => rw [List.replicate_succ, String.join_cons, ih, String.append_empty]

/-- The empty text is no exception. -/
theorem repeatText_eq (text : String) (count : Nat) :
    repeatText text count = String.join (List.replicate count text) := by
  unfold repeatText
  split
  · rename_i h
    rw [String.isEmpty_iff.1 h, join_replicate_empty]
  · rfl

/-- A repeated text has as many bytes as its repetitions together. -/
theorem utf8ByteSize_repeatText (text : String) (count : Nat) :
    (repeatText text count).utf8ByteSize = text.utf8ByteSize * count := by
  rw [repeatText_eq]
  induction count with
  | zero => rfl
  | succ count ih =>
    rw [List.replicate_succ, String.join_cons, String.utf8ByteSize_append, ih, Nat.mul_succ,
      Nat.add_comm]

/-- Repeated spaces, as a list. -/
theorem repeatText_space (count : Nat) :
    repeatText " " count = String.ofList (List.replicate count ' ') := by
  rw [repeatText_eq, ← String.toList_inj, String.toList_join, String.toList_ofList]
  induction count with
  | zero => rfl
  | succ count ih => simpa [List.replicate_succ] using ih

end BlockForth
