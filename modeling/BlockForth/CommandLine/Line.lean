import BlockForth.Text.Bytes
import BlockForth.Text.Cluster

/-!
# Lines of input

An interactive session reads its input line by line. A line ends with a newline, and a carriage
return before it is dropped as well. A backspace in a line deletes the grapheme cluster before it,
as it would while the line is typed.

The size of a cluster is held in a byte. So a backspace after a cluster of 256 bytes or more deletes
too little, and it fails if that would leave a part of a character. `Line.edit?_eq` says that a line
without backspaces is no special case.
-/

namespace BlockForth.Line

/-- The lines of a text, each with its newline. `line` holds the current line, last character first,
and `lines` the lines before it, last one first. -/
def splitFrom (line : List Char) (lines : List (List Char)) : List Char → List (List Char)
  | [] => (if line.isEmpty then lines else line.reverse :: lines).reverse
  | c :: rest =>
    if c = '\n' then splitFrom [] ((c :: line).reverse :: lines) rest
    else splitFrom (c :: line) lines rest

/-- The lines of a text, each with its newline. -/
def ofText (text : String) : List (List Char) :=
  splitFrom [] [] text.toList

/-- A line without its newline and a carriage return before that. -/
def chomp (line : List Char) : List Char :=
  match line.reverse with
  | '\n' :: '\r' :: rest => rest.reverse
  | '\n' :: rest => rest.reverse
  | _ => line

/-- The character that deletes the cluster before it. -/
def backspace : Char := '\x08'

/-- What has been typed of a line. -/
structure Typed where
  /-- The characters, last one first. -/
  kept : List Char := []
  /-- The sizes of the clusters that can be deleted, last one first. -/
  sizes : List UInt8 := []
deriving DecidableEq, Repr

/-- The size of a cluster in bytes, modulo 256. -/
def clusterSize (cluster : List Char) : UInt8 :=
  (byteSize cluster).toUInt8

/-- Types a cluster, or deletes the last one. There may be none to delete. -/
def type? (t : Typed) (cluster : List Char) : Option Typed :=
  if cluster = [backspace] then
    match t.sizes with
    | [] => some t
    | size :: sizes => (dropBytes? size.toNat t.kept).map fun kept => { kept, sizes }
  else some { kept := cluster.reverse ++ t.kept, sizes := clusterSize cluster :: t.sizes }

/-- The text that is left when the clusters are typed one after the other. -/
def typeAll? (clusters : List (List Char)) : Option (List Char) :=
  (clusters.foldlM type? {}).map (·.kept.reverse)

/-- A line after its backspaces. Most lines have none. -/
def edit? (line : List Char) : Option (List Char) :=
  if line.contains backspace then typeAll? (clusters line) else some line

/-- Reads a line. -/
def read? (line : List Char) : Option String :=
  (edit? (chomp line)).map String.ofList

/-- Clusters other than a backspace are kept. -/
theorem foldlM_type?_of_not_mem (gs : List (List Char)) (t : Typed) (h : [backspace] ∉ gs) :
    ∃ sizes, gs.foldlM type? t = some { kept := gs.flatten.reverse ++ t.kept, sizes } := by
  induction gs generalizing t with
  | nil => exact ⟨t.sizes, rfl⟩
  | cons g rest ih =>
    rw [List.mem_cons, not_or] at h
    have hg : type? t g = some ⟨g.reverse ++ t.kept, clusterSize g :: t.sizes⟩ :=
      if_neg (Ne.symm h.1)
    obtain ⟨sizes, hrest⟩ := ih ⟨g.reverse ++ t.kept, clusterSize g :: t.sizes⟩ h.2
    refine ⟨sizes, ?_⟩
    rw [List.foldlM_cons, hg]
    simpa using hrest

/-- Editing has one rule for every line. -/
theorem edit?_eq (line : List Char) : edit? line = typeAll? (clusters line) := by
  by_cases h : line.contains backspace = true
  · simp only [edit?, h, if_true]
  · have hmem : [backspace] ∉ clusters line := by
      intro hg
      have hb : backspace ∈ (clusters line).flatten :=
        List.mem_flatten.mpr ⟨_, hg, List.mem_singleton.mpr rfl⟩
      rw [flatten_clusters] at hb
      exact h (List.contains_iff_mem.mpr hb)
    obtain ⟨sizes, htyped⟩ := foldlM_type?_of_not_mem _ {} hmem
    simp [edit?, typeAll?, htyped, flatten_clusters]

end BlockForth.Line
