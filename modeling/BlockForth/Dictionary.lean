import BlockForth.Token.Basic

/-!
# The dictionary of user words

Names do not depend on case, and a name has one entry. Defining it again replaces the entry, which
keeps its place in the order of first definitions.

The entries are a list in that order. Beside it is an index, which has the place of every name, so
that a name is looked up without going through the entries. The two are changed together, and the
dictionary carries the proof that they are in step.
-/

namespace BlockForth

/-- A user word. -/
structure Entry where
  /-- The name in lower case. -/
  name : String
  /-- Where the word was defined. -/
  location : Location
  /-- The tokens that the word stands for. -/
  body : List Token

/-- The form of an entry in a listing. -/
def Entry.text (e : Entry) : String :=
  "<" ++ e.name ++ ": " ++ " ".intercalate (e.body.map Token.text) ++ ">"

/-- The user words. -/
@[ext]
structure Dictionary where
  /-- The words, in the order in which their names were first defined. -/
  entries : List Entry
  /-- The place of every name among the words. -/
  index : List (String × Nat)
  /-- The index has the names of the words with their places, and no others. -/
  index_eq : index = (entries.map Entry.name).zipIdx
  /-- No two words have one name. -/
  nodup : (entries.map Entry.name).Nodup

namespace Dictionary

/-- There are no words at first. -/
instance : EmptyCollection Dictionary :=
  ⟨{ entries := [], index := [], index_eq := rfl, nodup := .nil }⟩

section Index

variable {d : Dictionary} {name : String} {i : Nat}

/-- The place that the index gives for a name is the place of a word with that name. -/
theorem getElem?_of_lookup (h : d.index.lookup name = some i) :
    (d.entries.map Entry.name)[i]? = some name := by
  obtain ⟨before, after, hindex, -⟩ := List.lookup_eq_some_iff.1 h
  have hmem : (name, i) ∈ (d.entries.map Entry.name).zipIdx := by
    rw [← d.index_eq, hindex]
    exact List.mem_append_right before List.mem_cons_self
  exact List.mem_zipIdx_iff_getElem?.1 hmem

/-- The place that the index gives for a name is that of a word. -/
theorem lt_length_of_lookup (h : d.index.lookup name = some i) : i < d.entries.length := by
  have hlt := (List.getElem?_eq_some_iff.1 (getElem?_of_lookup h)).1
  rwa [List.length_map] at hlt

/-- A name that is not in the index is that of no word. -/
theorem not_mem_of_lookup (h : d.index.lookup name = none) : name ∉ d.entries.map Entry.name := by
  intro hmem
  obtain ⟨i, hi⟩ := List.mem_iff_getElem?.1 hmem
  have hindex : (name, i) ∈ d.index := by
    rw [d.index_eq]
    exact List.mem_zipIdx_iff_getElem?.2 hi
  have hne := List.lookup_eq_none_iff.1 h _ hindex
  rw [bne_self_eq_false] at hne
  exact Bool.noConfusion hne

/-- Replacing a word by one with the same name leaves the names alone. -/
theorem map_name_set {e : Entry} (h : d.index.lookup e.name = some i) :
    (d.entries.set i e).map Entry.name = d.entries.map Entry.name := by
  rw [List.map_set]
  apply List.ext_getElem?
  intro j
  rw [List.getElem?_set]
  split
  · rename_i hij
    subst hij
    rw [if_pos (by rw [List.length_map]; exact lt_length_of_lookup h), getElem?_of_lookup h]
  · rfl

end Index

/-- How many words there are. -/
def size (d : Dictionary) : Nat :=
  d.entries.length

/-- Whether there is no word. -/
def isEmpty (d : Dictionary) : Bool :=
  d.entries.isEmpty

/-- The entry of a name, in any case. -/
def find? (d : Dictionary) (name : String) : Option Entry :=
  match h : d.index.lookup (lowercase name) with
  | some i => some (d.entries.get ⟨i, lt_length_of_lookup h⟩)
  | none => none

/-- Whether a name, in any case, has an entry. -/
def contains (d : Dictionary) (name : String) : Bool :=
  (d.find? name).isSome

/-- Defines a word, in place of an earlier one with the same name in any case, and says whether
there was one. -/
def containsThenInsert (d : Dictionary) (name : String) (location : Location) (body : List Token) :
    Bool × Dictionary :=
  let e : Entry := ⟨lowercase name, location, body⟩
  match h : d.index.lookup e.name with
  | some i =>
    (true,
      { entries := d.entries.set i e
        index := d.index
        index_eq := by rw [map_name_set h, d.index_eq]
        nodup := by rw [map_name_set h]; exact d.nodup })
  | none =>
    (false,
      { entries := d.entries ++ [e]
        index := d.index ++ [(e.name, d.entries.length)]
        index_eq := by
          rw [List.map_append, List.zipIdx_append, d.index_eq, List.length_map, Nat.zero_add]
          rfl
        nodup := by
          rw [List.map_append, List.nodup_append]
          refine ⟨d.nodup, List.nodup_cons.2 ⟨List.not_mem_nil, .nil⟩, fun a ha b hb hab => ?_⟩
          rw [List.mem_singleton.1 hb] at hab
          exact not_mem_of_lookup h (hab ▸ ha) })

/-- Defines a word, in place of an earlier one with the same name in any case. -/
def insert (d : Dictionary) (name : String) (location : Location) (body : List Token) :
    Dictionary :=
  (d.containsThenInsert name location body).2

/-- The listing of the words. -/
def listing (d : Dictionary) : String :=
  "[" ++ ", ".intercalate (d.entries.map Entry.text) ++ "]"

end Dictionary

end BlockForth
