import BlockForth.Proofs.Dictionary.Entries
import Mathlib.Data.Finset.Card
import Mathlib.Data.List.Induction

/-!
# The dictionary as a history of definitions

A dictionary remembers of its definitions the order in which the names came up first, and for each
name the last definition under it. Names that differ in case only are one name. `Records` states
this by the history alone, and `defineAll_records` shows it for every history from the empty
dictionary on. It also says what the definitions have answered, which is whether there was an
earlier one under the same name.

The proof carries two facts along the history (`Follows`): the names stand in the order of their
first occurrence, and looking for a name finds the entry of the last definition under it. One more
definition keeps both (`Follows.insert`), whether it finds its name in the index or adds it there.
That each entry of the listing is the last one under its name follows from the second, since no two
entries have one name.
-/

namespace BlockForth

/-- A definition as it is made, with its name in any case. -/
structure Definition where
  name : String
  location : Location
  body : List Token

namespace Definition

/-- The name in lower case, under which the definition is stored. -/
def key (x : Definition) : String :=
  lowercase x.name

/-- What the dictionary stores for the definition. -/
def entry (x : Definition) : Entry :=
  ⟨x.key, x.location, x.body⟩

/-! ## Histories -/

/-- The names of a history in lower case, one for each definition. -/
def keys (history : List Definition) : List String :=
  history.map Definition.key

/-- The last definition of a history under a name in lower case. -/
def lastUnder? (history : List Definition) (k : String) : Option Definition :=
  history.reverse.find? (·.key == k)

/-- One more definition adds its name at the end. -/
theorem keys_concat (history : List Definition) (x : Definition) :
    keys (history ++ [x]) = keys history ++ [x.key] := by
  simp [keys]

/-- The names of a history are those of its definitions. -/
theorem mem_keys {history : List Definition} {k : String} :
    k ∈ keys history ↔ ∃ x ∈ history, x.key = k := by
  simp [keys]

/-- One more definition is the last one under its name, and changes no other. -/
theorem lastUnder?_concat (history : List Definition) (x : Definition) (k : String) :
    lastUnder? (history ++ [x]) k = if x.key = k then some x else lastUnder? history k := by
  unfold lastUnder?
  rw [List.reverse_append, List.reverse_singleton, List.singleton_append]
  by_cases h : x.key = k
  · rw [List.find?_cons_of_pos (by simpa using h), if_pos h]
  · rw [List.find?_cons_of_neg (by simpa using h), if_neg h]

/-- The last definition under a name has none under that name behind it. -/
theorem exists_of_lastUnder? {history : List Definition} {k : String} {x : Definition}
    (h : lastUnder? history k = some x) :
    x.key = k ∧ ∃ earlier later, history = earlier ++ x :: later ∧ ∀ y ∈ later, y.key ≠ k := by
  obtain ⟨hx, later, earlier, hsplit, hlater⟩ := List.find?_eq_some_iff_append.1 h
  refine ⟨by simpa using hx, earlier.reverse, later.reverse, ?_, fun y hy => ?_⟩
  · rw [← List.reverse_reverse history, hsplit]
    simp
  · simpa using hlater y (List.mem_reverse.1 hy)

/-- There is a last definition under the names of the history. -/
theorem isSome_lastUnder? {history : List Definition} {k : String} :
    (lastUnder? history k).isSome ↔ k ∈ keys history := by
  simp [lastUnder?, keys]

end Definition

/-! ## One definition -/

namespace Dictionary

open Definition

/-- The dictionary has the names of the history in the order of their first occurrence, and finds
under each the entry of its last definition. -/
structure Follows (history : List Definition) (d : Dictionary) : Prop where
  mem_names : ∀ k, k ∈ d.names ↔ k ∈ keys history
  inOrder : d.names.Pairwise fun k k' => (keys history).idxOf k < (keys history).idxOf k'
  search_eq : ∀ k, d.entries.find? (·.name == k) = (lastUnder? history k).map Definition.entry

/-- Names that are in a history keep the index of their first occurrence when it goes on. -/
theorem Follows.inOrder_concat {history : List Definition} {d : Dictionary}
    (h : Follows history d) (x : Definition) :
    d.names.Pairwise fun k k' =>
      (keys (history ++ [x])).idxOf k < (keys (history ++ [x])).idxOf k' := by
  refine h.inOrder.imp_of_mem fun {k k'} hk hk' hlt => ?_
  rw [keys_concat, List.idxOf_append_of_mem ((h.mem_names k).1 hk),
    List.idxOf_append_of_mem ((h.mem_names k').1 hk')]
  exact hlt

/-- A name that is new to a history comes up first at its end. -/
theorem idxOf_lt_of_new {history : List Definition} {x : Definition} {k : String}
    (hk : k ∈ keys history) (hx : x.key ∉ keys history) :
    (keys (history ++ [x])).idxOf k < (keys (history ++ [x])).idxOf x.key := by
  have hold : (keys history).idxOf k < (keys history).length := List.idxOf_lt_length_iff.2 hk
  rw [keys_concat, List.idxOf_append_of_mem hk, List.idxOf_append_of_notMem hx]
  omega

/-- One more definition. -/
theorem Follows.insert {history : List Definition} {d : Dictionary} (h : Follows history d)
    (x : Definition) : Follows (history ++ [x]) (d.insert x.name x.location x.body) := by
  refine ⟨fun k => ?_, ?_, fun k => ?_⟩
  · have hnames : (d.insert x.name x.location x.body).names =
        if x.key ∈ d.names then d.names else d.names ++ [x.key] := names_insert d _ _ _
    rw [hnames, keys_concat, List.mem_append, List.mem_singleton, ← h.mem_names k]
    split
    · -- A name that is there already is no new one.
      rename_i hold
      constructor
      · exact .inl
      · rintro (hk | rfl)
        · exact hk
        · exact hold
    · rw [List.mem_append, List.mem_singleton]
  · have hnames : (d.insert x.name x.location x.body).names =
        if x.key ∈ d.names then d.names else d.names ++ [x.key] := names_insert d _ _ _
    rw [hnames]
    split
    · exact h.inOrder_concat x
    · rename_i hnew
      -- The new name stands behind all others in the listing, and in the history as well.
      rw [List.pairwise_append]
      refine ⟨h.inOrder_concat x, List.pairwise_singleton _ _, fun k hk k' hk' => ?_⟩
      rw [List.mem_singleton.1 hk']
      exact idxOf_lt_of_new ((h.mem_names k).1 hk) fun hx => hnew ((h.mem_names x.key).2 hx)
  · rw [entries_insert, find?_put, h.search_eq k, lastUnder?_concat]
    show (if x.key = k then _ else _) = _
    split
    · rfl
    · rfl

/-! ## Histories of definitions -/

/-- Makes one more definition, and puts its answer behind the answers before. -/
def addDefinition (run : List Bool × Dictionary) (x : Definition) : List Bool × Dictionary :=
  let (replaced, d) := run.2.containsThenInsert x.name x.location x.body
  (run.1 ++ [replaced], d)

/-- Makes the definitions one after the other, starting without words. Gives their answers, and the
dictionary that they leave. -/
def defineAll (history : List Definition) : List Bool × Dictionary :=
  history.foldl addDefinition ([], {})

/-- One more definition is made on the dictionary of those before it, and its answer comes last. -/
theorem defineAll_concat (history : List Definition) (x : Definition) :
    defineAll (history ++ [x]) =
      ((defineAll history).1 ++ [(defineAll history).2.contains x.name],
        (defineAll history).2.insert x.name x.location x.body) := by
  unfold defineAll
  rw [List.foldl_append, ← fst_containsThenInsert _ _ x.location x.body]
  rfl

/-- The dictionary of a history follows it. -/
theorem follows_defineAll (history : List Definition) : Follows history (defineAll history).2 := by
  induction history using List.reverseRecOn with
  | nil => exact ⟨fun k => Iff.rfl, List.Pairwise.nil, fun k => rfl⟩
  | append_singleton history x ih =>
    rw [defineAll_concat]
    exact ih.insert x

/-! ## What a history leaves -/

section Follows

variable {history : List Definition} {d : Dictionary}

/-- What is found under a name is the entry of the listing that has the name in lower case. -/
theorem find?_eq_some_iff (d : Dictionary) (n : String) (e : Entry) :
    d.find? n = some e ↔ e ∈ d.entries ∧ e.name = lowercase n := by
  rw [find?_eq]
  constructor
  · intro hfind
    exact ⟨List.mem_of_find?_eq_some hfind, by simpa using List.find?_some hfind⟩
  · rintro ⟨he, hname⟩
    have hfind := find?_of_mem d.nodup he
    rw [hname] at hfind
    exact hfind

/-- Something is found under a name exactly if there was a definition under it. -/
theorem Follows.isSome_find?_iff (h : Follows history d) (n : String) :
    (d.find? n).isSome ↔ ∃ x ∈ history, lowercase x.name = lowercase n := by
  rw [find?_eq, h.search_eq, Option.isSome_map, isSome_lastUnder?, mem_keys]
  rfl

/-- An entry of the listing is that of the last definition under its name. -/
theorem Follows.latest (h : Follows history d) {e : Entry} (he : e ∈ d.entries) :
    ∃ earlier x later, history = earlier ++ x :: later ∧ e = x.entry ∧
      ∀ y ∈ later, y.key ≠ x.key := by
  have hfind := find?_of_mem d.nodup he
  rw [h.search_eq e.name] at hfind
  obtain ⟨x, hx, hentry⟩ := Option.map_eq_some_iff.1 hfind
  obtain ⟨hkey, earlier, later, hsplit, hlater⟩ := exists_of_lastUnder? hx
  refine ⟨earlier, x, later, hsplit, hentry.symm, fun y hy => ?_⟩
  rw [hkey]
  exact hlater y hy

/-- There are as many entries as the history has names. -/
theorem Follows.size_eq (h : Follows history d) : d.size = (keys history).toFinset.card := by
  have hsame : d.names.toFinset = (keys history).toFinset := by
    ext k
    rw [List.mem_toFinset, List.mem_toFinset, h.mem_names k]
  calc d.size = d.names.length := (List.length_map Entry.name).symm
    _ = d.names.toFinset.card := (List.toFinset_card_of_nodup d.nodup).symm
    _ = (keys history).toFinset.card := by rw [hsame]

end Follows

/-- Every definition is answered. -/
theorem length_answers (history : List Definition) :
    (defineAll history).1.length = history.length := by
  induction history using List.reverseRecOn with
  | nil => rfl
  | append_singleton history x ih => simp [defineAll_concat, ih]

/-- A definition answers whether there was an earlier one under its name. -/
theorem answers_iff {history : List Definition} {i : Nat} {x : Definition}
    (hx : history[i]? = some x) :
    (defineAll history).1[i]? = some true ↔ ∃ y ∈ history.take i, y.key = x.key := by
  induction history using List.reverseRecOn with
  | nil => simp at hx
  | append_singleton history z ih =>
    rw [defineAll_concat]
    dsimp only
    have hlength := length_answers history
    rcases Nat.lt_or_ge i history.length with hi | hi
    · rw [List.getElem?_append_left hi] at hx
      rw [List.getElem?_append_left (by omega), List.take_append_of_le_length (by omega)]
      exact ih hx
    · -- The last definition answers for the whole history before it.
      rw [List.getElem?_append_right hi] at hx
      have hlast : i - history.length = 0 ∧ z = x := by
        rcases hindex : i - history.length with _ | j
        · rw [hindex] at hx
          exact ⟨rfl, by simpa using hx⟩
        · rw [hindex] at hx
          simp at hx
      obtain ⟨hindex, rfl⟩ := hlast
      have hi' : i = history.length := by omega
      subst hi'
      rw [List.getElem?_append_right (by omega), hlength, hindex, List.take_left]
      have hcontains := (follows_defineAll history).isSome_find?_iff z.name
      simpa [contains, Definition.key] using hcontains

/-- What a history of definitions has answered, and the dictionary that it has left: the names are
pairwise distinct and in the order of their first definition, the index has exactly their places,
each entry is that of the last definition under its name, a name in any case finds the entry with
that name, if there was a definition under it, and a definition has answered whether it was a
repeated one. -/
structure Records (history : List Definition) (answers : List Bool) (d : Dictionary) : Prop where
  nodup : d.names.Nodup
  inOrder : d.names.Pairwise fun k k' => (keys history).idxOf k < (keys history).idxOf k'
  lookup_index_iff : ∀ k i, d.index.lookup k = some i ↔ d.names[i]? = some k
  latest : ∀ e ∈ d.entries, ∃ earlier x later, history = earlier ++ x :: later ∧ e = x.entry ∧
    ∀ y ∈ later, y.key ≠ x.key
  find?_eq_some_iff : ∀ n e, d.find? n = some e ↔ e ∈ d.entries ∧ e.name = lowercase n
  isSome_find?_iff : ∀ n, (d.find? n).isSome ↔ ∃ x ∈ history, lowercase x.name = lowercase n
  length_answers : answers.length = history.length
  answers_iff : ∀ i x, history[i]? = some x →
    (answers[i]? = some true ↔ ∃ y ∈ history.take i, lowercase y.name = lowercase x.name)
  size_eq : d.size = (keys history).toFinset.card

/-- A dictionary is a case-insensitive map in the order of first definitions. -/
theorem defineAll_records (history : List Definition) :
    Records history (defineAll history).1 (defineAll history).2 := by
  have h := follows_defineAll history
  exact ⟨Dictionary.nodup _, h.inOrder, lookup_index_iff _, fun e he => h.latest he,
    find?_eq_some_iff _, h.isSome_find?_iff, length_answers history, fun i x hx => answers_iff hx,
    h.size_eq⟩

end Dictionary

end BlockForth
