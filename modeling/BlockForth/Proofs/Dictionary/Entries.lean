import BlockForth.Dictionary
import BlockForth.Proofs.Text.Lowercase
import Mathlib.Data.List.Forall2

/-!
# The dictionary as its list of entries

What a dictionary holds is the list of its entries, since the index is in step with it
(`ext_entries`). The dictionary goes through the index, and here it is shown that this comes to the
same as working on the list alone: a name is found where a search through the entries finds it
(`find?_eq`), a definition puts its entry in the place of the one with the same name or at the end
(`entries_insert`), and it answers whether the name was there (`fst_containsThenInsert`). From these
three follows what a definition does to look-ups and to the names.
-/

namespace BlockForth

namespace Dictionary

/-! ## Lists of entries -/

/-- Replaces the entry with the name of `e`, or adds `e` at the end if there is none. -/
def put (e : Entry) : List Entry → List Entry
  | [] => [e]
  | x :: rest => if x.name = e.name then e :: rest else x :: put e rest

section Put

variable {e : Entry} {es : List Entry}

/-- Looking for a name after `put` finds the new entry under its own name, and what was there before
under every other. -/
theorem find?_put (e : Entry) (es : List Entry) (name : String) :
    (put e es).find? (·.name == name) =
      if e.name = name then some e else es.find? (·.name == name) := by
  induction es with
  | nil => by_cases h : e.name = name <;> simp [put, h]
  | cons x rest ih =>
    rw [put]
    by_cases h : e.name = name
    · by_cases hx : x.name = e.name
      · rw [if_pos hx, if_pos h, List.find?_cons_of_pos (by simp [h])]
      · have hne : x.name ≠ name := h ▸ hx
        rw [if_neg hx, List.find?_cons_of_neg (by simp [hne]), ih]
        simp [h]
    · by_cases hx : x.name = e.name
      · have hne : x.name ≠ name := hx ▸ h
        rw [if_pos hx, if_neg h, List.find?_cons_of_neg (by simp [h]),
          List.find?_cons_of_neg (by simp [hne])]
      · rw [if_neg hx, if_neg h, List.find?_cons, List.find?_cons, ih, if_neg h]

/-- The names after `put`: those before, with the new one at the end if it is new. -/
theorem map_name_put (e : Entry) (es : List Entry) :
    (put e es).map Entry.name =
      if e.name ∈ es.map Entry.name then es.map Entry.name
      else es.map Entry.name ++ [e.name] := by
  induction es with
  | nil => rfl
  | cons x rest ih =>
    rw [put]
    by_cases hx : x.name = e.name
    · rw [if_pos hx, List.map_cons, List.map_cons, hx, if_pos List.mem_cons_self]
    · have hmem : e.name ∈ (x :: rest).map Entry.name ↔ e.name ∈ rest.map Entry.name := by
        rw [List.map_cons, List.mem_cons]
        exact or_iff_right fun h => hx h.symm
      rw [if_neg hx, List.map_cons, ih]
      split
      · rename_i hold
        rw [if_pos (hmem.2 hold), List.map_cons]
      · rename_i hnew
        rw [if_neg fun h => hnew (hmem.1 h), List.map_cons, List.cons_append]

/-- An entry after `put` is the new one or was there before. -/
theorem mem_put {x : Entry} (h : x ∈ put e es) : x = e ∨ x ∈ es := by
  induction es with
  | nil => exact .inl (List.mem_singleton.1 h)
  | cons y rest ih =>
    rw [put] at h
    split at h
    · rcases List.mem_cons.1 h with rfl | hrest
      · exact .inl rfl
      · exact .inr (List.mem_cons_of_mem y hrest)
    · rcases List.mem_cons.1 h with rfl | hrest
      · exact .inr List.mem_cons_self
      · exact (ih hrest).imp id (List.mem_cons_of_mem y)

/-- The entries with other names stay as they are, in their order. -/
theorem put_others (e : Entry) (es : List Entry) :
    (put e es).filter (·.name ≠ e.name) = es.filter (·.name ≠ e.name) := by
  induction es with
  | nil => simp [put]
  | cons x rest ih =>
    rw [put]
    split
    · rename_i hname
      simp [hname]
    · rw [List.filter_cons, List.filter_cons, ih]

/-- An entry with a new name is added at the end. -/
theorem put_of_new (h : e.name ∉ es.map Entry.name) : put e es = es ++ [e] := by
  induction es with
  | nil => rfl
  | cons x rest ih =>
    rw [List.map_cons, List.mem_cons, not_or] at h
    rw [put, if_neg fun hx => h.1 hx.symm, ih h.2, List.cons_append]

/-- An entry with a name that is there takes the place of the one that has it. -/
theorem put_of_getElem? {i : Nat} (hnodup : (es.map Entry.name).Nodup)
    (h : (es.map Entry.name)[i]? = some e.name) : put e es = es.set i e := by
  induction es generalizing i with
  | nil => simp at h
  | cons x rest ih =>
    rw [List.map_cons, List.nodup_cons] at hnodup
    rw [put]
    rcases i with _ | i
    · have hx : x.name = e.name := by simpa using h
      rw [if_pos hx, List.set_cons_zero]
    · rw [List.map_cons, List.getElem?_cons_succ] at h
      have hx : x.name ≠ e.name := fun hname => hnodup.1 (hname ▸ List.mem_of_getElem? h)
      rw [if_neg hx, ih hnodup.2 h, List.set_cons_succ]

/-- Among entries with names of their own, an entry is what is found under its name. -/
theorem find?_of_mem (hnodup : (es.map Entry.name).Nodup) (he : e ∈ es) :
    es.find? (·.name == e.name) = some e := by
  induction es with
  | nil => simp at he
  | cons x rest ih =>
    rw [List.map_cons, List.nodup_cons] at hnodup
    rcases List.mem_cons.1 he with rfl | hrest
    · simp
    · have hne : x.name ≠ e.name := by
        intro hname
        exact hnodup.1 (hname ▸ List.mem_map_of_mem hrest)
      rw [List.find?_cons_of_neg (by simpa using hne)]
      exact ih hnodup.2 hrest

end Put

section Paired

variable {r : Entry → Entry → Prop} {es es' : List Entry}

/-- Looking for a name in paired entries, which have one name. -/
theorem rel_find? (hname : ∀ e e', r e e' → e'.name = e.name) (h : List.Forall₂ r es es')
    (name : String) : Option.Rel r (es.find? (·.name == name)) (es'.find? (·.name == name)) := by
  induction h with
  | nil => exact .none
  | @cons e e' rest rest' he _ ih =>
    rw [List.find?_cons, List.find?_cons, hname e e' he]
    split
    · exact .some he
    · exact ih

/-- Storing paired entries. -/
theorem forall₂_put (hname : ∀ e e', r e e' → e'.name = e.name) (h : List.Forall₂ r es es')
    {x x' : Entry} (hx : r x x') : List.Forall₂ r (put x es) (put x' es') := by
  induction h with
  | nil => exact .cons hx .nil
  | @cons e e' rest rest' he hrest ih =>
    rw [put, put, hname e e' he, hname x x' hx]
    split
    · exact .cons hx hrest
    · exact .cons he ih

end Paired

/-! ## The index -/

/-- The names of the words, in the order of the listing. -/
def names (d : Dictionary) : List String :=
  d.entries.map Entry.name

/-- There are no words at first. -/
theorem entries_empty : ({} : Dictionary).entries = [] := rfl

/-- Dictionaries with the same entries are equal. -/
theorem ext_entries {d d' : Dictionary} (h : d.entries = d'.entries) : d = d' :=
  Dictionary.ext h (by rw [d.index_eq, d'.index_eq, h])

/-- The index gives a place for a name exactly if that is the place of the name in the listing. -/
theorem lookup_index_iff (d : Dictionary) (k : String) (i : Nat) :
    d.index.lookup k = some i ↔ d.names[i]? = some k := by
  constructor
  · exact getElem?_of_lookup
  · intro h
    rcases hlookup : d.index.lookup k with _ | j
    · exact absurd (List.mem_of_getElem? h) (not_mem_of_lookup hlookup)
    · -- Both places are that of the name, and no two words have one name.
      have hj : d.names[j]? = some k := getElem?_of_lookup hlookup
      have hlt : i < d.names.length := (List.getElem?_eq_some_iff.1 h).1
      rw [(List.getElem?_inj hlt d.nodup).1 (h.trans hj.symm)]

/-- A name is found through the index where a search through the entries finds it. -/
theorem find?_eq (d : Dictionary) (name : String) :
    d.find? name = d.entries.find? (·.name == lowercase name) := by
  unfold find?
  split
  · rename_i i h
    have hname : (d.entries.get ⟨i, lt_length_of_lookup h⟩).name = lowercase name := by
      have hplace := getElem?_of_lookup h
      rw [List.getElem?_map, List.getElem?_eq_getElem (lt_length_of_lookup h)] at hplace
      exact Option.some.inj hplace
    have hfind := find?_of_mem d.nodup (List.get_mem d.entries ⟨i, lt_length_of_lookup h⟩)
    rw [hname] at hfind
    exact hfind.symm
  · rename_i h
    refine (List.find?_eq_none.2 fun e he hname => ?_).symm
    exact not_mem_of_lookup h (List.mem_map.2 ⟨e, he, by simpa using hname⟩)

/-- A definition puts its entry among the entries. -/
theorem entries_insert (d : Dictionary) (name : String) (location : Location) (body : List Token) :
    (d.insert name location body).entries = put ⟨lowercase name, location, body⟩ d.entries := by
  unfold insert containsThenInsert
  dsimp only
  split
  · rename_i i h
    exact (put_of_getElem? d.nodup (getElem?_of_lookup h)).symm
  · rename_i h
    exact (put_of_new (not_mem_of_lookup h)).symm

/-- An entry after a definition is that of the definition or was there before. -/
theorem mem_entries_insert {d : Dictionary} {name : String} {location : Location}
    {body : List Token} {x : Entry} (h : x ∈ (d.insert name location body).entries) :
    x = ⟨lowercase name, location, body⟩ ∨ x ∈ d.entries := by
  rw [entries_insert] at h
  exact mem_put h

/-- A definition does not depend on the case of its name. -/
theorem insert_congr (d : Dictionary) {name name' : String} (h : lowercase name = lowercase name')
    (location : Location) (body : List Token) :
    d.insert name location body = d.insert name' location body :=
  ext_entries (by rw [entries_insert, entries_insert, h])

/-- A definition answers whether its name was there. -/
theorem fst_containsThenInsert (d : Dictionary) (name : String) (location : Location)
    (body : List Token) : (d.containsThenInsert name location body).1 = d.contains name := by
  unfold containsThenInsert contains find?
  dsimp only
  split
  · rfl
  · rfl

/-! ## Look-ups -/

/-- A definition is found under its name in every case, and leaves all other names alone. -/
theorem find?_insert (d : Dictionary) (name key : String) (location : Location)
    (body : List Token) :
    (d.insert name location body).find? key =
      if lowercase name = lowercase key then some ⟨lowercase name, location, body⟩
      else d.find? key := by
  rw [find?_eq, entries_insert, find?_put, find?_eq]

/-- Names that differ in case only have one entry. -/
theorem find?_congr (d : Dictionary) {name name' : String} (h : lowercase name = lowercase name') :
    d.find? name = d.find? name' := by
  rw [find?_eq, find?_eq, h]

/-- The entry of a name is that of its lower-case form. -/
theorem find?_lowercase (d : Dictionary) (name : String) :
    d.find? (lowercase name) = d.find? name :=
  d.find?_congr (lowercase_lowercase name)

/-- Nothing is found under a name that the dictionary does not have. -/
theorem find?_eq_none_of_contains {d : Dictionary} {spelling : String}
    (h : d.contains spelling = false) : d.find? (lowercase spelling) = none := by
  rw [find?_lowercase]
  exact Option.not_isSome_iff_eq_none.1 (Bool.eq_false_iff.1 h)

/-- What is found under a name is an entry. -/
theorem mem_of_find? {d : Dictionary} {name : String} {e : Entry} (h : d.find? name = some e) :
    e ∈ d.entries := by
  rw [find?_eq] at h
  exact List.mem_of_find?_eq_some h

/-- Every name of the first dictionary is one of the second. -/
def Within (d d' : Dictionary) : Prop :=
  ∀ name, d.contains name = true → d'.contains name = true

/-- A definition takes no name away. -/
theorem within_insert (d : Dictionary) (name : String) (location : Location) (body : List Token) :
    d.Within (d.insert name location body) := by
  intro key h
  unfold contains at h ⊢
  rw [find?_insert]
  split
  · rfl
  · exact h

/-! ## Names -/

/-- The names after a definition: those before, with the new one at the end if it is new. -/
theorem names_insert (d : Dictionary) (name : String) (location : Location) (body : List Token) :
    (d.insert name location body).names =
      if lowercase name ∈ d.names then d.names else d.names ++ [lowercase name] := by
  rw [names, entries_insert, map_name_put]
  rfl

/-- A definition adds its name at the end, or leaves the names as they are. -/
theorem names_prefix_insert (d : Dictionary) (name : String) (location : Location)
    (body : List Token) : d.names <+: (d.insert name location body).names := by
  rw [names_insert]
  split
  · exact List.prefix_refl _
  · exact List.prefix_append _ _

/-- Words with names of their own are stored one behind the other. -/
theorem foldl_insert {es : List Entry} (hlower : ∀ e ∈ es, lowercase e.name = e.name)
    (d : Dictionary) (hnodup : ((d.entries ++ es).map Entry.name).Nodup) :
    (es.foldl (fun d e => d.insert e.name {} e.body) d).entries =
      d.entries ++ es.map fun e => ⟨e.name, {}, e.body⟩ := by
  induction es generalizing d with
  | nil => exact (List.append_nil _).symm
  | cons e es ih =>
    rw [List.forall_mem_cons] at hlower
    have hnew : e.name ∉ d.entries.map Entry.name := by
      intro hmem
      rw [List.map_append, List.map_cons] at hnodup
      exact (List.nodup_append.1 hnodup).2.2 _ hmem _ List.mem_cons_self rfl
    have hinsert : (d.insert e.name {} e.body).entries = d.entries ++ [⟨e.name, {}, e.body⟩] := by
      rw [entries_insert, hlower.1]
      exact put_of_new hnew
    rw [List.foldl_cons, ih hlower.2, hinsert, List.append_assoc]
    · rfl
    · rw [hinsert]
      simpa using hnodup

end Dictionary

end BlockForth
