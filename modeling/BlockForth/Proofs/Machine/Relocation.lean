import BlockForth.Proofs.Machine.Simulation
import BlockForth.Proofs.Token.RoundTrip

/-!
# Places do not matter

A token knows its place in the source text, and so does a user word. The places go into the faults,
but nothing that a program does depends on them. Nor does it depend on what has been written before.

Two runs of tokens that differ in their places only are compared by the simulation `relocating`. It
pairs machines that have the same stack, the same user words but for the places in them, and the
same end. The second machine has written `before` in addition, ahead of what the first one has.
-/

namespace BlockForth

/-! ## Tokens and words without places -/

namespace Token

mutual

/-- The text of a token does not show its place. -/
theorem text_unlocated : (t : Token) → t.unlocated.text = t.text
  | word _ _ => rfl
  | literal _ _ => rfl
  | block _ body => by rw [unlocated, text, text, bodyText_unlocatedAll body]

/-- The text of tokens does not show their places. -/
theorem bodyText_unlocatedAll : (ts : List Token) → bodyText (unlocatedAll ts) = bodyText ts
  | [] => rfl
  | t :: ts => by
    rw [unlocatedAll, bodyText, bodyText, text_unlocated t, bodyText_unlocatedAll ts]

end

/-- The tokens are equal but for their places. -/
def SameCode (t t' : Token) : Prop :=
  t.unlocated = t'.unlocated

/-- Tokens that differ in their places only have the same text. -/
theorem SameCode.text_eq {t t' : Token} (h : t.SameCode t') : t.text = t'.text := by
  rw [← text_unlocated t, h, text_unlocated t']

/-- Lists of tokens differ in their places only if they are the same without them. -/
theorem forall₂_sameCode_iff {ts ts' : List Token} :
    List.Forall₂ SameCode ts ts' ↔ ts.map unlocated = ts'.map unlocated := by
  rw [← List.forall₂_eq_eq_eq, List.forall₂_map_left_iff, List.forall₂_map_right_iff]
  rfl

end Token

/-- The entry without its place and the places in its body. -/
def Entry.unlocated (e : Entry) : Entry :=
  ⟨e.name, {}, e.body.map Token.unlocated⟩

/-- The listing of a word does not show its places. -/
theorem Entry.text_unlocated (e : Entry) : e.unlocated.text = e.text := by
  have hbody : (e.body.map Token.unlocated).map Token.text = e.body.map Token.text := by
    rw [List.map_map]
    exact List.map_congr_left fun t _ => t.text_unlocated
  rw [Entry.text, Entry.text, Entry.unlocated, hbody]

namespace Dictionary

/-- Words keep their names without their places. -/
theorem map_name_unlocated (es : List Entry) :
    (es.map Entry.unlocated).map Entry.name = es.map Entry.name := by
  rw [List.map_map]
  rfl

/-- The words without their places and the places in their bodies. -/
def unlocated (d : Dictionary) : Dictionary where
  entries := d.entries.map Entry.unlocated
  index := d.index
  index_eq := by rw [map_name_unlocated, d.index_eq]
  nodup := by rw [map_name_unlocated]; exact d.nodup

/-- The listing of the dictionary does not show places. -/
theorem listing_unlocated (d : Dictionary) : d.unlocated.listing = d.listing := by
  have hentries : (d.entries.map Entry.unlocated).map Entry.text = d.entries.map Entry.text := by
    rw [List.map_map]
    exact List.map_congr_left fun e _ => e.text_unlocated
  rw [listing, listing, unlocated, hentries]

/-- Looking a name up commutes with dropping the places. -/
theorem find?_unlocated (d : Dictionary) (name : String) :
    d.unlocated.find? name = (d.find? name).map Entry.unlocated := by
  rw [find?_eq, find?_eq, unlocated, List.find?_map]
  rfl

/-- Putting an entry among others commutes with dropping the places. -/
theorem map_unlocated_put (e : Entry) (es : List Entry) :
    (put e es).map Entry.unlocated = put e.unlocated (es.map Entry.unlocated) := by
  induction es with
  | nil => rfl
  | cons x rest ih =>
    have hname : x.unlocated.name = e.unlocated.name ↔ x.name = e.name := Iff.rfl
    rw [put, List.map_cons, put]
    simp only [hname]
    split
    · rfl
    · rw [List.map_cons, ih]

/-- A definition commutes with dropping the places. -/
theorem unlocated_insert (d : Dictionary) (name : String) (location : Location)
    (body : List Token) :
    (d.insert name location body).unlocated =
      d.unlocated.insert name {} (body.map Token.unlocated) := by
  apply ext_entries
  rw [entries_insert]
  show (d.insert name location body).entries.map Entry.unlocated = _
  rw [entries_insert, map_unlocated_put]
  rfl

end Dictionary

/-! ## The simulation -/

/-- Faults of one cause have one kind and one message. -/
theorem Fault.map_eq_of_cause_eq {fault fault' : Option Fault}
    (h : Option.Rel (fun f f' => f'.cause = f.cause) fault fault') :
    (fault'.map fun f => (f.kind, f.message)) = fault.map fun f => (f.kind, f.message) := by
  cases h with
  | none => rfl
  | @some f f' h => rw [Option.map_some, Option.map_some, kind, kind, message, message, h]

namespace Machine

/-- The machines are equal but for places, calls, frames, and depths, and the second one has written
`before` ahead of the output of the first one. -/
structure Relocated (before : String) (m m' : Machine) : Prop where
  stack : m'.stack = m.stack
  dictionary : m'.dictionary.unlocated = m.dictionary.unlocated
  output : m'.output = before ++ m.output
  exiting : m'.exiting = m.exiting

variable {before : String} {m m' : Machine}

/-- A built-in word does not look at places or at what has been written. -/
theorem perform_relocated (h : Relocated before m m') (hflow : m'.frame.flow = m.frame.flow)
    (w : Builtin) (hw : w ≠ .define) :
    (m.perform w).Agree (fun n n' => Relocated before n n' ∧ n'.frame.flow = n.frame.flow)
      (fun f f' => f'.cause = f.cause) (fun _ => False) (m'.perform w) := by
  have hlisting : m'.dictionary.listing = m.dictionary.listing := by
    rw [← Dictionary.listing_unlocated, h.dictionary, Dictionary.listing_unlocated]
  obtain ⟨e, s, heffect, heffect'⟩ := exists_wordEffect h.stack hflow w hw fun _ => hlisting
  rw [heffect, heffect']
  cases e with
  | raise cause => exact .inr ⟨⟨h, hflow⟩, .some rfl⟩
  | fail cause => exact .inr ⟨⟨h, hflow⟩, .some rfl⟩
  | finish text flow ends =>
    refine .inr ⟨⟨⟨rfl, h.dictionary, ?_, ?_⟩, rfl⟩, .none⟩
    · show m'.output ++ text = before ++ (m.output ++ text)
      rw [h.output, String.append_assoc]
    · show (m'.exiting || ends) = (m.exiting || ends)
      rw [h.exiting]

end Machine

/-- Tokens that differ in their places only run alike, whatever has been written before. -/
def relocating (before : String) : Simulation where
  token := Token.SameCode
  machine := Machine.Relocated before
  fault f f' := f'.cause = f.cause
  escapes _ := False
  literal_inv {l v t'} h := by
    cases t' with
    | literal l' v' =>
      cases h
      exact ⟨l', rfl⟩
    | word l' s' => cases h
    | block l' body' => cases h
  block_inv {l body t'} h := by
    cases t' with
    | block l' body' =>
      have hbody := (Token.block.inj h).2
      rw [Token.unlocatedAll_eq_map, Token.unlocatedAll_eq_map] at hbody
      exact ⟨l', body', rfl, Token.forall₂_sameCode_iff.2 hbody⟩
    | word l' s' => cases h
    | literal l' v' => cases h
  word_inv {l s t'} h := by
    cases t' with
    | word l' s' =>
      cases h
      exact ⟨l', _, rfl, rfl⟩
    | literal l' v' => cases h
    | block l' body' => cases h
  definable {t t'} h := by
    -- The spelling alone tells whether a token may be a name.
    have hname : ∀ u : Token, u.unlocated.definable? = u.definable? := fun u => by cases u <;> rfl
    rw [← hname t, h, hname t']
    rcases t'.definable? with _ | name
    · exact .none
    · exact .some rfl
  inFrame _ _ _ _ h := ⟨h.stack, h.dictionary, h.output, h.exiting⟩
  exiting h := h.exiting
  reach h _ := ⟨h.stack, h.dictionary, h.output, h.exiting⟩
  push v h := ⟨by rw [h.stack], h.dictionary, h.output, h.exiting⟩
  call h _ := ⟨h.stack, h.dictionary, h.output, h.exiting⟩
  goBack h := ⟨h.stack, h.dictionary, h.output, h.exiting⟩
  find {m m'} name h := by
    have hfind : (m.dictionary.find? name).map Entry.unlocated =
        (m'.dictionary.find? name).map Entry.unlocated := by
      rw [← Dictionary.find?_unlocated, ← h.dictionary, Dictionary.find?_unlocated]
    generalize m.dictionary.find? name = found at hfind ⊢
    generalize m'.dictionary.find? name = found' at hfind ⊢
    -- Both dictionaries have an entry of this name, or neither has.
    rcases found with _ | e
    · rw [Option.map_eq_none_iff.1 hfind.symm]
      exact .none
    · obtain ⟨e', rfl, heq⟩ := Option.map_eq_some_iff.1 hfind.symm
      exact .some (Token.forall₂_sameCode_iff.2 (Entry.mk.inj heq).2.2.symm)
  insert {m m' s s' body body'} h hname hbody := by
    refine ⟨h.stack, ?_, h.output, h.exiting⟩
    dsimp only
    rw [Dictionary.unlocated_insert, Dictionary.unlocated_insert, h.dictionary,
      Token.forall₂_sameCode_iff.1 hbody]
    exact m.dictionary.unlocated.insert_congr hname _ _
  perform h hflow _ _ hw := Machine.perform_relocated h hflow _ hw
  fail _ _ := rfl
  failUnknown _ ht := by
    cases ht
    rfl
  failName _ ht := congrArg Cause.invalidName ht.text_eq.symm
  context _ hfault _ := hfault
  escapes_context _ _ h := h

end BlockForth
