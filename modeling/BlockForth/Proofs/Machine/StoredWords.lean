import BlockForth.Proofs.Machine.Definitions
import BlockForth.Proofs.Machine.StackBelow
import BlockForth.Proofs.Machine.Steps
import BlockForth.Proofs.Text.Lowercase
import BlockForth.Proofs.Token.RoundTrip

/-!
# What the dictionary holds

A word gets into the dictionary through a definition, and a definition is made of tokens that were
read from source text, in the outermost frame, in a block, or in the body of another word. So the
name of a stored word is a chunk in lower case, the tokens of its body are ones that source text
stands for, and the name and the body do not break up a definition: the name is neither `:` nor `;`,
and the body has no `;`. No name is stored twice. `Dictionary.WellStored` says all of this.

Every step of a run keeps it, as long as all the tokens that the run can still come to are ones that
source text stands for (`Config.Sourced`). So it holds after any calls, whether they fail or not
(`wellStored_of_runs`).
-/

namespace BlockForth

/-! ## Names -/

/-- A blank is a sign, as are the characters that start a comment and a string. -/
theorem isSign_of_isBlank {a : Char} (h : isBlank a = true) : isSign a = true := by
  simp only [isBlank, Bool.or_eq_true, beq_iff_eq] at h
  rcases h with ((rfl | rfl) | rfl) | rfl
  all_goals decide

/-- The lower-case form of a chunk is a chunk. -/
theorem Token.isChunk_lowercase {s : String} (h : IsChunk s.toList) :
    IsChunk (lowercase s).toList := by
  rw [lowercase_eq, String.toList_ofList]
  refine ⟨fun hnil => h.ne_nil (lowerFrom_eq_nil hnil), fun a ha => ?_, fun a ha hcomment => ?_,
    fun hquote => h.head_ne_quote (head?_of_head?_lowerFrom (by decide) hquote)⟩
  · rw [Bool.eq_false_iff]
    intro hblank
    have hmem := mem_of_mem_lowerFrom (isSign_of_isBlank hblank) ha
    rw [h.isBlank_eq a hmem] at hblank
    cases hblank
  · subst hcomment
    exact h.ne_comment _ (mem_of_mem_lowerFrom (by decide) ha) rfl

/-- A token that a block can hold can stand outside of all blocks. -/
theorem Token.Written.outside {t : Token} {inside : Bool} (h : t.Written inside) :
    t.Written false := by
  cases t with
  | word l spelling =>
    obtain ⟨hchunk, hopening, -, hnumeral⟩ := h
    exact ⟨hchunk, hopening, fun _ => rfl, hnumeral⟩
  | literal l value => cases value <;> exact h
  | block l body => exact h

/-! ## Stored words -/

/-- The entry can be written as a definition, apart from names that are numerals. -/
structure Entry.WellStored (e : Entry) : Prop where
  lower : lowercase e.name = e.name
  chunk : Token.IsChunk e.name.toList
  ne_opening : e.name ≠ "\x7b"
  ne_start : e.name ≠ ":"
  ne_end : e.name ≠ ";"
  written : ∀ t ∈ e.body, t.Written false
  body_open : ∀ t ∈ e.body, t.endsDefinition = false

/-- The entries can be written as definitions. -/
def Dictionary.WellStored (d : Dictionary) : Prop :=
  ∀ e ∈ d.entries, e.WellStored

/-- A word that can be written may be stored. -/
theorem Dictionary.WellStored.insert {d : Dictionary} (h : d.WellStored) {name : String}
    {l : Location} {body : List Token} (he : Entry.WellStored ⟨lowercase name, l, body⟩) :
    (d.insert name l body).WellStored := by
  intro x hx
  rcases mem_entries_insert hx with rfl | hmem
  · exact he
  · exact h x hmem

/-- The tokens of a frame are ones that source text stands for. -/
def Frame.Written (f : Frame) : Prop :=
  ∀ t ∈ f.tokens, t.Written false

namespace Machine

/-- The words are well stored, and the frame has come from source text. -/
structure Sourced (m : Machine) : Prop where
  dictionary : m.dictionary.WellStored
  frame : m.frame.Written

variable {m : Machine} {name : String} {body : List Token}

/-- A definition in the frame gives a word that is well stored. -/
theorem Defines.wellStored (h : m.Defines name body) (hframe : m.frame.Written) (l : Location) :
    Entry.WellStored ⟨lowercase name, l, body⟩ := by
  obtain ⟨t, ht, hname⟩ := h.name_mem
  obtain ⟨place, rfl, hstart, hend⟩ : ∃ place, t = .word place name ∧ name ≠ ":" ∧ name ≠ ";" := by
    cases t with
    | word place spelling =>
      rw [Token.definable?] at hname
      split at hname
      · cases hname
      · rename_i hne
        cases hname
        exact ⟨place, rfl, fun h => hne (.inl h), fun h => hne (.inr h)⟩
    | literal place value => cases hname
    | block place tokens => cases hname
  obtain ⟨hchunk, hopening, -, -⟩ := hframe _ ht
  -- A name becomes one of these signs only if it is that sign.
  have hsign : ∀ a, isSign a = true → name ≠ String.ofList [a] →
      lowercase name ≠ String.ofList [a] :=
    fun a ha hne heq => hne ((lowercase_eq_sign_iff ha).1 heq)
  exact ⟨lowercase_lowercase name, Token.isChunk_lowercase hchunk, hsign '\x7b' rfl hopening,
    hsign ':' rfl hstart, hsign ';' rfl hend, fun u hu => hframe u (h.body_mem u hu), h.body_open⟩

/-- A word that is defined from source text is well stored. -/
theorem Sourced.store (h : m.Sourced) (hdefines : m.Defines name body) :
    (m.store name body).Sourced :=
  ⟨h.dictionary.insert (hdefines.wellStored h.frame _), h.frame⟩

/-- A `:` that is reached stores nothing but source text. -/
theorem Sourced.runDefinition (h : m.Sourced) : m.runDefinition.machine.Sourced := by
  rcases m.runDefinition_cases with ⟨cause, flow, p, hrun⟩ | ⟨p, hrun⟩ |
    ⟨name, body, flow, p, hdefines, hrun⟩
  · rw [hrun]
    exact ⟨h.dictionary, h.frame⟩
  · rw [hrun]
    exact ⟨h.dictionary, h.frame⟩
  · rw [hrun]
    have hstored := h.store hdefines
    exact ⟨hstored.dictionary, hstored.frame⟩

/-- A built-in word stores nothing but source text. -/
theorem Sourced.perform (h : m.Sourced) (w : Builtin) : (m.perform w).machine.Sourced := by
  by_cases hw : w = .define
  · subst hw
    show m.define.machine.Sourced
    rcases m.define_cases with ⟨cause, p, hrun⟩ | ⟨name, body, p, hdefines, hrun⟩
    · rw [hrun]
      exact ⟨h.dictionary, h.frame⟩
    · rw [hrun]
      have hstored := h.store hdefines
      exact ⟨hstored.dictionary, hstored.frame⟩
  · obtain ⟨_, _, _, _, hkept⟩ := perform_onlyValues m w hw
    rw [hkept]
    exact ⟨h.dictionary, h.frame⟩

end Machine

/-! ## Runs -/

/-- What is pending has come from source text. -/
def Pending.Written : Pending → Prop
  | .unit t _ _ => t.Written false
  | .level => True
  | .block caller => caller.Written
  | .body caller => caller.Written

/-- The token that is to be run has come from source text. -/
def Phase.Written : Phase → Prop
  | .execute t => t.Written false
  | _ => True

namespace Config

/-- All that the run can come to has come from source text. -/
structure Sourced (c : Config) : Prop where
  machine : c.machine.Sourced
  phase : c.phase.Written
  pending : ∀ p ∈ c.pending, p.Written

variable {m : Machine} {pending : List Pending}

/-- The end of a piece of the run, with or without a fault. -/
theorem sourced_after {o : Outcome} (h : o.machine.Sourced) (hpending : ∀ p ∈ pending, p.Written) :
    Sourced (after o pending) := by
  rcases o with ⟨m', _ | f⟩
  · exact ⟨h, trivial, hpending⟩
  · exact ⟨h, trivial, hpending⟩

/-- Entering a frame that has come from source text. -/
theorem sourced_enter {f : Frame} (h : m.dictionary.WellStored) (hframe : m.frame.Written)
    (hf : f.Written) (hpending : ∀ p ∈ pending, p.Written) : Sourced (enter f m pending) := by
  unfold enter
  split
  · exact sourced_after ⟨h, hframe⟩ hpending
  · exact ⟨⟨h, hf⟩, trivial, List.forall_mem_cons.2 ⟨trivial, hpending⟩⟩

/-- Fetching a token of the frame. -/
theorem sourced_fetch (h : m.Sourced) (hpending : ∀ p ∈ pending, p.Written) :
    Sourced (fetch m pending) := by
  rcases fetch_cases m pending with hfetch | ⟨t, inlined, ht, hfetch⟩
  · rw [hfetch]
    exact ⟨h, trivial, hpending⟩
  · have hunit : ∀ count, ∀ p ∈ Pending.unit t inlined count :: pending, p.Written :=
      fun _ => List.forall_mem_cons.2 ⟨h.frame t (List.mem_of_getElem? ht), hpending⟩
    rcases hfetch with ⟨-, hfetch⟩ | ⟨-, flow, count, hfetch⟩
    · rw [hfetch]
      refine sourced_after (Machine.Sourced.runDefinition ?_) (hunit 0)
      exact ⟨h.dictionary, h.frame⟩
    · rw [hfetch]
      exact ⟨⟨h.dictionary, h.frame⟩, trivial, hunit count⟩

/-- Running a token: the body of a user word is well stored. -/
theorem sourced_execute {t : Token} (h : m.Sourced) (ht : t.Written false)
    (hpending : ∀ p ∈ pending, p.Written) : Sourced (execute m pending t) := by
  have hback : ∀ p : Pending, p.Written → ∀ q ∈ p :: pending, q.Written :=
    fun p hp => List.forall_mem_cons.2 ⟨hp, hpending⟩
  cases t with
  | literal l value => exact ⟨⟨h.dictionary, h.frame⟩, trivial, hpending⟩
  | block l body =>
    have hbody : Frame.Written { tokens := body } :=
      fun t hmem => (Token.allWritten_iff.1 ht t hmem).outside
    exact sourced_enter h.dictionary h.frame hbody (hback (.block m.frame) h.frame)
  | word l spelling =>
    rw [execute]
    rcases hfind : m.dictionary.find? (lowercase spelling) with _ | entry
    · rcases Builtin.find? (lowercase spelling) with _ | w
      · exact sourced_after h hpending
      · exact sourced_after (h.perform w) hpending
    · have hentry := h.dictionary entry (Dictionary.mem_of_find? hfind)
      exact sourced_enter h.dictionary h.frame hentry.written (hback (.body m.frame) h.frame)

/-- Going back to what is pending. -/
theorem sourced_resume (h : m.Sourced) (hpending : ∀ p ∈ pending, p.Written) :
    Sourced (resume m pending) := by
  rcases pending with _ | ⟨p, pending⟩
  · exact ⟨h, trivial, hpending⟩
  · rw [List.forall_mem_cons] at hpending
    obtain ⟨hp, hpending⟩ := hpending
    cases p with
    | unit t inlined count =>
      have hunit : ∀ count, ∀ p ∈ Pending.unit t inlined count :: pending, p.Written :=
        fun _ => List.forall_mem_cons.2 ⟨hp, hpending⟩
      cases count with
      | zero => exact ⟨⟨h.dictionary, h.frame⟩, trivial, hpending⟩
      | succ count =>
        rw [resume]
        split
        · exact ⟨h, trivial, hunit 0⟩
        · exact ⟨h, hp, hunit count⟩
    | level => exact ⟨⟨h.dictionary, h.frame⟩, trivial, hpending⟩
    | block caller => exact ⟨⟨h.dictionary, hp⟩, trivial, hpending⟩
    | body caller => exact ⟨⟨h.dictionary, hp⟩, trivial, hpending⟩

/-- A fault on its way out. -/
theorem sourced_raise {f : Fault} (h : m.Sourced) (hpending : ∀ p ∈ pending, p.Written) :
    Sourced (raise m f pending) := by
  rcases pending with _ | ⟨p, pending⟩
  · exact ⟨h, trivial, hpending⟩
  · rw [List.forall_mem_cons] at hpending
    obtain ⟨hp, hpending⟩ := hpending
    cases p with
    | unit t inlined count => exact ⟨h, trivial, hpending⟩
    | level => exact ⟨⟨h.dictionary, h.frame⟩, trivial, hpending⟩
    | block caller => exact ⟨⟨h.dictionary, hp⟩, trivial, hpending⟩
    | body caller => exact ⟨⟨h.dictionary, hp⟩, trivial, hpending⟩

/-- A step comes to nothing that has not come from source text. -/
theorem Sourced.next {c : Config} (h : c.Sourced) : c.next.Sourced := by
  obtain ⟨m, phase, pending⟩ := c
  obtain ⟨hm, hphase, hpending⟩ := h
  cases phase with
  | fetch => exact sourced_fetch hm hpending
  | execute t => exact sourced_execute hm hphase hpending
  | resume => exact sourced_resume hm hpending
  | raise f => exact sourced_raise hm hpending

end Config

namespace Machine

/-- Running a frame that has come from source text keeps the words well stored. -/
theorem Sourced.runFrame {m : Machine} (h : m.Sourced) : m.runFrame.machine.Sourced := by
  have hstart : Config.Sourced ⟨m, .fetch, []⟩ :=
    ⟨h, trivial, fun p hp => absurd hp List.not_mem_nil⟩
  exact ((Config.reaches_runFrame m []).preserves (P := Config.Sourced)
    (fun _ hc => hc.next) hstart).machine

/-- A call keeps the words well stored, whether it fails or not. -/
theorem wellStored_runSource {m : Machine} (h : m.dictionary.WellStored) (path source : String) :
    (m.runSource path source).machine.dictionary.WellStored := by
  unfold runSource
  split
  · exact h
  · split
    · exact h
    · rename_i tokens hread
      obtain ⟨c, hreads⟩ := Token.readAll_eq_ok_iff.1 hread
      have hstart : Sourced { m.begin with frame := { tokens := tokens } } := ⟨h, hreads.written⟩
      exact hstart.runFrame.dictionary

/-- The machine after calls with the given pieces of code, from a new one on. -/
def afterRuns (sources : List String) : Machine :=
  sources.foldl (fun m source => (m.run source).machine) {}

/-- After any calls, the words are well stored. -/
theorem wellStored_of_runs (sources : List String) :
    (afterRuns sources).dictionary.WellStored := by
  have hfold : ∀ m : Machine, m.dictionary.WellStored →
      (sources.foldl (fun m source => (m.run source).machine) m).dictionary.WellStored := by
    induction sources with
    | nil => exact fun _ h => h
    | cons source rest ih => exact fun m h => ih _ (wellStored_runSource h _ source)
  exact hfold {} fun e he => absurd he List.not_mem_nil

end Machine

end BlockForth
