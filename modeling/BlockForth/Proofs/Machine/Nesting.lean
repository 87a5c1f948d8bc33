import BlockForth.Proofs.Machine.FaultKinds
import BlockForth.Proofs.Machine.Steps

/-!
# Nested runs

A block or a user word is run in a frame inside the one that it stands in. While it runs, the depth
counts the frames that are entered and not yet left, and it stays within the limit. The fault of
nesting too deep arises exactly where a frame is entered at the limit, and on its way out it keeps
its kind, so a run ends with it exactly if the run gets to such a place (`BoundedRun`).

`nested_runs_balanced` puts this together with what a nested run gives back to the frame around it:
the depth, the calls, the tokens, and the position always, and the flow registers too unless the
body of a user word has ended without a fault. A whole call therefore ends at depth zero and with no
word on the list of the calls.
-/

namespace BlockForth

namespace Config

/-- The fault that is on its way out, if there is one. -/
def raised? (c : Config) : Option Fault :=
  match c.phase with
  | .raise f => some f
  | _ => none

/-- Whether the next step runs a block or a user word. -/
def entersFrame (c : Config) : Bool :=
  match c.phase with
  | .execute (.block _ _) => true
  | .execute (.word _ spelling) => (c.machine.dictionary.find? (lowercase spelling)).isSome
  | _ => false

/-- Whether the fault is the one of nesting too deep. -/
def TooDeep (fault : Option Fault) : Prop :=
  ∃ f, fault = some f ∧ f.kind = .callDepth

/-- The fault of an outcome is the one that is on its way out after it. -/
@[simp]
theorem raised?_after (o : Outcome) (pending : List Pending) :
    (after o pending).raised? = o.fault := by
  rcases o with ⟨m, _ | f⟩
  · rfl
  · rfl

/-- No fault is not the one of nesting too deep. -/
theorem not_tooDeep_none : ¬ TooDeep none := by
  rintro ⟨f, hf, -⟩
  cases hf

/-- A built-in word does not nest too deep. -/
theorem not_tooDeep_of_raisesOnly {o : Outcome} (h : o.RaisesOnly FaultKind.OfWords) :
    ¬ TooDeep o.fault := by
  rintro ⟨f, hf, hkind⟩
  exact (h f hf).ne_callDepth hkind

/-! ## Where the fault of nesting too deep arises -/

/-- Entering a frame raises the fault exactly at the limit. -/
theorem tooDeep_enter_iff (f : Frame) (m : Machine) (pending : List Pending) :
    TooDeep (enter f m pending).raised? ↔ maxDepth ≤ m.depth := by
  unfold enter
  split
  · rename_i hlimit
    exact ⟨fun _ => hlimit, fun _ => ⟨_, rfl, rfl⟩⟩
  · rename_i hlimit
    exact ⟨fun h => absurd h not_tooDeep_none, fun h => absurd h hlimit⟩

/-- Reaching a token raises no such fault. -/
theorem not_tooDeep_fetch (m : Machine) (pending : List Pending) :
    ¬ TooDeep (fetch m pending).raised? := by
  rcases fetch_cases m pending with h | ⟨t, inlined, -, ⟨-, h⟩ | ⟨-, flow, count, h⟩⟩
  · rw [h]
    exact not_tooDeep_none
  · rw [h, raised?_after]
    refine not_tooDeep_of_raisesOnly fun f hf => ?_
    exact .inl (Machine.runDefinition_raisesOnly _ f hf)
  · rw [h]
    exact not_tooDeep_none

/-- Going on after the end of a piece raises no fault. -/
theorem raised?_resume (m : Machine) (pending : List Pending) :
    (resume m pending).raised? = none := by
  unfold resume
  split
  case h_3 => split <;> rfl
  all_goals rfl

/-- A step raises the fault of nesting too deep exactly if it enters a frame at the limit. -/
theorem tooDeep_next_iff (c : Config) (hc : c.raised? = none) :
    TooDeep c.next.raised? ↔ c.entersFrame = true ∧ maxDepth ≤ c.machine.depth := by
  obtain ⟨m, phase, pending⟩ := c
  cases phase with
  | fetch =>
    have hfetch := not_tooDeep_fetch m pending
    exact ⟨fun h => absurd h hfetch, fun h => absurd h.1 Bool.false_ne_true⟩
  | resume =>
    show TooDeep (resume m pending).raised? ↔ _
    rw [raised?_resume]
    exact ⟨fun h => absurd h not_tooDeep_none, fun h => absurd h.1 Bool.false_ne_true⟩
  | raise f => cases hc
  | execute t =>
    cases t with
    | literal location value =>
      exact ⟨fun h => absurd h not_tooDeep_none, fun h => absurd h.1 Bool.false_ne_true⟩
    | block location body =>
      have henter := tooDeep_enter_iff { tokens := body } m (.block m.frame :: pending)
      exact henter.trans ⟨fun h => ⟨rfl, h⟩, fun h => h.2⟩
    | word location spelling =>
      show TooDeep (execute m pending (.word location spelling)).raised? ↔
        (m.dictionary.find? (lowercase spelling)).isSome = true ∧ maxDepth ≤ m.depth
      rw [execute]
      rcases m.dictionary.find? (lowercase spelling) with _ | entry
      · -- No frame is entered, and neither an unknown word nor a built-in one nests too deep.
        have hnone : ¬ ((none : Option Entry).isSome = true ∧ maxDepth ≤ m.depth) :=
          fun h => absurd h.1 Bool.false_ne_true
        rcases Builtin.find? (lowercase spelling) with _ | word
        · refine ⟨fun h => ?_, fun h => absurd h hnone⟩
          obtain ⟨f, hf, hkind⟩ := h
          cases hf
          cases hkind
        · refine ⟨fun h => absurd h ?_, fun h => absurd h hnone⟩
          rw [raised?_after]
          exact not_tooDeep_of_raisesOnly (Machine.perform_raisesOnly m word)
      · have henter := tooDeep_enter_iff { tokens := entry.body, flow := m.frame.flow }
          { m with calls := ⟨lowercase spelling, location⟩ :: m.calls } (.body m.frame :: pending)
        exact henter.trans ⟨fun h => ⟨rfl, h⟩, fun h => h.2⟩

/-- A fault on its way out keeps its kind. -/
theorem tooDeep_next_of_raised {c : Config} {f : Fault} (hc : c.raised? = some f) :
    TooDeep c.next.raised? ↔ TooDeep c.raised? := by
  obtain ⟨m, phase, pending⟩ := c
  cases phase with
  | raise f =>
    show TooDeep (raise m f pending).raised? ↔ TooDeep (some f)
    rcases pending with _ | ⟨_ | _ | _ | _, pending⟩
    case cons.unit t inlined count =>
      -- The context only fills in a place and the calls.
      have hkind : (f.inContext t.location m.calls).kind = f.kind := rfl
      constructor
      · rintro ⟨g, hg, h⟩
        cases hg
        exact ⟨f, rfl, hkind ▸ h⟩
      · rintro ⟨g, hg, h⟩
        cases hg
        exact ⟨_, rfl, hkind.trans h⟩
    all_goals exact Iff.rfl
  | fetch => cases hc
  | execute t => cases hc
  | resume => cases hc

/-! ## The depth counts the nested frames -/

/-- How many frames have been entered and not yet left. -/
def nestedFrames : List Pending → Nat
  | [] => 0
  | .level :: pending => nestedFrames pending + 1
  | _ :: pending => nestedFrames pending

/-- The depth is `base` and one more for every frame that has been entered and not yet left, and it
is within the limit. -/
structure Counts (base : Nat) (c : Config) : Prop where
  depth_eq : c.machine.depth = base + nestedFrames c.pending
  depth_le : c.machine.depth ≤ maxDepth

variable {base : Nat}

/-- Whatever keeps the depth keeps the count. -/
theorem counts_after {m : Machine} {o : Outcome} {pending : List Pending}
    (hkept : o.machine.depth = m.depth) (hdepth : m.depth = base + nestedFrames pending)
    (hle : m.depth ≤ maxDepth) : Counts base (after o pending) := by
  refine ⟨hkept.trans hdepth, ?_⟩
  show o.machine.depth ≤ maxDepth
  rw [hkept]
  exact hle

/-- Entering a frame counts it, and refuses to go beyond the limit. -/
theorem counts_enter {f : Frame} {m : Machine} {pending : List Pending}
    (hdepth : m.depth = base + nestedFrames pending) (hle : m.depth ≤ maxDepth) :
    Counts base (enter f m pending) := by
  unfold enter
  split
  · exact counts_after rfl hdepth hle
  · refine ⟨?_, ?_⟩
    · show m.depth + 1 = base + (nestedFrames pending + 1)
      omega
    · show m.depth + 1 ≤ maxDepth
      omega

/-- Fetching a token keeps the count, and enters nothing. -/
theorem counts_fetch {m : Machine} {pending : List Pending}
    (hdepth : m.depth = base + nestedFrames pending) (hle : m.depth ≤ maxDepth) :
    Counts base (fetch m pending) := by
  rcases fetch_cases m pending with h | ⟨t, inlined, -, ⟨-, h⟩ | ⟨-, flow, count, h⟩⟩
  · rw [h]
    exact ⟨hdepth, hle⟩
  · rw [h]
    exact counts_after (Machine.runDefinition_onward _).depth hdepth hle
  · rw [h]
    exact ⟨hdepth, hle⟩

/-- Running a token keeps the count, also where the token opens a frame. -/
theorem counts_execute {m : Machine} {pending : List Pending} (t : Token)
    (hdepth : m.depth = base + nestedFrames pending) (hle : m.depth ≤ maxDepth) :
    Counts base (execute m pending t) := by
  unfold execute
  split
  · exact ⟨hdepth, hle⟩
  · exact counts_enter hdepth hle
  · dsimp only
    split
    · exact counts_enter hdepth hle
    · split
      · exact counts_after (Machine.perform_onward m _).depth hdepth hle
      · exact counts_after rfl hdepth hle

/-- Giving up a level takes one frame off the count. -/
theorem counts_resume {m : Machine} {pending : List Pending}
    (hdepth : m.depth = base + nestedFrames pending) (hle : m.depth ≤ maxDepth) :
    Counts base (resume m pending) := by
  unfold resume
  split
  case h_3 => split <;> exact ⟨hdepth, hle⟩
  case h_4 pending =>
    have hcount : m.depth = base + (nestedFrames pending + 1) := hdepth
    refine ⟨?_, ?_⟩
    · show m.depth - 1 = base + nestedFrames pending
      omega
    · show m.depth - 1 ≤ maxDepth
      omega
  all_goals exact ⟨hdepth, hle⟩

/-- A fault on its way out leaves one frame after the other, and each one is counted. -/
theorem counts_raise {m : Machine} {f : Fault} {pending : List Pending}
    (hdepth : m.depth = base + nestedFrames pending) (hle : m.depth ≤ maxDepth) :
    Counts base (raise m f pending) := by
  unfold raise
  split
  case h_3 pending =>
    have hcount : m.depth = base + (nestedFrames pending + 1) := hdepth
    refine ⟨?_, ?_⟩
    · show m.depth - 1 = base + nestedFrames pending
      omega
    · show m.depth - 1 ≤ maxDepth
      omega
  all_goals exact ⟨hdepth, hle⟩

/-- A step keeps the count. -/
theorem Counts.next {c : Config} (h : Counts base c) : Counts base c.next := by
  obtain ⟨m, phase, pending⟩ := c
  obtain ⟨hdepth, hle⟩ := h
  cases phase with
  | fetch => exact counts_fetch hdepth hle
  | execute t => exact counts_execute t hdepth hle
  | resume => exact counts_resume hdepth hle
  | raise f => exact counts_raise hdepth hle

/-- A run keeps the count. -/
theorem Counts.of_reaches {c c' : Config} (h : Counts base c) (hreach : Reaches c c') :
    Counts base c' :=
  hreach.preserves (P := Counts base) (fun _ hd => hd.next) h

/-! ## Whole runs -/

/-- A run that ends with the fault of nesting too deep has entered a frame at the limit. -/
theorem exists_entersFrame_of_tooDeep {c c' : Config} (hreach : Reaches c c')
    (hc : c.raised? = none) (h : TooDeep c'.raised?) :
    ∃ d, Reaches c d ∧ d.entersFrame = true ∧ maxDepth ≤ d.machine.depth := by
  obtain ⟨n, rfl⟩ := hreach
  induction n with
  | zero =>
    rw [Function.iterate_zero_apply, hc] at h
    exact absurd h not_tooDeep_none
  | succ n ih =>
    rw [Function.iterate_succ_apply'] at h
    rcases hraised : (next^[n] c).raised? with _ | f
    · exact ⟨_, ⟨n, rfl⟩, (tooDeep_next_iff _ hraised).1 h⟩
    · exact ih ((tooDeep_next_of_raised hraised).1 h)

/-- Once raised, the fault of nesting too deep goes all the way out. -/
theorem tooDeep_of_reaches {c c' : Config} (hreach : Reaches c c') (h : TooDeep c.raised?) :
    TooDeep c'.raised? := by
  refine hreach.preserves (P := fun d => TooDeep d.raised?) (fun d hd => ?_) h
  obtain ⟨f, hf, hkind⟩ := hd
  exact (tooDeep_next_of_raised hf).2 ⟨f, hf, hkind⟩

/-- The run from `c` ends with the outcome `o`, with the depth within the limit at every step. The
fault of nesting too deep is raised exactly where a frame is entered at the limit. -/
structure BoundedRun (c : Config) (o : Outcome) : Prop where
  ends : Reaches c (after o [])
  depth_eq : ∀ d, Reaches c d → d.machine.depth = c.machine.depth + nestedFrames d.pending
  depth_le : ∀ d, Reaches c d → d.machine.depth ≤ maxDepth
  raises_iff : ∀ d, Reaches c d → d.raised? = none →
    (TooDeep d.next.raised? ↔ d.entersFrame = true ∧ d.machine.depth = maxDepth)
  fails_iff : TooDeep o.fault ↔
    ∃ d, Reaches c d ∧ d.entersFrame = true ∧ d.machine.depth = maxDepth

/-- A run that starts with nothing pending, no fault, and a depth within the limit is bounded. -/
theorem boundedRun_of_reaches {m : Machine} {phase : Phase} {o : Outcome}
    (hraised : (Config.mk m phase []).raised? = none) (hm : m.depth ≤ maxDepth)
    (hends : Reaches ⟨m, phase, []⟩ (after o [])) : BoundedRun ⟨m, phase, []⟩ o := by
  have hcounts : ∀ d, Reaches ⟨m, phase, []⟩ d → Counts m.depth d :=
    fun d hd => Counts.of_reaches ⟨rfl, hm⟩ hd
  have hlimit : ∀ d, Reaches ⟨m, phase, []⟩ d →
      (d.machine.depth = maxDepth ↔ maxDepth ≤ d.machine.depth) := by
    intro d hd
    have hle := (hcounts d hd).depth_le
    omega
  refine ⟨hends, fun d hd => (hcounts d hd).depth_eq, fun d hd => (hcounts d hd).depth_le, ?_, ?_⟩
  · intro d hd hnone
    rw [hlimit d hd]
    exact tooDeep_next_iff d hnone
  · constructor
    · intro h
      obtain ⟨d, hd, henters, hdepth⟩ := exists_entersFrame_of_tooDeep hends hraised
        (by rw [raised?_after]; exact h)
      exact ⟨d, hd, henters, (hlimit d hd).2 hdepth⟩
    · rintro ⟨d, hd, henters, hdepth⟩
      have hnone : d.raised? = none := by
        obtain ⟨m', phase', pending'⟩ := d
        cases phase' with
        | raise f => cases henters
        | _ => rfl
      have hraises := (tooDeep_next_iff d hnone).2 ⟨henters, (hlimit d hd).1 hdepth⟩
      -- The step behind `d` raises the fault, and the run still has to come to its end from there.
      have hbehind : Reaches d.next (after o []) := hends.end_of_reaches hd.tail
      have hlast := tooDeep_of_reaches hbehind hraises
      rw [raised?_after] at hlast
      exact hlast

end Config

namespace Machine

/-- A machine at a depth within the limit gets back from a block what it had before, and so it does
from a user word, apart from the flow registers if the word has ended without a fault. Both runs are
bounded. A whole call ends at depth zero and under no calls. -/
theorem nested_runs_balanced (m : Machine) (hm : m.depth ≤ maxDepth) :
    (∀ body, let o := m.executeTokens body
      o.machine.depth = m.depth ∧ o.machine.calls = m.calls ∧ o.machine.frame = m.frame ∧
        Config.BoundedRun ⟨m, .execute (.block {} body), []⟩ o) ∧
    (∀ location spelling entry, m.dictionary.find? (lowercase spelling) = some entry →
      let o := m.execute location spelling
      o.machine.depth = m.depth ∧ o.machine.calls = m.calls ∧
        o.machine.frame.tokens = m.frame.tokens ∧ o.machine.frame.position = m.frame.position ∧
        (o.fault ≠ none → o.machine.frame = m.frame) ∧
        Config.BoundedRun ⟨m, .execute (.word location spelling), []⟩ o) ∧
    (∀ path source, let o := m.runSource path source
      o.machine.depth = 0 ∧ o.machine.calls = []) := by
  refine ⟨?_, ?_, ?_⟩
  · intro body
    have hback := runBlock_onward nested_balanced m body
    have hends := Config.reaches_runToken m (.block {} body) []
    exact ⟨hback.depth, hback.calls, rfl, Config.boundedRun_of_reaches rfl hm hends⟩
  · intro location spelling entry hentry
    have hback := runBody_onward nested_balanced m ⟨lowercase spelling, location⟩ entry.body
    have hends := Config.reaches_runToken m (.word location spelling) []
    -- The dictionary has the word, so that running it is running its body.
    have hrun : m.execute location spelling =
        m.runBody nested ⟨lowercase spelling, location⟩ entry.body := by
      rw [execute, runWord, hentry]
    have hbounded : Config.BoundedRun ⟨m, .execute (.word location spelling), []⟩
        (m.execute location spelling) := Config.boundedRun_of_reaches rfl hm hends
    rw [hrun] at hbounded ⊢
    refine ⟨hback.depth, hback.calls, rfl, rfl, fun hfault => ?_, hbounded⟩
    exact frame_runBody_of_fault hfault
  · intro path source
    unfold runSource
    split
    · exact ⟨rfl, rfl⟩
    · split
      · exact ⟨rfl, rfl⟩
      · rename_i tokens _
        have hback := runFrame_sameFrame { m.begin with frame := { tokens := tokens } }
        exact ⟨hback.depth, hback.calls⟩

/-- A machine one level below the limit, with a word that sets the skip register and calls itself
from a block. -/
def runaway : Machine where
  dictionary := ({} : Dictionary).insert "again" {}
    [.literal {} (.int 0), .word {} "if", .word {} "bye", .block {} [.word {} "AGAIN"]]
  location := some { line := 3 }
  calls := [⟨"main", {}⟩]
  frame := { tokens := [.word {} "Again"], flow := { lastIf := true, repeats := 2 } }
  depth := 511

/-- The word goes down to the limit, the fault comes back, and the machine has its frame again. -/
theorem nested_runs_balanced_runaway :
    let o := runaway.execute {} "Again"
    runaway.depth ≤ maxDepth ∧ (runaway.dictionary.find? (lowercase "Again")).isSome ∧
      o.machine.stack.size = 1 ∧ o.machine.depth = 511 ∧ o.machine.calls = runaway.calls ∧
      o.machine.frame = runaway.frame ∧ Config.TooDeep o.fault ∧
      ∃ d, Config.Reaches ⟨runaway, .execute (.word {} "Again"), []⟩ d ∧ d.entersFrame = true ∧
        d.machine.depth = maxDepth := by
  have hm : runaway.depth ≤ maxDepth := by decide
  obtain ⟨entry, hentry⟩ : ∃ entry, runaway.dictionary.find? (lowercase "Again") = some entry :=
    ⟨_, by rfl⟩
  have hfault : Config.TooDeep (runaway.execute {} "Again").fault := ⟨_, by rfl, by rfl⟩
  have hsome : (runaway.execute {} "Again").fault ≠ none := by
    obtain ⟨f, hf, -⟩ := hfault
    rw [hf]
    exact Option.some_ne_none f
  obtain ⟨hdepth, hcalls, -, -, hframe, hbounded⟩ :=
    (nested_runs_balanced runaway hm).2.1 {} "Again" entry hentry
  refine ⟨hm, by rw [hentry]; rfl, by rfl, hdepth, hcalls, hframe hsome, hfault, ?_⟩
  exact hbounded.fails_iff.1 hfault

end Machine

end BlockForth
