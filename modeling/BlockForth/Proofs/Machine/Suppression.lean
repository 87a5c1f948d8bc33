import BlockForth.Proofs.Machine.Exit
import BlockForth.Proofs.Machine.FaultPlace
import Mathlib.Data.Nat.Basic
import Mathlib.Logic.Function.Iterate
import Mathlib.Order.Basic

/-!
# Units that are passed over

An `if` on a false condition has the unit after it passed over, and so has an `else` after a true
one. Such a word sets the skip register to two, since it counts as a unit itself, and the register
is counted down behind every unit. But a user word does not count, as the tokens of its body have
counted already, and its body starts with what is left of the register and leaves there what is left
then. `passes_over_one_unit` says that one unit at most is ever waiting to be passed over, wherever
it lies.

The proof keeps an account. What is `due` in a configuration is the number of units that are still
to be passed over, with the token that is being run left out if it counts. A step never raises it,
unless the step performs one of the two words, and then one unit is due. Passing over a unit takes
one off (`due_next_lt`). For this a token has to count exactly if it is run otherwise than by a
body, which is decided before it is run for the first time. `Accounted` says why that does not
change: the dictionary only grows, and a built-in word, which could be hidden by a user word later,
does not change it.

A fault breaks a frame off in the middle of a unit, as when an `if` that is to be run twice finds no
second condition. The register may be at two then, but nothing is left for it to act on, since no
token is reached any more.
-/

namespace BlockForth

namespace Machine

/-! ## What a built-in word does to the skip register -/

/-- Performing the word has the unit after it passed over: it is an `if` on a false condition, or an
`else` after a true one. -/
def SkipsNext (m : Machine) (w : Builtin) : Prop :=
  w = .ifTrue ∧ (∃ v s, m.stack.pop = .ok (v, s) ∧ v.isTruthy = false) ∨
    w = .otherwise ∧ m.frame.flow.lastIf = true

/-- The outcome has the skip register of the machine. -/
def KeepsSkip (m : Machine) (o : Outcome) : Prop :=
  o.machine.frame.flow.skip = m.frame.flow.skip

variable {m : Machine}

/-- A word that fails keeps the register, and else what comes after decides. -/
theorem keepsSkip_given {α : Type} {result : Except Cause α} {next : α → Outcome}
    (hnext : ∀ a, m.KeepsSkip (next a)) : m.KeepsSkip (m.given result next) := by
  cases result with
  | error cause => rfl
  | ok a => exact hnext a

/-- A word that only works on the stack keeps the register. -/
theorem keepsSkip_onStack (result : Except Cause Stack) : m.KeepsSkip (m.onStack result) :=
  keepsSkip_given fun _ => rfl

/-- A definition keeps the register, and a malformed one too. -/
theorem keepsSkip_define (m : Machine) : m.KeepsSkip m.define := by
  rcases m.define_cases with ⟨cause, p, h⟩ | ⟨name, body, p, -, h⟩
  · rw [h]
    rfl
  · rw [h]
    rfl

/-- A `:` that is reached keeps the register, also when it is passed over. -/
theorem keepsSkip_runDefinition (m : Machine) : m.KeepsSkip m.runDefinition := by
  unfold runDefinition
  dsimp only
  split
  · rcases m.passDefinition_cases with ⟨p, h⟩ | ⟨p, h⟩
    · rw [h]
      rfl
    · rw [h]
      rfl
  · exact keepsSkip_define (m.setFlow { m.frame.flow with repeats := 1 })

/-- No other word touches the register. -/
theorem keepsSkip_perform (w : Builtin) (hif : w ≠ .ifTrue) (helse : w ≠ .otherwise) :
    m.KeepsSkip (m.perform w) := by
  rw [perform_eq_performAtOnce]
  cases w
  case ifTrue => exact absurd rfl hif
  case otherwise => exact absurd rfl helse
  case define => exact keepsSkip_define m
  case divMod =>
    refine keepsSkip_given fun p => keepsSkip_given fun q => ?_
    dsimp only
    split
    · rfl
    · rfl
  case chr | ord | emit =>
    refine keepsSkip_given fun p => ?_
    dsimp only
    split
    · rfl
    · rfl
  case spaces => exact keepsSkip_given fun p => keepsSkip_given fun _ => rfl
  case print | times => exact keepsSkip_given fun p => rfl
  case reverse | depth | newline | space | printStack | printWords | bye | endDefinition |
      endBlock =>
    rfl
  -- What is left are words that only give the machine another stack.
  all_goals exact keepsSkip_onStack _

/-- A word does not raise the register, or else it sets it to two for the unit after it. -/
theorem skip_perform (m : Machine) (w : Builtin) :
    (m.perform w).machine.frame.flow.skip ≤ m.frame.flow.skip ∨
      m.SkipsNext w ∧ (m.perform w).machine.frame.flow.skip = 2 := by
  by_cases hif : w = .ifTrue
  · subst hif
    rw [perform_eq_performAtOnce, performAtOnce]
    rcases hpop : m.stack.pop with cause | ⟨v, s⟩
    · exact .inl (Nat.le_refl _)
    · by_cases hv : v.isTruthy = true
      · left
        simp [given, Outcome.done, setFlow, hv]
      · right
        refine ⟨.inl ⟨rfl, v, s, hpop, Bool.eq_false_iff.2 hv⟩, ?_⟩
        simp [given, Outcome.done, setFlow, hv]
  · by_cases helse : w = .otherwise
    · subst helse
      by_cases hlast : m.frame.flow.lastIf = true
      · right
        refine ⟨.inr ⟨rfl, hlast⟩, ?_⟩
        simp [perform_eq_performAtOnce, performAtOnce, Outcome.done, setFlow, hlast]
      · left
        simp [perform_eq_performAtOnce, performAtOnce, Outcome.done, setFlow, hlast]
    · exact .inl (keepsSkip_perform w hif helse).le

end Machine

namespace Config

/-! ## The account -/

/-- Whether the next step passes over a unit: a token is reached while the skip register is set. -/
def passesOver (c : Config) : Bool :=
  match c.phase with
  | .fetch =>
    !c.machine.exiting && c.machine.frame.token?.isSome && 0 < c.machine.frame.flow.skip
  | _ => false

/-- The next step performs a word that has the unit after it passed over. -/
def SkipsNext (c : Config) : Prop :=
  ∃ w, c.performed? = some w ∧ c.machine.SkipsNext w

/-- How many units are still to be passed over when the current piece of the run has ended. A token
that is being run counts, unless it is a user word. -/
def due (c : Config) : Nat :=
  match c.phase, c.pending with
  | .raise _, _ => 0
  | .fetch, _ => c.machine.frame.flow.skip
  | _, .unit _ inlined _ :: _ =>
    if inlined then c.machine.frame.flow.skip else c.machine.frame.flow.skip - 1
  | _, _ => c.machine.frame.flow.skip

/-- No more is due than the register says. -/
theorem due_le_skip (c : Config) : c.due ≤ c.machine.frame.flow.skip := by
  unfold due
  split
  · exact Nat.zero_le _
  · exact Nat.le_refl _
  · split
    · exact Nat.le_refl _
    · exact Nat.sub_le _ _
  · exact Nat.le_refl _

/-- Behind a token that counts, one unit less is due than the register says. -/
theorem due_after_unit (o : Outcome) (t : Token) (count : Nat) (pending : List Pending) :
    (after o (.unit t false count :: pending)).due ≤ o.machine.frame.flow.skip - 1 := by
  rcases o with ⟨m, _ | f⟩
  · exact Nat.le_refl _
  · exact Nat.zero_le _

/-- Going back from the frame of the token `t`, which counts exactly if it is a block. A block is
not run while a unit is to be passed over. -/
inductive ReturnsFrom (d : Dictionary) : Token → (inlined : Bool) → Pending → Prop
  | block {caller : Frame} {l : Location} {body : List Token} (hskip : caller.flow.skip = 0) :
      ReturnsFrom d (.block l body) false (.block caller)
  | body {caller : Frame} {l : Location} {spelling : String} (huser : d.contains spelling = true) :
      ReturnsFrom d (.word l spelling) true (.body caller)

/-- What is pending around a frame: nothing, or the end of the token that the frame belongs to. -/
inductive Around (d : Dictionary) : List Pending → Prop
  | outermost : Around d []
  | nested {t : Token} {back : Pending} {inlined : Bool} {count : Nat} {pending : List Pending}
      (hback : ReturnsFrom d t inlined back) (h : Around d pending) :
      Around d (.level :: back :: .unit t inlined count :: pending)

/-- A word that is in the dictionary stays in it when the dictionary grows. -/
theorem ReturnsFrom.mono {d d' : Dictionary} {t : Token} {inlined : Bool} {back : Pending}
    (hd : d.Within d') (h : ReturnsFrom d t inlined back) : ReturnsFrom d' t inlined back := by
  cases h with
  | block hskip => exact .block hskip
  | body huser => exact .body (hd _ huser)

/-- What is pending stays right when the dictionary grows. -/
theorem Around.mono {d d' : Dictionary} {pending : List Pending} (hd : d.Within d')
    (h : Around d pending) : Around d' pending := by
  induction h with
  | outermost => exact .outermost
  | nested hback _ ih => exact .nested (hback.mono hd) ih

/-- A token that is to be run. A user word does not count, a built-in word that no user word hides
does, and so do a literal and a block, which are not run while a unit is to be passed over. -/
inductive Counted (m : Machine) : Token → (inlined : Bool) → Prop
  | user {l : Location} {spelling : String} (huser : m.dictionary.contains spelling = true) :
      Counted m (.word l spelling) true
  | builtin {l : Location} {spelling : String} (huser : m.dictionary.contains spelling = false)
      (hstarts : m.startsDefinition (.word l spelling) = false) :
      Counted m (.word l spelling) false
  | unit {t : Token} (ht : t.name? = none) (hskip : m.frame.flow.skip = 0) : Counted m t false

/-- Every token counts as it is run, the one that is being run and those of the frames around.
Nothing is said once a fault is on its way out. -/
inductive Accounted : Config → Prop
  | fetch {m : Machine} {pending : List Pending} (h : Around m.dictionary pending) :
      Accounted ⟨m, .fetch, pending⟩
  | execute {m : Machine} {t : Token} {inlined : Bool} {count : Nat} {pending : List Pending}
      (ht : Counted m t inlined) (h : Around m.dictionary pending) :
      Accounted ⟨m, .execute t, .unit t inlined count :: pending⟩
  | unit {m : Machine} {t : Token} {inlined : Bool} {count : Nat} {pending : List Pending}
      (ht : count ≠ 0 → Counted m t inlined) (h : Around m.dictionary pending) :
      Accounted ⟨m, .resume, .unit t inlined count :: pending⟩
  | ended {m : Machine} {pending : List Pending} (h : Around m.dictionary pending) :
      Accounted ⟨m, .resume, pending⟩
  | left {m : Machine} {t : Token} {back : Pending} {inlined : Bool} {count : Nat}
      {pending : List Pending} (hback : ReturnsFrom m.dictionary t inlined back)
      (h : Around m.dictionary pending) :
      Accounted ⟨m, .resume, back :: .unit t inlined count :: pending⟩
  | raised {m : Machine} {f : Fault} {pending : List Pending} : Accounted ⟨m, .raise f, pending⟩

/-! ## Steps -/

/-- A step from `c` to `c'` keeps the account: no more is due than before, or one unit after a word
that asks for it. -/
structure Keeps (c c' : Config) : Prop where
  accounted : Accounted c'
  due_le : c'.due ≤ c.due ∨ c.SkipsNext ∧ c'.due ≤ 1

variable {m : Machine} {t : Token} {inlined : Bool} {count : Nat} {pending : List Pending}

/-- A token that has been run is to be run again as it counted, or a fault is on its way. -/
theorem accounted_after {o : Outcome} (ht : count ≠ 0 → Counted o.machine t inlined)
    (h : Around o.machine.dictionary pending) :
    Accounted (after o (.unit t inlined count :: pending)) := by
  rcases o with ⟨m', _ | f⟩
  · exact .unit ht h
  · exact .raised

/-- The frame that a token enters is accounted for by that token. -/
theorem accounted_enter {f : Frame} {back : Pending}
    (hback : ReturnsFrom m.dictionary t inlined back) (h : Around m.dictionary pending) :
    Accounted (Config.enter f m (back :: .unit t inlined count :: pending)) := by
  unfold Config.enter
  split
  · exact .raised
  · exact .fetch (.nested hback h)

/-- A frame starts with what its flow registers say. -/
theorem due_enter_le (f : Frame) (m : Machine) (pending : List Pending) :
    (Config.enter f m pending).due ≤ f.flow.skip := by
  unfold Config.enter
  split
  · exact Nat.zero_le _
  · exact Nat.le_refl _

/-- Only the dictionary and the skip register matter for it. -/
theorem Counted.of_same {m' : Machine} (h : Counted m t inlined)
    (hdictionary : m'.dictionary = m.dictionary)
    (hskip : m'.frame.flow.skip = m.frame.flow.skip) : Counted m' t inlined := by
  cases h with
  | user huser => exact .user (hdictionary ▸ huser)
  | builtin huser hstarts =>
    refine .builtin (hdictionary ▸ huser) ?_
    rw [Machine.startsDefinition, hdictionary]
    exact hstarts
  | unit ht hzero => exact .unit ht (hskip.trans hzero)

/-- With the skip register clear, a token that is reached counts unless it is a user word. -/
theorem counted_of_reached (hstarts : m.startsDefinition t = false)
    (hskip : m.frame.flow.skip = 0) : Counted m t (m.isUserWord t) := by
  cases t with
  | literal l value => exact .unit rfl hskip
  | block l body => exact .unit rfl hskip
  | word l spelling =>
    show Counted m (.word l spelling) (m.dictionary.contains spelling)
    cases huser : m.dictionary.contains spelling with
    | true => exact .user huser
    | false => exact .builtin huser hstarts

/-- A token that is fetched counts as it will be run. -/
theorem accounted_fetch (h : Around m.dictionary pending) :
    Accounted (Config.fetch m pending) := by
  unfold Config.fetch
  dsimp only
  split
  · exact .ended h
  · rename_i t ht
    split
    · exact .ended h
    · split
      · exact accounted_after (fun hne => absurd rfl hne) (h.mono (runDefinition_within _).2)
      · rename_i hstarts
        split
        · -- A token that is passed over is not run, so nothing has to be known of it.
          exact .unit (fun hne => absurd rfl hne) h
        · rename_i hactive
          have hskip : m.frame.flow.skip = 0 := by omega
          have hflag : (m.frame.flow.skip == 0 && m.isUserWord t) = m.isUserWord t := by
            rw [hskip]
            rfl
          have hcounted := counted_of_reached (Bool.eq_false_iff.2 hstarts) hskip
          rw [hflag]
          exact .unit (fun _ => hcounted.of_same rfl rfl) h

/-- Reaching a token leaves the skip register to the end of the unit. -/
theorem skip_fetch (m : Machine) (pending : List Pending) :
    (Config.fetch m pending).machine.frame.flow.skip = m.frame.flow.skip := by
  unfold Config.fetch
  dsimp only
  split
  · rfl
  · rename_i t ht
    split
    · rfl
    · split
      · exact Machine.keepsSkip_runDefinition { m with location := some t.location }
      · split
        · rfl
        · rfl

/-- Fetching a token keeps the account: a unit that is passed over was due. -/
theorem keeps_fetch (h : Around m.dictionary pending) :
    Keeps ⟨m, .fetch, pending⟩ (Config.fetch m pending) := by
  refine ⟨accounted_fetch h, .inl ?_⟩
  calc (Config.fetch m pending).due ≤ (Config.fetch m pending).machine.frame.flow.skip :=
        due_le_skip _
    _ = m.frame.flow.skip := skip_fetch m pending

/-- A built-in word is performed, and it still counts when it is run again. -/
theorem keeps_perform {l : Location} {spelling : String} {w : Builtin}
    (huser : m.dictionary.contains spelling = false)
    (hstarts : m.startsDefinition (.word l spelling) = false)
    (hw : Builtin.find? (lowercase spelling) = some w) (h : Around m.dictionary pending) :
    Keeps ⟨m, .execute (.word l spelling), .unit (.word l spelling) false count :: pending⟩
      (after (m.perform w) (.unit (.word l spelling) false count :: pending)) := by
  have hfind := Dictionary.find?_eq_none_of_contains huser
  have hdue := due_after_unit (m.perform w) (.word l spelling) count pending
  refine ⟨?_, ?_⟩
  · obtain ⟨_, _, _, _, hkept⟩ :=
      Machine.perform_onlyValues m w (ne_define_of_find? hfind hstarts hw)
    refine accounted_after (fun _ => ?_) ?_
    · rw [hkept]
      exact .builtin huser hstarts
    · rw [hkept]
      exact h
  · rcases m.skip_perform w with hle | ⟨hskips, htwo⟩
    · exact .inl (hdue.trans (Nat.sub_le_sub_right hle 1))
    · right
      refine ⟨⟨w, ?_, hskips⟩, ?_⟩
      · show (if m.dictionary.contains spelling then none else Builtin.find? _) = some w
        rw [huser, hw]
        rfl
      · -- Of the two that the register is set to, the word itself is one.
        rw [htwo] at hdue
        exact hdue

/-- Running a token keeps the account, and only `if` and `else` make a unit due. -/
theorem keeps_execute (ht : Counted m t inlined) (h : Around m.dictionary pending) :
    Keeps ⟨m, .execute t, .unit t inlined count :: pending⟩
      (Config.execute m (.unit t inlined count :: pending) t) := by
  cases ht with
  | @user l spelling huser =>
    obtain ⟨entry, hfind⟩ : ∃ entry, m.dictionary.find? (lowercase spelling) = some entry := by
      rw [Dictionary.find?_lowercase]
      exact Option.isSome_iff_exists.1 huser
    simp only [Config.execute, hfind]
    -- The body takes the register over, and the word leaves all the counting to it.
    exact ⟨accounted_enter (.body huser) h, .inl (due_enter_le _ _ _)⟩
  | @builtin l spelling huser hstarts =>
    simp only [Config.execute, Dictionary.find?_eq_none_of_contains huser]
    rcases hw : Builtin.find? (lowercase spelling) with _ | w
    · exact ⟨.raised, .inl (Nat.zero_le _)⟩
    · exact keeps_perform huser hstarts hw h
  | unit ht hskip =>
    cases t with
    | word l spelling => cases ht
    | literal l value => exact ⟨.unit (fun _ => .unit ht hskip) h, .inl (Nat.le_refl _)⟩
    | block l body =>
      exact ⟨accounted_enter (.block hskip) h, .inl ((due_enter_le _ _ _).trans (Nat.zero_le _))⟩

/-- The next run of a token, or the end of it, which is where it counts. -/
theorem keeps_unit (ht : count ≠ 0 → Counted m t inlined) (h : Around m.dictionary pending) :
    Keeps ⟨m, .resume, .unit t inlined count :: pending⟩
      (Config.resume m (.unit t inlined count :: pending)) := by
  cases count with
  | zero => exact ⟨.fetch h, .inl (Nat.le_refl _)⟩
  | succ count =>
    rw [Config.resume]
    split
    · exact ⟨.unit (fun hne => absurd rfl hne) h, .inl (Nat.le_refl _)⟩
    · exact ⟨.execute (ht (Nat.succ_ne_zero count)) h, .inl (Nat.le_refl _)⟩

/-- The end of a frame leaves the register to whatever the frame goes back to. -/
theorem keeps_end (h : Around m.dictionary pending) :
    Keeps ⟨m, .resume, pending⟩ (Config.resume m pending) := by
  cases h with
  | outermost => exact ⟨.ended .outermost, .inl (Nat.le_refl _)⟩
  | nested hback h =>
    refine ⟨.left hback h, .inl ?_⟩
    cases hback with
    | block hskip => exact Nat.le_refl _
    | body huser => exact Nat.le_refl _

/-- A block gives back the register of its caller, which is clear, and a body hands over its own. -/
theorem keeps_back {back : Pending} (hback : ReturnsFrom m.dictionary t inlined back)
    (h : Around m.dictionary pending) :
    Keeps ⟨m, .resume, back :: .unit t inlined count :: pending⟩
      (Config.resume m (back :: .unit t inlined count :: pending)) := by
  cases hback with
  | @block caller l body hskip =>
    refine ⟨.unit (fun _ => .unit rfl hskip) h, .inl ?_⟩
    show caller.flow.skip - 1 ≤ m.frame.flow.skip
    omega
  | body huser => exact ⟨.unit (fun _ => .user huser) h, .inl (Nat.le_refl _)⟩

/-- Every step keeps the account. -/
theorem Accounted.keeps {c : Config} (h : Accounted c) : Keeps c c.next := by
  cases h with
  | fetch h => exact keeps_fetch h
  | execute ht h => exact keeps_execute ht h
  | unit ht h => exact keeps_unit ht h
  | ended h => exact keeps_end h
  | left hback h => exact keeps_back hback h
  | @raised m f pending =>
    rcases pending with _ | ⟨_ | _ | _ | _, pending⟩
    all_goals exact ⟨.raised, .inl (Nat.le_refl _)⟩

/-- Passing over a unit takes one off what is due. -/
theorem due_next_lt {c : Config} (h : c.passesOver = true) : c.next.due < c.due := by
  obtain ⟨m, phase, pending⟩ := c
  obtain rfl : phase = .fetch := by
    cases phase with
    | fetch => rfl
    | _ => cases h
  simp only [passesOver, Bool.and_eq_true, Bool.not_eq_true', decide_eq_true_eq] at h
  obtain ⟨⟨hexit, htoken⟩, hskip⟩ := h
  obtain ⟨t, ht⟩ := Option.isSome_iff_exists.1 htoken
  have hinlined : (m.frame.flow.skip == 0 && m.isUserWord t) = false := by
    rw [beq_eq_false_iff_ne.2 (Nat.ne_of_gt hskip), Bool.false_and]
  show (Config.fetch m pending).due < m.frame.flow.skip
  unfold Frame.token? at ht
  unfold Config.fetch
  rw [ht]
  dsimp only
  rw [if_neg (Bool.eq_false_iff.1 hexit), hinlined]
  have hless : m.frame.flow.skip - 1 < m.frame.flow.skip := Nat.sub_lt hskip Nat.one_pos
  split
  · -- A definition is passed over as one unit.
    have hdue := due_after_unit { m with location := some t.location }.runDefinition t 0 pending
    rw [Machine.keepsSkip_runDefinition] at hdue
    exact Nat.lt_of_le_of_lt hdue hless
  · exact hless

/-! ## Runs -/

/-- A run in which one unit at most is due at the start keeps the account, and one unit at most is
due at any point of it. -/
theorem Accounted.of_reaches {c d : Config} (h : Accounted c) (hdue : c.due ≤ 1)
    (hreach : Reaches c d) : Accounted d ∧ d.due ≤ 1 := by
  refine hreach.preserves (P := fun d => Accounted d ∧ d.due ≤ 1) ?_ ⟨h, hdue⟩
  rintro e ⟨he, hle⟩
  obtain ⟨haccounted, hnext | ⟨-, hone⟩⟩ := he.keeps
  · exact ⟨haccounted, hnext.trans hle⟩
  · exact ⟨haccounted, hone⟩

/-- After any number of steps nothing is due, or one of the steps has performed a word that has the
unit after it passed over, and none has been passed over since. -/
theorem due_eq_zero_or {c : Config} (h : Accounted c) (hdue : c.due = 0) (n : Nat) :
    (next^[n] c).due = 0 ∨
      ∃ k < n, (next^[k] c).SkipsNext ∧ ∀ i, k < i → i < n → (next^[i] c).passesOver = false := by
  induction n with
  | zero => exact .inl hdue
  | succ n ih =>
    obtain ⟨haccounted, hle⟩ := h.of_reaches (by omega) ⟨n, rfl⟩
    rw [Function.iterate_succ_apply']
    rcases haccounted.keeps.due_le with hnext | ⟨hskips, -⟩
    · by_cases hpasses : (next^[n] c).passesOver = true
      · -- The unit that was due is the one that is passed over.
        have hless := due_next_lt hpasses
        exact .inl (by omega)
      · rcases ih with hzero | ⟨k, hk, hskips, hbetween⟩
        · exact .inl (by omega)
        · refine .inr ⟨k, by omega, hskips, fun i hki hi => ?_⟩
          rcases Nat.lt_succ_iff_lt_or_eq.1 hi with hlt | rfl
          · exact hbetween i hki hlt
          · exact Bool.eq_false_iff.2 hpasses
    · exact .inr ⟨n, by omega, hskips, fun i hki hi => by omega⟩

/-- A fault stays on its way out. -/
theorem raised_next {c : Config} (h : c.raised? ≠ none) : c.next.raised? ≠ none := by
  obtain ⟨m, phase, pending⟩ := c
  cases phase with
  | raise f =>
    rcases pending with _ | ⟨_ | _ | _ | _, pending⟩
    all_goals exact Option.some_ne_none _
  | fetch => exact absurd rfl h
  | execute t => exact absurd rfl h
  | resume => exact absurd rfl h

/-- A frame has been run to its end, or up to the end of the program, and nothing has failed. -/
def FinishesFrame (c : Config) : Prop :=
  c.phase = .resume ∧ (c.pending = [] ∨ ∃ rest, c.pending = .level :: rest)

/-- In the run from `c` with the outcome `o`, one unit at most is waiting to be passed over. The
skip register is zero or one whenever a token is reached and whenever a frame has been run to its
end. Every unit that is passed over has an `if` or `else` of its own before it, with no unit between
the two that is passed over as well. After a fault no unit is passed over any more. -/
structure PassesOneAtATime (c : Config) (o : Outcome) : Prop where
  ends : Reaches c (after o [])
  reached : ∀ d, Reaches c d → d.phase = .fetch → d.machine.frame.flow.skip ≤ 1
  finished : ∀ d, Reaches c d → d.FinishesFrame → d.machine.frame.flow.skip ≤ 1
  own : ∀ n, (next^[n] c).passesOver = true →
    ∃ k < n, (next^[k] c).SkipsNext ∧ ∀ i, k < i → i < n → (next^[i] c).passesOver = false
  broken : ∀ d e, Reaches c d → d.raised? ≠ none → Reaches d e → e.phase ≠ .fetch

/-- A run that starts with a fresh frame and nothing around it. -/
theorem passesOneAtATime_of_reaches {m : Machine} {o : Outcome} (hskip : m.frame.flow.skip = 0)
    (hends : Reaches ⟨m, .fetch, []⟩ (after o [])) : PassesOneAtATime ⟨m, .fetch, []⟩ o := by
  have hstart : Accounted ⟨m, .fetch, []⟩ := .fetch .outermost
  have hdue : (Config.mk m .fetch []).due = 0 := hskip
  have hone : ∀ {d}, Reaches ⟨m, .fetch, []⟩ d → d.due ≤ 1 :=
    fun hd => (hstart.of_reaches (by omega) hd).2
  refine ⟨hends, ?_, ?_, ?_, ?_⟩
  · rintro ⟨n, phase, pending⟩ hd hphase
    obtain rfl : phase = .fetch := hphase
    exact hone hd
  · rintro ⟨n, phase, pending⟩ hd ⟨hphase, hpending⟩
    obtain rfl : phase = .resume := hphase
    rcases hpending with hnil | ⟨rest, hlevel⟩
    · obtain rfl : pending = [] := hnil
      exact hone hd
    · obtain rfl : pending = .level :: rest := hlevel
      exact hone hd
  · -- A unit that is passed over was due, so a word has asked for it.
    intro n hpasses
    rcases due_eq_zero_or hstart hdue n with hzero | hown
    · have hless := due_next_lt hpasses
      omega
    · exact hown
  · intro d e _ hraised he hphase
    have hstill := he.preserves (P := fun e => e.raised? ≠ none) (fun _ => raised_next) hraised
    rw [raised?, hphase] at hstill
    exact hstill rfl

end Config

namespace Machine

/-- In a call, one unit at most is waiting to be passed over at any time, in the outermost frame, in
blocks, and in the bodies of user words. So an `if` or an `else` never has more than one unit passed
over, whether the unit follows in the frame, or in the caller of the body that the word ends, or in
the next run of that body. -/
theorem passes_over_one_unit (m : Machine) (path source : String) {tokens : List Token}
    (hexit : m.exiting = false) (hread : Token.readAll path source = .ok tokens) :
    Config.PassesOneAtATime ⟨{ m.begin with frame := { tokens := tokens } }, .fetch, []⟩
      (m.runSource path source) := by
  have hrun : m.runSource path source =
      runFrame { m.begin with frame := { tokens := tokens } } := by
    rw [runSource, if_neg (Bool.eq_false_iff.1 hexit), hread]
    rfl
  rw [hrun]
  exact Config.passesOneAtATime_of_reaches rfl (Config.reaches_runFrame _ [])

/-- A condition at the end of a body, which is run once by itself and then twice in a row. -/
def skipping : String :=
  ": no 0 if ; 0 if 1 no 2 0 2 times NO 3"

/-- The machine at the start of a call with that text. -/
def atSkipping : Machine where
  frame := {
    tokens := [.word ⟨"text", 1, 1⟩ ":", .word ⟨"text", 1, 3⟩ "no",
      .literal ⟨"text", 1, 6⟩ (.int 0), .word ⟨"text", 1, 8⟩ "if", .word ⟨"text", 1, 11⟩ ";",
      .literal ⟨"text", 1, 13⟩ (.int 0), .word ⟨"text", 1, 15⟩ "if",
      .literal ⟨"text", 1, 18⟩ (.int 1), .word ⟨"text", 1, 20⟩ "no",
      .literal ⟨"text", 1, 23⟩ (.int 2), .literal ⟨"text", 1, 25⟩ (.int 0),
      .literal ⟨"text", 1, 27⟩ (.int 2), .word ⟨"text", 1, 29⟩ "times",
      .word ⟨"text", 1, 35⟩ "NO", .literal ⟨"text", 1, 38⟩ (.int 3)] }

/-- The `1` is passed over in the frame of its `if`, and the `2` and the `3` are in the caller of
the body. The second run of the body in a row has its own `0` passed over, by the first one. -/
theorem passes_over_one_unit_skipping :
    let c : Config := ⟨atSkipping, .fetch, []⟩
    ({} : Machine).exiting = false ∧
    Token.readAll "text" skipping = .ok atSkipping.frame.tokens ∧
    (∀ n ∈ [10, 27, 57, 67], (Config.next^[n] c).passesOver = true ∧
      ∃ k < n, (Config.next^[k] c).SkipsNext ∧
        ∀ i, k < i → i < n → (Config.next^[i] c).passesOver = false) ∧
    [10, 27, 57, 67].map (fun n => (Config.next^[n] c).machine.frame.token?.map Token.location) =
      [some ⟨"text", 1, 18⟩, some ⟨"text", 1, 23⟩, some ⟨"text", 1, 6⟩, some ⟨"text", 1, 38⟩] := by
  have hread : Token.readAll "text" skipping = .ok atSkipping.frame.tokens := by rfl
  have hone := passes_over_one_unit {} "text" skipping rfl hread
  have hpasses : ∀ n ∈ [10, 27, 57, 67],
      (Config.next^[n] ⟨atSkipping, .fetch, []⟩).passesOver = true := by
    decide +kernel
  refine ⟨rfl, hread, fun n hn => ⟨hpasses n hn, hone.own n (hpasses n hn)⟩, ?_⟩
  decide +kernel

end Machine

end BlockForth
