import BlockForth.Proofs.Machine.Definitions
import BlockForth.Proofs.Machine.Nesting
import BlockForth.Proofs.Machine.Simulation
import BlockForth.Proofs.Text.Lowercase

/-!
# Where a fault points

A fault either knows its place and the calls from the start, since the machine knows them, or it is
a bare one and gets them from the token that it comes out of first. What it has then it keeps on its
way out of all the frames around. So it points at the token that was being run when it arose, and it
names the user words whose bodies were being run around that token (`fault_points_at_token`).

The register of the place is not always that of the current token: after a block or a body it is
still that of the last token in there. `Traced` is the invariant that makes up for that. A token is
either run with its own place in the register, or it is a block or a user word that is run once
more, which cannot fail before a token inside is reached, since the dictionary only grows and the
depth is the one at which it was entered before.
-/

namespace BlockForth

/-- A word as a call, with the name that it is looked up by. Other tokens are no calls. -/
def Token.call? (t : Token) : Option Call :=
  t.name?.map fun name => ⟨name, t.location⟩

/-- The token that the frame is at. -/
def Frame.token? (f : Frame) : Option Token :=
  f.tokens[f.position]?

/-- The call of the word whose body is being run. The frame that the body goes back to is at it. -/
def Pending.call? : Pending → Option Call
  | .body caller => caller.token?.bind Token.call?
  | _ => none

/-- The user words whose bodies are being run, innermost first. -/
def wordsAround (pending : List Pending) : List Call :=
  pending.filterMap Pending.call?

/-- Whether the token is run in a frame of its own. -/
def Dictionary.opensFrame (d : Dictionary) : Token → Bool
  | .word _ spelling => d.contains spelling
  | .literal _ _ => false
  | .block _ _ => true

/-- A word opens a frame if there is an entry under its lower case. -/
theorem Dictionary.opensFrame_word (d : Dictionary) (l : Location) (spelling : String) :
    d.opensFrame (.word l spelling) = (d.find? (lowercase spelling)).isSome := by
  rw [opensFrame, contains, find?_lowercase]

namespace Config

/-! ## What is pending around a frame -/

/-- Going back from the frame of the token `t`, to a frame that is at `t`. -/
inductive GoesBack (d : Dictionary) : Token → Pending → Prop
  | block {caller : Frame} {l : Location} {body : List Token}
      (hat : caller.token? = some (.block l body)) :
      GoesBack d (.block l body) (.block caller)
  | body {caller : Frame} {l : Location} {spelling : String}
      (hat : caller.token? = some (.word l spelling)) (huser : d.contains spelling = true) :
      GoesBack d (.word l spelling) (.body caller)

/-- What is pending below a frame: nothing, or the end of the token that the frame belongs to. -/
inductive Below (d : Dictionary) : List Pending → Prop
  | outermost : Below d []
  | nested {t : Token} {back : Pending} {inlined : Bool} {count : Nat} {pending : List Pending}
      (hback : GoesBack d t back) (h : Below d pending) :
      Below d (.level :: back :: .unit t inlined count :: pending)

variable {d d' : Dictionary}

/-- A word that is in the dictionary stays in it when the dictionary grows. -/
theorem GoesBack.mono {t : Token} {back : Pending} (hd : d.Within d') (h : GoesBack d t back) :
    GoesBack d' t back := by
  cases h with
  | block hat => exact .block hat
  | body hat huser => exact .body hat (hd _ huser)

/-- What is pending stays right when the dictionary grows. -/
theorem Below.mono {pending : List Pending} (hd : d.Within d') (h : Below d pending) :
    Below d' pending := by
  induction h with
  | outermost => exact .outermost
  | nested hback _ ih => exact .nested (hback.mono hd) ih

/-- A frame belongs to a token that opens one. -/
theorem GoesBack.opensFrame {t : Token} {back : Pending} (h : GoesBack d t back) :
    d.opensFrame t = true := by
  cases h with
  | block hat => rfl
  | body hat huser => exact huser

/-- A frame that a body goes back to is at a user word. -/
def AtUserWord (d : Dictionary) (caller : Frame) : Prop :=
  ∃ l spelling, caller.token? = some (.word l spelling) ∧ d.contains spelling = true

/-- The frame of a body was entered at a user word. -/
theorem GoesBack.atUserWord {t : Token} {caller : Frame} (h : GoesBack d t (.body caller)) :
    AtUserWord d caller := by
  cases h with
  | body hat huser => exact ⟨_, _, hat, huser⟩

/-- Every frame of a body that is pending was entered at a user word. -/
theorem Below.atUserWord {pending : List Pending} {caller : Frame} (h : Below d pending)
    (hmem : .body caller ∈ pending) : AtUserWord d caller := by
  induction h with
  | outermost => cases hmem
  | nested hback _ ih =>
    simp only [List.mem_cons, reduceCtorEq, false_or] at hmem
    rcases hmem with rfl | hmem
    · exact hback.atUserWord
    · exact ih hmem

/-! ## The invariant -/

/-- The machine is at the token `t`, and the place is that of `t` or else `t` can be entered. -/
structure Ready (m : Machine) (t : Token) : Prop where
  token : m.frame.token? = some t
  place : m.location = some t.location ∧ m.startsDefinition t = false ∨
    m.dictionary.opensFrame t = true ∧ m.depth < maxDepth

/-- The calls are the words around, and what is pending belongs to the frames around. Nothing is
said once a fault is on its way out. -/
inductive Traced : Config → Prop
  | fetch {m : Machine} {pending : List Pending} (hcalls : m.calls = wordsAround pending)
      (h : Below m.dictionary pending) : Traced ⟨m, .fetch, pending⟩
  | execute {m : Machine} {t : Token} {inlined : Bool} {count : Nat} {pending : List Pending}
      (hcalls : m.calls = wordsAround pending) (ht : Ready m t) (h : Below m.dictionary pending) :
      Traced ⟨m, .execute t, .unit t inlined count :: pending⟩
  | unit {m : Machine} {t : Token} {inlined : Bool} {count : Nat} {pending : List Pending}
      (hcalls : m.calls = wordsAround pending) (ht : count ≠ 0 → Ready m t)
      (h : Below m.dictionary pending) :
      Traced ⟨m, .resume, .unit t inlined count :: pending⟩
  | ended {m : Machine} {pending : List Pending} (hcalls : m.calls = wordsAround pending)
      (h : Below m.dictionary pending) : Traced ⟨m, .resume, pending⟩
  | left {m : Machine} {t : Token} {back : Pending} {inlined : Bool} {count : Nat}
      {pending : List Pending} (hcalls : m.calls = wordsAround (back :: pending))
      (hback : GoesBack m.dictionary t back) (hdepth : m.depth < maxDepth)
      (h : Below m.dictionary pending) :
      Traced ⟨m, .resume, back :: .unit t inlined count :: pending⟩
  | raised {m : Machine} {f : Fault} {pending : List Pending} : Traced ⟨m, .raise f, pending⟩

variable {m : Machine} {pending : List Pending}

/-- An outcome that leaves the machine ready for the token again, unless it fails. -/
theorem traced_after {o : Outcome} {t : Token} {inlined : Bool} {count : Nat}
    (hcalls : o.machine.calls = wordsAround pending)
    (ht : count ≠ 0 → Ready o.machine t) (h : Below o.machine.dictionary pending) :
    Traced (after o (.unit t inlined count :: pending)) := by
  rcases o with ⟨m', _ | f⟩
  · exact .unit hcalls ht h
  · exact .raised

/-- Entering the frame of a token keeps the trace, and beyond the limit the fault is on its way. -/
theorem traced_enter {f : Frame} {t : Token} {back : Pending} {inlined : Bool} {count : Nat}
    (hcalls : m.calls = wordsAround (back :: pending)) (hback : GoesBack m.dictionary t back)
    (h : Below m.dictionary pending) :
    Traced (enter f m (back :: .unit t inlined count :: pending)) := by
  unfold enter
  split
  · exact .raised
  · exact .fetch hcalls (.nested hback h)

/-- A definition leaves the calls alone, and takes no word out of the dictionary. -/
theorem runDefinition_within (m : Machine) :
    m.runDefinition.machine.calls = m.calls ∧
      m.dictionary.Within m.runDefinition.machine.dictionary := by
  rcases m.runDefinition_cases with ⟨cause, flow, p, h⟩ | ⟨p, h⟩ | ⟨name, body, flow, p, -, h⟩
  · rw [h]
    exact ⟨rfl, fun _ hname => hname⟩
  · rw [h]
    exact ⟨rfl, fun _ hname => hname⟩
  · rw [h]
    exact ⟨rfl, m.dictionary.within_insert name _ body⟩

/-- Fetching a token keeps the trace: the token is passed over, made ready, or ends the frame. -/
theorem traced_fetch (hcalls : m.calls = wordsAround pending) (h : Below m.dictionary pending) :
    Traced (Config.fetch m pending) := by
  rcases fetch_cases m pending with
    hfetch | ⟨t, inlined, ht, ⟨-, hfetch⟩ | ⟨hstarts, flow, count, hfetch⟩⟩
  · rw [hfetch]
    exact .ended hcalls h
  · rw [hfetch]
    obtain ⟨hkept, hgrows⟩ := runDefinition_within { m with location := some t.location }
    exact traced_after (hkept.trans hcalls) (fun hne => absurd rfl hne) (h.mono hgrows)
  · rw [hfetch]
    exact .unit hcalls (fun _ => ⟨ht, .inl ⟨rfl, hstarts⟩⟩) h

/-- A built-in word that a token runs is not the `:`, which would start a definition. -/
theorem ne_define_of_find? {l : Location} {spelling : String} {w : Builtin}
    (hfind : m.dictionary.find? (lowercase spelling) = none)
    (hstarts : m.startsDefinition (.word l spelling) = false)
    (hw : Builtin.find? (lowercase spelling) = some w) : w ≠ .define := by
  rintro rfl
  have hcolon := Simulation.eq_colon_of_find? hw
  have habsent : m.dictionary.contains ":" = false := by
    rw [Dictionary.contains, ← hcolon, hfind]
    rfl
  simp [Machine.startsDefinition, Token.isNamed, Token.name?, hcolon, habsent] at hstarts

/-- A machine that is ready for a token that has no frame of its own has its place. -/
theorem Ready.place_of_opensFrame {t : Token} (h : Ready m t)
    (ht : m.dictionary.opensFrame t = false) :
    m.location = some t.location ∧ m.startsDefinition t = false := by
  rcases h.place with hplace | ⟨hopens, -⟩
  · exact hplace
  · rw [ht] at hopens
    cases hopens

/-- A word that leaves the place and the frame alone leaves the machine ready. -/
theorem Ready.of_onlyValues {m' : Machine} {t : Token} (h : Ready m t)
    (hkept : Machine.OnlyValues m m') : Ready m' t := by
  obtain ⟨_, _, _, _, rfl⟩ := hkept
  exact ⟨h.token, h.place⟩

/-- Running a token that the machine is ready for keeps the trace. -/
theorem traced_execute {t : Token} {inlined : Bool} {count : Nat}
    (hcalls : m.calls = wordsAround pending) (ht : Ready m t) (h : Below m.dictionary pending) :
    Traced (Config.execute m (.unit t inlined count :: pending) t) := by
  cases t with
  | literal l value => exact .unit hcalls (fun _ => ⟨ht.token, ht.place⟩) h
  | block l body => exact traced_enter hcalls (.block ht.token) h
  | word l spelling =>
    rw [Config.execute]
    have hopens := m.dictionary.opensFrame_word l spelling
    rcases hfind : m.dictionary.find? (lowercase spelling) with _ | entry
    · rw [hfind] at hopens
      have hstarts := (ht.place_of_opensFrame hopens).2
      rcases hw : Builtin.find? (lowercase spelling) with _ | w
      · exact .raised
      · have hkept := Machine.perform_onlyValues m w (ne_define_of_find? hfind hstarts hw)
        have hready := ht.of_onlyValues hkept
        obtain ⟨_, _, _, _, hmachine⟩ := hkept
        refine traced_after ?_ (fun _ => hready) ?_
        · rw [hmachine]
          exact hcalls
        · rw [hmachine]
          exact h
    · rw [hfind] at hopens
      refine traced_enter ?_ (.body ht.token hopens) h
      -- The frame of the caller is at the word, which is the first of the words around the body.
      have hcall : Pending.call? (.body m.frame) = some ⟨lowercase spelling, l⟩ := by
        rw [Pending.call?, ht.token]
        rfl
      rw [wordsAround, List.filterMap_cons, hcall, hcalls]
      rfl

/-- Going back to a frame takes the word off the calls, if it was one. -/
theorem traced_back {t : Token} {back : Pending} {inlined : Bool} {count : Nat}
    (hcalls : m.calls = wordsAround (back :: pending)) (hback : GoesBack m.dictionary t back)
    (hdepth : m.depth < maxDepth) (h : Below m.dictionary pending) :
    Traced (Config.resume m (back :: .unit t inlined count :: pending)) := by
  have hopens := hback.opensFrame
  cases hback with
  | block hat => exact .unit hcalls (fun _ => ⟨hat, .inr ⟨hopens, hdepth⟩⟩) h
  | body hat huser =>
    refine .unit ?_ (fun _ => ⟨hat, .inr ⟨hopens, hdepth⟩⟩) h
    show m.calls.tail = wordsAround pending
    rw [hcalls, wordsAround, List.filterMap_cons, Pending.call?, hat]
    rfl

/-- Giving up a level leaves room for a frame. -/
theorem traced_end (hcalls : m.calls = wordsAround pending) (h : Below m.dictionary pending)
    (hcounts : Counts 0 ⟨m, .resume, pending⟩) : Traced (Config.resume m pending) := by
  cases h with
  | outermost => exact .ended hcalls .outermost
  | nested hback h =>
    have hdepth : m.depth = 0 + (nestedFrames _ + 1) := hcounts.depth_eq
    have hle : m.depth ≤ maxDepth := hcounts.depth_le
    refine .left hcalls hback ?_ h
    show m.depth - 1 < maxDepth
    omega

/-- A step keeps the trace. -/
theorem Traced.next {c : Config} (hcounts : Counts 0 c) (h : Traced c) : Traced c.next := by
  cases h with
  | fetch hcalls h => exact traced_fetch hcalls h
  | execute hcalls ht h => exact traced_execute hcalls ht h
  | @unit m t inlined count pending hcalls ht h =>
    cases count with
    | zero => exact .fetch hcalls h
    | succ count =>
      show Traced (Config.resume m (.unit t inlined (count + 1) :: pending))
      rw [Config.resume]
      split
      · exact .unit hcalls (fun hne => absurd rfl hne) h
      · exact .execute hcalls (ht (Nat.succ_ne_zero count)) h
  | ended hcalls h => exact traced_end hcalls h hcounts
  | left hcalls hback hdepth h => exact traced_back hcalls hback hdepth h
  | @raised m f pending =>
    rcases pending with _ | ⟨_ | _ | _ | _, pending⟩
    all_goals exact .raised

/-- Every body that is being run belongs to a user word, which the frame around is at. -/
theorem Traced.atUserWord {c : Config} {caller : Frame} (h : Traced c) (hc : c.raised? = none)
    (hmem : .body caller ∈ c.pending) : AtUserWord c.machine.dictionary caller := by
  cases h with
  | fetch hcalls h => exact h.atUserWord hmem
  | execute hcalls ht h =>
    simp only [List.mem_cons, reduceCtorEq, false_or] at hmem
    exact h.atUserWord hmem
  | unit hcalls ht h =>
    simp only [List.mem_cons, reduceCtorEq, false_or] at hmem
    exact h.atUserWord hmem
  | ended hcalls h => exact h.atUserWord hmem
  | left hcalls hback hdepth h =>
    simp only [List.mem_cons, reduceCtorEq, false_or] at hmem
    rcases hmem with rfl | hmem
    · exact hback.atUserWord
    · exact h.atUserWord hmem
  | raised => cases hc

/-- A run keeps the trace. -/
theorem Traced.of_reaches {c c' : Config} (hcounts : Counts 0 c) (h : Traced c)
    (hreach : Reaches c c') : Traced c' :=
  (hreach.preserves (P := fun c => Counts 0 c ∧ Traced c)
    (fun _ hc => ⟨hc.1.next, hc.2.next hc.1⟩) ⟨hcounts, h⟩).2

/-! ## The way out -/

/-- A fault with a place and the calls is on its way out of a machine at that place. -/
structure Settled (cause : Cause) (l : Location) (calls : List Call) (c : Config) : Prop where
  location : c.machine.location = some l
  phase : c.phase = .raise ⟨cause, some l, some calls⟩

variable {cause : Cause} {l : Location} {calls : List Call}

/-- The tokens on the way out do not change what a fault knows. -/
theorem Settled.next {c : Config} (h : Settled cause l calls c) : Settled cause l calls c.next := by
  obtain ⟨m, phase, pending⟩ := c
  obtain ⟨hlocation, hphase⟩ := h
  obtain rfl : phase = .raise ⟨cause, some l, some calls⟩ := hphase
  rcases pending with _ | ⟨_ | _ | _ | _, pending⟩
  all_goals exact ⟨hlocation, rfl⟩

/-- A fault of the machine knows the place and the calls from the start. -/
theorem settled_fail (pending : List Pending) (h : m.location = some l) :
    Settled cause l m.calls (after (m.fail cause) pending) := by
  refine ⟨h, ?_⟩
  show Phase.raise ⟨cause, m.location, some m.calls⟩ = _
  rw [h]

/-- A bare fault gets its place and the calls from the token that it comes out of. -/
theorem settled_bare {t : Token} {inlined : Bool} {count : Nat} (pending : List Pending)
    (h : m.location = some t.location) :
    Settled cause t.location m.calls
      (after ⟨m, some (.bare cause)⟩ (.unit t inlined count :: pending)).next :=
  ⟨h, rfl⟩

/-! ## The step that fails -/

/-- A run that comes to a fault has a step in which the fault arises. -/
theorem exists_raising_step {c c' : Config} (hreach : Reaches c c') (hc : c.raised? = none)
    (h : c'.raised? ≠ none) : ∃ d, Reaches c d ∧ d.raised? = none ∧ d.next.raised? ≠ none := by
  obtain ⟨n, rfl⟩ := hreach
  induction n with
  | zero => exact absurd hc h
  | succ n ih =>
    rw [Function.iterate_succ_apply'] at h
    rcases hraised : (Config.next^[n] c).raised? with _ | f
    · exact ⟨_, ⟨n, rfl⟩, hraised, h⟩
    · exact ih (by rw [hraised]; exact Option.some_ne_none f)

/-- The step from `d` fails with the cause while the token `t` is run: `t` is run once, or it starts
the definition that the step goes through. -/
structure FailsAt (d : Config) (t : Token) (cause : Cause) : Prop where
  token : d.machine.frame.token? = some t
  running : d.phase = .execute t ∨ d.phase = .fetch ∧ d.machine.startsDefinition t = true
  unraised : d.raised? = none
  raises : d.next.raised?.map Fault.cause = some cause

/-- The user words that are being run when the token `t` is, innermost first. If `t` is a user word,
then it is one of them. -/
def callsAt (d : Config) (t : Token) : List Call :=
  if d.machine.isUserWord t then t.call?.toList ++ wordsAround d.pending
  else wordsAround d.pending

/-- The fault that arises in the step from `d` gets the place of `t` and the calls there. A user
word that fails as such is nested too deep. -/
structure PointsAt (d : Config) (t : Token) (cause : Cause) : Prop where
  fails : FailsAt d t cause
  settled : Settled cause t.location (d.callsAt t) d.next.next
  user : d.machine.isUserWord t = true → cause.kind = .callDepth

/-- A token that is no user word is called by the words around it. -/
theorem callsAt_of_not_user {d : Config} {t : Token} (h : d.machine.isUserWord t = false) :
    d.callsAt t = wordsAround d.pending :=
  if_neg (Bool.eq_false_iff.1 h)

/-- A user word is one more call, inside of the words around it. -/
theorem callsAt_of_user {d : Config} {l : Location} {spelling : String}
    (h : d.machine.isUserWord (.word l spelling) = true) :
    d.callsAt (.word l spelling) = ⟨lowercase spelling, l⟩ :: wordsAround d.pending :=
  if_pos h

/-- A step that fails with the place of the token and with the calls there. -/
theorem pointsAt_of_fail {d : Config} {t : Token} {o : Machine} {pending : List Pending}
    (ht : d.machine.frame.token? = some t)
    (hrunning : d.phase = .execute t ∨ d.phase = .fetch ∧ d.machine.startsDefinition t = true)
    (hnext : d.next = after (o.fail cause) pending) (hplace : o.location = some t.location)
    (hcalls : o.calls = d.callsAt t)
    (huser : d.machine.isUserWord t = true → cause.kind = .callDepth) : PointsAt d t cause := by
  have hunraised : d.raised? = none := by
    rcases hrunning with hphase | ⟨hphase, -⟩ <;> rw [raised?, hphase]
  refine ⟨⟨ht, hrunning, hunraised, ?_⟩, ?_, huser⟩
  · rw [hnext]
    rfl
  · rw [hnext, ← hcalls]
    exact (settled_fail pending hplace).next

/-- The `:` of a definition is no user word. -/
theorem isUserWord_of_startsDefinition {t : Token} (h : m.startsDefinition t = true) :
    m.isUserWord t = false := by
  cases t with
  | literal l value => rfl
  | block l body => rfl
  | word l spelling =>
    simp only [Machine.startsDefinition, Token.isNamed, Token.name?, Bool.and_eq_true, beq_iff_eq,
      Option.some.injEq, Bool.not_eq_true'] at h
    obtain ⟨hcolon, habsent⟩ := h
    rw [Machine.isUserWord, Dictionary.contains, ← Dictionary.find?_lowercase, hcolon]
    exact habsent

/-- Only a definition fails when it is reached. -/
theorem exists_definition_of_raised (h : (Config.fetch m pending).raised? ≠ none) :
    ∃ t inlined, m.frame.token? = some t ∧ m.startsDefinition t = true ∧
      Config.fetch m pending =
        after { m with location := some t.location }.runDefinition
          (.unit t inlined 0 :: pending) := by
  rcases fetch_cases m pending with
    hfetch | ⟨t, inlined, ht, ⟨hstarts, hfetch⟩ | ⟨-, flow, count, hfetch⟩⟩
  · rw [hfetch] at h
    exact absurd rfl h
  · exact ⟨t, inlined, ht, hstarts, hfetch⟩
  · rw [hfetch] at h
    exact absurd rfl h

/-- A definition fails with the place of its `:`. -/
theorem pointsAt_of_fetch (hcalls : m.calls = wordsAround pending)
    (h : (Config.fetch m pending).raised? ≠ none) :
    ∃ t cause, PointsAt ⟨m, .fetch, pending⟩ t cause := by
  obtain ⟨t, inlined, ht, hstarts, hfetch⟩ := exists_definition_of_raised h
  have huser : m.isUserWord t = false := isUserWord_of_startsDefinition hstarts
  rcases { m with location := some t.location }.runDefinition_cases with
    ⟨cause, flow, p, hrun⟩ | ⟨p, hrun⟩ | ⟨name, body, flow, p, -, hrun⟩
  · rw [hrun] at hfetch
    refine ⟨t, cause, pointsAt_of_fail ht (.inr ⟨rfl, hstarts⟩) hfetch rfl ?_ fun hu => ?_⟩
    · rw [callsAt_of_not_user huser]
      exact hcalls
    · rw [huser] at hu
      cases hu
  · rw [hfetch, hrun] at h
    exact absurd rfl h
  · rw [hfetch, hrun] at h
    exact absurd rfl h

/-- Entering a frame fails at the limit only. -/
theorem raised_enter {f : Frame} (h : (Config.enter f m pending).raised? ≠ none) :
    maxDepth ≤ m.depth ∧ Config.enter f m pending = after (m.fail .nestedTooDeep) pending := by
  unfold Config.enter at h ⊢
  split
  · rename_i hlimit
    exact ⟨hlimit, rfl⟩
  · rename_i hlimit
    rw [if_neg hlimit] at h
    exact absurd rfl h

/-- A machine at the limit that is ready for a token has its place. -/
theorem Ready.place_of_limit {t : Token} (h : Ready m t) (hlimit : maxDepth ≤ m.depth) :
    m.location = some t.location := by
  rcases h.place with ⟨hplace, -⟩ | ⟨-, hdepth⟩
  · exact hplace
  · omega

/-- A built-in word that fails gives the fault the place of the token and the calls, at once or when
the fault comes out of the token. -/
theorem pointsAt_of_perform {t : Token} {w : Builtin} {inlined : Bool} {count : Nat}
    (hcalls : m.calls = wordsAround pending) (ht : m.frame.token? = some t)
    (hplace : m.location = some t.location) (huser : m.isUserWord t = false) (hw : w ≠ .define)
    (hnext : (Config.mk m (.execute t) (.unit t inlined count :: pending)).next =
      after (m.perform w) (.unit t inlined count :: pending))
    (h : (m.perform w).fault ≠ none) :
    ∃ cause, PointsAt ⟨m, .execute t, .unit t inlined count :: pending⟩ t cause := by
  have hat : m.calls = callsAt ⟨m, .execute t, .unit t inlined count :: pending⟩ t := by
    rw [callsAt_of_not_user huser]
    exact hcalls
  have hkind : ∀ cause : Cause, m.isUserWord t = true → cause.kind = .callDepth := by
    intro cause hu
    rw [huser] at hu
    cases hu
  obtain ⟨e, s, heffect, -⟩ := Machine.exists_wordEffect (m := m) rfl rfl w hw fun _ => rfl
  rw [heffect] at hnext h
  cases e with
  | raise cause =>
    -- The fault gets its place on the way out of the token.
    refine ⟨cause, ⟨ht, .inl rfl, rfl, ?_⟩, ?_, hkind cause⟩
    · rw [hnext]
      rfl
    · rw [hnext, ← hat]
      exact settled_bare pending hplace
  | fail cause => exact ⟨cause, pointsAt_of_fail ht (.inl rfl) hnext hplace hat (hkind cause)⟩
  | finish text flow ends => exact absurd rfl h

/-- A token that fails when it is run gives the fault its place and the calls. -/
theorem pointsAt_of_execute {t : Token} {inlined : Bool} {count : Nat}
    (hcalls : m.calls = wordsAround pending) (ht : Ready m t)
    (h : (Config.execute m (.unit t inlined count :: pending) t).raised? ≠ none) :
    ∃ cause, PointsAt ⟨m, .execute t, .unit t inlined count :: pending⟩ t cause := by
  cases t with
  | literal l value => exact absurd rfl h
  | block l body =>
    obtain ⟨hlimit, henter⟩ := raised_enter h
    exact ⟨_, pointsAt_of_fail ht.token (.inl rfl) henter (ht.place_of_limit hlimit) hcalls
      fun _ => rfl⟩
  | word l spelling =>
    have huser : m.isUserWord (.word l spelling) =
        (m.dictionary.find? (lowercase spelling)).isSome :=
      m.dictionary.opensFrame_word l spelling
    have hnext : (Config.mk m (.execute (.word l spelling))
        (.unit (.word l spelling) inlined count :: pending)).next =
          Config.execute m (.unit (.word l spelling) inlined count :: pending)
            (.word l spelling) := rfl
    rw [Config.execute] at h hnext
    rcases hfind : m.dictionary.find? (lowercase spelling) with _ | entry
    · -- No user word hides the spelling, so it is a built-in word or unknown.
      rw [hfind] at h hnext huser
      obtain ⟨hplace, hstarts⟩ := ht.place_of_opensFrame huser
      rcases hw : Builtin.find? (lowercase spelling) with _ | w
      · rw [hw] at hnext
        refine ⟨_, pointsAt_of_fail ht.token (.inl rfl) hnext hplace ?_ fun hu => ?_⟩
        · rw [callsAt_of_not_user huser]
          exact hcalls
        · cases huser.symm.trans hu
      · rw [hw] at h hnext
        refine pointsAt_of_perform hcalls ht.token hplace huser
          (ne_define_of_find? hfind hstarts hw) hnext fun hnone => h ?_
        rw [← hnone]
        exact raised?_after _ _
    · -- A user word can only fail to be entered.
      rw [hfind] at h hnext huser
      obtain ⟨hlimit, henter⟩ := raised_enter h
      refine ⟨_, pointsAt_of_fail ht.token (.inl rfl) (hnext.trans henter)
        (ht.place_of_limit hlimit) ?_ fun _ => rfl⟩
      rw [callsAt_of_user huser]
      exact congrArg _ hcalls

/-- The step in which a fault arises gives it the place of a token and the calls there. -/
theorem Traced.exists_pointsAt {d : Config} (h : Traced d) (hd : d.raised? = none)
    (hnext : d.next.raised? ≠ none) : ∃ t cause, PointsAt d t cause := by
  -- Going on after the end of a piece does not fail.
  have hresume : ∀ m pending, (Config.mk m .resume pending).next.raised? = none := raised?_resume
  cases h with
  | fetch hcalls h => exact pointsAt_of_fetch hcalls hnext
  | execute hcalls ht h => exact ⟨_, pointsAt_of_execute hcalls ht hnext⟩
  | unit hcalls ht h => exact absurd (hresume _ _) hnext
  | ended hcalls h => exact absurd (hresume _ _) hnext
  | left hcalls hback hdepth h => exact absurd (hresume _ _) hnext
  | raised => cases hd

end Config

namespace Machine

/-- A call that fails while it is run has come to a step that fails at a token. The place of the
fault is that of the token, which is where the machine stays, and its calls are the user words that
are being run around the token, one for every body that is pending, with the token itself if it is a
user word that is nested too deep. A user word fails in no other way by itself, and a malformed
definition fails at its `:`. -/
theorem fault_points_at_token (m : Machine) (path source : String) {tokens : List Token} {f : Fault}
    (hexit : m.exiting = false) (hread : Token.readAll path source = .ok tokens)
    (hfault : (m.runSource path source).fault = some f) :
    ∃ d t, Config.Reaches ⟨{ m.begin with frame := { tokens := tokens } }, .fetch, []⟩ d ∧
      d.FailsAt t f.cause ∧
      f.location = some t.location ∧
      (m.runSource path source).machine.location = some t.location ∧
      f.calls = some (d.callsAt t) ∧
      (∀ caller, .body caller ∈ d.pending → Config.AtUserWord d.machine.dictionary caller) ∧
      (d.machine.isUserWord t = true → f.kind = .callDepth) := by
  have hrun : m.runSource path source =
      runFrame { m.begin with frame := { tokens := tokens } } := by
    rw [runSource, if_neg (Bool.eq_false_iff.1 hexit), hread]
    rfl
  rw [hrun] at hfault ⊢
  have hend := Config.reaches_runFrame { m.begin with frame := { tokens := tokens } } []
  -- The fault arises in some step of the run.
  obtain ⟨d, hreach, hunraised, hraises⟩ := Config.exists_raising_step hend rfl
    (by rw [Config.raised?_after, hfault]; exact Option.some_ne_none f)
  have htraced : Config.Traced d :=
    Config.Traced.of_reaches ⟨rfl, Nat.zero_le _⟩ (.fetch rfl .outermost) hreach
  obtain ⟨t, cause, hpoints⟩ := htraced.exists_pointsAt hunraised hraises
  -- From there on it is on its way out, with its place and its calls.
  have hsettled : Config.Settled cause t.location (d.callsAt t) (Config.after _ []) :=
    (hend.end_of_reaches hreach.tail.tail).preserves
      (P := Config.Settled cause t.location (d.callsAt t)) (fun _ => Config.Settled.next)
      hpoints.settled
  have hf : f = ⟨cause, some t.location, some (d.callsAt t)⟩ := by
    have hphase := hsettled.phase
    simp only [Config.after, hfault] at hphase
    exact Phase.raise.inj hphase
  subst hf
  exact ⟨d, t, hreach, hpoints.fails, rfl, hsettled.location, rfl,
    fun _ => htraced.atUserWord hunraised, hpoints.user⟩

/-- A word that takes a value off the stack is called twice from a block in another word, with one
value on the stack. -/
def takingTwice : String :=
  ": take drop ;\n: Both 2 times \x7b TAKE \x7d ;\n1 both"

/-- The second time fails, at the word in the body of the first definition. -/
theorem fault_points_at_token_takingTwice :
    ∃ (d : Config) (t : Token), ({} : Machine).exiting = false ∧
      (Token.readAll "twice" takingTwice).isOk ∧
      (({} : Machine).runSource "twice" takingTwice).fault =
        some ⟨.stackUnderflow, some t.location, some (d.callsAt t)⟩ ∧
      d.FailsAt t .stackUnderflow ∧ t.location = ⟨"twice", 1, 8⟩ ∧
      d.callsAt t = [⟨"take", ⟨"twice", 2, 18⟩⟩, ⟨"both", ⟨"twice", 3, 3⟩⟩] ∧
      (({} : Machine).runSource "twice" takingTwice).machine.location = some t.location := by
  have hok : (Token.readAll "twice" takingTwice).isOk = true := by decide +kernel
  obtain ⟨tokens, hread⟩ : ∃ tokens, Token.readAll "twice" takingTwice = .ok tokens := by
    rcases h : Token.readAll "twice" takingTwice with f | tokens
    · rw [h] at hok
      cases hok
    · exact ⟨tokens, rfl⟩
  have hfault : (({} : Machine).runSource "twice" takingTwice).fault =
      some ⟨.stackUnderflow, some ⟨"twice", 1, 8⟩,
        some [⟨"take", ⟨"twice", 2, 18⟩⟩, ⟨"both", ⟨"twice", 3, 3⟩⟩]⟩ := by
    decide +kernel
  obtain ⟨d, t, -, hfails, hlocation, hmachine, hcalls, -, -⟩ :=
    fault_points_at_token {} "twice" takingTwice rfl hread hfault
  have hplace : t.location = ⟨"twice", 1, 8⟩ := (Option.some.inj hlocation).symm
  have hwords := (Option.some.inj hcalls).symm
  refine ⟨d, t, rfl, hok, ?_, hfails, hplace, hwords, hmachine⟩
  rw [hplace, hwords]
  exact hfault

end Machine

end BlockForth
