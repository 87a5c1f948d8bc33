import BlockForth.Proofs.Dictionary.Entries
import BlockForth.Proofs.Machine.Definitions

/-!
# Where a definition ends

A definition is gone through in two ways. If it is run, then its name is read first and its body is
read up to the `;` that ends it. If it is passed over, then nothing but that `;` is looked for, from
the token behind the `:` on. Both ways have to end at the same token, or else a branch that is not
taken would be entered in the middle of a body.

`FirstEnd` says which token that is. The two ways agree on it because a name is never a `;`: a word
is a `;` in lower case only if it is one (`endsDefinition_of_definable?`). `definition_is_one_unit`
says what each way leaves.
-/

namespace BlockForth

/-- The token at `p` is the first one from `start` on that ends a definition. Only tokens of the
list itself count, and not those inside blocks. -/
structure FirstEnd (tokens : List Token) (start p : Nat) : Prop where
  start_le : start ≤ p
  ends : ∃ t, tokens[p]? = some t ∧ t.endsDefinition = true
  open_before : ∀ q t, start ≤ q → q < p → tokens[q]? = some t → t.endsDefinition = false

/-- No token from `start` on ends a definition. -/
def NoEnd (tokens : List Token) (start : Nat) : Prop :=
  ∀ q t, start ≤ q → tokens[q]? = some t → t.endsDefinition = false

/-- The dictionary `d'` has the entry `e`, under its name in every case, and is else as `d`. -/
structure Dictionary.OnlyStores (d d' : Dictionary) (e : Entry) : Prop where
  stored : ∀ key, lowercase key = e.name → d'.find? key = some e
  others : d'.entries.filter (·.name ≠ e.name) = d.entries.filter (·.name ≠ e.name)

section

variable {tokens : List Token} {start p : Nat}

/-- The tokens of a body are as many as there are in front of the token that ends it. -/
theorem length_takeWhile_endsDefinition (rest : List Token) :
    (rest.takeWhile (!·.endsDefinition)).length = rest.findIdx Token.endsDefinition := by
  rw [List.takeWhile_eq_take_findIdx_not, List.length_take]
  simp only [Bool.not_not]
  exact Nat.min_eq_left List.findIdx_le_length

/-- A body that is shorter than the tokens that are left is followed by its end. -/
theorem firstEnd_of_lt
    (h : ((tokens.drop start).takeWhile (!·.endsDefinition)).length < (tokens.drop start).length) :
    FirstEnd tokens start
      (start + ((tokens.drop start).takeWhile (!·.endsDefinition)).length) := by
  rw [length_takeWhile_endsDefinition] at h ⊢
  refine ⟨Nat.le_add_right _ _, ?_, ?_⟩
  · refine ⟨_, ?_, List.findIdx_getElem (w := h)⟩
    rw [← List.getElem?_drop, List.getElem?_eq_getElem h]
  · intro q t hstart hq ht
    obtain ⟨j, rfl⟩ := Nat.exists_eq_add_of_le hstart
    rw [← List.getElem?_drop] at ht
    obtain ⟨hj, rfl⟩ := List.getElem?_eq_some_iff.1 ht
    exact List.not_of_lt_findIdx (by omega)

/-- A body that takes all the tokens that are left has no end. -/
theorem noEnd_of_not_lt
    (h : ¬ ((tokens.drop start).takeWhile (!·.endsDefinition)).length <
      (tokens.drop start).length) :
    NoEnd tokens start := by
  rw [length_takeWhile_endsDefinition, List.findIdx_lt_length] at h
  intro q t hstart ht
  obtain ⟨j, rfl⟩ := Nat.exists_eq_add_of_le hstart
  rw [← List.getElem?_drop] at ht
  exact Bool.eq_false_iff.2 fun hends => h ⟨t, List.mem_of_getElem? ht, hends⟩

/-- Either a definition has a first end, or it has none. -/
theorem firstEnd_or_noEnd (tokens : List Token) (start : Nat) :
    (∃ p, FirstEnd tokens start p) ∨ NoEnd tokens start := by
  by_cases hlt : ((tokens.drop start).takeWhile (!·.endsDefinition)).length <
      (tokens.drop start).length
  · exact .inl ⟨_, firstEnd_of_lt hlt⟩
  · exact .inr (noEnd_of_not_lt hlt)

/-- With a first end there is an end. -/
theorem FirstEnd.not_noEnd (h : FirstEnd tokens start p) : ¬ NoEnd tokens start := by
  intro hnone
  obtain ⟨t, ht, hends⟩ := h.ends
  rw [hnone p t h.start_le ht] at hends
  cases hends

/-- There is one first end. -/
theorem FirstEnd.unique {q : Nat} (h : FirstEnd tokens start p) (h' : FirstEnd tokens start q) :
    p = q := by
  obtain ⟨t, ht, hends⟩ := h.ends
  obtain ⟨u, hu, hends'⟩ := h'.ends
  rcases Nat.lt_trichotomy p q with hlt | heq | hgt
  · rw [h'.open_before p t h.start_le hlt ht] at hends
    cases hends
  · exact heq
  · rw [h.open_before q u h'.start_le hgt hu] at hends'
    cases hends'

/-- A token in front that ends nothing does not change where the first end is. -/
theorem FirstEnd.of_succ {t : Token} (h : FirstEnd tokens (start + 1) p)
    (ht : tokens[start]? = some t) (hopen : t.endsDefinition = false) :
    FirstEnd tokens start p := by
  refine ⟨by have := h.start_le; omega, h.ends, fun q u hstart hq hu => ?_⟩
  rcases Nat.eq_or_lt_of_le hstart with rfl | hlt
  · rw [ht] at hu
    cases hu
    exact hopen
  · exact h.open_before q u hlt hq hu

/-- The tokens in front of the first end. -/
theorem takeWhile_eq_drop_take
    (hp : p = start + ((tokens.drop start).takeWhile (!·.endsDefinition)).length) :
    (tokens.drop start).takeWhile (!·.endsDefinition) = (tokens.take p).drop start := by
  have hprefix := List.takeWhile_prefix (l := tokens.drop start) (!·.endsDefinition)
  rw [List.prefix_iff_eq_take.1 hprefix, List.drop_take, hp, Nat.add_sub_cancel_left]

end

/-- A token that may be the name of a word is a word, and ends no definition: a word whose
lower-case form is a `;` is a `;` itself. -/
theorem endsDefinition_of_definable? {t : Token} {name : String} (h : t.definable? = some name) :
    (∃ l, t = .word l name) ∧ t.endsDefinition = false := by
  cases t with
  | literal l value => cases h
  | block l body => cases h
  | word l spelling =>
    by_cases hsigns : spelling = ":" ∨ spelling = ";"
    · rw [Token.definable?, if_pos hsigns] at h
      cases h
    · rw [Token.definable?, if_neg hsigns] at h
      obtain rfl : spelling = name := Option.some.inj h
      refine ⟨⟨l, rfl⟩, Bool.eq_false_iff.2 fun hends => hsigns (.inr ?_)⟩
      have hlower : lowercase spelling = String.ofList [';'] := by
        simpa [Token.endsDefinition, Token.isNamed, Token.name?] using hends
      exact (lowercase_eq_sign_iff (by decide)).1 hlower

namespace Dictionary

/-- Defining a word stores its entry, and nothing else. -/
theorem onlyStores_insert (d : Dictionary) (name : String) (l : Location) (body : List Token) :
    d.OnlyStores (d.insert name l body) ⟨lowercase name, l, body⟩ := by
  constructor
  · intro key hkey
    rw [find?_insert, if_pos hkey.symm]
  · rw [entries_insert]
    exact put_others _ _

end Dictionary

namespace Machine

variable {m : Machine} {p : Nat}

/-! ## Passing over -/

/-- A definition that is passed over ends at the first `;` behind the `:`. -/
theorem passDefinition_of_firstEnd (hplace : m.frame.position < m.frame.tokens.length)
    (h : FirstEnd m.frame.tokens (m.frame.position + 1) p) :
    m.passDefinition = .done (m.moveTo p) := by
  rw [passDefinition_eq hplace, passDefinitionAtOnce]
  split
  · rename_i hlt
    rw [(firstEnd_of_lt hlt).unique h]
  · rename_i hlt
    exact absurd (noEnd_of_not_lt hlt) h.not_noEnd

/-- Without a `;` behind the `:`, passing over the definition fails. -/
theorem passDefinition_of_noEnd (hplace : m.frame.position < m.frame.tokens.length)
    (h : NoEnd m.frame.tokens (m.frame.position + 1)) :
    ∃ q, m.passDefinition = (m.moveTo q).fail .definitionNotClosed := by
  rw [passDefinition_eq hplace, passDefinitionAtOnce]
  split
  · rename_i hlt
    exact absurd h (firstEnd_of_lt hlt).not_noEnd
  · exact ⟨_, rfl⟩

/-! ## Storing -/

/-- A definition that is stored has a name behind the `:`, and its body goes up to the first `;`
behind the name. -/
theorem exists_of_define (hplace : m.frame.position < m.frame.tokens.length)
    (h : m.define.fault = none) :
    ∃ t name q, m.frame.tokens[m.frame.position + 1]? = some t ∧ t.definable? = some name ∧
      FirstEnd m.frame.tokens (m.frame.position + 2) q ∧
      m.define = .done
        ((m.store name ((m.frame.tokens.take q).drop (m.frame.position + 2))).moveTo q) := by
  have hnext : m.frame.next = m.frame.position + 1 := Frame.next_of_lt hplace
  rw [define_eq, defineAtOnce] at h ⊢
  dsimp only at h ⊢
  rw [hnext] at h ⊢
  rcases hrest : m.frame.tokens.drop (m.frame.position + 1) with _ | ⟨t, rest⟩
  · rw [hrest] at h
    cases h
  · have ht : m.frame.tokens[m.frame.position + 1]? = some t := by
      have hhead := congrArg List.head? hrest
      rwa [List.head?_drop] at hhead
    have hbehind : rest = m.frame.tokens.drop (m.frame.position + 2) := by
      have htail := congrArg List.tail hrest
      rw [List.tail_drop] at htail
      exact htail.symm
    rw [hrest] at h
    dsimp only at h ⊢
    rcases hname : t.definable? with _ | name
    · rw [hname] at h
      cases h
    · rw [hname] at h
      dsimp only at h ⊢
      split at h
      · -- The body is shorter than what is behind the name, so its end follows it.
        rename_i hlt
        rw [if_pos hlt]
        rw [hbehind] at hlt ⊢
        refine ⟨t, name, _, ht, hname, firstEnd_of_lt hlt, ?_⟩
        rw [← takeWhile_eq_drop_take rfl]
        rfl
      · cases h

/-- A definition that fails stores nothing. -/
theorem dictionary_define_of_fault (h : m.define.fault ≠ none) :
    m.define.machine.dictionary = m.dictionary := by
  rcases define_cases m with ⟨cause, q, hfail⟩ | ⟨name, body, q, -, hdone⟩
  · rw [hfail]
    rfl
  · rw [hdone] at h
    exact absurd rfl h

/-! ## Both ways -/

/-- The machine with its skip register set. -/
def withSkip (m : Machine) (skip : Nat) : Machine :=
  m.setFlow { m.frame.flow with skip := skip }

/-- The machine at the definition that `t` starts, which it passes over. -/
def passing (m : Machine) (t : Token) (skip : Nat) : Machine :=
  { m.withSkip skip with location := some t.location }

/-- The machine at the definition that `t` starts, which it stores. A repeat register that is set
does not apply to it. -/
def defining (m : Machine) (t : Token) : Machine :=
  { m with location := some t.location }.setFlow { m.frame.flow with skip := 0, repeats := 1 }

variable {t : Token} {skip : Nat} {inner : Inner}

/-- With the skip register set, a definition that is reached is passed over. -/
theorem runReached_of_skip (hstarts : m.startsDefinition t = true) (hskip : 0 < skip) :
    (m.withSkip skip).runReached inner t = (m.passing t skip).passDefinition := by
  have hstarts' : (m.withSkip skip).startsDefinition t = true := hstarts
  rw [runReached, hstarts', if_pos rfl, runDefinition]
  exact if_pos hskip

/-- With the skip register clear, a definition that is reached is stored. -/
theorem runReached_of_no_skip (hstarts : m.startsDefinition t = true) :
    (m.withSkip 0).runReached inner t = (m.defining t).define := by
  have hstarts' : (m.withSkip 0).startsDefinition t = true := hstarts
  rw [runReached, hstarts', if_pos rfl, runDefinition]
  exact if_neg (Nat.lt_irrefl 0)

/-- After a token that leaves the skip register alone, the machine is one token further, and the
register counts one unit less. -/
theorem exists_step_of_runReached {m' : Machine} (h : m.runReached inner t = .done m')
    (hskip : m'.frame.flow.skip = m.frame.flow.skip) :
    ∃ m'', m.step inner t = .done m'' ∧ m''.frame.position = m'.frame.position + 1 ∧
      m''.frame.flow.skip = m.frame.flow.skip - 1 := by
  refine ⟨m'.finishToken (m.frame.flow.skip == 0 && m.isUserWord t), ?_, rfl, ?_⟩
  · rw [step, h]
    rfl
  · show (if (m.frame.flow.skip == 0 && m.isUserWord t) = true then m'.frame.flow.skip
      else m'.frame.flow.skip - 1) = _
    rw [hskip]
    split
    · -- A user word does not count, but then the register is zero.
      rename_i hinlined
      simp only [Bool.and_eq_true, beq_iff_eq] at hinlined
      omega
    · rfl

/-- A definition is one unit, whether it is run or passed over. If it is run and does not fail, then
its body reaches from its name to the first `;` behind that, it is stored under the lower-case form
of its name, and nothing else changes but for the place and the registers. It is then passed over up
to the same `;`, which leaves all of that alone, and either way the next token is the one behind the
`;`. Passing over fails only if there is no `;` at all, and a definition that fails stores nothing.
-/
theorem definition_is_one_unit (inner : Inner)
    (ht : m.frame.tokens[m.frame.position]? = some t) (hstarts : m.startsDefinition t = true) :
    let tokens := m.frame.tokens
    let start := m.frame.position
    let run := fun skip => (m.withSkip skip).runReached inner t
    ((run 0).fault = none → ∃ l name p,
      tokens[start + 1]? = some (.word l name) ∧ FirstEnd tokens (start + 2) p ∧
      m.dictionary.OnlyStores (run 0).machine.dictionary
        ⟨lowercase name, t.location, (tokens.take p).drop (start + 2)⟩ ∧
      (run 0).machine =
        { m.defining t with dictionary := (run 0).machine.dictionary }.moveTo p ∧
      (∀ skip, 0 < skip → run skip = .done ((m.passing t skip).moveTo p)) ∧
      ∀ skip, ∃ m', (m.withSkip skip).step inner t = .done m' ∧ m'.frame.position = p + 1 ∧
        m'.frame.flow.skip = skip - 1) ∧
    (∀ skip, 0 < skip →
      ((run skip).fault ≠ none ↔ NoEnd tokens (start + 1)) ∧
      ∀ f, (run skip).fault = some f →
        f.kind = .malformed ∧ f.message = "definition not closed") ∧
    ((run 0).fault ≠ none → (run 0).machine.dictionary = m.dictionary) := by
  intro tokens start run
  have hrun : run 0 = (m.defining t).define := runReached_of_no_skip hstarts
  have hpass : ∀ skip, 0 < skip → run skip = (m.passing t skip).passDefinition :=
    fun skip hskip => runReached_of_skip hstarts hskip
  have hplace : start < tokens.length := (List.getElem?_eq_some_iff.1 ht).1
  refine ⟨fun hok => ?_, fun skip hskip => ?_, fun hfault => ?_⟩
  · rw [hrun] at hok
    obtain ⟨u, name, p, hu, hname, hend, hdefine⟩ := exists_of_define (m := m.defining t) hplace hok
    obtain ⟨⟨l, rfl⟩, hopen⟩ := endsDefinition_of_definable? hname
    -- The name ends nothing, so that the same `;` is found from the name on.
    have hend' : FirstEnd tokens (start + 1) p := hend.of_succ hu hopen
    have hpassed : ∀ skip, 0 < skip → run skip = .done ((m.passing t skip).moveTo p) := by
      intro skip hskip
      rw [hpass skip hskip]
      exact passDefinition_of_firstEnd hplace hend'
    rw [hdefine] at hrun
    refine ⟨l, name, p, hu, hend, ?_, ?_, hpassed, fun skip => ?_⟩
    · rw [hrun]
      exact Dictionary.onlyStores_insert _ _ _ _
    · rw [hrun]
      rfl
    · rcases Nat.eq_zero_or_pos skip with rfl | hskip
      · exact exists_step_of_runReached hrun rfl
      · exact exists_step_of_runReached (hpassed skip hskip) rfl
  · rw [hpass skip hskip]
    rcases firstEnd_or_noEnd tokens (start + 1) with ⟨p, hend⟩ | hnone
    · rw [passDefinition_of_firstEnd (m := m.passing t skip) hplace hend]
      refine ⟨iff_of_false (fun hfault => hfault rfl) hend.not_noEnd, fun f hf => ?_⟩
      cases hf
    · obtain ⟨q, hfail⟩ := passDefinition_of_noEnd (m := m.passing t skip) hplace hnone
      rw [hfail]
      refine ⟨iff_of_true (Option.some_ne_none _) hnone, fun f hf => ?_⟩
      cases hf
      exact ⟨rfl, rfl⟩
  · rw [hrun] at hfault ⊢
    exact dictionary_define_of_fault (m := m.defining t) hfault

/-- A machine at a definition whose body has a `;` inside a block, and a block behind that. -/
def atSquare : Machine where
  stack := Stack.empty.push (.int 3)
  dictionary := Dictionary.insert {} "SQ" {} [.word {} "dup"]
  frame := {
    tokens := [
      .word {} "dup", .word ⟨"square", 1, 5⟩ ":", .word {} "Sq", .block {} [.word {} ";"],
      .word {} ":", .word {} "*", .word {} ";", .word {} "Sq", .word {} ";"]
    position := 1
    flow := { lastIf := true, repeats := 4 } }

/-- The definition is stored and passed over up to the first `;` behind the block. -/
theorem definition_is_one_unit_atSquare :
    let t := Token.word ⟨"square", 1, 5⟩ ":"
    atSquare.frame.tokens[atSquare.frame.position]? = some t ∧
      atSquare.startsDefinition t = true ∧
      ((atSquare.withSkip 0).runReached nested t).machine.dictionary.find? "sQ" =
        some ⟨"sq", ⟨"square", 1, 5⟩, [.block {} [.word {} ";"], .word {} ":", .word {} "*"]⟩ ∧
      (atSquare.withSkip 2).runReached nested t = .done ((atSquare.passing t 2).moveTo 6) := by
  intro t
  have hstarts : atSquare.startsDefinition t = true := by decide +kernel
  have hok : ((atSquare.withSkip 0).runReached nested t).fault = none := by
    rw [← Option.isNone_iff_eq_none]
    decide +kernel
  have hend : FirstEnd atSquare.frame.tokens 3 6 := firstEnd_of_lt (by decide +kernel)
  obtain ⟨hstored, -, -⟩ := definition_is_one_unit nested (t := t) rfl hstarts
  obtain ⟨l, name, p, hname, hend', honly, -, hpassed, -⟩ := hstored hok
  obtain rfl : p = 6 := hend'.unique hend
  have hspelling : name = "Sq" := by
    cases hname
    rfl
  refine ⟨rfl, hstarts, ?_, hpassed 2 (Nat.succ_pos 1)⟩
  have hlower : lowercase "Sq" = "sq" := by decide +kernel
  rw [hspelling, hlower] at honly
  exact honly.stored "sQ" (by decide +kernel)

end Machine

end BlockForth
