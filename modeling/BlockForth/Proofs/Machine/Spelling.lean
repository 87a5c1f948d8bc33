import BlockForth.Proofs.Machine.StackBelow
import BlockForth.Proofs.Text.Lowercase

/-!
# The case of words does not matter

A word keeps the spelling that it has in the source text, and its name is put into lower case in
many places: where it is run, where it is stored and looked up, where a definition starts and where
it ends. The name of a definition is compared with `:` and `;` as it is spelled. `runs_respelled`
says that the spelling has no effect anywhere: tokens and machines that differ in the case of words
only run alike, and leave machines that differ in the case of words only. Of course no word may list
the user words, since the listing shows how they are spelled.

The simulation `respelling` compares the two runs. A fault keeps its kind, its place, and its calls.
Its message may show a spelling.
-/

namespace BlockForth

/-! ## Tokens -/

namespace Token

mutual

/-- The token with its words in lower case, also those inside it. -/
def lowered : Token → Token
  | word l spelling => word l (lowercase spelling)
  | literal l value => literal l value
  | block l body => block l (loweredAll body)

/-- Tokens with their words in lower case, also those inside them. -/
def loweredAll : List Token → List Token
  | [] => []
  | t :: ts => t.lowered :: loweredAll ts

end

/-- The tokens are equal but for the case of words. -/
def SameWords (t t' : Token) : Prop :=
  t.lowered = t'.lowered

/-- Tokens are lowered one by one. -/
theorem loweredAll_eq_map (ts : List Token) : loweredAll ts = ts.map lowered := by
  induction ts with
  | nil => rfl
  | cons t ts ih => rw [loweredAll, ih, List.map_cons]

/-- Lists of tokens are the same words if they are the same when lowered. -/
theorem forall₂_sameWords_iff {ts ts' : List Token} :
    List.Forall₂ SameWords ts ts' ↔ loweredAll ts = loweredAll ts' := by
  rw [loweredAll_eq_map, loweredAll_eq_map, ← List.forall₂_eq_eq_eq, List.forall₂_map_left_iff,
    List.forall₂_map_right_iff]
  rfl

/-- Words that are spelled alike but for the case are the same. -/
theorem SameWords.word {l : Location} {s s' : String} (h : lowercase s = lowercase s') :
    (Token.word l s).SameWords (.word l s') :=
  congrArg (Token.word l) h

/-- Blocks of the same words are the same words. -/
theorem SameWords.block {l : Location} {body body' : List Token}
    (h : List.Forall₂ SameWords body body') : (Token.block l body).SameWords (.block l body') :=
  congrArg (Token.block l) (forall₂_sameWords_iff.1 h)

/-- The word that lists the user words. -/
def listingWords : List String := [".words"]

/-- The tokens are equal but for the case of words, and none of these lists the user words. -/
def Respelled (t t' : Token) : Prop :=
  t.SameWords t' ∧ t.mentions listingWords = false

/-- Without words that list something, the same words are respelled ones. -/
theorem forall₂_respelled {ts ts' : List Token} (h : List.Forall₂ SameWords ts ts')
    (hlisting : ∀ t ∈ ts, t.mentions listingWords = false) : List.Forall₂ Respelled ts ts' := by
  induction h with
  | nil => exact .nil
  | cons ht _ ih =>
    rw [List.forall_mem_cons] at hlisting
    exact .cons ⟨ht, hlisting.1⟩ (ih hlisting.2)

namespace Respelled

variable {l : Location} {t t' : Token}

/-- A literal is not respelled. -/
theorem literal_inv {v : Value} (h : (literal l v).Respelled t') : t' = literal l v := by
  cases t' with
  | literal l' v' => exact h.1.symm
  | word l' s' => cases h.1
  | block l' body' => cases h.1

/-- A word is respelled in another case only. -/
theorem word_inv {s : String} (h : (word l s).Respelled t') :
    ∃ s', t' = word l s' ∧ lowercase s' = lowercase s := by
  cases t' with
  | word l' s' =>
    obtain ⟨rfl, hname⟩ := Token.word.inj h.1
    exact ⟨s', rfl, hname.symm⟩
  | literal l' v' => cases h.1
  | block l' body' => cases h.1

/-- A block is respelled token by token. -/
theorem block_inv {body : List Token} (h : (block l body).Respelled t') :
    ∃ body', t' = block l body' ∧ List.Forall₂ Respelled body body' := by
  cases t' with
  | block l' body' =>
    obtain ⟨rfl, hbody⟩ := Token.block.inj h.1
    exact ⟨body', rfl,
      forall₂_respelled (forall₂_sameWords_iff.2 hbody) (anyMentions_eq_false_iff.1 h.2)⟩
  | word l' s' => cases h.1
  | literal l' v' => cases h.1

/-- A respelled token keeps its place. -/
theorem location_eq (h : t.Respelled t') : t'.location = t.location := by
  cases t with
  | word l s =>
    obtain ⟨s', rfl, -⟩ := h.word_inv
    rfl
  | literal l v =>
    rw [h.literal_inv]
  | block l body =>
    obtain ⟨body', rfl, -⟩ := h.block_inv
    rfl

/-- A `:` or a `;` has one spelling, so that both tokens may be names or neither may. -/
theorem definable (h : t.Respelled t') :
    Option.Rel (fun s s' => lowercase s' = lowercase s) t.definable? t'.definable? := by
  cases t with
  | word l s =>
    obtain ⟨s', rfl, hname⟩ := h.word_inv
    have hsign : ∀ {a : Char}, isSign a = true →
        (s' = String.ofList [a] ↔ s = String.ofList [a]) := by
      intro a ha
      rw [← lowercase_eq_sign_iff ha, hname, lowercase_eq_sign_iff ha]
    have hcolon : s' = ":" ↔ s = ":" := hsign (by decide)
    have hsemicolon : s' = ";" ↔ s = ";" := hsign (by decide)
    rw [definable?, definable?]
    simp only [hcolon, hsemicolon]
    split
    · exact .none
    · exact .some hname
  | literal l v =>
    rw [h.literal_inv]
    exact .none
  | block l body =>
    obtain ⟨body', rfl, -⟩ := h.block_inv
    exact .none

end Respelled

end Token

/-! ## Dictionaries -/

/-- The entries have one name and one place, and the tokens of their bodies are paired. -/
structure Entry.Alike (token : Token → Token → Prop) (e e' : Entry) : Prop where
  name : e'.name = e.name
  location : e'.location = e.location
  body : List.Forall₂ token e.body e'.body

/-! ## Machines -/

/-- The faults have one kind, one place, and the same calls. -/
def Fault.SameKind (f f' : Fault) : Prop :=
  f'.kind = f.kind ∧ f'.location = f.location ∧ f'.calls = f.calls

namespace Machine

/-- The machines are equal but for their frames, their depths, and the case of the words in their
dictionaries, and none of these lists the user words. -/
structure Respelled (m m' : Machine) : Prop where
  stack : m'.stack = m.stack
  dictionary : List.Forall₂ (Entry.Alike Token.Respelled) m.dictionary.entries
    m'.dictionary.entries
  output : m'.output = m.output
  location : m'.location = m.location
  calls : m'.calls = m.calls
  exiting : m'.exiting = m.exiting

variable {m m' : Machine}

/-- Faults of one kind are raised at the same place. -/
theorem Respelled.faultHere (h : Respelled m m') {cause cause' : Cause}
    (hkind : cause'.kind = cause.kind) : (m.faultHere cause).SameKind (m'.faultHere cause') :=
  ⟨hkind, h.location, congrArg some h.calls⟩

/-- The word that lists the user words has no other name. -/
theorem mem_listingWords {name : String} (h : Builtin.find? name = some .printWords) :
    name ∈ Token.listingWords := by
  obtain ⟨entry, hentry, hname, hword⟩ := Builtin.exists_mem_table_of_find? h
  have htable : ∀ e ∈ Builtin.table, e.word = .printWords → e.name ∈ Token.listingWords := by decide
  rw [← hname]
  exact htable entry hentry hword

/-- A built-in word that does not list the user words does not see how they are spelled. -/
theorem perform_respelled (h : Respelled m m') (hflow : m'.frame.flow = m.frame.flow) (w : Builtin)
    (hdefine : w ≠ .define) (hlisting : w ≠ .printWords) :
    (m.perform w).Agree (fun n n' => Respelled n n' ∧ n'.frame.flow = n.frame.flow)
      Fault.SameKind (fun _ => False) (m'.perform w) := by
  obtain ⟨e, s, heffect, heffect'⟩ :=
    exists_wordEffect h.stack hflow w hdefine (absurd · hlisting)
  rw [heffect, heffect']
  cases e with
  | raise cause => exact .inr ⟨⟨h, hflow⟩, .some ⟨rfl, rfl, rfl⟩⟩
  | fail cause => exact .inr ⟨⟨h, hflow⟩, .some (h.faultHere rfl)⟩
  | finish text flow ends =>
    have houtput : m'.output ++ text = m.output ++ text := by rw [h.output]
    have hexiting : (m'.exiting || ends) = (m.exiting || ends) := by rw [h.exiting]
    exact .inr ⟨⟨⟨rfl, h.dictionary, houtput, h.location, h.calls, hexiting⟩, rfl⟩, .none⟩

end Machine

/-! ## The simulation -/

/-- Tokens that differ in the case of words run alike. -/
def respelling : Simulation where
  token := Token.Respelled
  machine := Machine.Respelled
  fault := Fault.SameKind
  escapes _ := False
  literal_inv h := ⟨_, h.literal_inv⟩
  block_inv h := by
    obtain ⟨body', heq, hbody⟩ := h.block_inv
    exact ⟨_, body', heq, hbody⟩
  word_inv h := by
    obtain ⟨s', heq, hname⟩ := h.word_inv
    exact ⟨_, s', heq, hname⟩
  definable h := h.definable
  inFrame _ _ _ _ h := ⟨h.stack, h.dictionary, h.output, h.location, h.calls, h.exiting⟩
  exiting h := h.exiting
  reach h ht :=
    ⟨h.stack, h.dictionary, h.output, congrArg some ht.location_eq, h.calls, h.exiting⟩
  push v h :=
    ⟨by rw [h.stack], h.dictionary, h.output, h.location, h.calls, h.exiting⟩
  call h ht := by
    obtain ⟨s', heq, hname⟩ := ht.word_inv
    cases heq
    exact ⟨h.stack, h.dictionary, h.output, h.location, by rw [hname, h.calls], h.exiting⟩
  goBack h :=
    ⟨h.stack, h.dictionary, h.output, h.location, by rw [h.calls], h.exiting⟩
  find {m m'} name h := by
    have hfind : Option.Rel (Entry.Alike Token.Respelled) (m.dictionary.find? name)
        (m'.dictionary.find? name) := by
      rw [Dictionary.find?_eq, Dictionary.find?_eq]
      exact Dictionary.rel_find? (fun _ _ he => he.name) h.dictionary _
    generalize m.dictionary.find? name = found at hfind ⊢
    generalize m'.dictionary.find? name = found' at hfind ⊢
    cases hfind with
    | none => exact .none
    | some he => exact .some he.body
  insert {m m' s s' body body'} h hname hbody := by
    refine ⟨h.stack, ?_, h.output, h.location, h.calls, h.exiting⟩
    have hentry : Entry.Alike Token.Respelled ⟨lowercase s, m.location.getD {}, body⟩
        ⟨lowercase s', m'.location.getD {}, body'⟩ := ⟨hname, by rw [h.location], hbody⟩
    dsimp only
    rw [Dictionary.entries_insert, Dictionary.entries_insert]
    exact Dictionary.forall₂_put (fun _ _ he => he.name) h.dictionary hentry
  perform {m m' l s t' w} h hflow ht hfind hw := by
    refine Machine.perform_respelled h hflow w hw ?_
    rintro rfl
    -- The token would be the word that is not mentioned.
    have hmention : Token.listingWords.contains (lowercase s) = false := ht.2
    rw [List.contains_iff_mem.2 (Machine.mem_listingWords hfind)] at hmention
    cases hmention
  fail _ h := h.faultHere rfl
  failUnknown h _ := h.faultHere rfl
  failName h _ := h.faultHere rfl
  context {m m' f f' t t'} h hfault ht := by
    obtain ⟨hkind, hlocation, hcalls⟩ := hfault
    refine ⟨hkind, ?_, ?_⟩
    · rw [Fault.inContext, Fault.inContext, hlocation, ht.location_eq]
    · rw [Fault.inContext, Fault.inContext, hcalls, h.calls]
  escapes_context _ _ h := h

/-! ## Runs -/

namespace Machine

/-- The machines are equal but for the case of the words in their frames and dictionaries. -/
structure SameWords (m m' : Machine) : Prop where
  stack : m'.stack = m.stack
  dictionary : List.Forall₂ (Entry.Alike Token.SameWords) m.dictionary.entries
    m'.dictionary.entries
  output : m'.output = m.output
  location : m'.location = m.location
  calls : m'.calls = m.calls
  tokens : List.Forall₂ Token.SameWords m.frame.tokens m'.frame.tokens
  position : m'.frame.position = m.frame.position
  flow : m'.frame.flow = m.frame.flow
  depth : m'.depth = m.depth
  exiting : m'.exiting = m.exiting

end Machine

/-- The outcomes are equal but for the case of words and the messages of faults. -/
def Outcome.SameWords (o o' : Outcome) : Prop :=
  o.machine.SameWords o'.machine ∧ Option.Rel Fault.SameKind o.fault o'.fault

namespace Machine

/-- No user word mentions the word that lists them all. -/
def BodiesUnlisted (m : Machine) : Prop :=
  ∀ e ∈ m.dictionary.entries, ∀ t ∈ e.body, t.mentions Token.listingWords = false

variable {m m' : Machine} {ts ts' : List Token}

/-- Without words that list something in their bodies, machines with the same words are respelled
ones. -/
theorem SameWords.respelled (h : SameWords m m') (hbodies : m.BodiesUnlisted) : Respelled m m' := by
  refine ⟨h.stack, ?_, h.output, h.location, h.calls, h.exiting⟩
  obtain hentries := h.dictionary
  unfold BodiesUnlisted at hbodies
  generalize m.dictionary.entries = es at hentries hbodies ⊢
  generalize m'.dictionary.entries = es' at hentries ⊢
  induction hentries with
  | nil => exact .nil
  | cons he _ ih =>
    rw [List.forall_mem_cons] at hbodies
    exact .cons ⟨he.name, he.location, Token.forall₂_respelled he.body hbodies.1⟩ (ih hbodies.2)

/-- Machines that a comparison has left beside each other, each in the frame that it had before. -/
theorem sameWords_of_beside {n n' : Machine} {i : Nat} (h : SameWords m m') (hframe : SameFrame m n)
    (hframe' : SameFrame m' n') (hbeside : respelling.Beside i i False n n') : SameWords n n' := by
  obtain ⟨hmachine, hflow, hoffset, -⟩ := hbeside
  have hdictionary : List.Forall₂ (Entry.Alike Token.SameWords) n.dictionary.entries
      n'.dictionary.entries :=
    hmachine.dictionary.imp fun _ _ he => ⟨he.name, he.location, he.body.imp fun _ _ ht => ht.1⟩
  have htokens : List.Forall₂ Token.SameWords n.frame.tokens n'.frame.tokens := by
    rw [hframe.tokens, hframe'.tokens]
    exact h.tokens
  have hdepth : n'.depth = n.depth := by
    rw [hframe.depth, hframe'.depth]
    exact h.depth
  exact ⟨hmachine.stack, hdictionary, hmachine.output, hmachine.location, hmachine.calls, htokens,
    (Nat.add_right_cancel hoffset).symm, hflow, hdepth, hmachine.exiting⟩

/-- A respelled frame ends alike. -/
theorem runFrame_respelled (h : SameWords m m') (hbodies : m.BodiesUnlisted)
    (htokens : ∀ t ∈ m.frame.tokens, t.mentions Token.listingWords = false) :
    m.runFrame.SameWords m'.runFrame := by
  have hpaired : List.Forall₂ Token.Respelled (m.frame.tokens.drop m.frame.position)
      (m'.frame.tokens.drop m'.frame.position) := by
    rw [h.position]
    exact List.forall₂_drop _ (Token.forall₂_respelled h.tokens htokens)
  have hagree := Simulation.runFrameWith_beside (S := respelling)
    (Simulation.enter_agree_self (maxDepth - m.depth)) (enter_balanced _) (enter_balanced _)
    (h.respelled hbodies) h.flow hpaired
  rw [h.position] at hagree
  have hrun' : m'.runFrameWith (enter (maxDepth - m.depth)) = m'.runFrame := by
    rw [runFrame, h.depth]
  rw [hrun'] at hagree
  rcases hagree with ⟨_, -, hescapes⟩ | ⟨hbeside, hfault⟩
  · exact hescapes.elim
  · exact ⟨sameWords_of_beside h (runFrame_sameFrame m) (runFrame_sameFrame m') hbeside, hfault⟩

/-- Respelled tokens that are run as a frame of their own end alike. -/
theorem executeTokens_respelled (h : SameWords m m') (hbodies : m.BodiesUnlisted)
    (hts : List.Forall₂ Token.SameWords ts ts')
    (hlisting : ∀ t ∈ ts, t.mentions Token.listingWords = false) :
    (m.executeTokens ts).SameWords (m'.executeTokens ts') := by
  have hbeside : respelling.Beside 0 0 False m m' :=
    ⟨h.respelled hbodies, h.flow, congrArg (· + 0) h.position.symm, False.elim⟩
  have hagree := Simulation.runBlock_agree (S := respelling)
    (Simulation.enter_agree_self (maxDepth - m.depth)) hbeside
    (Token.forall₂_respelled hts hlisting)
  have hrun' : m'.runBlock (enter (maxDepth - m.depth)) ts' = m'.executeTokens ts' := by
    rw [← h.depth]
    rfl
  rw [hrun'] at hagree
  have hframe : SameFrame m (m.executeTokens ts).machine :=
    (runBlock_onward nested_balanced m ts).toSameFrame
  have hframe' : SameFrame m' (m'.executeTokens ts').machine :=
    (runBlock_onward nested_balanced m' ts').toSameFrame
  rcases hagree with ⟨_, -, hescapes⟩ | ⟨hbeside, hfault⟩
  · exact hescapes.elim
  · exact ⟨sameWords_of_beside h hframe hframe' hbeside, hfault⟩

/-- Machines that differ in the case of words only stay so when their frames are run, and when they
run tokens that differ in the case of words only, as the outermost frame or as a block. Both runs
fail or neither does, and the faults have one kind, one place, and the same calls. No word may list
the user words. -/
theorem runs_respelled (m m' : Machine) (h : SameWords m m') (hbodies : m.BodiesUnlisted) :
    ((∀ t ∈ m.frame.tokens, t.mentions Token.listingWords = false) →
      m.runFrame.SameWords m'.runFrame) ∧
    ∀ ts ts', List.Forall₂ Token.SameWords ts ts' →
      (∀ t ∈ ts, t.mentions Token.listingWords = false) →
      (m.runTokens ts).SameWords (m'.runTokens ts') ∧
        (m.executeTokens ts).SameWords (m'.executeTokens ts') := by
  refine ⟨runFrame_respelled h hbodies, fun ts ts' hts hlisting => ⟨?_, ?_⟩⟩
  · let start : Machine := { m with frame := { tokens := ts } }
    let start' : Machine := { m' with frame := { tokens := ts' } }
    have hstart : SameWords start start' :=
      ⟨h.stack, h.dictionary, h.output, h.location, h.calls, hts, rfl, rfl, h.depth, h.exiting⟩
    exact runFrame_respelled hstart hbodies hlisting
  · exact executeTokens_respelled h hbodies hts hlisting

/-- A machine that is to define a word, to run it and another one, and to fail in the end. -/
def quiet : Machine where
  dictionary := ({} : Dictionary).insert "twice" {} [.word {} "dup", .word {} "+"]
  frame := {
    tokens := [.word {} ":", .word {} "square", .word {} "dup", .word {} "*", .word {} ";",
      .literal {} (.int 2), .word {} "times", .block {} [.literal {} (.int 3), .word {} "square"],
      .word {} "twice", .word { line := 2 } "none"] }

/-- The same machine with other spellings. -/
def loud : Machine where
  dictionary := ({} : Dictionary).insert "twice" {} [.word {} "DUP", .word {} "+"]
  frame := {
    tokens := [.word {} ":", .word {} "Square", .word {} "Dup", .word {} "*", .word {} ";",
      .literal {} (.int 2), .word {} "TIMES", .block {} [.literal {} (.int 3), .word {} "SQUARE"],
      .word {} "tWiCe", .word { line := 2 } "None"] }

/-- Both machines compute the same values, and both do not know the last word. -/
theorem runs_respelled_loud :
    SameWords quiet loud ∧ quiet.BodiesUnlisted ∧
      (∀ t ∈ quiet.frame.tokens, t.mentions Token.listingWords = false) ∧
      loud.runFrame.machine.stack.values = [.int 18, .int 9] ∧
      loud.runFrame.fault.map (fun f => (f.kind, f.location)) =
        some (.unknownWord, some { line := 2 }) ∧
      (loud.runTokens loud.frame.tokens).machine.stack.values = [.int 18, .int 9] := by
  have htokens : List.Forall₂ Token.SameWords quiet.frame.tokens loud.frame.tokens := by
    refine .cons rfl (.cons (.word ?_) (.cons (.word ?_) (.cons rfl (.cons rfl (.cons rfl
      (.cons (.word ?_) (.cons (.block (.cons rfl (.cons (.word ?_) .nil)))
        (.cons (.word ?_) (.cons (.word ?_) .nil)))))))))
    all_goals decide +kernel
  have hbody : List.Forall₂ Token.SameWords [.word {} "dup", .word {} "+"]
      [.word {} "DUP", .word {} "+"] := .cons (.word (by decide +kernel)) (.cons rfl .nil)
  have hsame : SameWords quiet loud :=
    ⟨rfl, .cons ⟨rfl, rfl, hbody⟩ .nil, rfl, rfl, rfl, htokens, rfl, rfl, rfl, rfl⟩
  have hbodies : quiet.BodiesUnlisted := by
    unfold BodiesUnlisted
    decide +kernel
  have hlisting : ∀ t ∈ quiet.frame.tokens, t.mentions Token.listingWords = false := by
    decide +kernel
  obtain ⟨hvalues, hfault, hvalues'⟩ : quiet.runFrame.machine.stack.values = [.int 18, .int 9] ∧
      quiet.runFrame.fault.map (fun f => (f.kind, f.location)) =
        some (.unknownWord, some { line := 2 }) ∧
      (quiet.runTokens quiet.frame.tokens).machine.stack.values = [.int 18, .int 9] := by
    decide +kernel
  obtain ⟨hframe, htop⟩ := runs_respelled quiet loud hsame hbodies
  obtain ⟨hmachine, hrel⟩ := hframe hlisting
  obtain ⟨⟨hmachine', -⟩, -⟩ := htop _ _ htokens hlisting
  refine ⟨hsame, hbodies, hlisting, by rw [hmachine.stack, hvalues], ?_, ?_⟩
  · generalize quiet.runFrame.fault = fault at hrel hfault
    generalize loud.runFrame.fault = fault' at hrel ⊢
    cases hrel with
    | none => exact hfault
    | some h =>
      rw [Option.map_some, h.1, h.2.1]
      exact hfault
  · rw [hmachine'.stack, hvalues']

end Machine

end BlockForth
