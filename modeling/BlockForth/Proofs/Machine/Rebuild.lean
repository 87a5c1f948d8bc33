import BlockForth.Proofs.Machine.Relocation
import BlockForth.Proofs.Machine.StoredWords

/-!
# The dictionary from its listing

The words of a dictionary can be written as a program of definitions, one on each line and in the
order of the listing. `run_program_rebuilds` says that running this program on a new machine gives
the dictionary back, but for the places in it. The bodies may hold no doubles, whose texts are not
exact, and the names may be no numerals, which would be read as numbers.

The program is read as the tokens of the definitions, at other places (`readAll_program`). Without
these places, each definition is one step, which stores its word (`stepAll_tokens`). No name is that
of an earlier word, so every word is added at the end.
-/

namespace BlockForth

/-- The word as a definition in source code. -/
def Entry.definition (e : Entry) : String :=
  ": " ++ e.name ++ Token.bodyText e.body ++ " ;"

/-- The words as a program, with a definition on each line, in the order of the listing. -/
def Dictionary.program (d : Dictionary) : String :=
  "\n".intercalate (d.entries.map Entry.definition)

/-- The tokens behind the `:` of the definition, without places. -/
def Entry.tokensBehind (e : Entry) : List Token :=
  .word {} e.name :: (e.body ++ [.word {} ";"])

/-- The tokens of the definition, without places. -/
def Entry.tokens (e : Entry) : List Token :=
  .word {} ":" :: e.tokensBehind

/-- The entry is well stored, its body has no doubles, and its name is no numeral. -/
structure Entry.Writable (e : Entry) : Prop extends e.WellStored where
  no_float : ∀ t ∈ e.body, t.hasFloat = false
  no_numeral : Numeral.read? e.name.toList = none

/-! ## Reading the program -/

namespace Token

/-- The text of tokens is put together piece by piece. -/
theorem bodyText_append (ts us : List Token) :
    bodyText (ts ++ us) = bodyText ts ++ bodyText us := by
  induction ts with
  | nil => simp [bodyText]
  | cons t ts ih =>
    rw [List.cons_append, bodyText, bodyText, ih]
    simp only [String.append_assoc]

/-- The `:` can be written. -/
theorem written_start : (word {} ":").Written false :=
  ⟨isChunk_singleton rfl (by decide) (by decide), by decide, by decide, rfl⟩

/-- The `;` can be written. -/
theorem written_end : (word {} ";").Written false :=
  ⟨isChunk_singleton rfl (by decide) (by decide), by decide, by decide, rfl⟩

end Token

namespace Entry

variable {e : Entry}

/-- The text of a definition is a `:` and the text of the tokens behind it. -/
theorem definition_eq (e : Entry) : e.definition = ":" ++ Token.bodyText e.tokensBehind := by
  apply String.toList_inj.1
  simp [definition, tokensBehind, Token.bodyText, Token.bodyText_append, Token.text]

/-- The tokens behind the `:` can be written and hold no double. -/
theorem Writable.tokensBehind (h : e.Writable) :
    ∀ t ∈ e.tokensBehind, t.Written false ∧ t.hasFloat = false := by
  refine List.forall_mem_cons.2 ⟨⟨⟨h.chunk, h.ne_opening, fun _ => rfl, h.no_numeral⟩, rfl⟩, ?_⟩
  intro t ht
  rcases List.mem_append.1 ht with hbody | hend
  · exact ⟨h.written t hbody, h.no_float t hbody⟩
  · rw [List.mem_singleton.1 hend]
    exact ⟨Token.written_end, rfl⟩

/-- Before a blank or at the end, a definition is read as its tokens at other places. -/
theorem Writable.reads (h : e.Writable) {rest : List Char} {l : Location} {ts : List Token}
    {c : Cursor} (hrest : StartsBlank rest)
    (hreads : Token.Reads none ⟨rest, l.after e.definition.toList⟩ ts c) :
    ∃ ts', ts'.map Token.unlocated = e.tokens.map Token.unlocated ∧
      Token.Reads none ⟨e.definition.toList ++ rest, l⟩ (ts' ++ ts) c := by
  have hstart : (Token.word {} ":").Written (none : Option Location).isSome := Token.written_start
  have hbehind : ∀ t ∈ e.tokensBehind, t.Written (none : Option Location).isSome :=
    fun t ht => (h.tokensBehind t ht).1
  rw [definition_eq, String.toList_append, Location.after_append] at hreads
  -- What follows is read first, as in `reads_bodyText`.
  obtain ⟨behind, hsame, hreads⟩ := Token.reads_bodyText e.tokensBehind hbehind
    (fun t ht => (h.tokensBehind t ht).2) hrest hreads
  obtain ⟨start, hstart', hreads⟩ := Token.reads_text (.word {} ":") hstart rfl
    (Token.startsBlank_bodyText e.tokensBehind hrest) hreads
  refine ⟨start :: behind, ?_, ?_⟩
  · rw [Token.unlocatedAll_eq_map, Token.unlocatedAll_eq_map] at hsame
    rw [tokens, List.map_cons, List.map_cons, hstart', hsame]
  · rw [definition_eq, String.toList_append, List.append_assoc]
    exact hreads

end Entry

namespace Dictionary

/-- The lines of the program behind the first one. -/
def linesText : List Entry → String
  | [] => ""
  | e :: es => "\n" ++ e.definition ++ linesText es

/-- The first definition is followed by the lines of the others. -/
theorem intercalate_definition (e : Entry) (es : List Entry) :
    "\n".intercalate ((e :: es).map Entry.definition) = e.definition ++ linesText es := by
  induction es generalizing e with
  | nil => simp [linesText]
  | cons x es ih =>
    rw [List.map_cons, List.map_cons, String.intercalate_cons_cons, ← List.map_cons, ih, linesText]
    simp only [String.append_assoc]

/-- The lines behind a definition start with a newline, if there are any. -/
theorem startsBlank_linesText (es : List Entry) : StartsBlank (linesText es).toList := by
  cases es with
  | nil => exact startsBlank_nil
  | cons e es =>
    rw [linesText, String.toList_append, String.toList_append]
    exact startsBlank_cons rfl _

/-- The lines are read as the tokens of their definitions. -/
theorem reads_linesText {es : List Entry} (h : ∀ e ∈ es, e.Writable) (l : Location) :
    ∃ ts c, ts.map Token.unlocated = (es.flatMap Entry.tokens).map Token.unlocated ∧
      Token.Reads none ⟨(linesText es).toList, l⟩ ts c := by
  induction es generalizing l with
  | nil => exact ⟨[], _, rfl, .finish rfl⟩
  | cons e es ih =>
    rw [List.forall_mem_cons] at h
    obtain ⟨ts, c, hsame, hreads⟩ := ih h.2 ((l.next '\n').after e.definition.toList)
    obtain ⟨ts', hsame', hreads⟩ := h.1.reads (startsBlank_linesText es) hreads
    refine ⟨ts' ++ ts, c, ?_, ?_⟩
    · rw [List.map_append, List.flatMap_cons, List.map_append, hsame, hsame']
    · have htext : (linesText (e :: es)).toList =
          '\n' :: (e.definition.toList ++ (linesText es).toList) := by
        simp [linesText]
      rw [htext]
      exact .blank rfl hreads

/-- The program is read as the tokens of the definitions, at other places. -/
theorem readAll_program {d : Dictionary} (h : ∀ e ∈ d.entries, e.Writable) (path : String) :
    ∃ ts, Token.readAll path d.program = .ok ts ∧
      ts.map Token.unlocated = (d.entries.flatMap Entry.tokens).map Token.unlocated := by
  obtain ⟨es⟩ := d
  cases es with
  | nil => exact ⟨[], rfl, rfl⟩
  | cons e es =>
    rw [List.forall_mem_cons] at h
    obtain ⟨ts, c, hsame, hreads⟩ :=
      reads_linesText h.2 ((Location.start path).after e.definition.toList)
    obtain ⟨ts', hsame', hreads⟩ := h.1.reads (startsBlank_linesText es) hreads
    refine ⟨ts' ++ ts, Token.readAll_eq_ok_iff.2 ⟨c, ?_⟩, ?_⟩
    · rw [program, intercalate_definition, Cursor.start, String.toList_append]
      exact hreads
    · rw [List.map_append, List.flatMap_cons, List.map_append, hsame, hsame']

end Dictionary

/-! ## Running the definitions -/

namespace Machine

variable {inner : Inner} {m : Machine} {e : Entry}

/-- Tokens that the frame has moved past are not run. -/
theorem stepAll_of_past (inner : Inner) {i : Nat} {ts : List Token}
    (h : i + ts.length ≤ m.frame.position) : stepAll inner i ts m = .done m := by
  induction ts generalizing i with
  | nil => rfl
  | cons t ts ih =>
    rw [List.length_cons] at h
    rw [stepAll]
    split
    · rfl
    · rw [if_pos (by omega)]
      exact ih (by omega)

/-- The machine after the definition of the entry, whose tokens are the next ones. -/
def defined (m : Machine) (e : Entry) : Machine :=
  { m with
    location := some {}
    dictionary := m.dictionary.insert e.name {} e.body
    frame := { m.frame with position := m.frame.position + e.tokens.length } }

/-- The body goes up to the `;`, since no token in it ends a definition. -/
theorem takeWhile_body (h : e.WellStored) (rest : List Token) :
    (e.body ++ .word {} ";" :: rest).takeWhile (!·.endsDefinition) = e.body := by
  rw [List.takeWhile_append_of_pos fun t ht => by rw [h.body_open t ht]; rfl]
  rw [List.takeWhile_cons_of_neg (by decide), List.append_nil]

/-- The definition of a word that is well stored stores it. -/
theorem define_tokens (h : e.WellStored) {rest : List Token}
    (htokens : m.frame.tokens.drop m.frame.position = e.tokens ++ rest) :
    m.define = .done ((m.store e.name e.body).moveTo (m.frame.position + 2 + e.body.length)) := by
  have hlength : m.frame.position < m.frame.tokens.length := by
    by_contra hpast
    rw [List.drop_eq_nil_of_le (Nat.le_of_not_lt hpast)] at htokens
    cases htokens
  have hnext : m.frame.next = m.frame.position + 1 := Frame.next_of_lt hlength
  have hdrop : m.frame.tokens.drop (m.frame.position + 1) =
      .word {} e.name :: (e.body ++ .word {} ";" :: rest) := by
    rw [← List.drop_drop, htokens]
    simp [Entry.tokens, Entry.tokensBehind]
  have hname : (Token.word {} e.name).definable? = some e.name :=
    if_neg (not_or.2 ⟨h.ne_start, h.ne_end⟩)
  have hclosed : e.body.length < (e.body ++ .word {} ";" :: rest).length := by simp
  rw [define_eq, defineAtOnce]
  simp only [hnext, hdrop, hname, takeWhile_body h, if_pos hclosed]
  rfl

/-- The `:` of a definition is run in one step, which goes behind the definition. -/
theorem step_tokens (inner : Inner) (h : e.WellStored) {rest : List Token}
    (htokens : m.frame.tokens.drop m.frame.position = e.tokens ++ rest)
    (hflow : m.frame.flow = {}) (hcolon : m.dictionary.contains ":" = false) :
    m.step inner (.word {} ":") = .done (m.defined e) := by
  have hstarts : m.startsDefinition (.word {} ":") = true := by
    rw [startsDefinition, hcolon]
    decide
  have huser : m.isUserWord (.word {} ":") = false := hcolon
  -- The registers are those of a new frame, so setting the repeat register changes nothing.
  have hdefine : runDefinition { m with location := some {} } =
      .done ((store { m with location := some {} } e.name e.body).moveTo
        (m.frame.position + 2 + e.body.length)) := by
    rw [← define_tokens (m := { m with location := some {} }) h htokens]
    unfold runDefinition
    simp only [hflow]
    rw [if_neg (by decide)]
    unfold setFlow
    simp only [← hflow]
  have hlength : e.tokens.length = e.body.length + 3 := by
    simp [Entry.tokens, Entry.tokensBehind]
  have hposition : m.frame.position + 2 + e.body.length + 1 =
      m.frame.position + e.tokens.length := by
    omega
  rw [step, runReached, hstarts, huser]
  simp only [Token.location, if_true, hdefine, conclude, Outcome.done, Bool.and_false]
  unfold finishToken setFlow moveTo store defined
  simp only [hflow, hposition]
  rfl

/-- Running the tokens of a definition stores the word, and goes behind them. -/
theorem stepAll_definition (inner : Inner) (h : e.WellStored) {rest : List Token}
    (htokens : m.frame.tokens.drop m.frame.position = e.tokens ++ rest)
    (hflow : m.frame.flow = {}) (hcolon : m.dictionary.contains ":" = false)
    (hexit : m.exiting = false) :
    stepAll inner m.frame.position e.tokens m = .done (m.defined e) := by
  rw [Entry.tokens, stepAll, hexit, if_neg Bool.false_ne_true, if_neg (Nat.lt_irrefl _),
    step_tokens inner h htokens hflow hcolon]
  -- The frame is behind the definition, so that the rest of it is passed over.
  refine stepAll_of_past inner ?_
  show m.frame.position + 1 + e.tokensBehind.length ≤ m.frame.position + e.tokens.length
  rw [Entry.tokens, List.length_cons]
  omega

/-- Running definitions one behind the other stores all the words. -/
theorem stepAll_definitions (inner : Inner) {es : List Entry} (h : ∀ e ∈ es, e.WellStored)
    (m : Machine) (htokens : m.frame.tokens.drop m.frame.position = es.flatMap Entry.tokens)
    (hflow : m.frame.flow = {}) (hcolon : m.dictionary.contains ":" = false)
    (hexit : m.exiting = false) :
    stepAll inner m.frame.position (es.flatMap Entry.tokens) m = .done (es.foldl defined m) := by
  induction es generalizing m with
  | nil => rfl
  | cons e es ih =>
    rw [List.forall_mem_cons] at h
    rw [List.flatMap_cons] at htokens ⊢
    rw [stepAll_append, stepAll_definition inner h.1 htokens hflow hcolon hexit]
    refine ih h.2 (m.defined e) ?_ hflow ?_ hexit
    · show m.frame.tokens.drop (m.frame.position + e.tokens.length) = _
      rw [← List.drop_drop, htokens, List.drop_left]
    · -- The word has another name than `:`.
      have hne : ¬ lowercase e.name = lowercase ":" := by
        rw [h.1.lower]
        exact h.1.ne_start
      show (m.dictionary.insert e.name {} e.body).contains ":" = false
      rw [Dictionary.contains, Dictionary.find?_insert, if_neg hne]
      exact hcolon

/-- Words that are defined one after the other are inserted one after the other. -/
theorem dictionary_foldl_defined (es : List Entry) (m : Machine) :
    (es.foldl defined m).dictionary =
      es.foldl (fun d e => d.insert e.name {} e.body) m.dictionary := by
  induction es generalizing m with
  | nil => rfl
  | cons e es ih => exact ih (m.defined e)

/-- A dictionary without its places is what running its definitions on a new machine gives. -/
theorem run_tokens {d : Dictionary} (h : d.WellStored) :
    ∃ n, ({} : Machine).runTokens (d.entries.flatMap Entry.tokens) = .done n ∧
      n.dictionary.unlocated = d.unlocated := by
  let start : Machine := { frame := { tokens := d.entries.flatMap Entry.tokens } }
  have hrun := stepAll_definitions (enter maxDepth) h start rfl rfl rfl rfl
  refine ⟨d.entries.foldl defined start, hrun, ?_⟩
  have hentries := Dictionary.foldl_insert (fun e he => (h e he).lower) {} d.nodup
  apply Dictionary.ext_entries
  show List.map _ (d.entries.foldl defined start).dictionary.entries = _
  rw [dictionary_foldl_defined, hentries, Dictionary.entries_empty, List.nil_append, List.map_map]
  rfl

/-- Tokens that differ in their places only are run alike by a new machine. -/
theorem runTokens_relocated {ts ts' : List Token}
    (h : ts'.map Token.unlocated = ts.map Token.unlocated) {n : Machine}
    (hrun : ({} : Machine).runTokens ts = .done n) :
    (({} : Machine).runTokens ts').fault = none ∧
      (({} : Machine).runTokens ts').machine.dictionary.unlocated = n.dictionary.unlocated := by
  let start : Machine := { frame := { tokens := ts } }
  let start' : Machine := { frame := { tokens := ts' } }
  have hinner : (relocating "").InnerAgree (enter maxDepth) (enter maxDepth) :=
    Simulation.enter_agree_self _
  have hmachine : Relocated "" start start' := ⟨rfl, rfl, rfl, rfl⟩
  have hagree : (relocating "").Agree ((relocating "").Beside 0 0 False)
      (start.runFrameWith (enter maxDepth)) (start'.runFrameWith (enter maxDepth)) :=
    Simulation.runFrameWith_beside hinner (enter_balanced _) (enter_balanced _) hmachine rfl
      (Token.forall₂_sameCode_iff.2 h.symm)
  have hrun' : start.runFrameWith (enter maxDepth) = .done n := hrun
  rw [hrun'] at hagree
  rcases hagree with ⟨_, -, hescapes⟩ | ⟨hbeside, hfault⟩
  · exact hescapes.elim
  · -- The first run has no fault, and faults are paired.
    refine ⟨?_, hbeside.machine.dictionary⟩
    show (start'.runFrameWith (enter maxDepth)).fault = none
    generalize (start'.runFrameWith (enter maxDepth)).fault = fault at hfault
    cases hfault
    rfl

/-- After any calls on a new machine, failed ones included, the program of the user words rebuilds
them on another new machine: it runs without a fault, and gives the same names in the same order,
with the same bodies but for their places. No body may hold a double, and no name may be a numeral.
-/
theorem run_program_rebuilds (sources : List String)
    (hfloat : ∀ e ∈ (afterRuns sources).dictionary.entries, ∀ t ∈ e.body, t.hasFloat = false)
    (hname : ∀ e ∈ (afterRuns sources).dictionary.entries,
      Numeral.read? e.name.toList = none) :
    let d := (afterRuns sources).dictionary
    let o := ({} : Machine).run d.program
    o.fault = none ∧ o.machine.dictionary.unlocated = d.unlocated := by
  intro d o
  have hstored := wellStored_of_runs sources
  have hwritable : ∀ e ∈ d.entries, e.Writable :=
    fun e he => ⟨hstored e he, hfloat e he, hname e he⟩
  obtain ⟨ts, hread, hsame⟩ := Dictionary.readAll_program hwritable directPath
  obtain ⟨n, hrun, hrebuilt⟩ := run_tokens hstored
  have ho : o = ({} : Machine).runTokens ts := by
    show ({} : Machine).run d.program = _
    rw [run, runSource, if_neg Bool.false_ne_true, hread]
    rfl
  obtain ⟨hfault, hdictionary⟩ := runTokens_relocated hsame hrun
  rw [ho]
  exact ⟨hfault, hdictionary.trans hrebuilt⟩

/-- Calls that define a word, a word whose name is a brace, and, in a repeated block and before a
fault, a third one. The last call defines the first word again, with a `;` inside a block. -/
def definingCalls : List String := [
  ": Twice \x7b dup + \x7d ; : \x7d 1 \"a ;\" ;",
  "2 times \x7b : Sq Dup * ; \x7d nope",
  ": TWICE dup : x \x7b ; \x7d ;"]

/-- The second call fails, the words are written in the order of their first definitions, and the
program rebuilds them. -/
theorem run_program_rebuilds_definingCalls :
    let d := (afterRuns definingCalls).dictionary
    let o := ({} : Machine).run d.program
    ((afterRuns (definingCalls.take 1)).run "2 times \x7b : Sq Dup * ; \x7d nope").fault ≠ none ∧
      d.program = ": twice dup : x \x7b ; \x7d ;\n: \x7d 1 \"a ;\" ;\n: sq Dup * ;" ∧
      (∀ e ∈ d.entries, ∀ t ∈ e.body, t.hasFloat = false) ∧
      (∀ e ∈ d.entries, Numeral.read? e.name.toList = none) ∧
      o.fault = none ∧ o.machine.dictionary.unlocated = d.unlocated := by
  have hfails :
      ((afterRuns (definingCalls.take 1)).run "2 times \x7b : Sq Dup * ; \x7d nope").fault ≠
        none := by
    decide +kernel
  have hprogram : (afterRuns definingCalls).dictionary.program =
      ": twice dup : x \x7b ; \x7d ;\n: \x7d 1 \"a ;\" ;\n: sq Dup * ;" := by
    decide +kernel
  have hfloat : ∀ e ∈ (afterRuns definingCalls).dictionary.entries, ∀ t ∈ e.body,
      t.hasFloat = false := by
    decide +kernel
  have hname : ∀ e ∈ (afterRuns definingCalls).dictionary.entries,
      Numeral.read? e.name.toList = none := by
    decide +kernel
  obtain ⟨hfault, hrebuilt⟩ := run_program_rebuilds definingCalls hfloat hname
  exact ⟨hfails, hprogram, hfloat, hname, hfault, hrebuilt⟩

end Machine

end BlockForth
