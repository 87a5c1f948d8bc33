import BlockForth.Machine.Run
import BlockForth.Proofs.Dictionary.History

/-!
# What a user word is

Two parts of the machine ask whether a token is a user word. A step asks the dictionary, to know
whether the tokens of a body count against the skip register in place of the token. Running the
token asks the dictionary again, to find the body. The first takes the spelling as it is, and the
second takes its lower-case form, of which the dictionary then takes the lower-case form once more.
If the two answers differed for some spelling, then the unit that an `if` passes over would be
another one there.

`user_words_agree` says that they never differ. If they did, then they would in a dictionary with a
single definition under the spelling, so that all depends on whether lower-casing the spelling twice
is lower-casing it once (`Dictionary.agrees_iff`). It is by `lowercase_lowercase`, for the
characters that become two and for the sigma that depends on its neighbours as well.

Which way a word is run is stated by what running it does: it runs the body of a user word if its
outcome is that of the body, by whatever way the frames inside it are run (`Machine.RunsBody`).
-/

namespace BlockForth

/-! ## Both look-ups -/

namespace Dictionary

/-- The look-up of the spelling and that of its lower-case form agree on whether there is an entry.
-/
def Agrees (d : Dictionary) (spelling : String) : Prop :=
  d.contains spelling = (d.find? (lowercase spelling)).isSome

/-- The look-ups agree in all dictionaries exactly if the lower-case form of the spelling is its own
lower-case form. -/
theorem agrees_iff (spelling : String) :
    (∀ history, (defineAll history).2.Agrees spelling) ↔
      lowercase (lowercase spelling) = lowercase spelling := by
  constructor
  · intro h
    -- A dictionary with this word alone has an entry for the spelling.
    have hagrees := h [⟨spelling, {}, []⟩]
    have hword : (defineAll [⟨spelling, {}, []⟩]).2 = ({} : Dictionary).insert spelling {} [] := rfl
    unfold Agrees contains at hagrees
    rw [hword, find?_insert, if_pos rfl, find?_insert] at hagrees
    by_contra hne
    have hempty : ({} : Dictionary).find? (lowercase spelling) = none := rfl
    rw [if_neg fun heq => hne heq.symm, hempty] at hagrees
    cases hagrees
  · intro h history
    unfold Agrees contains
    rw [(defineAll history).2.find?_congr h]

end Dictionary

/-! ## The way a word is run -/

namespace Machine

/-- Running the word is running this body, by whatever way the frames inside it are run. -/
def RunsBody (m : Machine) (location : Location) (spelling : String) (body : List Token) : Prop :=
  ∀ inner, m.runWord inner location spelling = m.runBody inner ⟨lowercase spelling, location⟩ body

variable {m : Machine} {location : Location} {spelling : String}

/-- A way to run a frame that only leaves a trace of its tokens, as the body of a word. -/
def traceTokens : Inner :=
  fun f m => .done { m with dictionary := ({} : Dictionary).insert "" {} f.tokens }

/-- The body of a word can be told from its outcomes. -/
theorem runBody_injective {call : Call} {body body' : List Token}
    (h : m.runBody traceTokens call body = m.runBody traceTokens call body') : body = body' := by
  have hentries := congrArg (fun o => o.machine.dictionary.entries.map Entry.body) h
  exact (List.cons.inj hentries).1

/-- A word without an entry runs no body: its outcome does not depend on how a frame is run. -/
theorem not_runsBody (hfind : m.dictionary.find? (lowercase spelling) = none) (body : List Token) :
    ¬ m.RunsBody location spelling body := by
  intro hruns
  have hfixed : m.runWord traceTokens location spelling =
      m.runWord (fun _ m => m.fail .missingName) location spelling := by
    unfold runWord
    dsimp only
    rw [hfind]
  rw [hruns, hruns] at hfixed
  -- One of the two ways to run the body fails, and the other does not.
  have hfault := congrArg Outcome.fault hfixed
  cases hfault

/-- A word runs the body of the entry that the dictionary has for its spelling, and no other. -/
theorem runsBody_iff (body : List Token) :
    m.RunsBody location spelling body ↔
      ∃ e, m.dictionary.find? spelling = some e ∧ e.body = body := by
  rw [← Dictionary.find?_lowercase]
  rcases hfind : m.dictionary.find? (lowercase spelling) with _ | e
  · constructor
    · intro hruns
      exact absurd hruns (not_runsBody hfind body)
    · rintro ⟨e, he, -⟩
      cases he
  · have hrun : m.RunsBody location spelling e.body := by
      intro inner
      unfold runWord
      dsimp only
      rw [hfind]
    constructor
    · intro hruns
      exact ⟨e, rfl, runBody_injective ((hrun _).symm.trans (hruns _))⟩
    · rintro ⟨e', he, rfl⟩
      cases he
      exact hrun

/-- Lower-casing the spelling of a word twice is lower-casing it once, which is to say that no
dictionary can tell the two. So a word is a user word for the skip register exactly if running it is
running a body, and this is the body of the entry that both look-ups find. -/
theorem user_words_agree (spelling : String) :
    lowercase (lowercase spelling) = lowercase spelling ∧
    ((∀ history, (Dictionary.defineAll history).2.Agrees spelling) ↔
      lowercase (lowercase spelling) = lowercase spelling) ∧
    ∀ (m : Machine) (location : Location),
      (m.isUserWord (.word location spelling) = true ↔
        ∃ body, m.RunsBody location spelling body) ∧
      m.dictionary.find? (lowercase spelling) = m.dictionary.find? spelling ∧
      ∀ body, m.RunsBody location spelling body ↔
        ∃ e, m.dictionary.find? spelling = some e ∧ e.body = body := by
  refine ⟨lowercase_lowercase spelling, Dictionary.agrees_iff spelling, fun m location => ?_⟩
  refine ⟨?_, m.dictionary.find?_lowercase spelling, runsBody_iff⟩
  have huser : m.isUserWord (.word location spelling) = true ↔
      ∃ e, m.dictionary.find? spelling = some e := Option.isSome_iff_exists
  rw [huser]
  constructor
  · rintro ⟨e, he⟩
    exact ⟨e.body, (runsBody_iff e.body).2 ⟨e, he, rfl⟩⟩
  · rintro ⟨body, hbody⟩
    obtain ⟨e, he, -⟩ := (runsBody_iff body).1 hbody
    exact ⟨e, he⟩

/-- The last sigma of a word becomes another letter than the others, and stays what it is. -/
example : lowercase "ΣΟΦΟΣ" = "σοφος" ∧
    lowercase "σοφος" = "σοφος" := by
  decide +kernel

end Machine

end BlockForth
