import BlockForth.Proofs.Machine.Steps
import BlockForth.Proofs.Token.Reading

/-!
# Every program ends

A user word may call itself, a word may be redefined while it runs, and a count may be any integer,
and yet every run comes to an end. The steps of `Config.next` know nothing of that: they go on as
long as there is something left to do. `runs_end` says that from every machine they get to the
outcome of the run, and that more steps than needed change nothing. For a source text it says so of
the reading as well, which takes a number of rounds that its length bounds.
-/

namespace BlockForth

/-- The computation gives this outcome with some fuel and with every larger one. -/
def EndsWith (computation : (fuel : Nat) → Option Outcome) (o : Outcome) : Prop :=
  ∃ bound, ∀ fuel, bound ≤ fuel → computation fuel = some o

namespace Machine

/-- Runs a source text as a call, with at most `fuel` rounds of reading and then as many steps. -/
def runSourceFor (m : Machine) (path source : String) (fuel : Nat) : Option Outcome :=
  if m.exiting then some (.done m.begin)
  else
    match (Token.readFrom fuel none [] (Cursor.start path source)).map Prod.fst with
    | .error f => some { machine := m.begin, fault := some f }
    | .ok tokens => Config.runFor fuel ⟨{ m.begin with frame := { tokens := tokens } }, .fetch, []⟩

/-- A call ends with what its run as a whole gives. -/
theorem runSource_endsWith (m : Machine) (path source : String) :
    EndsWith (m.runSourceFor path source) (m.runSource path source) := by
  by_cases hexit : m.exiting = true
  · refine ⟨0, fun fuel _ => ?_⟩
    rw [runSourceFor, runSource, if_pos hexit, if_pos hexit]
  · let length := (Cursor.start path source).rest.length
    rcases hread : Token.readAll path source with f | tokens
    · refine ⟨length + 1, fun fuel hfuel => ?_⟩
      rw [runSourceFor, runSource, if_neg hexit, if_neg hexit, Token.readFrom_start hfuel, hread]
    · obtain ⟨bound, hbound⟩ := Config.exists_runFor_of_reaches
        (Config.reaches_runFrame { m.begin with frame := { tokens := tokens } } [])
      -- The fuel has to be enough for the reading and for the run.
      refine ⟨max (length + 1) bound, fun fuel hfuel => ?_⟩
      have hlength : length < fuel := by omega
      rw [runSourceFor, runSource, if_neg hexit, if_neg hexit, Token.readFrom_start hlength, hread]
      exact hbound fuel (by omega)

/-- Running a frame, a block, a word, or a source text ends, whatever the machine. -/
theorem runs_end (m : Machine) :
    EndsWith (Config.runFor · ⟨m, .fetch, []⟩) m.runFrame ∧
    (∀ body, EndsWith (Config.runFor · ⟨m, .execute (.block {} body), []⟩)
      (m.executeTokens body)) ∧
    (∀ location spelling, EndsWith (Config.runFor · ⟨m, .execute (.word location spelling), []⟩)
      (m.execute location spelling)) ∧
    (∀ path source, EndsWith (m.runSourceFor path source) (m.runSource path source)) := by
  refine ⟨?_, ?_, ?_, ?_⟩
  · exact Config.exists_runFor_of_reaches (Config.reaches_runFrame m [])
  · intro body
    exact Config.exists_runFor_of_reaches (Config.reaches_runToken m (.block {} body) [])
  · intro location spelling
    exact Config.exists_runFor_of_reaches (Config.reaches_runToken m (.word location spelling) [])
  · exact runSource_endsWith m

end Machine

end BlockForth
