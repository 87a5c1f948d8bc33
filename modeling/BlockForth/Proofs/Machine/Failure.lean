import BlockForth.Proofs.Machine.Definitions
import BlockForth.Proofs.Machine.WordEffect

/-!
# A word that fails changes nothing

A fault ends the handler of a word where it is, and undoes nothing that the handler has done. But a
handler reads all that it needs and computes its result before it changes the machine, which is what
`perform_eq_performAtOnce` comes down to. So if a word fails, then its operands are still on the
stack, and nothing is written, stored, or ended. `perform_of_fault` says so for every word. The one
exception is `:`, which reads on in its frame and stays at the token that shows that the definition
is malformed.

That token comes after the `:`, unless the position of the frame is the greatest one that there is.
Zero is next to that position, so a `:` that is run from there reads the frame from its start, and
the position gets smaller (`position_perform_define_wraps`). No run of a frame gets there, since it
ends after the last token, but the position can be set from outside.
-/

namespace BlockForth

namespace Machine

/-- Every word but `:` leaves the whole machine as it was. -/
theorem perform_machine_of_fault {m : Machine} {w : Builtin} (hw : w ≠ .define)
    (h : (m.perform w).fault ≠ none) : (m.perform w).machine = m := by
  obtain ⟨e, s, heffect, -⟩ := exists_wordEffect (m := m) rfl rfl w hw fun _ => rfl
  rw [heffect] at h ⊢
  cases e with
  | raise cause => rfl
  | fail cause => rfl
  | finish text flow ends => exact absurd rfl h

/-- A `:` that fails changes the position at most, and then to one of the tokens from the next one
on. -/
theorem define_of_fault {m : Machine} (h : m.define.fault ≠ none) :
    ∃ p, m.define.machine = m.moveTo p ∧
      (p = m.frame.position ∨ m.frame.next ≤ p ∧ p < m.frame.tokens.length) := by
  rw [define_eq] at h ⊢
  unfold defineAtOnce at h ⊢
  dsimp only at h ⊢
  rcases hrest : m.frame.tokens.drop m.frame.next with _ | ⟨t, rest⟩
  · exact ⟨m.frame.position, rfl, .inl rfl⟩
  · have hlength := Frame.length_of_ahead hrest
    rw [hrest] at h
    dsimp only at h ⊢
    split
    · -- The token after the `:` is no name.
      exact ⟨m.frame.next, rfl, .inr ⟨Nat.le_refl _, by omega⟩⟩
    · rename_i name hname
      rw [hname] at h
      dsimp only at h
      split
      · rename_i hclosed
        rw [if_pos hclosed] at h
        exact absurd rfl h
      · -- There is no `;`, and the frame stays at its last token.
        exact ⟨m.frame.next + rest.length, rfl, .inr ⟨Nat.le_add_right _ _, by omega⟩⟩

/-- Unless the position is the greatest one, the positions from the next one on are greater. -/
theorem position_le_of_next {f : Frame} {p : Nat} (hroom : f.position + 1 < UInt64.size)
    (hp : f.next ≤ p) : f.position ≤ p := by
  have hnext : f.next = f.position + 1 := by
    unfold Frame.next
    rw [Nat.mod_eq_of_lt hroom, ite_self]
  omega

/-- A built-in word that fails leaves the machine as it was, but for the position of the frame if
the word is `:`. The position is then the one before or that of a token from the next one on, and
not smaller than before if there is a greater one. -/
theorem perform_of_fault (m : Machine) (w : Builtin) (h : (m.perform w).fault ≠ none) :
    ∃ p, (m.perform w).machine = m.moveTo p ∧ (w ≠ .define → p = m.frame.position) ∧
      (p = m.frame.position ∨ m.frame.next ≤ p ∧ p < m.frame.tokens.length) ∧
      (m.frame.position + 1 < UInt64.size → m.frame.position ≤ p) := by
  by_cases hw : w = .define
  · subst hw
    obtain ⟨p, hmachine, hp⟩ := define_of_fault h
    refine ⟨p, hmachine, fun hne => absurd rfl hne, hp, fun hroom => ?_⟩
    rcases hp with rfl | ⟨hnext, -⟩
    · exact Nat.le_refl _
    · exact position_le_of_next hroom hnext
  · exact ⟨m.frame.position, perform_machine_of_fault hw h, fun _ => rfl, .inl rfl,
      fun _ => Nat.le_refl _⟩

/-- A machine at a `:` whose definition is not closed, with a text on an integer on the stack. -/
def unclosed : Machine where
  stack := (Stack.empty.push (.int 7)).push (.string "ab")
  output := "so far"
  frame := {
    tokens := [.word {} ":", .word {} "name", .literal {} (.int 1)]
    flow := { lastIf := true, repeats := 3 } }

/-- The `:` stays at the last token, and a `/mod` of the integer by the text leaves both of them. -/
theorem perform_of_fault_unclosed :
    (unclosed.perform .define).fault ≠ none ∧ (unclosed.perform .divMod).fault ≠ none ∧
      (unclosed.perform .define).machine = unclosed.moveTo 2 ∧
      (unclosed.perform .divMod).machine = unclosed := by
  have hdefine : (unclosed.perform .define).fault ≠ none := Option.some_ne_none _
  have hdivMod : (unclosed.perform .divMod).fault ≠ none := Option.some_ne_none _
  obtain ⟨p, hmoved, -, -, -⟩ := perform_of_fault unclosed .define hdefine
  obtain ⟨q, hkept, hq, -, -⟩ := perform_of_fault unclosed .divMod hdivMod
  have hp : p = 2 := (congrArg (·.frame.position) hmoved).symm
  rw [hp] at hmoved
  rw [hq (by decide)] at hkept
  exact ⟨hdefine, hdivMod, hmoved, hkept⟩

/-- A machine at the greatest position, far behind its tokens. -/
def farBehind : Machine where
  frame := {
    tokens := [.literal {} (.int 1), .literal {} (.int 2), .literal {} (.int 3)]
    position := UInt64.size - 1 }

/-- A `:` that is run from the greatest position fails at the first token, which is before it. -/
theorem position_perform_define_wraps :
    (farBehind.perform .define).fault ≠ none ∧
      (farBehind.perform .define).machine.frame.position < farBehind.frame.position := by
  have hnext : farBehind.frame.next = 0 := by decide
  have hdefine : farBehind.perform .define =
      (farBehind.moveTo 0).fail (.invalidName (Token.literal {} (.int 1)).text) := by
    show farBehind.define = _
    rw [define_eq, defineAtOnce, hnext]
    rfl
  rw [hdefine]
  exact ⟨Option.some_ne_none _, by decide⟩

end Machine

end BlockForth
