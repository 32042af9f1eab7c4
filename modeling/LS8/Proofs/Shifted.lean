-- What a machine does not look at: the text that it has written, and its clock but for how
-- far it is from the limit. A run that begins later, behind more text, is the same run.
import LS8.Proofs.Running

namespace LS8

/-! ## A later clock and an earlier text -/

def Fault.later (d : Nat) : Fault → Fault
  | .outOfCycles n => .outOfCycles (n + d)
  | f => f

def Progress.later (d : Nat) : Progress → Progress
  | .fault f => .fault (f.later d)
  | answer => answer

/-- The sink, with more text in front. -/
def Sink.behind (said : String) (s : Sink) : Sink := { s with text := said ++ s.text }

theorem Sink.write_behind (said line : String) (s : Sink) :
    (s.behind said).write line = ((s.write line).1, (s.write line).2.behind said) := by
  obtain ⟨text, capacity⟩ := s
  cases capacity with
  | unlimited => simp [behind, write, String.append_assoc]
  | limited room failure =>
    simp only [behind, write]
    split <;> simp [String.append_assoc]

/-! ## Instructions -/

namespace State

/-- The state with its clock `d` later. -/
def later (d : Nat) (s : State) : State := { s with clock := s.clock + d }

theorem next_later (d : Nat) (s : State) (target : Byte) :
    (s.later d).next target = ((s.next target).1.later d, (s.next target).2.later d) := by
  have add : s.clock + d + 1 = s.clock + 1 + d := Nat.add_right_comm _ _ _
  simp [next, later, Progress.later, add]

theorem execute_later (d : Nat) (s : State) (i : Instruction) :
    (s.later d).execute i = ((s.execute i).1.later d, (s.execute i).2.later d) := by
  have pointer : (s.later d).sp = s.sp := rfl
  cases i with
  | hlt =>
    have add : s.clock + d + 1 = s.clock + 1 + d := Nat.add_right_comm _ _ _
    simp [execute, later, Progress.later, add]
  | prn r => exact next_later d s _
  | ldi r v => exact next_later d (s.set r v) _
  | alu op a b =>
    exact next_later d { s.set a (op.value (s.get a) (s.get b)) with
      flags := (op.flags? (s.get a) (s.get b)).getD s.flags } _
  | ret =>
    simp only [execute, pointer]
    split
    · rfl
    · exact next_later d s.raised _
  | push r =>
    simp only [execute, pointer]
    split
    · rfl
    · exact next_later d (s.lowered.setTop (s.lowered.get r)) _
  | pop r =>
    have popped : ((s.later d).set r (s.later d).top).sp = (s.set r s.top).sp := rfl
    simp only [execute, popped]
    split
    · rfl
    · exact next_later d (s.set r s.top).raised _
  | branch op r =>
    cases op with
    | jmp | jeq | jne => exact next_later d s _
    | call =>
      simp only [execute, pointer]
      split
      · rfl
      · exact next_later d (s.lowered.setTop (s.following (.branch .call r))) _

end State

namespace Machine

/-- The machine with its clock and its limit `d` later, and with more text in front of what it
has written. -/
def shifted (d : Nat) (said : String) (m : Machine) : Machine where
  state := m.state.later d
  sink := m.sink.behind said
  limit := m.limit.map (· + d)

variable {d k : Nat} {said : String} {m t : Machine} {i : Instruction} {f : Fault}

theorem later_of_decode {memory : Memory} {pc : Byte}
    (h : Instruction.decode memory pc = .error f) : f.later d = f := by
  rcases Instruction.decode_eq_error h with rfl | ⟨_, rfl⟩ | ⟨_, rfl⟩ <;> rfl

theorem reachedLimit?_shifted : (m.shifted d said).reachedLimit? = m.reachedLimit?.map (· + d) := by
  unfold reachedLimit? shifted
  cases m.limit with
  | none => rfl
  | some n =>
    have same : n + d ≤ m.state.clock + d ↔ n ≤ m.state.clock := Nat.add_le_add_iff_right
    simp only [Option.map_some, State.later, same]
    split <;> rfl

theorem fetch_shifted_of_error (h : m.fetch = .error f) :
    (m.shifted d said).fetch = .error (f.later d) := by
  unfold fetch at h ⊢
  rw [reachedLimit?_shifted]
  cases reached : m.reachedLimit? with
  | some n =>
    simp only [reached, Except.error.injEq] at h
    subst h
    rfl
  | none =>
    simp only [reached] at h
    rw [later_of_decode h]
    exact h

theorem fetch_shifted_of_ok (h : m.fetch = .ok i) : (m.shifted d said).fetch = .ok i := by
  obtain ⟨below, decoded⟩ := fetch_eq_ok_iff.mp h
  exact fetch_eq_ok_iff.mpr ⟨by rw [reachedLimit?_shifted, below]; rfl, decoded⟩

theorem perform_shifted : (m.shifted d said).perform i =
    ((m.perform i).1.later d, (m.perform i).2.shifted d said) := by
  have line : (m.shifted d said).state.line? i = m.state.line? i := by cases i <;> rfl
  have executed : (m.shifted d said).state.execute i =
      ((m.state.execute i).1.later d, (m.state.execute i).2.later d) := State.execute_later d _ i
  cases h : m.state.line? i with
  | none =>
    simp only [perform, line, h, withState, executed]
    rfl
  | some text =>
    have written : (m.shifted d said).sink.write text =
        ((m.sink.write text).1, (m.sink.write text).2.behind said) := Sink.write_behind _ _ _
    rw [perform_of_line h, perform_of_line (line.trans h), written, executed]
    cases (m.sink.write text).1 <;> rfl

/-- A step of the shifted machine is the step, shifted. -/
theorem step_shifted (d : Nat) (said : String) (m : Machine) :
    (m.shifted d said).step = (m.step.1.later d, m.step.2.shifted d said) := by
  cases halted : m.state.halted with
  | true =>
    have also : (m.shifted d said).state.halted = true := halted
    rw [step_of_halted halted, step_of_halted also]
    rfl
  | false =>
    have also : (m.shifted d said).state.halted = false := halted
    cases fetched : m.fetch with
    | error f =>
      rw [step_of_fetch_error halted fetched,
        step_of_fetch_error also (fetch_shifted_of_error fetched)]
      rfl
    | ok i =>
      rw [step_of_fetch_ok halted fetched, step_of_fetch_ok also (fetch_shifted_of_ok fetched)]
      exact perform_shifted

theorem later_eq_running {answer : Progress} : answer.later d = .running ↔ answer = .running := by
  cases answer <;> simp [Progress.later]

theorem advance_shifted (d : Nat) (said : String) (k : Nat) (m : Machine) :
    advance k (m.shifted d said) = ((advance k m).1.later d, (advance k m).2.shifted d said) := by
  induction k generalizing m with
  | zero => rfl
  | succ k ih =>
    rcases hm : m.step with ⟨answer, next⟩
    have shifted := step_shifted d said m
    rw [hm] at shifted
    by_cases running : answer = .running
    · subst running
      rw [advance_of_running hm, advance_of_running shifted, ih]
    · rw [advance_of_ended hm running,
        advance_of_ended shifted fun same => running (later_eq_running.mp same)]

end Machine

end LS8
