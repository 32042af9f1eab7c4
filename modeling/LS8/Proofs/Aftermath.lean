-- What a fault leaves behind: the machine as it was, but for a register that a
-- pop has filled. So the next step ends in the same way, with one exception.
import LS8.Proofs.Stepping

namespace LS8

/-! ## A full sink -/

/-- A sink that has refused a line is full, and refuses it again. -/
theorem Sink.write_of_refused {s : Sink} {line : String} {failure : SinkFailure}
    (refused : (s.write line).1 = .error failure) (some_text : 0 < line.length) :
    (s.write line).2.write line = (.error failure, (s.write line).2) := by
  obtain ⟨text, capacity⟩ := s
  cases capacity with
  | unlimited => cases refused
  | limited room reason =>
    rcases Nat.lt_or_ge room line.length with overflows | fits
    · rw [write_of_overflows overflows] at refused ⊢
      cases refused
      rw [write_of_overflows some_text]
      simp
    · rw [write_of_fits fits] at refused
      cases refused

theorem State.length_line_pos {s : State} {i : Instruction} {line : String}
    (h : s.line? i = some line) : 0 < line.length := by
  cases i with
  | hlt =>
    cases h
    decide
  | prn r =>
    cases h
    rw [String.length_append]
    exact Nat.lt_of_lt_of_le (by decide) (Nat.le_add_left 1 _)
  | _ => cases h

/-! ## A fault of the stack -/

namespace State

theorem set_set (s : State) (r : Register) (v w : Byte) : (s.set r v).set r w = s.set r w := by
  have same : (s.registers.set r v).set r w = s.registers.set r w := by
    ext q
    simp only [Registers.get_set]
    split <;> rfl
  simp [set, same]

/-- Two moves of the stack pointer in a row come to one. -/
theorem raised_set_sp (s : State) (v : Byte) :
    (s.set Register.sp v).raised = s.set Register.sp (v + 1) := by
  rw [raised, set_set, sp_set, if_pos rfl]

theorem line?_of_stackFault {s : State} {i : Instruction} {f : Fault}
    (h : s.stackFault? i = some f) : s.line? i = none := by
  cases i with
  | hlt | prn => cases h
  | _ => rfl

/-- Of the instructions that the stack can stop, only a pop has done something by then. -/
theorem execute_of_stackFault {s : State} {i : Instruction} {f : Fault}
    (h : s.stackFault? i = some f) :
    (∃ r, i = .pop r ∧ f = .stackUnderflow s.pc ∧ (s.set r s.top).sp = 255 ∧
      s.execute i = (.fault f, s.set r s.top)) ∨
    ((∀ r, i ≠ .pop r) ∧ s.execute i = (.fault f, s)) := by
  cases i with
  | hlt | prn | ldi | alu => cases h
  | pop r =>
    simp only [stackFault?] at h
    split at h
    · rename_i full
      cases h
      exact Or.inl ⟨r, rfl, rfl, full, by simp [execute, full]⟩
    · cases h
  | ret | push r =>
    simp only [stackFault?] at h
    split at h
    · rename_i full
      cases h
      exact Or.inr ⟨by simp, by simp [execute, full]⟩
    · cases h
  | branch op r =>
    cases op with
    | jmp | jeq | jne => cases h
    | call =>
      simp only [stackFault?] at h
      split at h
      · rename_i full
        cases h
        exact Or.inr ⟨by simp, by simp [execute, full]⟩
      · cases h

end State

namespace Machine

variable {m last : Machine} {f : Fault}

/-- The fault is that of a pop into the register. -/
def FailedPop (m : Machine) (f : Fault) (r : Register) : Prop :=
  f = .stackUnderflow m.state.pc ∧ m.fetch = .ok (.pop r)

/-- The machine that a fault leaves behind is the same but for the sink, if the sink refused, and
but for the register of a pop. -/
theorem left_by_fault (h : m.step = (.fault f, last)) :
    (last = m ∧ ∀ r, ¬m.FailedPop f r) ∨
    (∃ i line e, m.executed? = some i ∧ f = .output e ∧ m.state.line? i = some line ∧
      (m.sink.write line).1 = .error e ∧ last = { m with sink := (m.sink.write line).2 }) ∨
    (∃ r, m.executed? = some (.pop r) ∧ f = .stackUnderflow m.state.pc ∧
      (m.state.set r m.state.top).sp = 255 ∧
      last = { m with state := m.state.set r m.state.top }) := by
  rcases m.step_cases with ⟨-, step⟩ | ⟨-, g, fetched, step⟩ | ⟨i, run, step⟩
  · rw [step] at h
    cases h
  · rw [step] at h
    cases h
    exact Or.inl ⟨rfl, fun r bad => by rw [FailedPop, fetched] at bad; cases bad.2⟩
  · obtain ⟨-, fetched⟩ := executed?_eq_some_iff.mp run
    rw [step] at h
    cases refused : m.refusal? i with
    | some e =>
      obtain ⟨line, hline, error, performed⟩ := perform_of_refusal refused
      rw [performed] at h
      cases h
      exact Or.inr (Or.inl ⟨i, line, e, run, rfl, hline, error, rfl⟩)
    | none =>
      have fault : m.state.stackFault? i = some f := by
        obtain ⟨sink, -, performed⟩ := perform_of_no_refusal refused
        rw [performed] at h
        exact State.execute_fault_iff.mp (congrArg Prod.fst h)
      have performed : m.perform i = m.withState (m.state.execute i) := by
        simp [perform, State.line?_of_stackFault fault]
      rw [performed] at h
      rcases State.execute_of_stackFault fault with ⟨r, rfl, rfl, full, done⟩ | ⟨no_pop, done⟩
      · rw [done] at h
        cases h
        exact Or.inr (Or.inr ⟨r, run, rfl, full, rfl⟩)
      · rw [done] at h
        cases h
        refine Or.inl ⟨rfl, fun r bad => no_pop r ?_⟩
        rw [FailedPop, fetched] at bad
        exact Except.ok.inj bad.2

/-! ## The step repeated -/

/-- The instruction that was stopped is the next one still. -/
theorem executed?_of_same {m' : Machine} (pc : m'.state.pc = m.state.pc)
    (clock : m'.state.clock = m.state.clock) (halted : m'.state.halted = m.state.halted)
    (memory : m'.state.memory = m.state.memory) (limit : m'.limit = m.limit) :
    m'.executed? = m.executed? := by
  simp [executed?, fetch, reachedLimit?, pc, clock, halted, memory, limit]

theorem step_of_refused {i : Instruction} {line : String} {e : SinkFailure}
    (run : m.executed? = some i) (hline : m.state.line? i = some line)
    (refused : (m.sink.write line).1 = .error e) :
    m.step = (.fault (.output e), { m with sink := (m.sink.write line).2 }) := by
  obtain ⟨halted, fetched⟩ := executed?_eq_some_iff.mp run
  rw [step_of_fetch_ok halted fetched, perform_of_line hline, refused]

/-- A line that has been refused is refused again, and leaves no more of itself in the sink. -/
theorem step_after_refusal {i : Instruction} {line : String} {e : SinkFailure}
    (run : m.executed? = some i) (hline : m.state.line? i = some line)
    (refused : (m.sink.write line).1 = .error e) :
    step { m with sink := (m.sink.write line).2 } =
      (.fault (.output e), { m with sink := (m.sink.write line).2 }) := by
  have full := Sink.write_of_refused refused (State.length_line_pos hline)
  have same : executed? { m with sink := (m.sink.write line).2 } = some i := by
    rw [← run]
    exact executed?_of_same rfl rfl rfl rfl rfl
  rw [step_of_refused same hline (congrArg Prod.fst full)]
  simp [full]

theorem step_of_pop {r : Register} (run : m.executed? = some (.pop r)) :
    m.step = m.withState (m.state.execute (.pop r)) := by
  obtain ⟨halted, fetched⟩ := executed?_eq_some_iff.mp run
  rw [step_of_fetch_ok halted fetched]
  rfl

/-- A pop that the stack has stopped finds its register filled the next time, and the pointer at
the last cell. -/
theorem step_after_failed_pop {r : Register} (run : m.executed? = some (.pop r))
    (full : (m.state.set r m.state.top).sp = 255) :
    step { m with state := m.state.set r m.state.top } = m.withState
      (let popped := m.state.set r (m.state.memory.read 255)
      if popped.sp = 255 then (.fault (.stackUnderflow m.state.pc), popped)
      else popped.raised.next (m.state.pc + 2)) := by
  have same : executed? { m with state := m.state.set r m.state.top } = some (.pop r) := by
    rw [← run]
    exact executed?_of_same rfl rfl rfl rfl rfl
  rw [step_of_pop same]
  have top : (m.state.set r m.state.top).top = m.state.memory.read 255 := by
    rw [State.top, full]
    rfl
  have next : (m.state.set r m.state.top).following (.pop r) = m.state.pc + 2 :=
    State.following_of_width Opcode.width_pop
  simp only [State.execute, top, State.set_set, next]
  rfl

/-- A fault changes no cell of memory, no flag, neither the clock nor the program counter, and no
register but that of a pop, which has the popped byte. The step repeated fails with the same fault
and changes nothing at all, not even the sink. Only a pop into the stack pointer goes on
differently: it has read 255, so the next one reads the last cell. -/
theorem a_fault_stays (h : m.step = (.fault f, last)) :
    (last.state.pc = m.state.pc ∧ last.state.clock = m.state.clock ∧
      last.state.flags = m.state.flags ∧ last.state.halted = m.state.halted ∧
      last.state.memory = m.state.memory ∧ last.limit = m.limit) ∧
    (∀ q, m.FailedPop f q → last.state.get q = m.state.memory.read m.state.sp) ∧
    (∀ q, ¬m.FailedPop f q → last.state.get q = m.state.get q) ∧
    (¬m.FailedPop f Register.sp → last.step = (.fault f, last)) ∧
    (m.FailedPop f Register.sp → m.state.memory.read m.state.sp = 255 ∧
      (m.state.memory.read 255 = 255 → last.step = (.fault f, last)) ∧
      (m.state.memory.read 255 ≠ 255 → last.step = (.running, { last with state :=
        { m.state with
          pc := m.state.pc + 2
          clock := m.state.clock + 1
          registers := m.state.registers.set Register.sp (m.state.memory.read 255 + 1) } }))) := by
  rcases left_by_fault h with ⟨rfl, no_pop⟩ | ⟨i, line, e, run, rfl, hline, refused, rfl⟩ |
    ⟨r, run, rfl, full, rfl⟩
  · exact ⟨⟨rfl, rfl, rfl, rfl, rfl, rfl⟩, fun q bad => absurd bad (no_pop q), fun _ _ => rfl,
      fun _ => h, fun bad => absurd bad (no_pop _)⟩
  · have no_pop : ∀ r, ¬m.FailedPop (.output e) r := fun r bad => by cases bad.1
    exact ⟨⟨rfl, rfl, rfl, rfl, rfl, rfl⟩, fun q bad => absurd bad (no_pop q), fun _ _ => rfl,
      fun _ => step_after_refusal run hline refused, fun bad => absurd bad (no_pop _)⟩
  · obtain ⟨-, fetched⟩ := executed?_eq_some_iff.mp run
    have only : ∀ q, m.FailedPop (.stackUnderflow m.state.pc) q ↔ q = r := by
      intro q
      simp [FailedPop, fetched, eq_comm]
    have same_pointer : r ≠ Register.sp → m.state.sp = 255 := by
      intro other
      rwa [State.sp_set, if_neg other] at full
    refine ⟨⟨rfl, rfl, rfl, rfl, rfl, rfl⟩, ?_, ?_, ?_, ?_⟩
    · intro q failed
      rw [(only q).mp failed]
      exact Registers.get_set_same _ _ _
    · intro q other
      exact Registers.get_set_other (fun same => other ((only q).mpr same)) _ _
    · intro other
      have pointer := same_pointer fun same => other ((only _).mpr same.symm)
      have top : m.state.top = m.state.memory.read 255 := by rw [State.top, pointer]
      have again := step_after_failed_pop run full
      rw [top] at full again ⊢
      simp only [if_pos full] at again
      exact again
    · intro failed
      obtain rfl := (only _).mp failed
      have again := step_after_failed_pop run full
      rw [State.sp_set, if_pos rfl] at full
      simp only [State.sp_set, if_pos] at again
      refine ⟨full, fun last_cell => ?_, fun other_cell => ?_⟩
      · rw [if_pos last_cell, last_cell] at again
        rw [full] at again ⊢
        exact again
      · rw [if_neg other_cell, State.raised_set_sp] at again
        exact again

/-- Here the pop reads 255 at address 2. The next one reads 0 in the last cell, and goes on. -/
theorem a_failed_pop_into_the_stack_pointer_goes_on :
    ∃ m last : Machine, m.step = (.fault (.stackUnderflow 0), last) ∧
      m.FailedPop (.stackUnderflow 0) Register.sp ∧ m.state.memory.read 255 ≠ 255 ∧
      last.state.sp = 255 ∧ last.step.1 = .running ∧ last.step.2.state.sp = 1 := by
  let m : Machine := ⟨(State.start ⟨[70, 7, 255], by decide⟩).set Register.sp 2, {}, none⟩
  have fault : m.step.1 = .fault (.stackUnderflow 0) := by decide +kernel
  have run : m.executed? = some (.pop Register.sp) := by decide +kernel
  have failed : m.FailedPop (.stackUnderflow 0) Register.sp :=
    ⟨rfl, (executed?_eq_some_iff.mp run).2⟩
  have last_cell : m.state.memory.read 255 = 0 := by
    simp [m, State.set, State.start, Program.memory, Memory.read_ofImage]
  have other : m.state.memory.read 255 ≠ 255 := by simp [last_cell]
  have h : m.step = (.fault (.stackUnderflow 0), m.step.2) := by rw [← fault]
  obtain ⟨-, filled, -, -, again⟩ := a_fault_stays h
  obtain ⟨top, -, goes_on⟩ := again failed
  have next := goes_on other
  rw [last_cell] at next
  refine ⟨m, m.step.2, h, failed, other, (filled _ failed).trans top, by rw [next], ?_⟩
  rw [next]
  exact Registers.get_set_same _ _ _

end Machine

end LS8
