-- One step of a machine, taken apart once and for all: when it fails, and what it
-- does when it does not.
import LS8.Machine

namespace LS8

/-! ## The sink -/

/-- A write that is accepted appends its line. -/
theorem Sink.text_write_of_ok {s : Sink} {line : String} (ok : (s.write line).1 = .ok ()) :
    (s.write line).2.text = s.text ++ line := by
  obtain ⟨text, capacity⟩ := s
  cases capacity with
  | unlimited => rfl
  | limited room failure =>
    rcases Nat.lt_or_ge room line.length with overflows | fits
    · rw [write_of_overflows overflows] at ok
      cases ok
    · rw [write_of_fits fits]

/-! ## The stack of a state -/

namespace State

@[simp] theorem sp_lowered (s : State) : s.lowered.sp = s.sp - 1 :=
  Registers.get_set_same _ _ _

@[simp] theorem sp_raised (s : State) : s.raised.sp = s.sp + 1 :=
  Registers.get_set_same _ _ _

theorem following_of_width {s : State} {i : Instruction} {n : Nat} (h : i.opcode.width = n) :
    s.following i = s.pc + UInt8.ofNat n := by
  rw [following, Instruction.width, h]

theorem get_set (s : State) (r q : Register) (v : Byte) :
    (s.set r v).get q = if q = r then v else s.get q :=
  Registers.get_set _ _ _ _

theorem sp_set (s : State) (r : Register) (v : Byte) :
    (s.set r v).sp = if r = Register.sp then v else s.sp := by
  simp only [sp, get_set, eq_comm]

@[simp] theorem set_get_self (s : State) (r : Register) : s.set r (s.get r) = s := by
  have same : s.registers.set r (s.get r) = s.registers := by
    ext q
    rw [Registers.get_set]
    split
    · rename_i h
      rw [h]
      rfl
    · rfl
  simp [set, same]

/-- What keeps the stack from doing what the instruction asks of it. -/
def stackFault? (s : State) : Instruction → Option Fault
  | .ret => if s.sp = 255 then some (.stackUnderflow s.pc) else none
  | .push _ => if s.sp = 0 then some (.stackOverflow s.pc) else none
  | .pop r => if (s.set r s.top).sp = 255 then some (.stackUnderflow s.pc) else none
  | .branch .call _ => if s.sp = 0 then some (.stackOverflow s.pc) else none
  | _ => none

theorem execute_fault_iff {s : State} {i : Instruction} {f : Fault} :
    (s.execute i).1 = .fault f ↔ s.stackFault? i = some f := by
  cases i with
  | hlt | prn | ldi | alu => simp [execute, stackFault?, next]
  | ret | push | pop =>
    simp only [execute, stackFault?]
    split <;> simp [next]
  | branch op r =>
    cases op with
    | jmp | jeq | jne => simp [execute, stackFault?, next]
    | call =>
      simp only [execute, stackFault?]
      split <;> simp [next]

/-- The faults of the stack name the program counter, as those of decoding do. -/
theorem stackFault?_eq_some {s : State} {i : Instruction} {f : Fault}
    (h : s.stackFault? i = some f) : f = .stackOverflow s.pc ∨ f = .stackUnderflow s.pc := by
  cases i with
  | hlt | prn | ldi | alu => cases h
  | push =>
    simp only [stackFault?, Option.ite_none_right_eq_some] at h
    exact Or.inl (Option.some.inj h.2).symm
  | ret | pop =>
    simp only [stackFault?, Option.ite_none_right_eq_some] at h
    exact Or.inr (Option.some.inj h.2).symm
  | branch op =>
    cases op with
    | jmp | jeq | jne => cases h
    | call =>
      simp only [stackFault?, Option.ite_none_right_eq_some] at h
      exact Or.inl (Option.some.inj h.2).symm

/-- An instruction after which the machine runs on has been counted. -/
theorem clock_of_execute {s : State} {i : Instruction} (h : (s.execute i).1 = .running) :
    (s.execute i).2.clock = s.clock + 1 ∧ (s.execute i).2.halted = s.halted := by
  cases i with
  | hlt => cases h
  | prn | ldi | alu => exact ⟨rfl, rfl⟩
  | ret | push | pop =>
    simp only [execute] at h ⊢
    split
    · rename_i full
      simp [full] at h
    · exact ⟨rfl, rfl⟩
  | branch op =>
    cases op with
    | jmp | jeq | jne => exact ⟨rfl, rfl⟩
    | call =>
      simp only [execute] at h ⊢
      split
      · rename_i full
        simp [full] at h
      · exact ⟨rfl, rfl⟩

end State

namespace Machine

variable {m : Machine} {i : Instruction} {f : Fault}

/-! ## Fetching -/

theorem fetch_eq_ok_iff : m.fetch = .ok i ↔
    m.reachedLimit? = none ∧ Instruction.decode m.state.memory m.state.pc = .ok i := by
  unfold fetch
  split
  · rename_i h
    simp [h]
  · rename_i h
    simp [h]

/-- The instruction that the next step executes, if it comes to that. -/
def executed? (m : Machine) : Option Instruction :=
  if m.state.halted then none else m.fetch.toOption

theorem executed?_eq_some_iff :
    m.executed? = some i ↔ m.state.halted = false ∧ m.fetch = .ok i := by
  unfold executed?
  cases m.state.halted <;> cases m.fetch <;> simp [Except.toOption]

/-! ## Performing -/

/-- Why the sink refuses the line of the instruction, if there is a line and it does. -/
def refusal? (m : Machine) (i : Instruction) : Option SinkFailure :=
  match m.state.line? i with
  | none => none
  | some line =>
    match (m.sink.write line).1 with
    | .error failure => some failure
    | .ok _ => none

theorem perform_of_line {line : String} (h : m.state.line? i = some line) :
    m.perform i = match (m.sink.write line).1 with
      | .error failure => (.fault (.output failure), { m with sink := (m.sink.write line).2 })
      | .ok _ => withState { m with sink := (m.sink.write line).2 } (m.state.execute i) := by
  simp only [perform, h]
  rcases m.sink.write line with ⟨answer, sink⟩
  cases answer <;> rfl

theorem perform_of_refusal {failure : SinkFailure} (h : m.refusal? i = some failure) :
    ∃ line, m.state.line? i = some line ∧ (m.sink.write line).1 = .error failure ∧
      m.perform i = (.fault (.output failure), { m with sink := (m.sink.write line).2 }) := by
  unfold refusal? at h
  split at h
  · cases h
  · rename_i line hline
    split at h
    · rename_i e he
      cases h
      refine ⟨line, hline, he, ?_⟩
      rw [perform_of_line hline, he]
    · cases h

/-- Without a refusal, the instruction's line is in the sink and its work is done on the state. -/
theorem perform_of_no_refusal (h : m.refusal? i = none) :
    ∃ sink : Sink, sink.text = m.sink.text ++ (m.state.line? i).getD "" ∧
      m.perform i = withState { m with sink := sink } (m.state.execute i) := by
  cases hline : m.state.line? i with
  | none => exact ⟨m.sink, by simp, by simp [perform, hline]⟩
  | some line =>
    have ok : (m.sink.write line).1 = .ok () := by
      simp only [refusal?, hline] at h
      split at h
      · cases h
      · assumption
    refine ⟨(m.sink.write line).2, Sink.text_write_of_ok ok, ?_⟩
    rw [perform_of_line hline, ok]

/-- A sink without a bound takes every line. -/
theorem perform_of_unlimited (open_sink : m.sink.capacity = .unlimited) (i : Instruction) :
    m.perform i = withState
      { m with sink := ⟨m.sink.text ++ (m.state.line? i).getD "", .unlimited⟩ }
      (m.state.execute i) := by
  obtain ⟨state, ⟨text, capacity⟩, limit⟩ := m
  cases open_sink
  cases hline : state.line? i with
  | none => simp [perform, withState, hline]
  | some line => simp [perform, hline, Sink.write_unlimited]

/-- Only a print and a halt write, and neither of them uses the stack. -/
theorem stackFault?_of_refusal {failure : SinkFailure} (h : m.refusal? i = some failure) :
    m.state.stackFault? i = none := by
  obtain ⟨line, hline, _⟩ := perform_of_refusal h
  cases i with
  | hlt | prn => rfl
  | _ => simp [State.line?] at hline

/-! ## One step -/

/-- The three things that a step can come to. -/
theorem step_cases (m : Machine) :
    (m.state.halted = true ∧ m.step = (.halted, m)) ∨
    (m.state.halted = false ∧ ∃ f, m.fetch = .error f ∧ m.step = (.fault f, m)) ∨
    (∃ i, m.executed? = some i ∧ m.step = m.perform i) := by
  cases halted : m.state.halted with
  | true => exact Or.inl ⟨rfl, step_of_halted halted⟩
  | false =>
    cases fetched : m.fetch with
    | error f => exact Or.inr (Or.inl ⟨rfl, f, rfl, step_of_fetch_error halted fetched⟩)
    | ok i =>
      refine Or.inr (Or.inr ⟨i, ?_, step_of_fetch_ok halted fetched⟩)
      exact executed?_eq_some_iff.mpr ⟨halted, fetched⟩

/-- A machine that is about to do the same as another one comes out of the step as the other one
does, changed as it was before, if it comes out of each instruction so. -/
theorem step_of_change {m' : Machine} (change : Machine → Machine)
    (halted : m'.state.halted = m.state.halted)
    (fetched : m.state.halted = false → m'.fetch = m.fetch)
    (idle : m.executed? = none → m' = change m)
    (performed : ∀ i, m.executed? = some i →
      m'.perform i = ((m.perform i).1, change (m.perform i).2)) :
    m'.step = (m.step.1, change m.step.2) := by
  rcases m.step_cases with ⟨stopped, step⟩ | ⟨awake, f, error, step⟩ | ⟨i, run, step⟩
  · rw [step, step_of_halted (halted.trans stopped), idle (by simp [executed?, stopped])]
  · have nothing : m.executed? = none := by simp [executed?, awake, error, Except.toOption]
    rw [step, step_of_fetch_error (halted.trans awake) ((fetched awake).trans error), idle nothing]
  · obtain ⟨awake, ok⟩ := executed?_eq_some_iff.mp run
    rw [step, step_of_fetch_ok (halted.trans awake) ((fetched awake).trans ok)]
    exact performed i run

/-- A step fails for want of an instruction, for want of room on the stack, or because the sink
refuses. -/
theorem step_fault_iff : m.step.1 = .fault f ↔ m.state.halted = false ∧
    (m.fetch = .error f ∨ ∃ i, m.fetch = .ok i ∧
      (m.state.stackFault? i = some f ∨ ∃ e, m.refusal? i = some e ∧ f = .output e)) := by
  rcases m.step_cases with ⟨halted, step⟩ | ⟨halted, g, fetched, step⟩ | ⟨i, run, step⟩
  · simp [step, halted]
  · simp [step, halted, fetched]
  · obtain ⟨halted, fetched⟩ := executed?_eq_some_iff.mp run
    simp only [step, halted, fetched, true_and, reduceCtorEq, false_or, Except.ok.injEq,
      exists_eq_left']
    cases refused : m.refusal? i with
    | some e =>
      obtain ⟨line, _, _, performed⟩ := perform_of_refusal refused
      simp [performed, stackFault?_of_refusal refused, eq_comm]
    | none =>
      obtain ⟨sink, _, performed⟩ := perform_of_no_refusal refused
      simp [performed, withState, State.execute_fault_iff]

/-- A step that executes an instruction and does not fail does the instruction's work on the state
and appends its line to the sink. -/
theorem step_of_executed (run : m.executed? = some i) (fine : ∀ f, m.step.1 ≠ .fault f) :
    m.state.stackFault? i = none ∧
      ∃ sink : Sink, sink.text = m.sink.text ++ (m.state.line? i).getD "" ∧
        m.step = withState { m with sink := sink } (m.state.execute i) := by
  obtain ⟨halted, fetched⟩ := executed?_eq_some_iff.mp run
  have no_fault : ∀ g, m.state.stackFault? i ≠ some g := fun g bad =>
    fine g (step_fault_iff.mpr ⟨halted, Or.inr ⟨i, fetched, Or.inl bad⟩⟩)
  have no_refusal : ∀ e, m.refusal? i ≠ some e := fun e bad =>
    fine _ (step_fault_iff.mpr ⟨halted, Or.inr ⟨i, fetched, Or.inr ⟨e, bad, rfl⟩⟩⟩)
  refine ⟨Option.eq_none_iff_forall_ne_some.mpr no_fault, ?_⟩
  rw [step_of_fetch_ok halted fetched]
  exact perform_of_no_refusal (Option.eq_none_iff_forall_ne_some.mpr no_refusal)

end Machine

end LS8
