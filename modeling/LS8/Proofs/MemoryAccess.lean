-- What a step reads in memory and what it writes there. It reads the opcode and its operands,
-- up to the first one that is out of place, and a pop or a return reads the top of the stack.
-- It writes at most one cell, in front of the stack. The rest of the memory plays no part.
import LS8.Proofs.StackDiscipline

namespace LS8

/-! ## Reading an instruction -/

/-- Whether the operand with this number, counted from 1, names a register. -/
def Opcode.namesRegister (o : Opcode) (number : Nat) : Bool := !(o == .ldi && number == 2)

namespace Instruction

/-- Decoding at `pc` reads the cell. Of the operands that the opcode asks for, it reads those before
the end of memory and behind no operand that is out of place. -/
def Reads (memory : Memory) (pc a : Byte) : Prop :=
  a = pc ∨ ∃ o ∈ Opcode.ofByte? (memory.read pc), ∃ k ∈ List.range' 1 o.operands,
    a = pc + UInt8.ofNat k ∧ pc.toNat + k < 256 ∧
      ∀ j ∈ List.range' 1 (k - 1), operandFault? memory pc j (o.namesRegister j) = none

instance (memory : Memory) (pc a : Byte) : Decidable (Reads memory pc a) :=
  inferInstanceAs (Decidable (_ ∨ _))

variable {memory other : Memory} {pc : Byte} {o : Opcode} {k : Nat}

theorem operand_congr (agree : ∀ a, Reads memory pc a → other.read a = memory.read a)
    (known : Opcode.ofByte? (memory.read pc) = some o) (asked : k < o.operands)
    (before : ∀ j ∈ List.range' 1 k, operandFault? memory pc j (o.namesRegister j) = none) :
    (operandsAt other pc).byte k = (operandsAt memory pc).byte k := by
  by_cases inside : pc.toNat + (k + 1) < 256
  · have read : Reads memory pc (pc + UInt8.ofNat (k + 1)) := by
      refine Or.inr ⟨o, known, k + 1, ?_, rfl, inside, before⟩
      rw [List.mem_range'_1]
      omega
    simp only [operandsAt, operandAt_of_lt inside, agree _ read]
  · simp only [operandsAt, operandAt_of_le (Nat.le_of_not_lt inside)]

theorem register_congr (same : (operandsAt other pc).byte k = (operandsAt memory pc).byte k) :
    (operandsAt other pc).register k = (operandsAt memory pc).register k := by
  unfold Operands.register
  rw [same]
  rfl

/-- Memories that agree on the cells that decoding reads hold the same instruction there, or none
for the same reason. -/
theorem decode_congr (agree : ∀ a, Reads memory pc a → other.read a = memory.read a) :
    decode other pc = decode memory pc := by
  have opcode : other.read pc = memory.read pc := agree pc (Or.inl rfl)
  unfold decode
  rw [opcode]
  cases known : Opcode.ofByte? (memory.read pc) with
  | none => rfl
  | some o =>
    have first (asked : 0 < o.operands) :
        (operandsAt other pc).byte 0 = (operandsAt memory pc).byte 0 :=
      operand_congr agree known asked (by simp)
    have second (asked : 1 < o.operands) (register : o.namesRegister 1 = true) (r : Register)
        (found : (operandsAt memory pc).register 0 = .ok r) :
        (operandsAt other pc).byte 1 = (operandsAt memory pc).byte 1 := by
      refine operand_congr agree known asked fun j hj => ?_
      obtain rfl : j = 1 := by simpa using hj
      rw [register, ← faultOf_register, found]
      rfl
    cases o with
    | hlt | ret => rfl
    | push | pop | prn =>
      simp only [ofOperands, register_congr (first (by decide))]
    | branch op =>
      have one : 0 < (Opcode.branch op).operands := by cases op <;> decide
      simp only [ofOperands, register_congr (first one)]
    | ldi =>
      simp only [ofOperands, register_congr (first (by decide))]
      cases found : (operandsAt memory pc).register 0 with
      | error f => rfl
      | ok r => rw [second (by decide) (by decide) r found]
    | alu op =>
      have two : 1 < (Opcode.alu op).operands := by cases op <;> decide
      have name : (Opcode.alu op).namesRegister 1 = true := by cases op <;> decide
      simp only [ofOperands, register_congr (first (Nat.lt_trans Nat.one_pos two))]
      cases found : (operandsAt memory pc).register 0 with
      | error f => rfl
      | ok r => rw [register_congr (second two name r found)]

/-! ## Writing -/

/-- The cell that the instruction writes and the byte that it writes there, if it writes. -/
def write? (s : State) (i : Instruction) : Option (Byte × Byte) :=
  if s.sp = 0 then none else (i.stored? s).map fun v => (s.sp - 1, v)

end Instruction

/-- The memory with a byte written, if there is one to write. -/
def Memory.patched (memory : Memory) : Option (Byte × Byte) → Memory
  | none => memory
  | some (a, v) => memory.write a v

/-- A cell is the same in two memories behind a write if it was the same before or is written. -/
theorem Memory.read_patched {left right : Memory} {write : Option (Byte × Byte)} {a : Byte}
    (same : (∀ w ∈ write, w.1 ≠ a) → left.read a = right.read a) :
    (left.patched write).read a = (right.patched write).read a := by
  cases write with
  | none => exact same (by simp)
  | some w =>
    unfold patched
    rw [read_write, read_write]
    split
    · rfl
    · rename_i other
      apply same
      rintro _ ⟨⟩
      exact Ne.symm other

namespace State

/-- The state with another memory. -/
def withMemory (s : State) (memory : Memory) : State := { s with memory := memory }

/-- In another memory with the same top of the stack, an instruction does the same, and writes the
same byte. -/
theorem execute_withMemory (s : State) (i : Instruction) (memory : Memory)
    (top : i.bracket = .closing → memory.read s.sp = s.top) :
    (s.withMemory memory).execute i =
      ((s.execute i).1, (s.execute i).2.withMemory (memory.patched (i.write? s))) := by
  have pointer : (s.withMemory memory).sp = s.sp := rfl
  have silent (stores_none : i.stored? s = none) : memory.patched (i.write? s) = memory := by
    simp [Instruction.write?, stores_none, Memory.patched]
  cases i with
  | hlt | prn | ldi | alu =>
    rw [silent rfl]
    rfl
  | ret =>
    have same_top : (s.withMemory memory).top = s.top := top rfl
    rw [silent rfl]
    simp only [execute, pointer, same_top]
    split <;> rfl
  | pop r =>
    have same_top : (s.withMemory memory).top = s.top := top rfl
    have popped : ((s.withMemory memory).set r s.top).sp = (s.set r s.top).sp := rfl
    rw [silent rfl]
    simp only [execute, same_top, popped]
    split <;> rfl
  | push r =>
    have value : s.lowered.get r = if r = Register.sp then s.sp - 1 else s.get r := get_set ..
    have address : s.lowered.sp = s.sp - 1 := sp_lowered s
    have same_value : (s.withMemory memory).lowered.get r = s.lowered.get r := rfl
    have same_address : (s.withMemory memory).lowered.sp = s.lowered.sp := rfl
    simp only [execute, pointer]
    by_cases full : s.sp = 0
    · simp only [if_pos full, Instruction.write?]
      rfl
    · simp only [if_neg full, Instruction.write?, Instruction.stored?, setTop, same_value,
        same_address, value, address]
      rfl
  | branch op r =>
    cases op with
    | jmp | jeq | jne =>
      rw [silent rfl]
      rfl
    | call =>
      have behind : s.following (.branch .call r) = s.pc + 2 :=
        following_of_width (Opcode.width_branch _)
      have address : s.lowered.sp = s.sp - 1 := sp_lowered s
      have same_address : (s.withMemory memory).lowered.sp = s.lowered.sp := rfl
      have same_behind : (s.withMemory memory).following (.branch .call r) =
          s.following (.branch .call r) := rfl
      simp only [execute, pointer]
      by_cases full : s.sp = 0
      · simp only [if_pos full, Instruction.write?]
        rfl
      · simp only [if_neg full, Instruction.write?, Instruction.stored?, setTop, same_behind,
          same_address, behind, address]
        rfl

/-- What is written stands in front of the stack, and is on top of it behind the instruction. -/
theorem sp_of_write {s : State} {i : Instruction} {a v : Byte} (h : i.write? s = some (a, v)) :
    s.sp ≠ 0 ∧ a = s.sp - 1 ∧ (s.execute i).2.sp = a ∧ s.line? i = none := by
  unfold Instruction.write? at h
  split at h
  · cases h
  · rename_i room
    obtain ⟨_, stored, made⟩ := Option.map_eq_some_iff.mp h
    cases made
    have opens : i.bracket = .opening ∧ s.stackFault? i = none ∧ s.line? i = none := by
      cases i with
      | push r => exact ⟨rfl, if_neg room, rfl⟩
      | branch op r =>
        cases op with
        | call => exact ⟨rfl, if_neg room, rfl⟩
        | _ => cases stored
      | _ => cases stored
    obtain ⟨-, _, -, pointer, -⟩ := execute_of_opening opens.1 opens.2.1
    exact ⟨room, rfl, pointer, opens.2.2⟩

end State

namespace Machine

variable {m : Machine} {memory : Memory} {k : Nat}

/-! ## One step -/

/-- The cell that the next step writes and the byte that it writes there, if it writes. -/
def write? (m : Machine) : Option (Byte × Byte) :=
  m.executed?.bind (Instruction.write? m.state)

/-- The next step writes the cell. -/
def Writes (m : Machine) (a : Byte) : Prop := ∃ write ∈ m.write?, write.1 = a

/-- The next step reads the cell, of the instruction or on top of the stack. -/
def Reads (m : Machine) (a : Byte) : Prop :=
  m.state.halted = false ∧ m.reachedLimit? = none ∧
    (Instruction.Reads m.state.memory m.state.pc a ∨ m.bracket = .closing ∧ a = m.state.sp)

instance (m : Machine) (a : Byte) : Decidable (m.Writes a) :=
  inferInstanceAs (Decidable (∃ write ∈ m.write?, write.1 = a))

instance (m : Machine) (a : Byte) : Decidable (m.Reads a) :=
  inferInstanceAs (Decidable (_ ∧ _ ∧ _))

/-- The machine with another memory. -/
def withMemory (m : Machine) (memory : Memory) : Machine :=
  { m with state := m.state.withMemory memory }

theorem fetch_withMemory (halted : m.state.halted = false)
    (agree : ∀ a, m.Reads a → memory.read a = m.state.memory.read a) :
    (m.withMemory memory).fetch = m.fetch := by
  have same_limit : (m.withMemory memory).reachedLimit? = m.reachedLimit? := rfl
  unfold fetch
  rw [same_limit]
  cases limit : m.reachedLimit? with
  | some n => rfl
  | none => exact Instruction.decode_congr fun a read => agree a ⟨halted, limit, Or.inl read⟩

/-- What is written to the sink has nothing to do with the memory. -/
theorem perform_withMemory {i : Instruction}
    (top : i.bracket = .closing → memory.read m.state.sp = m.state.top) :
    (m.withMemory memory).perform i =
      ((m.perform i).1, (m.perform i).2.withMemory (memory.patched (i.write? m.state))) := by
  have executed : (m.withMemory memory).state.execute i = _ :=
    State.execute_withMemory m.state i memory top
  have line : (m.withMemory memory).state.line? i = m.state.line? i := by cases i <;> rfl
  cases h : m.state.line? i with
  | none =>
    simp only [perform, line, h, withState, executed]
    rfl
  | some text =>
    have silent : i.write? m.state = none := by
      cases i with
      | hlt | prn => simp [Instruction.write?, Instruction.stored?]
      | _ => cases h
    have same_sink : (m.withMemory memory).sink = m.sink := rfl
    rw [silent] at executed ⊢
    rw [perform_of_line h, perform_of_line (line.trans h), same_sink, executed]
    cases (m.sink.write text).1 <;> rfl

/-- A step in a memory that agrees on what the step reads is the same step, and writes the same. -/
theorem step_withMemory (m : Machine) (memory : Memory)
    (agree : ∀ a, m.Reads a → memory.read a = m.state.memory.read a) :
    (m.withMemory memory).step =
      (m.step.1, m.step.2.withMemory (memory.patched m.write?)) := by
  apply step_of_change (withMemory · (memory.patched m.write?))
  · rfl
  · intro awake
    exact fetch_withMemory awake agree
  · intro nothing
    have unwritten : m.write? = none := by simp [write?, nothing]
    rw [unwritten]
    rfl
  · intro i run
    have wrote : m.write? = i.write? m.state := by simp [write?, run]
    obtain ⟨awake, fetched⟩ := executed?_eq_some_iff.mp run
    rw [wrote]
    apply perform_withMemory
    intro closes
    have on_top : m.bracket = .closing := by simp [bracket, run, closes]
    exact agree _ ⟨awake, (fetch_eq_ok_iff.mp fetched).1, Or.inr ⟨on_top, rfl⟩⟩

theorem memory_of_step (m : Machine) : m.step.2.state.memory = m.state.memory.patched m.write? := by
  have whole := step_withMemory m m.state.memory fun _ _ => rfl
  have same : m.withMemory m.state.memory = m := rfl
  rw [same] at whole
  exact congrArg (fun r => r.2.state.memory) whole

theorem sp_of_step_write {a v : Byte} (h : m.write? = some (a, v)) :
    m.state.sp ≠ 0 ∧ a = m.state.sp - 1 ∧ m.step.2.state.sp = a := by
  obtain ⟨i, run, write⟩ := Option.bind_eq_some_iff.mp h
  obtain ⟨room, below, pointer, silent⟩ := State.sp_of_write write
  obtain ⟨halted, fetched⟩ := executed?_eq_some_iff.mp run
  refine ⟨room, below, ?_⟩
  rw [step_of_fetch_ok halted fetched, perform, silent]
  exact pointer

end Machine

end LS8
