-- Which fault a step ends with. The causes stand in a fixed order, each of them
-- said in terms of the bytes in memory; the first that holds is the fault.
import LS8.Proofs.Decoding
import LS8.Proofs.Stepping

namespace LS8

/-- The bytes that are opcodes. -/
def opcodeBytes : List Byte :=
  [1, 17, 69, 70, 71, 80, 84, 85, 86, 130, 160, 162, 167, 168, 170, 171]

theorem Opcode.byte_mem (o : Opcode) : o.byte ∈ opcodeBytes := by
  cases o with
  | alu op => cases op <;> decide
  | branch op => cases op <;> decide
  | _ => decide

theorem Opcode.ofByte?_eq_none_iff {b : Byte} : ofByte? b = none ↔ b ∉ opcodeBytes := by
  constructor
  · intro unknown member
    have known : (opcodeBytes.all fun c => (ofByte? c).isSome) = true := by rfl
    have found := List.all_eq_true.mp known b member
    rw [unknown] at found
    cases found
  · intro outside
    cases known : ofByte? b with
    | none => rfl
    | some o => exact absurd (ofByte?_eq_some_iff.mp known ▸ o.byte_mem) outside

namespace Machine

/-! ## The causes, in order -/

section

variable (m : Machine)

/-- The byte at the program counter. -/
def opcodeByte : Byte := m.state.memory.read m.state.pc

/-- The byte behind the one at the program counter. -/
def firstOperand : Byte := m.state.memory.read (m.state.pc + 1)

/-- (1) The clock has reached the limit. -/
def limitFault? : Option Fault :=
  match m.limit with
  | some n => if n ≤ m.state.clock then some (.outOfCycles n) else none
  | none => none

/-- (2) The byte at the program counter is no opcode. -/
def opcodeFault? : Option Fault :=
  if m.opcodeByte ∈ opcodeBytes then none else some (.unknownOpcode m.state.pc m.opcodeByte)

/-- (3) An operand is behind the end of memory, or should name a register and does not. -/
def operandFault? : Option Fault :=
  Instruction.operandsFault? m.state.memory m.state.pc m.opcodeByte

/-- (4) A push or a call with the stack pointer at the first cell. -/
def overflowFault? : Option Fault :=
  if (m.opcodeByte = 69 ∨ m.opcodeByte = 80) ∧ m.state.sp = 0 then
    some (.stackOverflow m.state.pc)
  else none

/-- (5) A return or a pop that would move the stack pointer past the last cell. A pop into the
stack pointer moves it on from the byte that it popped. -/
def underflowFault? : Option Fault :=
  if (m.opcodeByte = 17 ∧ m.state.sp = 255) ∨
      (m.opcodeByte = 70 ∧ m.firstOperand ≠ 7 ∧ m.state.sp = 255) ∨
      (m.opcodeByte = 70 ∧ m.firstOperand = 7 ∧ m.state.memory.read m.state.sp = 255) then
    some (.stackUnderflow m.state.pc)
  else none

/-- The line that is to be written: the notice of a halt, or the number of a print. -/
def writtenLine? : Option String :=
  if m.opcodeByte = 1 then some "System exiting...\n"
  else if m.opcodeByte = 71 then
    (m.state.registers.values[m.firstOperand.toNat]?).map fun v => Text.decimal v.toNat ++ "\n"
  else none

/-- (6) The sink refuses the line. -/
def outputFault? : Option Fault :=
  match m.writtenLine? with
  | none => none
  | some line =>
    match (m.sink.write line).1 with
    | .error failure => some (.output failure)
    | .ok _ => none

/-- The first cause that holds. -/
def firstFault? : Option Fault :=
  m.limitFault?.or (m.opcodeFault?.or (m.operandFault?.or
    (m.overflowFault?.or (m.underflowFault?.or m.outputFault?))))

end

/-! ## The causes of a decoded instruction -/

variable {m : Machine} {i : Instruction} {f : Fault}

/-- The bytes of an instruction that takes one register. -/
theorem firstOperand_of_register {r : Register}
    (supplied : (Instruction.operandsAt m.state.memory m.state.pc).register 0 = .ok r) :
    m.firstOperand = r.byte :=
  (Instruction.register_eq_ok_iff.mp supplied).2

theorem stackFaults_eq (decoded : Instruction.decode m.state.memory m.state.pc = .ok i) :
    m.overflowFault?.or m.underflowFault? = m.state.stackFault? i := by
  obtain ⟨opcode, supplied⟩ := Instruction.decode_eq_ok_iff.mp decoded
  have found : m.opcodeByte = i.opcode.byte := opcode
  unfold overflowFault? underflowFault?
  rw [found]
  cases i with
  | hlt | prn | ldi => simp [Instruction.opcode, Opcode.byte, State.stackFault?]
  | alu op => cases op <;> simp [Instruction.opcode, Opcode.byte, AluOp.byte, State.stackFault?]
  | ret => simp [Instruction.opcode, Opcode.byte, State.stackFault?]
  | push r => simp [Instruction.opcode, Opcode.byte, State.stackFault?]
  | branch op r =>
    cases op <;> simp [Instruction.opcode, Opcode.byte, BranchOp.byte, State.stackFault?]
  | pop r =>
    rw [firstOperand_of_register supplied]
    simp only [Instruction.opcode, Opcode.byte, State.stackFault?, State.sp_set]
    by_cases pointer : r = Register.sp
    · subst pointer
      have seven : Register.sp.byte = 7 := by decide
      simp [seven, State.top]
    · have other : r.byte ≠ 7 := fun same => pointer (Fin.ext (by
        rw [← Register.toNat_byte, same]; rfl))
      simp [pointer, other]

theorem outputFault?_eq (decoded : Instruction.decode m.state.memory m.state.pc = .ok i) :
    m.outputFault? = (m.refusal? i).map Fault.output := by
  obtain ⟨opcode, supplied⟩ := Instruction.decode_eq_ok_iff.mp decoded
  have found : m.opcodeByte = i.opcode.byte := opcode
  have same : m.writtenLine? = m.state.line? i := by
    unfold writtenLine?
    rw [found]
    cases i with
    | hlt => rfl
    | prn r =>
      rw [firstOperand_of_register supplied, Register.toNat_byte]
      simp [Instruction.opcode, Opcode.byte, State.line?, State.get, Registers.get]
    | alu op => cases op <;> simp [Instruction.opcode, Opcode.byte, AluOp.byte, State.line?]
    | branch op => cases op <;> simp [Instruction.opcode, Opcode.byte, BranchOp.byte, State.line?]
    | _ => simp [Instruction.opcode, Opcode.byte, State.line?]
  unfold outputFault? refusal?
  rw [same]
  cases m.state.line? i with
  | none => rfl
  | some line =>
    dsimp only
    cases (m.sink.write line).1 <;> rfl

/-! ## The law -/

/-- The causes behind the first three, for a machine about to execute an instruction. -/
theorem execution_fault_iff (decoded : Instruction.decode m.state.memory m.state.pc = .ok i) :
    m.overflowFault?.or (m.underflowFault?.or m.outputFault?) = some f ↔
      m.state.stackFault? i = some f ∨ ∃ e, m.refusal? i = some e ∧ f = .output e := by
  rw [← Option.or_assoc, stackFaults_eq decoded, outputFault?_eq decoded]
  cases refused : m.refusal? i with
  | none => simp
  | some e => simp [stackFault?_of_refusal refused, eq_comm]

/-- Of a machine that has not halted, the step fails with the first cause that holds. -/
theorem step_fault_iff_firstFault? :
    m.step.1 = .fault f ↔ m.state.halted = false ∧ m.firstFault? = some f := by
  rw [step_fault_iff]
  have limit : m.limitFault? = m.reachedLimit?.map Fault.outOfCycles := by
    unfold limitFault? reachedLimit?
    cases m.limit with
    | none => rfl
    | some n => dsimp only; split <;> rfl
  unfold firstFault? fetch
  rw [limit]
  cases m.reachedLimit? with
  | some n => simp
  | none =>
    simp only [Option.map_none, Option.none_or]
    cases known : Opcode.ofByte? m.opcodeByte with
    | none =>
      have outside := Opcode.ofByte?_eq_none_iff.mp known
      have unknown : Instruction.decode m.state.memory m.state.pc =
          .error (.unknownOpcode m.state.pc m.opcodeByte) := by
        unfold opcodeByte at known ⊢
        simp [Instruction.decode, known]
      simp [unknown, opcodeFault?, outside]
    | some o =>
      have byte := Opcode.ofByte?_eq_some_iff.mp known
      have inside : m.opcodeFault? = none := by simp [opcodeFault?, byte, o.byte_mem]
      have operands : m.operandFault? = faultOf (Instruction.decode m.state.memory m.state.pc) := by
        rw [operandFault?, byte, Instruction.faultOf_decode_of_known byte]
      rw [inside, operands, Option.none_or]
      cases decoded : Instruction.decode m.state.memory m.state.pc with
      | error g => simp [faultOf]
      | ok i => simp [faultOf, execution_fault_iff decoded]

/-- The operands are looked at in the order of their addresses, so the first one behind the end of
memory stands right behind it. -/
theorem address_of_invalidAccess {memory : Memory} {pc q : Byte} {address : Nat}
    (registers : Nat → Bool) (n start : Nat) (inside : pc.toNat + start ≤ 256)
    (h : (List.range' start n).findSome? (fun k =>
      Instruction.operandFault? memory pc k (registers k)) = some (.invalidAccess q address)) :
    address = 256 := by
  induction n generalizing start with
  | zero => simp at h
  | succ n ih =>
    rw [List.range'_succ, List.findSome?_cons] at h
    unfold Instruction.operandFault? at h
    by_cases behind : 255 < pc.toNat + start
    · simp only [if_pos behind, Option.some.injEq, Fault.invalidAccess.injEq] at h
      omega
    · simp only [if_neg behind] at h
      split at h
      · rename_i f found
        split at found
        · cases found
          cases h
        · cases found
      · exact ih (start + 1) (by omega) h

/-- Each cause has faults of its own kind: a bad operand is one of two, and of the faults of the
tables of operations there is none. -/
theorem cause_of_fault (h : m.firstFault? = some f) :
    m.operandFault? = some f ∨ (∃ n, f = .outOfCycles n) ∨ (∃ pc b, f = .unknownOpcode pc b) ∨
      (∃ pc, f = .stackOverflow pc) ∨ (∃ pc, f = .stackUnderflow pc) ∨ ∃ e, f = .output e := by
  unfold firstFault? at h
  simp only [Option.or_eq_some_iff] at h
  rcases h with h | ⟨-, h | ⟨-, h | ⟨-, h | ⟨-, h | ⟨-, h⟩⟩⟩⟩⟩
  · unfold limitFault? at h
    split at h
    · split at h <;> cases h
      exact Or.inr (Or.inl ⟨_, rfl⟩)
    · cases h
  · unfold opcodeFault? at h
    split at h <;> cases h
    exact Or.inr (Or.inr (Or.inl ⟨_, _, rfl⟩))
  · exact Or.inl h
  · unfold overflowFault? at h
    split at h <;> cases h
    exact Or.inr (Or.inr (Or.inr (Or.inl ⟨_, rfl⟩)))
  · unfold underflowFault? at h
    split at h <;> cases h
    exact Or.inr (Or.inr (Or.inr (Or.inr (Or.inl ⟨_, rfl⟩))))
  · unfold outputFault? at h
    split at h
    · cases h
    · split at h <;> cases h
      exact Or.inr (Or.inr (Or.inr (Or.inr (Or.inr ⟨_, rfl⟩))))

theorem fault_of_operand (h : m.operandFault? = some f) :
    (∃ pc address, f = .invalidAccess pc address) ∨ ∃ pc b, f = .invalidRegister pc b := by
  obtain ⟨k, -, found⟩ := List.exists_of_findSome?_eq_some h
  unfold Instruction.operandFault? at found
  split at found
  · cases found
    exact Or.inl ⟨_, _, rfl⟩
  · split at found <;> cases found
    exact Or.inr ⟨_, _, rfl⟩

/-- The step fails exactly when the machine has not halted and one of the causes holds, with the
first of them. An operand behind the end of memory is always at address 256, the stack is never
accessed out of bounds, and the tables of operations know every opcode that is theirs, so their
own faults never come up. -/
theorem a_step_fails_with_its_first_cause (m : Machine) :
    (∀ f, m.step.1 = .fault f ↔ m.state.halted = false ∧ m.firstFault? = some f) ∧
    (∀ pc address, m.step.1 = .fault (.invalidAccess pc address) →
      m.operandFault? = some (.invalidAccess pc address) ∧ address = 256) ∧
    (m.state.load m.state.sp.toNat = .ok m.state.top ∧
      ∀ v, m.state.lowered.store m.state.lowered.sp.toNat v = .ok (m.state.lowered.setTop v)) ∧
    (∀ o : Opcode, o.isAlu = true → ∃ op, AluOp.ofByte o.byte = .ok op ∧ o = .alu op) ∧
    (∀ o : Opcode, o.isAlu = false → o ∉ [Opcode.hlt, .ret, .push, .pop, .prn, .ldi] →
      ∃ op, BranchOp.ofByte o.byte = .ok op ∧ o = .branch op) ∧
    (∀ tag, m.step.1 ≠ .fault (.notAlu tag) ∧ m.step.1 ≠ .fault (.notBranch tag)) := by
  refine ⟨fun f => step_fault_iff_firstFault?, ?_, ⟨?_, ?_⟩, ?_, ?_, ?_⟩
  · intro pc address h
    have bad : m.operandFault? = some (.invalidAccess pc address) := by
      simpa using cause_of_fault (step_fault_iff_firstFault?.mp h).2
    exact ⟨bad, address_of_invalidAccess _ _ 1 m.state.pc.toNat_lt_256 bad⟩
  · rw [State.load, Memory.load_toNat]
    rfl
  · intro v
    rw [State.store, Memory.store_toNat]
    rfl
  · intro o unit
    cases o with
    | alu op => exact ⟨op, AluOp.ofByte_byte op, rfl⟩
    | branch op => cases op <;> cases unit
    | _ => cases unit
  · intro o unit other
    cases o with
    | branch op => exact ⟨op, BranchOp.ofByte_byte op, rfl⟩
    | alu op => cases op <;> cases unit
    | _ => simp at other
  · intro tag
    constructor
    all_goals
      intro h
      have bad := cause_of_fault (step_fault_iff_firstFault?.mp h).2
      simp only [reduceCtorEq, exists_false, or_false] at bad
      simpa using fault_of_operand bad

end Machine

end LS8
