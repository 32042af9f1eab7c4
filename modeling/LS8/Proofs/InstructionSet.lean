-- The instruction set as a table over bytes. A row is found by the number of the
-- opcode alone, and says in terms of the two bytes behind it what the instruction
-- does. A step that does not fail does what the row says. Read cell by cell and
-- register by register, the row changes one cell and two registers at most.
import LS8.Proofs.Decoding
import LS8.Proofs.Stepping

namespace LS8

/-! ## The table -/

/-- What a row of the table says: the answer, the text that is written, and the state behind. -/
structure Effect where
  answer : Progress
  printed : String
  after : State

namespace InstructionSet

/-- The register that a byte names. -/
def register? (b : Byte) : Option Register :=
  if h : b.toNat < 8 then some ⟨b.toNat, h⟩ else none

/-- One more instruction is completed without a text, and the next one stands at `pc`. -/
def completed (s : State) (pc : Byte) : Effect where
  answer := .running
  printed := ""
  after := { s with pc := pc, clock := s.clock + 1 }

/-- The first register takes the result of an operation on two numbers, modulo 256. -/
def arithmetic (s : State) (a b next : Byte) (f : Nat → Nat → Nat) : Option Effect := do
  let x ← register? a
  let y ← register? b
  let result := UInt8.ofNat (f (s.registers.get x).toNat (s.registers.get y).toNat)
  some (completed { s with registers := s.registers.set x result } next)

/-- A jump to the address in a register, if it is taken. -/
def jump (s : State) (a next : Byte) (taken : Bool) : Option Effect := do
  let x ← register? a
  some (completed s (if taken then s.registers.get x else next))

/-- Bit 0 of the flags, which says that the last comparison found its operands equal. -/
def equalBit (s : State) : Bool := s.flags.bits.toNat % 2 = 1

/-- The row of the opcode `op` with the bytes `a` and `b` behind it. -/
def row (s : State) (op a b : Byte) : Option Effect :=
  let next := s.pc + 1 + (op >>> (6 : Byte))
  let sp := s.registers.get Register.sp
  match op.toNat with
  | 1 => some
    { answer := .halted
      printed := "System exiting...\n"
      after := { s with halted := true, clock := s.clock + 1 } }
  | 17 =>
    let raised := s.registers.set Register.sp (sp + 1)
    some (completed { s with registers := raised } (s.memory.read sp))
  | 69 => do
    let x ← register? a
    let lowered := s.registers.set Register.sp (sp - 1)
    let memory := s.memory.write (sp - 1) (lowered.get x)
    some (completed { s with registers := lowered, memory := memory } next)
  | 70 => do
    let x ← register? a
    let popped := s.registers.set x (s.memory.read sp)
    let raised := popped.set Register.sp (popped.get Register.sp + 1)
    some (completed { s with registers := raised } next)
  | 71 => do
    let x ← register? a
    some { completed s next with printed := Text.decimal (s.registers.get x).toNat ++ "\n" }
  | 80 => do
    let x ← register? a
    let lowered := s.registers.set Register.sp (sp - 1)
    let memory := s.memory.write (sp - 1) (s.pc + 2)
    some (completed { s with registers := lowered, memory := memory } (s.registers.get x))
  | 84 => jump s a next true
  | 85 => jump s a next (equalBit s)
  | 86 => jump s a next (!equalBit s)
  | 130 => do
    let x ← register? a
    some (completed { s with registers := s.registers.set x b } next)
  | 160 => arithmetic s a b next (· + ·)
  | 162 => arithmetic s a b next (· * ·)
  | 167 => do
    let x ← register? a
    let y ← register? b
    let flags : Byte :=
      if (s.registers.get x).toNat = (s.registers.get y).toNat then 1
      else if (s.registers.get x).toNat > (s.registers.get y).toNat then 2
      else 4
    some (completed { s with flags := ⟨flags⟩ } next)
  | 168 => arithmetic s a b next (· &&& ·)
  | 170 => arithmetic s a b next (· ||| ·)
  | 171 => arithmetic s a b next (· ^^^ ·)
  | _ => none

/-! ## The rows of the instructions -/

@[simp] theorem register?_byte (r : Register) : register? r.byte = some r := by
  simp [register?, Register.toNat_byte]

theorem equalBit_eq (s : State) : equalBit s = s.flags.contains Flags.equal := by
  unfold equalBit Flags.contains Flags.equal
  have low : s.flags.bits.toNat % 2 = (s.flags.bits &&& 1).toNat := by
    simp [UInt8.toNat_and, Nat.and_one_is_mod]
  rw [low, Bool.eq_iff_iff]
  simp [← UInt8.toNat_inj]

/-- The address behind an instruction, read off the two high bits of its opcode. -/
theorem following_eq (s : State) (i : Instruction) :
    s.following i = s.pc + 1 + (i.opcode.byte >>> (6 : Byte)) := by
  have width : UInt8.ofNat i.opcode.width = 1 + (i.opcode.byte >>> (6 : Byte)) := by
    cases i.opcode with
    | alu op => cases op <;> decide
    | branch op => cases op <;> decide
    | _ => decide
  unfold State.following Instruction.width
  rw [width, UInt8.add_assoc]

/-- What an operation leaves in its first operand, with numbers in the place of bytes. -/
theorem value_eq_ofNat (x y : Byte) :
    AluOp.add.value x y = UInt8.ofNat (x.toNat + y.toNat) ∧
      AluOp.mul.value x y = UInt8.ofNat (x.toNat * y.toNat) ∧
      AluOp.and.value x y = UInt8.ofNat (x.toNat &&& y.toNat) ∧
      AluOp.or.value x y = UInt8.ofNat (x.toNat ||| y.toNat) ∧
      AluOp.xor.value x y = UInt8.ofNat (x.toNat ^^^ y.toNat) := by
  refine ⟨?_, ?_, ?_, ?_, ?_⟩
  all_goals simp [AluOp.value]

theorem compare_eq (x y : Byte) : Flags.compare x y =
    ⟨if x.toNat = y.toNat then 1 else if x.toNat > y.toNat then 2 else 4⟩ := by
  rcases Nat.lt_trichotomy x.toNat y.toNat with lt | eq | gt
  · rw [Flags.compare_of_lt (UInt8.lt_iff_toNat_lt.mpr lt), if_neg (by omega), if_neg (by omega)]
    rfl
  · rw [UInt8.toNat_inj.mp eq, Flags.compare_self, if_pos rfl]
    rfl
  · rw [Flags.compare_of_gt (UInt8.lt_iff_toNat_lt.mpr gt), if_neg (by omega), if_pos gt]
    rfl

theorem row_of_instruction (s : State) (i : Instruction) (a b : Byte)
    (operands : i.operandBytes <+: [a, b]) (fine : s.stackFault? i = none) :
    row s i.opcode.byte a b =
      some ⟨(s.execute i).1, (s.line? i).getD "", (s.execute i).2⟩ := by
  have following := following_eq s i
  cases i with
  | hlt => rfl
  | ret =>
    have room : ¬s.sp = 255 := by simpa [State.stackFault?] using fine
    simp only [State.execute, if_neg room]
    rfl
  | push r =>
    obtain ⟨rfl, -⟩ := List.cons_prefix_cons.mp operands
    have room : ¬s.sp = 0 := by simpa [State.stackFault?] using fine
    simp only [State.execute, if_neg room, following, State.setTop, State.sp_lowered]
    simp [row, Instruction.opcode, Opcode.byte]
    rfl
  | pop r =>
    obtain ⟨rfl, -⟩ := List.cons_prefix_cons.mp operands
    have room : ¬(s.set r s.top).sp = 255 := by simpa [State.stackFault?] using fine
    simp only [State.execute, if_neg room, following]
    simp [row, Instruction.opcode, Opcode.byte]
    rfl
  | prn r =>
    obtain ⟨rfl, -⟩ := List.cons_prefix_cons.mp operands
    simp only [State.execute, following, State.line?]
    simp [row, Instruction.opcode, Opcode.byte, completed, State.next, State.get]
  | ldi r v =>
    obtain ⟨rfl, tail⟩ := List.cons_prefix_cons.mp operands
    obtain ⟨rfl, -⟩ := List.cons_prefix_cons.mp tail
    simp only [State.execute, following]
    simp [row, Instruction.opcode, Opcode.byte]
    rfl
  | alu op x y =>
    obtain ⟨rfl, tail⟩ := List.cons_prefix_cons.mp operands
    obtain ⟨rfl, -⟩ := List.cons_prefix_cons.mp tail
    obtain ⟨add, mul, and, or, xor⟩ := value_eq_ofNat (s.get x) (s.get y)
    cases op with
    | cmp =>
      simp only [State.execute, following, AluOp.flags?, AluOp.value, compare_eq,
        State.set_get_self]
      simp [row, Instruction.opcode, Opcode.byte, AluOp.byte]
      rfl
    | add | mul | and | or | xor =>
      simp only [State.execute, following, add, mul, and, or, xor, AluOp.flags?]
      simp [row, Instruction.opcode, Opcode.byte, AluOp.byte, arithmetic]
      rfl
  | branch op r =>
    obtain ⟨rfl, -⟩ := List.cons_prefix_cons.mp operands
    cases op with
    | call =>
      have room : ¬s.sp = 0 := by simpa [State.stackFault?] using fine
      have back : s.following (.branch .call r) = s.pc + 2 :=
        State.following_of_width (Opcode.width_branch _)
      simp only [State.execute, if_neg room, back, State.setTop, State.sp_lowered]
      simp [row, Instruction.opcode, Opcode.byte, BranchOp.byte]
      rfl
    | jmp =>
      simp [row, Instruction.opcode, Opcode.byte, BranchOp.byte, jump]
      rfl
    | jeq =>
      simp only [State.execute, following, ← equalBit_eq]
      simp [row, Instruction.opcode, Opcode.byte, BranchOp.byte, jump]
      rfl
    | jne =>
      simp only [State.execute, following, ← equalBit_eq]
      simp [row, Instruction.opcode, Opcode.byte, BranchOp.byte, jump]
      cases equalBit s <;> rfl

/-- The operand bytes of a decoded instruction stand behind its opcode. -/
theorem operandBytes_prefix {memory : Memory} {pc : Byte} {i : Instruction}
    (decoded : Instruction.decode memory pc = .ok i) :
    i.operandBytes <+: [memory.read (pc + 1), memory.read (pc + 2)] := by
  obtain ⟨-, supplied⟩ := Instruction.decode_eq_ok_iff.mp decoded
  cases i with
  | hlt | ret => exact List.nil_prefix
  | push r | pop r | prn r | branch op r =>
    obtain ⟨-, first⟩ := Instruction.register_eq_ok_iff.mp supplied
    exact List.cons_prefix_cons.mpr ⟨first.symm, List.nil_prefix⟩
  | ldi r v =>
    obtain ⟨-, first⟩ := Instruction.register_eq_ok_iff.mp supplied.1
    obtain ⟨-, second⟩ := Instruction.byte_eq_ok_iff.mp supplied.2
    exact ⟨[], by simp [Instruction.operandBytes, ← second]; exact first.symm⟩
  | alu op a b =>
    obtain ⟨-, first⟩ := Instruction.register_eq_ok_iff.mp supplied.1
    obtain ⟨-, second⟩ := Instruction.register_eq_ok_iff.mp supplied.2
    exact ⟨[], by simp [Instruction.operandBytes, ← second]; exact first.symm⟩

/-! ## What can be read behind a row -/

/-- The byte that goes to the cell below the top of the stack, if one goes there. A push of the
stack pointer finds it lowered, and a call leaves the address behind it. -/
def pushed? (s : State) (op a : Byte) : Option Byte :=
  match op.toNat with
  | 69 => do
    let x ← register? a
    some (if x = Register.sp then s.registers.get x - 1 else s.registers.get x)
  | 80 => some (s.pc + 2)
  | _ => none

/-- What an operation makes of the registers that two bytes name. -/
def combined? (s : State) (a b : Byte) (f : Nat → Nat → Nat) : Option Byte := do
  let x ← register? a
  let y ← register? b
  some (UInt8.ofNat (f (s.registers.get x).toNat (s.registers.get y).toNat))

/-- The byte that goes to the register that `a` names, if one goes there. -/
def result? (s : State) (op a b : Byte) : Option Byte :=
  match op.toNat with
  | 70 => some (s.memory.read (s.registers.get Register.sp))
  | 130 => some b
  | 160 => combined? s a b (· + ·)
  | 162 => combined? s a b (· * ·)
  | 168 => combined? s a b (· &&& ·)
  | 170 => combined? s a b (· ||| ·)
  | 171 => combined? s a b (· ^^^ ·)
  | _ => none

/-- Where the stack pointer is moved from an address. -/
def moved (op address : Byte) : Byte :=
  match op.toNat with
  | 17 | 70 => address + 1
  | 69 | 80 => address - 1
  | _ => address

/-- What a cell holds behind the row. -/
def cellBehind (s : State) (op a c : Byte) : Byte :=
  if c = s.registers.get Register.sp - 1 then (pushed? s op a).getD (s.memory.read c)
  else s.memory.read c

/-- What a register holds behind the row. The stack pointer is moved from where a result has put
it. -/
def registerBehind (s : State) (op a b : Byte) (q : Register) : Byte :=
  let filled :=
    if register? a = some q then (result? s op a b).getD (s.registers.get q)
    else s.registers.get q
  if q = Register.sp then moved op filled else filled

theorem arithmetic_eq (s : State) (a b next : Byte) (f : Nat → Nat → Nat) :
    arithmetic s a b next f = (register? a).bind fun x => (combined? s a b f).map fun v =>
      completed { s with registers := s.registers.set x v } next := by
  unfold arithmetic combined?
  cases register? a <;> cases register? b <;> rfl

theorem reads_of_row {s : State} {op a b : Byte} {e : Effect} (found : row s op a b = some e) :
    (∀ c, e.after.memory.read c = cellBehind s op a c) ∧
      ∀ q, e.after.registers.get q = registerBehind s op a b q := by
  unfold row at found
  split at found
  -- Each row with an operand exists only if the operand names a register.
  all_goals
    rename_i number
    simp only [arithmetic_eq, jump, bind, Option.bind_eq_some_iff, Option.map_eq_some_iff,
      Option.some.injEq] at found
    simp only [cellBehind, registerBehind, pushed?, result?, moved, number, bind]
    grind [completed, Memory.read_write, Registers.get_set]

/-! ## The law -/

theorem executed_of_fine {m : Machine} (running : m.state.halted = false)
    (fine : ∀ f, m.step.1 ≠ .fault f) : ∃ i, m.executed? = some i := by
  rcases m.step_cases with ⟨halted, -⟩ | ⟨-, f, -, step⟩ | ⟨i, run, -⟩
  · rw [running] at halted
    cases halted
  · exact absurd (by rw [step]) (fine f)
  · exact ⟨i, run⟩

/-- The row of the bytes at the program counter is that of the instruction there. -/
theorem row_of_executed {m : Machine} {i : Instruction} (run : m.executed? = some i)
    (no_fault : m.state.stackFault? i = none) :
    row m.state (m.state.memory.read m.state.pc) (m.state.memory.read (m.state.pc + 1))
        (m.state.memory.read (m.state.pc + 2)) =
      some ⟨(m.state.execute i).1, (m.state.line? i).getD "", (m.state.execute i).2⟩ := by
  obtain ⟨-, fetched⟩ := Machine.executed?_eq_some_iff.mp run
  obtain ⟨-, decoded⟩ := Machine.fetch_eq_ok_iff.mp fetched
  obtain ⟨opcode, -⟩ := Instruction.decode_eq_ok_iff.mp decoded
  have operands := operandBytes_prefix decoded
  exact opcode ▸ row_of_instruction m.state i _ _ operands no_fault

/-- A step that does not fail, of a machine that has not halted, does what the table says of the
byte at the program counter and the two bytes behind it, and nothing else: the answer, the whole
state and the text are those of the row. -/
theorem a_step_follows_the_table (m : Machine) (running : m.state.halted = false)
    (fine : ∀ f, m.step.1 ≠ .fault f) :
    ∃ e, row m.state (m.state.memory.read m.state.pc) (m.state.memory.read (m.state.pc + 1))
        (m.state.memory.read (m.state.pc + 2)) = some e ∧
      m.step.1 = e.answer ∧ m.step.2.state = e.after ∧
      m.step.2.sink.text = m.sink.text ++ e.printed ∧ m.step.2.limit = m.limit := by
  obtain ⟨i, run⟩ := executed_of_fine running fine
  obtain ⟨no_fault, sink, text, step⟩ := Machine.step_of_executed run fine
  refine ⟨_, row_of_executed run no_fault, ?_⟩
  rw [step]
  exact ⟨rfl, rfl, text, rfl⟩

/-- A pop into the stack pointer, which ends one past the byte that it popped. -/
theorem the_table_covers_a_pop_into_the_stack_pointer :
    ∃ m : Machine, m.state.halted = false ∧ (∀ f, m.step.1 ≠ .fault f) ∧
      m.state.memory.read m.state.pc = 70 ∧ m.state.memory.read (m.state.pc + 1) = 7 ∧
      m.state.top = 9 ∧ m.step.2.state.sp = 10 ∧
      ∃ e, row m.state (m.state.memory.read m.state.pc) (m.state.memory.read (m.state.pc + 1))
          (m.state.memory.read (m.state.pc + 2)) = some e ∧
        m.step.1 = e.answer ∧ m.step.2.state = e.after := by
  let m : Machine := ⟨(State.start ⟨[70, 7, 9], by decide⟩).set Register.sp 2, {}, none⟩
  have fine : ∀ f, m.step.1 ≠ .fault f := by
    have running : m.step.1 = .running := by decide +kernel
    simp [running]
  obtain ⟨e, found, answer, after, -⟩ := a_step_follows_the_table m rfl fine
  exact ⟨m, rfl, fine, by decide +kernel, by decide +kernel, by decide +kernel, by decide +kernel,
    e, found, answer, after⟩

/-- Behind such a step, each cell and each register reads what the table makes of the bytes that
were there: the cell below the top of the stack what is pushed, the named register the result, the
stack pointer the address it is moved to, and all others what they held. -/
theorem a_step_leaves_the_bytes_of_the_table (m : Machine) (running : m.state.halted = false)
    (fine : ∀ f, m.step.1 ≠ .fault f) :
    let op := m.state.memory.read m.state.pc
    let a := m.state.memory.read (m.state.pc + 1)
    let b := m.state.memory.read (m.state.pc + 2)
    (∀ c, m.step.2.state.memory.read c = cellBehind m.state op a c) ∧
      ∀ q, m.step.2.state.registers.get q = registerBehind m.state op a b q := by
  intro op a b
  obtain ⟨i, run⟩ := executed_of_fine running fine
  obtain ⟨no_fault, sink, -, step⟩ := Machine.step_of_executed run fine
  rw [step]
  exact reads_of_row (row_of_executed run no_fault)

end InstructionSet

end LS8
