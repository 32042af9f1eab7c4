-- Reading an instruction out of memory. The operands stand in the cells behind
-- the opcode; unlike the program counter, they do not go on at address 0 behind
-- the last cell.

import LS8.Fault
import LS8.Instruction.Operands
import LS8.Memory

namespace LS8.Instruction

/-- The byte `k` cells behind the opcode at `pc`. -/
def operandAt (memory : Memory) (pc : Byte) (k : Nat) : Except Fault Byte :=
  match memory.load (pc.toNat + k) with
  | .ok b => .ok b
  | .error _ => .error (.invalidAccess pc (pc.toNat + k))

/-- The operands of the instruction at `pc`. -/
def operandsAt (memory : Memory) (pc : Byte) : Operands Fault where
  byte k := operandAt memory pc (k + 1)
  badRegister b := .invalidRegister pc b

/-- The instruction at `pc`. -/
def decode (memory : Memory) (pc : Byte) : Except Fault Instruction :=
  match Opcode.ofByte? (memory.read pc) with
  | none => .error (.unknownOpcode pc (memory.read pc))
  | some o => ofOperands (operandsAt memory pc) o

/-! ## When the operands are there -/

theorem operandAt_of_lt {memory : Memory} {pc : Byte} {k : Nat} (h : pc.toNat + k < 256) :
    operandAt memory pc k = .ok (memory.read (pc + UInt8.ofNat k)) := by
  have e : pc.toNat + k = (pc + UInt8.ofNat k).toNat := by
    simp only [UInt8.toNat_add, UInt8.toNat_ofNat']
    omega
  rw [operandAt, e, Memory.load_toNat]

theorem operandAt_of_le {memory : Memory} {pc : Byte} {k : Nat} (h : 256 ≤ pc.toNat + k) :
    operandAt memory pc k = .error (.invalidAccess pc (pc.toNat + k)) := by
  rw [operandAt, Memory.load_of_le h]

end LS8.Instruction
