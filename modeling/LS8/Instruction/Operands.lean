-- Making an instruction out of an opcode and operand bytes that are asked for
-- one by one. What is asked for, and in which order, decides which of several
-- errors is reported.

import LS8.Instruction

namespace LS8

/-- A supply of operand bytes, the first of them under number 0. -/
structure Operands (ε : Type) where
  byte : Nat → Except ε Byte
  /-- The error for a byte that names no register. -/
  badRegister : Byte → ε

/-- The register that an operand names. -/
def Operands.register {ε : Type} (operands : Operands ε) (k : Nat) : Except ε Register :=
  match operands.byte k with
  | .error e => .error e
  | .ok b =>
    match Register.ofByte b with
    | .ok r => .ok r
    | .error _ => .error (operands.badRegister b)

namespace Instruction

/-- The instruction with the given opcode. Only the operands that the opcode needs are asked for,
from left to right, and the first bad one decides the error. -/
def ofOperands {ε : Type} (operands : Operands ε) : Opcode → Except ε Instruction
  | .hlt => .ok hlt
  | .ret => .ok ret
  | .push => push <$> operands.register 0
  | .pop => pop <$> operands.register 0
  | .prn => prn <$> operands.register 0
  | .ldi => do
    let r ← operands.register 0
    let v ← operands.byte 1
    pure (ldi r v)
  | .alu op => do
    let a ← operands.register 0
    let b ← operands.register 1
    pure (alu op a b)
  | .branch op => branch op <$> operands.register 0

end Instruction

end LS8
