-- An instruction: an opcode with its operands. It has a text, and a form in
-- memory of one, two or three bytes.

import LS8.Opcode
import LS8.Register

namespace LS8

inductive Instruction
  | hlt
  | ret
  | push (source : Register)
  | pop (target : Register)
  | prn (source : Register)
  | ldi (target : Register) (value : Byte)
  | alu (op : AluOp) (first second : Register)
  | branch (op : BranchOp) (target : Register)
  deriving DecidableEq

namespace Instruction

def opcode : Instruction → Opcode
  | hlt => .hlt
  | ret => .ret
  | push _ => .push
  | pop _ => .pop
  | prn _ => .prn
  | ldi _ _ => .ldi
  | alu op _ _ => .alu op
  | branch op _ => .branch op

/-- The bytes that follow the opcode. -/
def operandBytes : Instruction → List Byte
  | hlt => []
  | ret => []
  | push r => [r.byte]
  | pop r => [r.byte]
  | prn r => [r.byte]
  | ldi r v => [r.byte, v]
  | alu _ a b => [a.byte, b.byte]
  | branch _ r => [r.byte]

/-- The form in memory. -/
def encode (i : Instruction) : List Byte := i.opcode.byte :: i.operandBytes

/-- The number of bytes of the form in memory, as the opcode tells it. -/
def width (i : Instruction) : Nat := i.opcode.width

/-- The operands as they are written: registers by name, a value in decimal. -/
def operandTexts : Instruction → List String
  | hlt => []
  | ret => []
  | push r => [r.name]
  | pop r => [r.name]
  | prn r => [r.name]
  | ldi r v => [r.name, Text.decimal v.toNat]
  | alu _ a b => [a.name, b.name]
  | branch _ r => [r.name]

/-- The mnemonic, and behind a blank the operands with a comma between them. -/
def text (i : Instruction) : String :=
  match i.operandTexts with
  | [] => i.opcode.name
  | operands => i.opcode.name ++ " " ++ ",".intercalate operands

/-- The width that the opcode tells is the length of the form in memory. -/
theorem length_encode (i : Instruction) : i.encode.length = i.width := by
  cases i <;> simp [encode, operandBytes, width, opcode]

theorem width_pos (i : Instruction) : 0 < i.width := by
  rw [← length_encode]
  exact Nat.succ_pos _

theorem width_le_three (i : Instruction) : i.width ≤ 3 := i.opcode.width_le_three

end Instruction

end LS8
