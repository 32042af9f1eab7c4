-- The sixteen opcodes. Two high bits of the byte count the operands, bit 5 marks
-- the arithmetic unit and bit 4 the instructions that set the program counter.

import LS8.Alu
import LS8.Branch

namespace LS8

inductive Opcode
  | hlt
  | ret
  | push
  | pop
  | prn
  | ldi
  | alu (op : AluOp)
  | branch (op : BranchOp)
  deriving DecidableEq

namespace Opcode

def all : List Opcode :=
  [hlt, ret, push, pop, prn, ldi] ++ AluOp.all.map alu ++ BranchOp.all.map branch

def byte : Opcode → Byte
  | hlt => 0x01
  | ret => 0x11
  | push => 0x45
  | pop => 0x46
  | prn => 0x47
  | ldi => 0x82
  | alu op => op.byte
  | branch op => op.byte

/-- The mnemonic. -/
def name : Opcode → String
  | hlt => "HLT"
  | ret => "RET"
  | push => "PUSH"
  | pop => "POP"
  | prn => "PRN"
  | ldi => "LDI"
  | alu op => op.name
  | branch op => op.name

/-- The opcode that a byte stands for, if it stands for one. -/
def ofByte? (b : Byte) : Option Opcode := all.find? (·.byte == b)

/-- The number of bytes that follow the opcode. -/
def operands (o : Opcode) : Nat := o.byte.toNat / 64

/-- The number of bytes of the whole instruction. -/
def width (o : Opcode) : Nat := 1 + o.operands

def isAlu (o : Opcode) : Bool := o.byte &&& 0x20 != 0

def setsPc (o : Opcode) : Bool := o.byte &&& 0x10 != 0

theorem mem_all (o : Opcode) : o ∈ all := by
  cases o with
  | alu op => cases op <;> decide
  | branch op => cases op <;> decide
  | _ => decide

@[simp] theorem ofByte?_byte (o : Opcode) : ofByte? o.byte = some o := by
  cases o with
  | alu op => cases op <;> rfl
  | branch op => cases op <;> rfl
  | _ => rfl

theorem ofByte?_eq_some_iff {b : Byte} {o : Opcode} : ofByte? b = some o ↔ b = o.byte := by
  constructor
  · intro h
    have := List.find?_some h
    exact (beq_iff_eq.mp this).symm
  · rintro rfl
    exact ofByte?_byte o

/-! ## The widths -/

@[simp] theorem width_hlt : width hlt = 1 := by decide

@[simp] theorem width_ret : width ret = 1 := by decide

@[simp] theorem width_push : width push = 2 := by decide

@[simp] theorem width_pop : width pop = 2 := by decide

@[simp] theorem width_prn : width prn = 2 := by decide

@[simp] theorem width_ldi : width ldi = 3 := by decide

@[simp] theorem width_alu (op : AluOp) : width (alu op) = 3 := by cases op <;> decide

@[simp] theorem width_branch (op : BranchOp) : width (branch op) = 2 := by cases op <;> decide

theorem width_le_three (o : Opcode) : o.width ≤ 3 := by cases o <;> simp

end Opcode

end LS8
