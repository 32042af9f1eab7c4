-- The operations that go to an address held in a register.

import LS8.Fault

namespace LS8

inductive BranchOp
  /-- Goes there and leaves the address of the next instruction on the stack. -/
  | call
  | jmp
  /-- Goes there if the last comparison found its operands equal. -/
  | jeq
  /-- Goes there unless the last comparison found its operands equal. -/
  | jne
  deriving DecidableEq

namespace BranchOp

def all : List BranchOp := [call, jmp, jeq, jne]

/-- The opcode of the instruction that performs the operation. -/
def byte : BranchOp → Byte
  | call => 0x50
  | jmp => 0x54
  | jeq => 0x55
  | jne => 0x56

def name : BranchOp → String
  | call => "CALL"
  | jmp => "JMP"
  | jeq => "JEQ"
  | jne => "JNE"

def ofByte (b : Byte) : Except Fault BranchOp :=
  match all.find? (·.byte == b) with
  | some op => .ok op
  | none => .error (.notBranch b)

theorem mem_all (op : BranchOp) : op ∈ all := by cases op <;> decide

@[simp] theorem ofByte_byte (op : BranchOp) : ofByte op.byte = .ok op := by cases op <;> rfl

theorem byte_injective {a b : BranchOp} (h : a.byte = b.byte) : a = b := by
  cases a <;> cases b <;> first | rfl | exact absurd h (by decide)

end BranchOp

end LS8
