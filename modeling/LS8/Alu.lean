-- The operations of the arithmetic unit. All but the comparison replace the
-- first operand; only the comparison sets the flags.

import LS8.Fault
import LS8.Flags

namespace LS8

inductive AluOp
  | add
  | mul
  | cmp
  | and
  | or
  | xor
  deriving DecidableEq

namespace AluOp

def all : List AluOp := [add, mul, cmp, and, or, xor]

/-- The opcode of the instruction that performs the operation. -/
def byte : AluOp → Byte
  | add => 0xA0
  | mul => 0xA2
  | cmp => 0xA7
  | and => 0xA8
  | or => 0xAA
  | xor => 0xAB

def name : AluOp → String
  | add => "ADD"
  | mul => "MUL"
  | cmp => "CMP"
  | and => "AND"
  | or => "OR"
  | xor => "XOR"

def ofByte (b : Byte) : Except Fault AluOp :=
  match all.find? (·.byte == b) with
  | some op => .ok op
  | none => .error (.notAlu b)

/-- What is left in the first operand. -/
def value (op : AluOp) (a b : Byte) : Byte :=
  match op with
  | add => a + b
  | mul => a * b
  | cmp => a
  | and => a &&& b
  | or => a ||| b
  | xor => a ^^^ b

/-- The flags that the operation sets, if it sets any. -/
def flags? (op : AluOp) (a b : Byte) : Option Flags :=
  match op with
  | cmp => some (Flags.compare a b)
  | _ => none

theorem mem_all (op : AluOp) : op ∈ all := by cases op <;> decide

@[simp] theorem ofByte_byte (op : AluOp) : ofByte op.byte = .ok op := by cases op <;> rfl

theorem byte_injective {a b : AluOp} (h : a.byte = b.byte) : a = b := by
  cases a <;> cases b <;> first | rfl | exact absurd h (by decide)

end AluOp

end LS8
