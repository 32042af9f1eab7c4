-- The state of a run, and what each instruction does to it. The stack grows down
-- from where its pointer starts; it cannot pass address 0, and the pointer cannot
-- leave the last address.

import LS8.Instruction.Decode
import LS8.Program

namespace LS8

structure State where
  pc : Byte
  /-- The number of instructions completed. -/
  clock : Nat
  flags : Flags
  halted : Bool
  registers : Registers
  memory : Memory
  deriving DecidableEq

/-- What a step answers. -/
inductive Progress
  | running
  | halted
  | fault (f : Fault)
  deriving DecidableEq

/-- The notice that a machine writes when it halts. -/
def haltNotice : String := "System exiting..."

namespace State

/-- The state in which a run of the program starts. -/
def start (p : Program) : State where
  pc := 0
  clock := 0
  flags := Flags.none
  halted := false
  registers := Registers.initial
  memory := p.memory

def get (s : State) (r : Register) : Byte := s.registers.get r

def set (s : State) (r : Register) (v : Byte) : State :=
  { s with registers := s.registers.set r v }

/-- Reads memory at any number. -/
def load (s : State) (address : Nat) : Except Fault Byte :=
  match s.memory.load address with
  | .ok v => .ok v
  | .error _ => .error (.invalidAccess s.pc address)

/-- Writes memory at any number. -/
def store (s : State) (address : Nat) (value : Byte) : Except Fault State :=
  match s.memory.store address value with
  | .ok memory => .ok { s with memory := memory }
  | .error _ => .error (.invalidAccess s.pc address)

/-! ## The stack -/

/-- The stack pointer: the address of the byte on top of the stack. -/
def sp (s : State) : Byte := s.get Register.sp

/-- The byte on top of the stack. -/
def top (s : State) : Byte := s.memory.read s.sp

/-- Overwrites the top of the stack. -/
def setTop (s : State) (v : Byte) : State := { s with memory := s.memory.write s.sp v }

/-- The stack with one more byte, which keeps what the cell held. -/
def lowered (s : State) : State := s.set Register.sp (s.sp - 1)

/-- The stack without the byte on top. -/
def raised (s : State) : State := s.set Register.sp (s.sp + 1)

/-! ## Instructions -/

/-- The instruction is completed, and the next one stands at `target`. -/
def next (s : State) (target : Byte) : Progress × State :=
  (.running, { s with pc := target, clock := s.clock + 1 })

/-- The address behind the instruction. Behind the last address comes address 0. -/
def following (s : State) (i : Instruction) : Byte := s.pc + UInt8.ofNat i.width

/-- What the instruction does to the state. A push reads its register after the pointer moved,
a pop fills its register before the pointer moves, and a call reads its target first. -/
def execute (s : State) (i : Instruction) : Progress × State :=
  match i with
  | .hlt => (.halted, { s with halted := true, clock := s.clock + 1 })
  | .ret =>
    if s.sp = 255 then (.fault (.stackUnderflow s.pc), s)
    else s.raised.next s.top
  | .push r =>
    if s.sp = 0 then (.fault (.stackOverflow s.pc), s)
    else (s.lowered.setTop (s.lowered.get r)).next (s.following i)
  | .pop r =>
    let popped := s.set r s.top
    if popped.sp = 255 then (.fault (.stackUnderflow s.pc), popped)
    else popped.raised.next (s.following i)
  | .prn _ => s.next (s.following i)
  | .ldi r v => (s.set r v).next (s.following i)
  | .alu op a b =>
    let flags := (op.flags? (s.get a) (s.get b)).getD s.flags
    next { s.set a (op.value (s.get a) (s.get b)) with flags := flags } (s.following i)
  | .branch .call r =>
    if s.sp = 0 then (.fault (.stackOverflow s.pc), s)
    else (s.lowered.setTop (s.following i)).next (s.get r)
  | .branch .jmp r => s.next (s.get r)
  | .branch .jeq r => s.next (if s.flags.contains Flags.equal then s.get r else s.following i)
  | .branch .jne r => s.next (if s.flags.contains Flags.equal then s.following i else s.get r)

/-- The line that the instruction writes, if it writes one. -/
def line? (s : State) (i : Instruction) : Option String :=
  match i with
  | .hlt => some (haltNotice ++ "\n")
  | .prn r => some (Text.decimal (s.get r).toNat ++ "\n")
  | _ => none

end State

end LS8
