-- Everything that can go wrong while the machine runs, by cause, and the one
-- place where each cause is put into words.

import LS8.RangeError
import LS8.Sink
import LS8.Text.Numeral

namespace LS8

inductive Fault
  /-- The byte names no operation of the arithmetic unit. -/
  | notAlu (tag : Byte)
  /-- The byte names no operation that goes to an address held in a register. -/
  | notBranch (tag : Byte)
  | unknownOpcode (pc opcode : Byte)
  | invalidRegister (pc index : Byte)
  | invalidAccess (pc : Byte) (address : Nat)
  | stackOverflow (pc : Byte)
  | stackUnderflow (pc : Byte)
  | output (failure : SinkFailure)
  | outOfCycles (limit : Nat)
  deriving DecidableEq

open Text (decimal) in
def Fault.message : Fault → String
  | .notAlu tag => "unsupported ALU operation " ++ decimal tag.toNat
  | .notBranch tag => "unsupported register operation " ++ decimal tag.toNat
  | .unknownOpcode pc opcode =>
    "unknown instruction " ++ decimal opcode.toNat ++ " at address " ++ decimal pc.toNat
  | .invalidRegister pc index =>
    "invalid register " ++ decimal index.toNat ++ " for instruction at address " ++ decimal pc.toNat
  | .invalidAccess pc address =>
    "invalid memory access (" ++ RangeError.memory.message ++ ") at address " ++ decimal address
      ++ " for instruction at address " ++ decimal pc.toNat
  | .stackOverflow pc => "stack overflow at address " ++ decimal pc.toNat
  | .stackUnderflow pc => "stack underflow at address " ++ decimal pc.toNat
  | .output failure => "failed to write output: " ++ failure.message
  | .outOfCycles limit => "cycle limit of " ++ decimal limit ++ " reached"

end LS8
