-- Numbers that name no place in the machine: there are 256 cells of memory and
-- eight registers.

namespace LS8

/-- Which kind of place a number fails to name. -/
inductive RangeError
  | memory
  | register
  deriving DecidableEq

def RangeError.message : RangeError → String
  | .memory => "memory access out of bounds"
  | .register => "register out of bounds"

end LS8
