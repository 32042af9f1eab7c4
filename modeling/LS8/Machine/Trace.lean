-- The trace of a run: a line for each step whose instruction could be fetched,
-- taken before the step.

import LS8.Machine.Run

namespace LS8

/-- The program counter, the three bytes from there on, and the registers. -/
def State.traceLine (s : State) : String :=
  "TRACE: " ++ Text.hexByte s.pc ++ " | "
    ++ Text.hexByte (s.memory.read s.pc) ++ " "
    ++ Text.hexByte (s.memory.read (s.pc + 1)) ++ " "
    ++ Text.hexByte (s.memory.read (s.pc + 2)) ++ " |"
    ++ String.join (s.registers.toList.map fun v => " " ++ Text.hexByte v)

namespace Machine

/-- The lines so far, and one more if the machine is about to execute an instruction. -/
def noteStep (lines : String) (m : Machine) : String :=
  if m.state.halted then lines
  else match m.fetch with
    | .ok _ => lines ++ m.state.traceLine ++ "\n"
    | .error _ => lines

end Machine

end LS8
