-- The machine: a state, a sink for its output, and possibly a limit on the clock.
-- A step looks at these in order: has the machine halted, is the limit reached,
-- what is the next instruction, does the sink take what it writes.

import LS8.State

namespace LS8

structure Machine where
  state : State
  sink : Sink
  /-- No instruction is begun once the clock shows this number. -/
  limit : Option Nat
  deriving DecidableEq

namespace Machine

/-- A machine that is about to run the program. -/
def start (p : Program) (limit : Option Nat) (sink : Sink) : Machine where
  state := State.start p
  sink := sink
  limit := limit

/-- The limit, if the clock has reached it. -/
def reachedLimit? (m : Machine) : Option Nat :=
  match m.limit with
  | some n => if n ≤ m.state.clock then some n else none
  | none => none

/-- The next instruction, or why there is none. -/
def fetch (m : Machine) : Except Fault Instruction :=
  match m.reachedLimit? with
  | some n => .error (.outOfCycles n)
  | none => Instruction.decode m.state.memory m.state.pc

/-- The machine with the state that an instruction left. -/
def withState (m : Machine) (r : Progress × State) : Progress × Machine :=
  (r.1, { m with state := r.2 })

/-- Executes the instruction. If the sink refuses what it writes, the state stays as it is. -/
def perform (m : Machine) (i : Instruction) : Progress × Machine :=
  match m.state.line? i with
  | none => m.withState (m.state.execute i)
  | some line =>
    match m.sink.write line with
    | (.error failure, sink) => (.fault (.output failure), { m with sink := sink })
    | (.ok _, sink) => withState { m with sink := sink } (m.state.execute i)

/-- One step. A machine that has halted answers so again and does nothing. -/
def step (m : Machine) : Progress × Machine :=
  if m.state.halted then (.halted, m)
  else match m.fetch with
    | .error f => (.fault f, m)
    | .ok i => m.perform i

/-! ## The order of the tests -/

theorem step_of_halted {m : Machine} (h : m.state.halted = true) : m.step = (.halted, m) := by
  simp [step, h]

theorem step_of_fetch_error {m : Machine} {f : Fault} (h : m.state.halted = false)
    (hf : m.fetch = .error f) : m.step = (.fault f, m) := by
  simp [step, h, hf]

theorem step_of_fetch_ok {m : Machine} {i : Instruction} (h : m.state.halted = false)
    (hi : m.fetch = .ok i) : m.step = m.perform i := by
  simp [step, h, hi]

theorem fetch_of_limit {m : Machine} {n : Nat} (h : m.limit = some n) (hn : n ≤ m.state.clock) :
    m.fetch = .error (.outOfCycles n) := by
  simp [fetch, reachedLimit?, h, hn]

theorem fetch_of_below {m : Machine} (h : ∀ n, m.limit = some n → m.state.clock < n) :
    m.fetch = Instruction.decode m.state.memory m.state.pc := by
  have : m.reachedLimit? = none := by
    unfold reachedLimit?
    split
    · rename_i n hn
      simp [Nat.not_le.mpr (h n hn)]
    · rfl
  simp [fetch, this]

end Machine

end LS8
