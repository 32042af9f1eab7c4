-- What a run depends on. Of the memory where it starts, a run sees the cells that it reads before
-- it has written them itself. In a memory that differs in other cells only, it is the same run:
-- what it pushes and then reads or executes is the same, since it pushed it.
import LS8.Proofs.MemoryAccess

namespace LS8.Machine

variable {m : Machine} {memory : Memory} {j k : Nat} {a : Byte}

/-- One of the first `k` steps reads the cell before any of them has written it. -/
def ReadsFirst (m : Machine) (k : Nat) (a : Byte) : Prop :=
  ∃ j < k, (m.after j).Reads a ∧ ∀ i < j, ¬(m.after i).Writes a

instance (m : Machine) (k : Nat) (a : Byte) : Decidable (m.ReadsFirst k a) :=
  inferInstanceAs (Decidable (∃ j < k, (m.after j).Reads a ∧ ∀ i < j, ¬(m.after i).Writes a))

/-- The memories agree on the cell at first, or one of the first `k` steps writes it. -/
def Settled (m : Machine) (memory : Memory) (k : Nat) (a : Byte) : Prop :=
  memory.read a = m.state.memory.read a ∨ ∃ j < k, (m.after j).Writes a

theorem ReadsFirst.mono (h : m.ReadsFirst j a) (le : j ≤ k) : m.ReadsFirst k a := by
  obtain ⟨i, lt, reads⟩ := h
  exact ⟨i, Nat.lt_of_lt_of_le lt le, reads⟩

/-- What is read is settled: it was read at first, or it has been written. -/
theorem settled_of_reads
    (agree : ∀ a, m.ReadsFirst (k + 1) a → memory.read a = m.state.memory.read a)
    (reads : (m.after k).Reads a) : m.Settled memory k a := by
  by_cases written : ∃ j < k, (m.after j).Writes a
  · exact Or.inr written
  · left
    apply agree
    refine ⟨k, Nat.lt_succ_self k, reads, fun i lt writes => written ⟨i, lt, writes⟩⟩

/-- After the first `k` steps, the machines agree in all but the memory, and there on what is
settled. -/
theorem after_withMemory
    (agree : ∀ a, m.ReadsFirst k a → memory.read a = m.state.memory.read a) :
    ∃ left, (m.withMemory memory).after k = (m.after k).withMemory left ∧
      ∀ a, m.Settled memory k a → left.read a = (m.after k).state.memory.read a := by
  induction k with
  | zero =>
    refine ⟨memory, rfl, fun a settled => ?_⟩
    rcases settled with same | ⟨j, none_before, -⟩
    · exact same
    · exact absurd none_before (Nat.not_lt_zero j)
  | succ k ih =>
    obtain ⟨left, same, alike⟩ := ih fun a reads => agree a (reads.mono (Nat.le_succ k))
    have step := step_withMemory (m.after k) left fun a reads =>
      alike a (settled_of_reads agree reads)
    refine ⟨left.patched (m.after k).write?, ?_, fun a settled => ?_⟩
    · rw [after_succ, after_succ, same, step]
    · rw [after_succ, memory_of_step]
      apply Memory.read_patched
      intro unwritten
      apply alike
      rcases settled with at_first | ⟨j, lt, write, wrote, cell⟩
      · exact Or.inl at_first
      · right
        rcases Nat.lt_succ_iff_lt_or_eq.mp lt with earlier | rfl
        · exact ⟨j, earlier, write, wrote, cell⟩
        · exact absurd cell (unwritten write wrote)

theorem answer_withMemory
    (agree : ∀ a, m.ReadsFirst (k + 1) a → memory.read a = m.state.memory.read a) :
    ((m.withMemory memory).after k).step.1 = (m.after k).step.1 := by
  obtain ⟨left, same, alike⟩ := after_withMemory fun a reads => agree a (reads.mono (Nat.le_succ k))
  have step := step_withMemory (m.after k) left fun a reads =>
    alike a (settled_of_reads agree reads)
  rw [same, step]

/-! ## The law -/

/-- A run depends only on the cells that it reads before it has written them. In a memory that
agrees on those, the steps answer the same one by one and write the same, and leave the machine the
same but for the memory. There it is the same in each cell that was the same or has been written. -/
theorem a_run_depends_on_the_cells_it_reads
    (agree : ∀ a, m.ReadsFirst k a → memory.read a = m.state.memory.read a) :
    (∀ j < k, ((m.withMemory memory).after j).step.1 = (m.after j).step.1) ∧
    (∀ j ≤ k, ((m.withMemory memory).after j).sink = (m.after j).sink) ∧
    ((m.withMemory memory).after k).state.pc = (m.after k).state.pc ∧
    ((m.withMemory memory).after k).state.registers = (m.after k).state.registers ∧
    ((m.withMemory memory).after k).state.flags = (m.after k).state.flags ∧
    ((m.withMemory memory).after k).state.clock = (m.after k).state.clock ∧
    ((m.withMemory memory).after k).state.halted = (m.after k).state.halted ∧
    ∀ a, memory.read a = m.state.memory.read a ∨ (∃ j < k, (m.after j).Writes a) →
      ((m.withMemory memory).after k).state.memory.read a = (m.after k).state.memory.read a := by
  obtain ⟨left, same, alike⟩ := after_withMemory agree
  refine ⟨fun j lt => ?_, fun j le => ?_, ?_⟩
  · exact answer_withMemory fun a reads => agree a (reads.mono lt)
  · obtain ⟨earlier, same_then, -⟩ := after_withMemory fun a reads => agree a (reads.mono le)
    rw [same_then]
    rfl
  · rw [same]
    exact ⟨rfl, rfl, rfl, rfl, rfl, alike⟩

/-- A program that pushes the opcode of a halt and goes there. -/
def pushedHaltProgram : Program where
  image := [0x82, 0, 1, 0x45, 0, 0x82, 1, 243, 0x54, 1]

/-- The halt is executed out of the cell that it was pushed to, so it does not matter what that cell
held at first. -/
theorem a_pushed_halt_hides_what_was_there :
    ∃ (m : Machine) (memory : Memory), memory.read 243 ≠ m.state.memory.read 243 ∧
      (∀ a, m.ReadsFirst 5 a → memory.read a = m.state.memory.read a) ∧
      (m.after 4).Reads 243 ∧ ((m.withMemory memory).after 4).step.1 = .halted ∧
      ((m.withMemory memory).after 5).sink.text = "System exiting...\n" ∧
      ((m.withMemory memory).after 5).state.memory.read 243 = 1 := by
  let m := start pushedHaltProgram none {}
  have before : m.state.memory.read 243 = 0 ∧ ¬m.ReadsFirst 5 243 := by decide +kernel
  have pushed : (m.after 1).Writes 243 := by decide +kernel
  have behind : (m.after 4).Reads 243 ∧ (m.after 4).step.1 = .halted ∧
      (m.after 5).sink.text = "System exiting...\n" ∧
      (m.after 5).state.memory.read 243 = 1 := by decide +kernel
  clear_value m
  have agree : ∀ a, m.ReadsFirst 5 a →
      (m.state.memory.write 243 99).read a = m.state.memory.read a := by
    intro a read
    apply Memory.read_write_other
    rintro rfl
    exact before.2 read
  obtain ⟨answers, sinks, -, -, -, -, -, cells⟩ := a_run_depends_on_the_cells_it_reads agree
  refine ⟨m, m.state.memory.write 243 99, ?_, agree, behind.1, ?_, ?_, ?_⟩
  · rw [Memory.read_write_same, before.1]
    decide
  · rw [answers 4 (by omega), behind.2.1]
  · rw [sinks 5 (by omega), behind.2.2.1]
  · rw [cells 243 (Or.inr ⟨1, by omega, pushed⟩), behind.2.2.2]

end LS8.Machine
