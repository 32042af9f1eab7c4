-- The flags as a record of the last comparison. No other instruction touches them and no fault
-- does, so they say how two numbers compared long after their registers have changed, and a jump
-- that asks for equal numbers asks about those two.
import LS8.Proofs.History

namespace LS8

/-! ## The flags and one comparison -/

/-- The flags record how the numbers compare that were compared last: of the three flags the one
that is so is set, and no other. If no numbers were compared, no flag is set. -/
def Flags.Records (f : Flags) : Option (Byte × Byte) → Prop
  | .none => f.bits = 0
  | .some (x, y) =>
    (f = equal ∨ f = greater ∨ f = less) ∧
      (f.contains equal = true ↔ x.toNat = y.toNat) ∧
      (f.contains greater = true ↔ y.toNat < x.toNat) ∧
      (f.contains less = true ↔ x.toNat < y.toNat)

theorem Flags.records_compare (x y : Byte) : (compare x y).Records (some (x, y)) := by
  have equal_only : equal.contains equal = true ∧ equal.contains greater = false ∧
      equal.contains less = false := by decide
  have greater_only : greater.contains equal = false ∧ greater.contains greater = true ∧
      greater.contains less = false := by decide
  have less_only : less.contains equal = false ∧ less.contains greater = false ∧
      less.contains less = true := by decide
  unfold Records
  rcases Nat.lt_trichotomy x.toNat y.toNat with lt | eq | gt
  · rw [compare_of_lt (UInt8.lt_iff_toNat_lt.mpr lt)]
    simp only [less_only, or_true, true_and, reduceCtorEq, false_iff, true_iff]
    omega
  · rw [UInt8.toNat_inj.mp eq, compare_self]
    simp only [equal_only, true_or, true_and, reduceCtorEq, false_iff]
    omega
  · rw [compare_of_gt (UInt8.lt_iff_toNat_lt.mpr gt)]
    simp only [greater_only, true_or, or_true, true_and, reduceCtorEq, false_iff, true_iff]
    omega

namespace State

/-- Of all instructions, only an operation of the arithmetic unit touches the flags. -/
theorem flags_execute (s : State) (i : Instruction) :
    (s.execute i).2.flags = match i with
      | .alu op a b => (op.flags? (s.get a) (s.get b)).getD s.flags
      | _ => s.flags := by
  cases i with
  | hlt | prn | ldi | alu => rfl
  | ret | push | pop =>
    simp only [execute]
    split <;> rfl
  | branch op =>
    cases op with
    | jmp | jeq | jne => rfl
    | call =>
      simp only [execute]
      split <;> rfl

end State

/-- The numbers that the instruction compared, if it was a comparison: what its registers held when
it was begun. -/
def Completion.compared? (c : Completion) : Option (Byte × Byte) :=
  match c.instruction with
  | .alu .cmp a b => some (c.before.get a, c.before.get b)
  | _ => none

theorem State.flags_completed (c : Completion) :
    (c.before.execute c.instruction).2.flags =
      match c.compared? with
      | some (x, y) => Flags.compare x y
      | none => c.before.flags := by
  obtain ⟨i, s⟩ := c
  rw [flags_execute]
  cases i with
  | alu op a b => cases op <;> rfl
  | _ => rfl

/-! ## The flags over a history -/

/-- The numbers that were compared last, if any were. -/
def lastCompared? (log : List Completion) : Option (Byte × Byte) :=
  (log.filterMap Completion.compared?).getLast?

theorem lastCompared?_append (log : List Completion) (c : Completion) :
    lastCompared? (log ++ [c]) = c.compared?.or (lastCompared? log) := by
  unfold lastCompared?
  rw [List.filterMap_append, List.getLast?_append, List.filterMap_cons]
  cases c.compared? <;> rfl

/-- The last comparison found its operands equal. -/
def lastEqual (log : List Completion) : Bool :=
  (lastCompared? log).any fun (x, y) => x == y

/-- The flags after a comparison of these numbers, or as they are at first. -/
def flagsAfter : Option (Byte × Byte) → Flags
  | none => Flags.none
  | some (x, y) => Flags.compare x y

theorem records_flagsAfter (compared : Option (Byte × Byte)) :
    (flagsAfter compared).Records compared := by
  cases compared with
  | none => rfl
  | some pair => exact Flags.records_compare pair.1 pair.2

theorem contains_equal_flagsAfter (log : List Completion) :
    (flagsAfter (lastCompared? log)).contains Flags.equal = lastEqual log := by
  unfold lastEqual
  cases lastCompared? log with
  | none => rfl
  | some pair =>
    rw [Option.any_some]
    exact Flags.compare_contains_equal pair.1 pair.2

namespace Machine

variable {m : Machine}

theorem flags_of_step (m : Machine) :
    m.step.2.state.flags = match m.completion?.bind Completion.compared? with
      | some (x, y) => Flags.compare x y
      | none => m.state.flags := by
  cases completes : m.completion? with
  | none =>
    rcases step_of_no_completion completes with stopped | ⟨f, fault⟩
    · rw [stopped]
      rfl
    · exact (unchanged_by_fault fault).2.1
  | some c =>
    obtain ⟨before, -, -, -, state, -⟩ := step_of_completion completes
    rw [state, ← before, Option.bind_some]
    exact State.flags_completed c

/-- A jump is always completed. -/
theorem step_of_branch {op : BranchOp} {r : Register} (run : m.executed? = some (.branch op r))
    (no_call : op ≠ .call) : m.step = m.withState (m.state.execute (.branch op r)) ∧
      m.step.1 = .running := by
  obtain ⟨awake, fetched⟩ := executed?_eq_some_iff.mp run
  have step : m.step = m.withState (m.state.execute (.branch op r)) := by
    rw [step_of_fetch_ok awake fetched]
    rfl
  refine ⟨step, ?_⟩
  rw [step]
  cases op with
  | call => exact absurd rfl no_call
  | jmp | jeq | jne => rfl

end Machine

theorem flagsAfter_step (log : List Completion) (m : Machine)
    (h : m.state.flags = flagsAfter (lastCompared? log)) :
    m.step.2.state.flags = flagsAfter (lastCompared? (m.noteCompletion log)) := by
  rw [Machine.flags_of_step]
  unfold Machine.noteCompletion
  cases m.completion? with
  | none => simpa using h
  | some c =>
    rw [Option.toList_some, lastCompared?_append, Option.bind_some]
    cases c.compared? with
    | none => simpa using h
    | some pair => rfl

/-! ## The law -/

/-- Whatever is called for, the flags record the numbers that were compared last, as the registers
held them at that comparison. So a jump on equal numbers goes to its target exactly if there was a
comparison and the last one found its operands equal, and a jump on other numbers exactly if not.
No instruction but a comparison changes the flags, and no fault does. -/
theorem the_flags_record_the_last_comparison (p : Program) (limit : Option Nat) (sink : Sink)
    (cs : List Call) (t : History) (called : (History.fresh p limit sink).calls cs = some t) :
    t.machine.state.flags.Records (lastCompared? t.completed) ∧
    (∀ r, t.machine.executed? = some (.branch .jeq r) →
      t.machine.step.1 = .running ∧ t.machine.step.2.state.pc =
        if lastEqual t.completed then t.machine.state.get r else t.machine.state.pc + 2) ∧
    (∀ r, t.machine.executed? = some (.branch .jne r) →
      t.machine.step.1 = .running ∧ t.machine.step.2.state.pc =
        if lastEqual t.completed then t.machine.state.pc + 2 else t.machine.state.get r) ∧
    (∀ (m : Machine) (i : Instruction), m.executed? = some i → (∀ a b, i ≠ .alu .cmp a b) →
      m.step.2.state.flags = m.state.flags) ∧
    ∀ (m : Machine) (f : Fault), m.step.1 = .fault f → m.step.2.state.flags = m.state.flags := by
  have flags : t.machine.state.flags = flagsAfter (lastCompared? t.completed) :=
    History.calls_keep (P := fun log m => m.state.flags = flagsAfter (lastCompared? log))
      flagsAfter_step called rfl
  have behind : ∀ (s : State) (op : BranchOp) (r : Register),
      s.following (.branch op r) = s.pc + 2 :=
    fun s op r => State.following_of_width (Opcode.width_branch op)
  refine ⟨?_, ?_, ?_, ?_, fun m f fault => (Machine.unchanged_by_fault fault).2.1⟩
  · rw [flags]
    exact records_flagsAfter _
  · intro r run
    obtain ⟨step, running⟩ := Machine.step_of_branch run (by decide)
    refine ⟨running, ?_⟩
    rw [step, ← contains_equal_flagsAfter, ← flags, ← behind]
    rfl
  · intro r run
    obtain ⟨step, running⟩ := Machine.step_of_branch run (by decide)
    refine ⟨running, ?_⟩
    rw [step, ← contains_equal_flagsAfter, ← flags, ← behind]
    rfl
  · intro m i run other
    rw [Machine.flags_of_step]
    cases completes : m.completion? with
    | none => rfl
    | some c =>
      obtain ⟨-, executed, -⟩ := Machine.step_of_completion completes
      have same : c.instruction = i := Option.some.inj (executed.symm.trans run)
      have silent : c.compared? = none := by
        unfold Completion.compared?
        split
        · rename_i a b compares
          exact absurd (same.symm.trans compares) (other a b)
        · rfl
      rw [Option.bind_some, silent]

/-- A comparison of two zeros, of which one is then overwritten, and a jump on equal numbers. -/
def comparingProgram : Program where
  image := [0x82, 1, 13, 0xA7, 0, 2, 0x82, 0, 9, 0x55, 1, 0, 0, 1]

/-- The jump is taken, though its time finds the registers different. -/
theorem a_comparison_outlives_its_registers :
    ∃ t, (History.fresh comparingProgram none {}).calls [.step, .step, .step] = some t ∧
      t.machine.executed? = some (.branch .jeq 1) ∧ lastCompared? t.completed = some (0, 0) ∧
      t.machine.state.get 0 = 9 ∧ t.machine.state.get 2 = 0 ∧
      t.machine.state.flags.contains Flags.equal = true ∧ t.machine.step.2.state.pc = 13 := by
  have facts : ((History.fresh comparingProgram none {}).calls [.step, .step, .step]).map
      (fun t => (t.machine.executed?, lastCompared? t.completed, t.machine.state.get 0,
        t.machine.state.get 1, t.machine.state.get 2)) =
      some (some (.branch .jeq 1), some (0, 0), 9, 13, 0) := by decide +kernel
  obtain ⟨t, called, found⟩ := Option.map_eq_some_iff.mp facts
  simp only [Prod.mk.injEq] at found
  obtain ⟨run, compared, first, target, second⟩ := found
  have law := the_flags_record_the_last_comparison _ _ _ _ t called
  obtain ⟨flags, jumps, -⟩ := law
  have goes := (jumps 1 run).2
  rw [compared] at flags
  rw [lastEqual, compared, target] at goes
  exact ⟨t, called, run, compared, first, second, flags.2.1.mpr rfl, goes⟩

end LS8
