-- Runs, step after step. Each step that leaves the machine running completes one
-- instruction, which the clock counts. A run ends when a step halts or faults.
import LS8.Machine.Run
import LS8.Proofs.Decoding
import LS8.Proofs.Stepping

namespace LS8

/-- The result of a run whose last step gives this answer, with the clock as that step leaves it.
There is none if the machine runs on. -/
def Progress.result? (clock : Nat) : Progress → Option (Except Fault Nat)
  | .running => none
  | .halted => some (.ok clock)
  | .fault f => some (.error f)

namespace Machine

variable {m next last t : Machine} {r : Except Fault Nat} {f : Fault} {j k n : Nat}

/-! ## One step of a run -/

theorem limit_step (m : Machine) : m.step.2.limit = m.limit := by
  rcases m.step_cases with ⟨-, step⟩ | ⟨-, f, -, step⟩ | ⟨i, -, step⟩
  · rw [step]
  · rw [step]
  · rw [step]
    cases refused : m.refusal? i with
    | some e =>
      obtain ⟨line, -, -, performed⟩ := perform_of_refusal refused
      rw [performed]
    | none =>
      obtain ⟨sink, -, performed⟩ := perform_of_no_refusal refused
      rw [performed]
      rfl

theorem limit_of_step {answer : Progress} (h : m.step = (answer, next)) :
    next.limit = m.limit := by
  have kept := limit_step m
  rwa [h] at kept

/-- The text that the next step writes, if the sink takes it. -/
def written (m : Machine) : String := (m.executed?.bind m.state.line?).getD ""

theorem written_of_executed {i : Instruction} (run : m.executed? = some i) :
    m.written = (m.state.line? i).getD "" := by
  simp [written, run]

/-- A sink without a bound takes what the step writes. -/
theorem sink_of_step (open_sink : m.sink.capacity = .unlimited) :
    m.step.2.sink = ⟨m.sink.text ++ m.written, .unlimited⟩ := by
  have silent (idle : m.executed? = none) : m.sink = ⟨m.sink.text ++ m.written, .unlimited⟩ := by
    simp [written, idle, ← open_sink]
  rcases m.step_cases with ⟨halted, step⟩ | ⟨halted, f, fetched, step⟩ | ⟨i, run, step⟩
  · rw [step]
    exact silent (by simp [executed?, halted])
  · rw [step]
    exact silent (by simp [executed?, halted, fetched, Except.toOption])
  · rw [step, perform_of_unlimited open_sink, written_of_executed run]
    rfl

/-- A step that leaves the machine running has executed an instruction. -/
theorem executed_of_running (h : m.step = (.running, next)) :
    ∃ i, m.executed? = some i ∧ m.state.execute i = (.running, next.state) ∧
      next.sink.text = m.sink.text ++ (m.state.line? i).getD "" := by
  rcases m.step_cases with ⟨-, step⟩ | ⟨-, f, -, step⟩ | ⟨i, run, -⟩
  · rw [step] at h
    cases h
  · rw [step] at h
    cases h
  · have fine : ∀ f, m.step.1 ≠ .fault f := by simp [h]
    obtain ⟨-, sink, text, step⟩ := step_of_executed run fine
    rw [h, withState, Prod.mk.injEq] at step
    obtain ⟨answer, rfl⟩ := step
    exact ⟨i, run, Prod.ext answer.symm rfl, text⟩

/-- The clock counts the instruction, and stood below the limit before. -/
theorem clock_of_running (h : m.step = (.running, next)) :
    m.state.halted = false ∧ next.state.halted = false ∧
      next.state.clock = m.state.clock + 1 ∧ ∀ n ∈ m.limit, m.state.clock < n := by
  obtain ⟨i, run, executed, -⟩ := executed_of_running h
  obtain ⟨halted, fetched⟩ := executed?_eq_some_iff.mp run
  have counted := State.clock_of_execute (congrArg Prod.fst executed)
  rw [executed] at counted
  refine ⟨halted, counted.2.trans halted, counted.1, fun n limit => Nat.lt_of_not_le ?_⟩
  intro reached
  rw [fetch_of_limit limit reached] at fetched
  cases fetched

/-- Only a clock that has reached the limit is out of cycles, and then nothing has been done. -/
theorem step_of_outOfCycles (h : m.step = (.fault (.outOfCycles n), last)) :
    last = m ∧ m.state.halted = false ∧ m.limit = some n ∧ n ≤ m.state.clock := by
  obtain ⟨halted, fetched | ⟨i, -, stack | ⟨e, -, output⟩⟩⟩ :=
    step_fault_iff.mp (congrArg Prod.fst h)
  · rw [step_of_fetch_error halted fetched] at h
    cases h
    refine ⟨rfl, halted, ?_⟩
    unfold fetch at fetched
    split at fetched
    · rename_i reached
      cases fetched
      unfold reachedLimit? at reached
      split at reached
      · rename_i limit
        simp only [Option.ite_none_right_eq_some] at reached
        obtain ⟨le, same⟩ := reached
        cases same
        exact ⟨limit, le⟩
      · cases reached
    · rcases Instruction.decode_eq_error fetched with bad | ⟨_, bad⟩ | ⟨_, bad⟩ <;> cases bad
  · rcases State.stackFault?_eq_some stack with bad | bad <;> cases bad
  · cases output

/-! ## Steps in a row -/

/-- The machine after `k` steps. -/
def after (m : Machine) : Nat → Machine
  | 0 => m
  | k + 1 => (m.after k).step.2

theorem advance_one (m : Machine) : advance 1 m = m.step := by
  rcases h : m.step with ⟨answer, next⟩
  by_cases running : answer = .running
  · subst running
    rw [advance_of_running h, advance_zero]
  · rw [advance_of_ended h running]

theorem advance_succ_running_iff : advance (k + 1) m = (.running, t) ↔
    ∃ next, m.step = (.running, next) ∧ advance k next = (.running, t) := by
  constructor
  · intro h
    rcases hm : m.step with ⟨answer, next⟩
    by_cases running : answer = .running
    · subst running
      rw [advance_of_running hm] at h
      exact ⟨next, rfl, h⟩
    · rw [advance_of_ended hm running] at h
      cases h
      exact absurd rfl running
  · rintro ⟨next, step, rest⟩
    rwa [advance_of_running step]

/-- Steps that leave the machine running do so one by one. -/
theorem advance_running_of_le (h : (advance k m).1 = .running) (le : j ≤ k) :
    (advance j m).1 = .running := by
  rcases hj : advance j m with ⟨answer, last⟩
  by_cases running : answer = .running
  · exact running
  · rw [advance_after_end hj running le] at h
    exact h

theorem after_succ (m : Machine) (k : Nat) : m.after (k + 1) = (m.after k).step.2 := rfl

theorem after_add (m : Machine) (j k : Nat) : m.after (j + k) = (m.after j).after k := by
  induction k with
  | zero => rfl
  | succ k ih =>
    rw [← Nat.add_assoc, after_succ, after_succ, ih]

theorem after_succ_of_step (h : m.step.2 = next) (k : Nat) : m.after (k + 1) = next.after k := by
  rw [Nat.add_comm, after_add, ← h]
  rfl

theorem limit_after (m : Machine) (k : Nat) : (m.after k).limit = m.limit := by
  induction k with
  | zero => rfl
  | succ k ih => exact (limit_step _).trans ih

theorem capacity_after (open_sink : m.sink.capacity = .unlimited) (k : Nat) :
    (m.after k).sink.capacity = .unlimited := by
  induction k with
  | zero => exact open_sink
  | succ k ih => rw [after_succ, sink_of_step ih]

/-- Steps that leave the machine running are all taken. -/
theorem advance_running_iff : (advance k m).1 = .running ↔
    ∀ j < k, (m.after j).step.1 = .running := by
  induction k generalizing m with
  | zero => simp
  | succ k ih =>
    rcases hm : m.step with ⟨answer, next⟩
    have shift : ∀ j, m.after (j + 1) = next.after j := after_succ_of_step (by rw [hm])
    by_cases running : answer = .running
    · subst running
      rw [advance_of_running hm, ih]
      constructor
      · intro all j lt
        cases j with
        | zero => exact congrArg Prod.fst hm
        | succ j =>
          rw [shift]
          exact all j (Nat.lt_of_succ_lt_succ lt)
      · intro all j lt
        rw [← shift]
        exact all (j + 1) (Nat.succ_lt_succ lt)
    · rw [advance_of_ended hm running]
      constructor
      · intro bad
        exact absurd bad running
      · intro all
        exact absurd ((congrArg Prod.fst hm).symm.trans (all 0 (Nat.succ_pos k))) running

theorem advance_of_running_steps (h : (advance k m).1 = .running) :
    advance k m = (.running, m.after k) := by
  induction k generalizing m with
  | zero => rfl
  | succ k ih =>
    obtain ⟨next, step, rest⟩ := advance_succ_running_iff.mp (Prod.ext h rfl)
    rw [advance_of_running step, ih (congrArg Prod.fst rest),
      after_succ_of_step (congrArg Prod.snd step)]

theorem clock_of_advance (h : advance k m = (.running, t)) :
    t.state.clock = m.state.clock + k ∧ t.limit = m.limit := by
  induction k generalizing m with
  | zero =>
    cases h
    exact ⟨rfl, rfl⟩
  | succ k ih =>
    obtain ⟨next, step, rest⟩ := advance_succ_running_iff.mp h
    obtain ⟨clock, limit⟩ := ih rest
    have counted := (clock_of_running step).2.2.1
    exact ⟨by omega, limit.trans (limit_of_step step)⟩

/-! ## The end of a run -/

/-- The run of a machine ends with a result and leaves a machine behind. -/
inductive Ends : Machine → Except Fault Nat → Machine → Prop
  | stop {m last : Machine} {answer : Progress} {r : Except Fault Nat}
      (h : m.step = (answer, last)) (result : answer.result? last.state.clock = some r) :
      Ends m r last
  | step {m next last : Machine} {r : Except Fault Nat} (h : m.step = (.running, next))
      (rest : Ends next r last) : Ends m r last

theorem ends_iff_of_running (h : m.step = (.running, next)) : Ends m r last ↔ Ends next r last := by
  constructor
  · intro ends
    cases ends with
    | stop step result =>
      rw [h] at step
      cases step
      cases result
    | step step rest =>
      rw [h] at step
      cases step
      exact rest
  · exact Ends.step h

theorem ends_iff_of_advance (h : advance j m = (.running, t)) :
    Ends m r last ↔ Ends t r last := by
  induction j generalizing m with
  | zero =>
    cases h
    exact Iff.rfl
  | succ j ih =>
    obtain ⟨next, step, rest⟩ := advance_succ_running_iff.mp h
    rw [ends_iff_of_running step, ih rest]

/-- A run ends when enough steps come to an answer that is a result. -/
theorem ends_iff_advance : Ends m r last ↔
    ∃ k answer, advance k m = (answer, last) ∧ answer.result? last.state.clock = some r := by
  constructor
  · intro h
    induction h with
    | stop step result => exact ⟨1, _, by rw [advance_one, step], result⟩
    | step step _ ih =>
      obtain ⟨k, answer, taken, result⟩ := ih
      exact ⟨k + 1, answer, by rwa [advance_of_running step], result⟩
  · rintro ⟨k, answer, taken, result⟩
    induction k generalizing m with
    | zero =>
      cases taken
      cases result
    | succ k ih =>
      rcases hm : m.step with ⟨first, next⟩
      by_cases running : first = .running
      · subst running
        rw [advance_of_running hm] at taken
        exact .step hm (ih taken)
      · rw [advance_of_ended hm running] at taken
        cases taken
        exact .stop hm result

end Machine

end LS8
