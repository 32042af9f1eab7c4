-- A limit ends every run, and in time. Each step that leaves the machine running brings the clock
-- one nearer to the limit, and none can take it past the limit. So the distance between them
-- bounds the steps, whatever the machine does, and wherever the clock stood at first.
import LS8.Proofs.History
import LS8.Proofs.Recurrence
import Mathlib.Data.Nat.Find

namespace LS8

/-! ## Answers and results -/

namespace Progress

variable {answer : Progress} {clock : Nat}

theorem result?_eq_ok_iff {cycles : Nat} :
    answer.result? clock = some (.ok cycles) ↔ answer = .halted ∧ cycles = clock := by
  cases answer <;> simp [result?, eq_comm]

theorem result?_eq_error_iff {f : Fault} :
    answer.result? clock = some (.error f) ↔ answer = .fault f := by
  cases answer <;> simp [result?]

theorem result?_of_ended (ended : answer ≠ .running) (clock : Nat) :
    ∃ r, answer.result? clock = some r := by
  cases answer with
  | running => exact absurd rfl ended
  | halted | fault => exact ⟨_, rfl⟩

end Progress

namespace Machine

variable {m last : Machine} {r : Except Fault Nat} {n k : Nat}

/-! ## The clock and the limit -/

/-- The clock does not pass the limit. If it has done so, it stands still. -/
theorem clock_step_le (limit : m.limit = some n) {bound : Nat} (inside : n ≤ bound)
    (le : m.state.clock ≤ bound) : m.step.2.state.clock ≤ bound := by
  rw [clock_of_step]
  cases completes : m.completion? with
  | none => simpa using le
  | some c =>
    have below := clock_lt_of_completion limit completes
    simp only [Option.toList_some, List.length_singleton]
    omega

theorem clock_after_le (limit : m.limit = some n) (k : Nat) :
    (m.after k).state.clock ≤ max m.state.clock n := by
  induction k with
  | zero => exact Nat.le_max_left _ _
  | succ k ih => exact clock_step_le ((limit_after m k).trans limit) (Nat.le_max_right _ _) ih

theorem clock_after_of_running (running : ∀ j < k, (m.after j).step.1 = .running) :
    (m.after k).state.clock = m.state.clock + k :=
  (clock_of_advance (advance_of_running_steps (advance_running_iff.mpr running))).1

theorem step_of_running (running : ∀ j < k + 1, (m.after j).step.1 = .running) :
    (m.after k).step = (.running, m.after (k + 1)) :=
  Prod.ext (running k (Nat.lt_succ_self k)) rfl

/-- What a run has completed is what its clock has gone on by. -/
theorem clock_of_executeWatched {log : List Completion}
    (h : executeWatched noteCompletion [] m = some (log, r, last)) :
    last.state.clock = m.state.clock + log.length := by
  refine executeWatched_keeps (P := fun log t => t.state.clock = m.state.clock + log.length)
    ?_ h rfl
  intro log t counted
  rw [clock_of_step, counted, noteCompletion, List.length_append, Nat.add_assoc]

/-! ## The last step -/

/-- A run with a limit has a last step, and to it there are no more steps than to the limit. -/
theorem exists_last_step (limit : m.limit = some n) : ∃ k ≤ n - m.state.clock,
    (∀ j < k, (m.after j).step.1 = .running) ∧ (m.after k).step.1 ≠ .running := by
  have stops : ∃ k, (m.after k).step.1 ≠ .running := by
    have ends := ends_below_limit limit
    rw [Ne, advance_running_iff] at ends
    simp only [not_forall] at ends
    obtain ⟨k, -, here⟩ := ends
    exact ⟨k, here⟩
  have running : ∀ j < Nat.find stops, (m.after j).step.1 = .running :=
    fun j before => Classical.not_not.mp (Nat.find_min stops before)
  refine ⟨Nat.find stops, ?_, running, Nat.find_spec stops⟩
  cases count : Nat.find stops with
  | zero => exact Nat.zero_le _
  | succ k =>
    -- The step before the last one has left the machine running, so it began below the limit.
    rw [count] at running
    have before := clock_after_of_running fun j lt => running j (Nat.lt_succ_of_lt lt)
    have below := (clock_of_running (step_of_running running)).2.2.2 n
      ((limit_after m k).trans limit)
    omega

theorem execute_of_last_step (running : ∀ j < k, (m.after j).step.1 = .running)
    (result : (m.after k).step.1.result? (m.after (k + 1)).state.clock = some r) :
    execute m = some (r, m.after (k + 1)) := by
  have taken := advance_of_running_steps (advance_running_iff.mpr running)
  rw [execute_of_running_steps taken, execute_eq_some_iff]
  exact .stop rfl result

/-- A step of a machine that has not halted completes an instruction, or fails. -/
theorem completion?_of_fine (awake : m.state.halted = false) (fine : ∀ f, m.step.1 ≠ .fault f) :
    m.completion?.isSome = true := by
  cases completes : m.completion? with
  | some c => rfl
  | none =>
    rcases m.step_cases with ⟨halted, -⟩ | ⟨-, f, -, step⟩ | ⟨i, run, -⟩
    · rw [awake] at halted
      cases halted
    · exact absurd (congrArg Prod.fst step) (fine f)
    · cases answer : m.step.1 with
      | fault f => exact absurd answer (fine f)
      | running | halted => simp [completion?, answer, run] at completes

/-- A machine that has not halted halts by completing an instruction. -/
theorem clock_of_halting (awake : m.state.halted = false) (halts : m.step.1 = .halted) :
    m.step.2.state.clock = m.state.clock + 1 := by
  have fine : ∀ f, m.step.1 ≠ .fault f := by simp [halts]
  obtain ⟨c, completes⟩ := Option.isSome_iff_exists.mp (completion?_of_fine awake fine)
  rw [clock_of_step, completes]
  rfl

theorem awake_before_last_step (awake : m.state.halted = false)
    (running : ∀ j < k, (m.after j).step.1 = .running) : (m.after k).state.halted = false := by
  cases k with
  | zero => exact awake
  | succ k => exact (clock_of_running (step_of_running running)).2.1

/-- The machine that is out of cycles has come to its limit, or was there from the first. -/
theorem clock_of_cut {l : Nat} (limit : m.limit = some n)
    (running : ∀ j < k, (m.after j).step.1 = .running)
    (cut : (m.after k).step.1 = .fault (.outOfCycles l)) :
    l = n ∧ (m.after (k + 1)).state.halted = false ∧
      (m.after (k + 1)).state.clock = max m.state.clock n := by
  have stepped : (m.after k).step = (.fault (.outOfCycles l), m.after (k + 1)) :=
    Prod.ext cut rfl
  obtain ⟨same, awake, reached, le⟩ := step_of_outOfCycles stepped
  rw [limit_after, limit] at reached
  cases reached
  have clock := clock_after_of_running running
  have bound := clock_after_le limit k
  rw [same]
  exact ⟨rfl, awake, by omega⟩

/-- A machine that halts has counted the halt, and all it has counted is below the limit. -/
theorem clock_of_halt (limit : m.limit = some n) (awake : m.state.halted = false)
    (running : ∀ j < k, (m.after j).step.1 = .running) (halts : (m.after k).step.1 = .halted) :
    m.state.clock + 1 ≤ (m.after (k + 1)).state.clock ∧
      (m.after (k + 1)).state.clock ≤ max m.state.clock n := by
  have clock := clock_after_of_running running
  have one_more := clock_of_halting (awake_before_last_step awake running) halts
  refine ⟨?_, clock_after_le limit (k + 1)⟩
  rw [after_succ]
  omega

theorem step_of_zero_limit (limit : m.limit = some 0) (awake : m.state.halted = false) :
    m.step = (.fault (.outOfCycles 0), m) :=
  step_of_fetch_error awake (fetch_of_limit limit (Nat.zero_le _))

/-! ## The law -/

/-- A run with a limit ends with its step `k + 1` at the latest, where `k` is how far the clock is
from the limit, and all steps before the last one leave the machine running. The clock never passes
the limit if it begins below, and else stands still, so two numbers of 64 bits never make a third
that is larger. If the run is out of cycles, the machine has not halted, the clock has come to the
limit and the run has completed as many instructions as there were left. A machine that begins at
zero and halts has counted at least the halt, and no more than the limit. With a limit of zero
nothing happens. -/
theorem a_limit_ends_every_run_in_time (m : Machine) (n : Nat) (limit : m.limit = some n) :
    ∃ k ≤ n - m.state.clock, ∃ (log : List Completion) (r : Except Fault Nat),
      (∀ j < k, (m.after j).step.1 = .running) ∧
      (m.after k).step.1.result? (m.after (k + 1)).state.clock = some r ∧
      execute m = some (r, m.after (k + 1)) ∧
      executeWatched noteCompletion [] m = some (log, r, m.after (k + 1)) ∧
      (∀ j, (m.after j).state.clock ≤ max m.state.clock n) ∧
      (m.state.clock < UInt64.size → n < UInt64.size →
        ∀ j, (m.after j).state.clock < UInt64.size) ∧
      (∀ l, r = .error (.outOfCycles l) → l = n ∧ (m.after (k + 1)).state.halted = false ∧
        (m.after (k + 1)).state.clock = max m.state.clock n ∧
        log.length = n - m.state.clock) ∧
      (∀ cycles, r = .ok cycles → m.state.clock = 0 → m.state.halted = false →
        1 ≤ cycles ∧ cycles ≤ n) ∧
      (n = 0 → m.state.halted = false →
        r = .error (.outOfCycles 0) ∧ m.after (k + 1) = m) := by
  obtain ⟨k, few, running, ended⟩ := exists_last_step limit
  obtain ⟨r, result⟩ := Progress.result?_of_ended ended (m.after (k + 1)).state.clock
  have executed := execute_of_last_step running result
  obtain ⟨⟨log, answer⟩, watched, same⟩ : ∃ w, executeWatched noteCompletion [] m = some w ∧
      w.2 = (r, m.after (k + 1)) := by
    rw [← executeWatched_snd noteCompletion []] at executed
    exact Option.map_eq_some_iff.mp executed
  subst same
  have bounded := clock_after_le limit
  refine ⟨k, few, log, r, running, result, executed, watched, bounded, ?_, ?_, ?_, ?_⟩
  · intro small also j
    exact Nat.lt_of_le_of_lt (bounded j) (Nat.max_lt.mpr ⟨small, also⟩)
  · rintro l rfl
    have cut := Progress.result?_eq_error_iff.mp result
    obtain ⟨same, awake, clock⟩ := clock_of_cut limit running cut
    have counted := clock_of_executeWatched watched
    exact ⟨same, awake, clock, by omega⟩
  · rintro cycles rfl zero awake
    obtain ⟨halts, rfl⟩ := Progress.result?_eq_ok_iff.mp result
    obtain ⟨at_least, at_most⟩ := clock_of_halt limit awake running halts
    exact ⟨by omega, by omega⟩
  · rintro rfl awake
    obtain rfl : k = 0 := by omega
    have stopped := step_of_zero_limit limit awake
    have first : m.after 1 = m := congrArg Prod.snd stopped
    have cut : r = .error (.outOfCycles 0) := by
      change m.step.1.result? _ = some r at result
      rw [stopped] at result
      exact (Option.some.inj result).symm
    exact ⟨cut, first⟩

/-- A loop that is cut at its limit. It begins with two on its clock, so three instructions are
left. -/
theorem a_loop_is_cut_at_its_limit : ∃ m : Machine, m.limit = some 5 ∧ m.state.clock = 2 ∧
    ∃ log last, executeWatched noteCompletion [] m = some (log, .error (.outOfCycles 5), last) ∧
      last.state.halted = false ∧ last.state.clock = 5 ∧ log.length = 3 := by
  let m : Machine :=
    ⟨{ State.start ⟨[0x82, 0, 3, 0x54, 0], by decide⟩ with clock := 2 }, {}, some 5⟩
  have cut : (execute m).map Prod.fst = some (.error (.outOfCycles 5)) := by decide +kernel
  obtain ⟨k, -, log, r, -, -, executed, watched, -, -, out_of_cycles, -⟩ :=
    a_limit_ends_every_run_in_time m 5 rfl
  rw [executed, Option.map_some, Option.some.injEq] at cut
  subst cut
  obtain ⟨-, awake, clock, length⟩ := out_of_cycles 5 rfl
  exact ⟨m, rfl, rfl, log, _, watched, awake, clock, length⟩

end Machine

end LS8
