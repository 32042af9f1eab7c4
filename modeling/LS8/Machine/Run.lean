-- Runs of the machine. A run goes on until the machine halts or faults. Leaving
-- out the clock and the output, a machine has only so many states, so a run that
-- takes more steps than that has come back to one of them and never ends.

import LS8.Machine

namespace LS8.Machine

/-- Takes `k` steps, or fewer if one of them halts or faults. -/
def advance : Nat → Machine → Progress × Machine
  | 0, m => (.running, m)
  | k + 1, m =>
    match m.step with
    | (.running, next) => advance k next
    | answer => answer

/-- Takes steps as `advance` does, and shows the machine to `see` before each of them. -/
def watch {α : Type} (see : α → Machine → α) : Nat → α → Machine → α × Progress × Machine
  | 0, seen, m => (seen, .running, m)
  | k + 1, seen, m =>
    let seen := see seen m
    match m.step with
    | (.running, next) => watch see k seen next
    | answer => (seen, answer)

/-- The number of states that differ in more than the clock: so many program counters, flags,
register files and memories there are. -/
def configurations : Nat := 256 * 256 * Nat.pow 256 8 * Nat.pow 256 256

/-- A number of steps within which every run ends that ends at all. -/
def patience (m : Machine) : Nat :=
  match m.limit with
  | some n => n - m.state.clock + 1
  | none =>
    match m.sink.capacity with
    | .unlimited => configurations + 1
    | .limited room _ => configurations * (room + 1) + 1

/-- Runs the machine to its end and answers with the clock, or with the fault that ended the
run. There is no answer if the run never ends. -/
def execute (m : Machine) : Option (Except Fault Nat × Machine) :=
  match advance m.patience m with
  | (.running, _) => none
  | (.halted, last) => some (.ok last.state.clock, last)
  | (.fault f, last) => some (.error f, last)

/-- Runs the machine to its end as `execute` does, and shows it to `see` before each step. -/
def executeWatched {α : Type} (see : α → Machine → α) (seen : α) (m : Machine) :
    Option (α × Except Fault Nat × Machine) :=
  match watch see m.patience seen m with
  | (_, .running, _) => none
  | (seen, .halted, last) => some (seen, .ok last.state.clock, last)
  | (seen, .fault f, last) => some (seen, .error f, last)

/-- Counts the steps that leave the machine running, up to `k` of them, and gives what the
last step answered. -/
def countSteps (k : Nat) (m : Machine) : Nat × Progress × Machine :=
  match watch (fun n _ => n + 1) k 0 m with
  | (n, .running, last) => (n, .running, last)
  | (n, answer, last) => (n - 1, answer, last)

/-! ## Single steps -/

@[simp] theorem advance_zero (m : Machine) : advance 0 m = (.running, m) := rfl

theorem advance_of_running {m next : Machine} (h : m.step = (.running, next)) (k : Nat) :
    advance (k + 1) m = advance k next := by
  simp [advance, h]

theorem advance_of_ended {m last : Machine} {answer : Progress} (h : m.step = (answer, last))
    (ended : answer ≠ .running) (k : Nat) : advance (k + 1) m = (answer, last) := by
  cases answer <;> simp_all [advance]

/-- Watching changes nothing. -/
theorem watch_snd {α : Type} (see : α → Machine → α) (k : Nat) (seen : α) (m : Machine) :
    (watch see k seen m).2 = advance k m := by
  induction k generalizing seen m with
  | zero => rfl
  | succ k ih =>
    rcases h : m.step with ⟨answer, next⟩
    cases answer with
    | running => simp [watch, advance, h, ih]
    | halted => simp [watch, advance, h]
    | fault f => simp [watch, advance, h]

theorem executeWatched_snd {α : Type} (see : α → Machine → α) (seen : α) (m : Machine) :
    (executeWatched see seen m).map (·.2) = execute m := by
  have h := watch_snd see m.patience seen m
  unfold executeWatched execute
  rw [← h]
  rcases watch see m.patience seen m with ⟨_, answer, last⟩
  cases answer <;> rfl

/-! ## Steps in parts -/

/-- Steps taken in two parts are the steps taken in one, if the first part ends nothing. -/
theorem advance_add {j : Nat} {m next : Machine} (h : advance j m = (.running, next)) (k : Nat) :
    advance (j + k) m = advance k next := by
  induction j generalizing m with
  | zero =>
    cases h
    rw [Nat.zero_add]
  | succ j ih =>
    rw [Nat.succ_add]
    rcases hm : m.step with ⟨answer, mid⟩
    by_cases running : answer = .running
    · subst running
      rw [advance_of_running hm] at h ⊢
      exact ih h
    · rw [advance_of_ended hm running] at h
      cases h
      exact absurd rfl running

/-- A run that has ended is not changed by more steps. -/
theorem advance_after_end {j k : Nat} {m last : Machine} {answer : Progress}
    (h : advance j m = (answer, last)) (ended : answer ≠ .running) (le : j ≤ k) :
    advance k m = (answer, last) := by
  induction j generalizing m k with
  | zero =>
    cases h
    exact absurd rfl ended
  | succ j ih =>
    obtain ⟨k, rfl⟩ : ∃ i, k = i + 1 := ⟨k - 1, by omega⟩
    rcases hm : m.step with ⟨first, mid⟩
    by_cases running : first = .running
    · subst running
      rw [advance_of_running hm] at h ⊢
      exact ih h (by omega)
    · rw [advance_of_ended hm running] at h ⊢
      exact h

end LS8.Machine
