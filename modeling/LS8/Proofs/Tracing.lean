-- The trace of a run. A line shows the state before a step, and there is one for each step that
-- comes to an instruction: for each instruction that is completed, and for one that the stack
-- stops. A step that finds no instruction, or no cycle left for it, leaves no line.
import LS8.Machine.Trace
import LS8.Proofs.TimeLimit

namespace LS8

/-- Whether the fault is that of an instruction for which the stack has no room. -/
def Fault.isOfStack : Fault → Bool
  | .stackOverflow _ | .stackUnderflow _ => true
  | _ => false

/-- Whether the fault is that there is no instruction to execute, or no cycle left for it. -/
def Fault.isOfFetch : Fault → Bool
  | .unknownOpcode _ _ | .invalidRegister _ _ | .invalidAccess _ _ | .outOfCycles _ => true
  | _ => false

namespace Machine

variable {m last : Machine} {answer : Progress} {r : Except Fault Nat} {f : Fault} {k n : Nat}

/-! ## The machines before each step -/

/-- The machines before each of the first `k` steps. -/
def befores (m : Machine) (k : Nat) : List Machine := (List.range k).map m.after

theorem befores_succ_of_step {next : Machine} (h : m.step.2 = next) (k : Nat) :
    m.befores (k + 1) = m :: next.befores k := by
  unfold befores
  rw [List.range_succ_eq_map, List.map_cons, List.map_map]
  congr 1
  apply List.map_congr_left
  intro j _
  exact after_succ_of_step h j

theorem befores_succ (m : Machine) (k : Nat) : m.befores (k + 1) = m.befores k ++ [m.after k] := by
  unfold befores
  rw [List.range_succ, List.map_append, List.map_singleton]

theorem mem_befores_iff {t : Machine} : t ∈ m.befores k ↔ ∃ j < k, m.after j = t := by
  simp [befores]

/-- Steps that come to an end have a last one among them. -/
theorem last_step_of_advance (h : advance n m = (answer, last)) (ended : answer ≠ .running) :
    ∃ k < n, (∀ j < k, (m.after j).step.1 = .running) ∧ (m.after k).step = (answer, last) := by
  induction n generalizing m with
  | zero =>
    cases h
    exact absurd rfl ended
  | succ n ih =>
    rcases hm : m.step with ⟨first, next⟩
    by_cases running : first = .running
    · subst running
      rw [advance_of_running hm] at h
      obtain ⟨k, lt, before, here⟩ := ih h
      have shift : ∀ j, m.after (j + 1) = next.after j := after_succ_of_step (by rw [hm])
      refine ⟨k + 1, Nat.succ_lt_succ lt, ?_, by rw [shift, here]⟩
      intro j lt
      cases j with
      | zero => exact congrArg Prod.fst hm
      | succ j =>
        rw [shift]
        exact before j (Nat.lt_of_succ_lt_succ lt)
    · rw [advance_of_ended hm running] at h
      exact ⟨0, Nat.succ_pos n, fun j none => absurd none (Nat.not_lt_zero j), hm.trans h⟩

/-- To watch is to fold over the machines before each step, the last one included. -/
theorem watch_of_last_step {α : Type} (see : α → Machine → α) (seen : α)
    (running : ∀ j < k, (m.after j).step.1 = .running) (ended : (m.after k).step.1 ≠ .running)
    (enough : k < n) :
    watch see n seen m = ((m.befores (k + 1)).foldl see seen, (m.after k).step) := by
  induction k generalizing m n seen with
  | zero =>
    obtain ⟨n, rfl⟩ : ∃ i, n = i + 1 := ⟨n - 1, by omega⟩
    rcases hm : m.step with ⟨first, next⟩
    change m.step.1 ≠ .running at ended
    rw [hm] at ended
    rw [befores_succ_of_step rfl]
    cases first with
    | running => exact absurd rfl ended
    | halted | fault => simp [watch, after, befores, hm]
  | succ k ih =>
    obtain ⟨n, rfl⟩ : ∃ i, n = i + 1 := ⟨n - 1, by omega⟩
    have first : m.step.1 = .running := running 0 (Nat.succ_pos k)
    rcases hm : m.step with ⟨answer, next⟩
    rw [hm] at first
    subst first
    have shift : ∀ j, m.after (j + 1) = next.after j := after_succ_of_step (by rw [hm])
    have rest := @ih next n (see seen m)
      (fun j lt => by rw [← shift]; exact running (j + 1) (Nat.succ_lt_succ lt))
      (by rwa [← shift]) (Nat.lt_of_succ_lt_succ enough)
    rw [befores_succ_of_step (congrArg Prod.snd hm), List.foldl_cons, shift, ← rest]
    simp [watch, hm]

/-- A run that ends has a last step, and whoever watches sees the machine before each step up to
that one. -/
theorem last_step_of_execute (h : execute m = some (r, last)) :
    ∃ k, (∀ j < k, (m.after j).step.1 = .running) ∧ last = m.after (k + 1) ∧
      (m.after k).step.1.result? last.state.clock = some r ∧
      ∀ {α : Type} (see : α → Machine → α) (seen : α),
        executeWatched see seen m = some ((m.befores (k + 1)).foldl see seen, r, last) := by
  rw [execute_eq] at h
  obtain ⟨r, result, same⟩ := Option.map_eq_some_iff.mp h
  cases same
  rcases taken : advance m.patience m with ⟨answer, last⟩
  rw [taken] at result
  have ended : answer ≠ .running := by
    rintro rfl
    cases result
  obtain ⟨k, enough, running, here⟩ := last_step_of_advance taken ended
  refine ⟨k, running, ?_, ?_, ?_⟩
  · rw [after_succ, here]
  · rw [here]
    exact result
  · intro α see seen
    have watched := watch_of_last_step see seen running (by rwa [here]) enough
    rw [here] at watched
    unfold executeWatched
    rw [watched]
    cases answer with
    | running => exact absurd rfl ended
    | halted | fault =>
      cases result
      rfl

/-! ## The lines of the trace -/

/-- The lines of the trace of the first `k` steps: of each step that comes to an instruction, the
state before it. -/
def traceLines (m : Machine) (k : Nat) : List String :=
  ((m.befores k).filter (·.executed?.isSome)).map (·.state.traceLine)

/-- A text made of these lines. -/
def textOfLines (lines : List String) : String := String.join (lines.map (· ++ "\n"))

theorem textOfLines_append (a b : List String) :
    textOfLines (a ++ b) = textOfLines a ++ textOfLines b := by
  simp [textOfLines, String.join_append]

theorem noteStep_eq (shown : String) (m : Machine) :
    noteStep shown m =
      shown ++ textOfLines (if m.executed?.isSome then [m.state.traceLine] else []) := by
  unfold noteStep executed?
  cases m.state.halted with
  | true => simp [textOfLines]
  | false => cases m.fetch <;> simp [textOfLines, Except.toOption, String.append_assoc]

theorem foldl_noteStep (ms : List Machine) (shown : String) :
    ms.foldl noteStep shown = shown ++
      textOfLines ((ms.filter (·.executed?.isSome)).map (·.state.traceLine)) := by
  induction ms generalizing shown with
  | nil => simp [textOfLines]
  | cons m ms ih =>
    rw [List.foldl_cons, ih, noteStep_eq, String.append_assoc, ← textOfLines_append]
    by_cases here : m.executed?.isSome = true <;> simp [here]

/-! ## Which steps have a line -/

theorem refusal?_of_unlimited (open_sink : m.sink.capacity = .unlimited) (i : Instruction) :
    m.refusal? i = none := by
  unfold refusal?
  cases m.state.line? i with
  | none => rfl
  | some line => simp [Sink.write, open_sink]

theorem isOfFetch_of_fetch (h : m.fetch = .error f) : f.isOfFetch = true := by
  unfold fetch at h
  split at h
  · cases h
    rfl
  · rcases Instruction.decode_eq_error h with rfl | ⟨_, rfl⟩ | ⟨_, rfl⟩ <;> rfl

/-- A step into a sink without a bound fails before it has an instruction, and there is no line, or
it has one that the stack stops, and there is a line. -/
theorem line_of_fault (open_sink : m.sink.capacity = .unlimited) (h : m.step.1 = .fault f) :
    (f.isOfFetch = true ∧ m.executed? = none) ∨
      (f.isOfStack = true ∧ m.executed?.isSome = true) := by
  obtain ⟨halted, fetched | ⟨i, fetched, stack | ⟨e, refused, -⟩⟩⟩ := step_fault_iff.mp h
  · exact Or.inl ⟨isOfFetch_of_fetch fetched, by simp [executed?, halted, fetched, Except.toOption]⟩
  · refine Or.inr ⟨?_, by simp [executed?_eq_some_iff.mpr ⟨halted, fetched⟩]⟩
    rcases State.stackFault?_eq_some stack with rfl | rfl <;> rfl
  · rw [refusal?_of_unlimited open_sink] at refused
    cases refused

/-- A completed instruction has a line. -/
theorem executed?_of_completion (h : m.completion?.isSome = true) : m.executed?.isSome = true := by
  obtain ⟨c, completes⟩ := Option.isSome_iff_exists.mp h
  simp [(step_of_completion completes).2.1]

/-- A step of a machine that has not halted has a line, unless it fails. -/
theorem line_of_fine (awake : m.state.halted = false) (fine : ∀ f, m.step.1 ≠ .fault f) :
    m.completion?.isSome = true ∧ m.executed?.isSome = true :=
  have completes := completion?_of_fine awake fine
  ⟨completes, executed?_of_completion completes⟩

/-- A run that halts has a line for each instruction that it has counted. -/
theorem length_traceLines_of_halt (awake : m.state.halted = false) (zero : m.state.clock = 0)
    (running : ∀ j < k, (m.after j).step.1 = .running) (halts : (m.after k).step.1 = .halted) :
    (m.traceLines (k + 1)).length = (m.after (k + 1)).state.clock := by
  have all : ∀ t ∈ m.befores (k + 1), t.executed?.isSome = true := by
    intro t mem
    obtain ⟨j, lt, rfl⟩ := mem_befores_iff.mp mem
    have still : (m.after j).state.halted = false :=
      awake_before_last_step awake fun i before => running i (by omega)
    refine (line_of_fine still ?_).2
    intro f bad
    by_cases before : j < k
    · simp [running j before] at bad
    · rw [show j = k by omega, halts] at bad
      cases bad
  have counted := clock_of_halting (awake_before_last_step awake running) halts
  rw [after_succ, counted, clock_after_of_running running, zero]
  unfold traceLines
  rw [List.filter_eq_self.mpr all]
  simp [befores]

/-- What the steps of a run come to, from a machine that has not halted to its last step `k`, if
its sink has no bound. -/
theorem lines_of_run (awake : m.state.halted = false) (zero : m.state.clock = 0)
    (open_sink : m.sink.capacity = .unlimited)
    (running : ∀ j < k, (m.after j).step.1 = .running)
    (result : (m.after k).step.1.result? (m.after (k + 1)).state.clock = some r) :
    (∀ j < k, (m.after j).completion?.isSome = true ∧ (m.after j).executed?.isSome = true) ∧
      (∀ cycles, r = .ok cycles → (m.after k).completion?.isSome = true ∧
        (m.after k).executed?.isSome = true ∧ cycles = (m.traceLines (k + 1)).length) ∧
      ∀ f, r = .error f → (m.after k).completion? = none ∧
        ((f.isOfStack = true ∧ (m.after k).executed?.isSome = true) ∨
          (f.isOfFetch = true ∧ (m.after k).executed? = none)) := by
  have last_awake := awake_before_last_step awake running
  refine ⟨?_, ?_, ?_⟩
  · intro j lt
    have still : (m.after j).state.halted = false :=
      awake_before_last_step awake fun i before => running i (by omega)
    exact line_of_fine still (by simp [running j lt])
  · rintro cycles rfl
    obtain ⟨halts, rfl⟩ := Progress.result?_eq_ok_iff.mp result
    obtain ⟨completes, has_line⟩ := line_of_fine last_awake (by simp [halts])
    exact ⟨completes, has_line, (length_traceLines_of_halt awake zero running halts).symm⟩
  · rintro f rfl
    have fails := Progress.result?_eq_error_iff.mp result
    exact ⟨completion?_of_fault fails, (line_of_fault (capacity_after open_sink k) fails).symm⟩

end Machine

end LS8
