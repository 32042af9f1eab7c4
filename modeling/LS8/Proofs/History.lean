-- What is completed in the history of a machine. Steps and whole runs are called for in any
-- order, also after a fault and after the halt. Each step completes one instruction or none, and
-- what each step keeps, a history keeps.
import LS8.Proofs.Aftermath
import LS8.Proofs.Running
import Mathlib.Data.List.Basic

namespace LS8

/-- An instruction that has been completed, with the state in which it was begun. -/
structure Completion where
  instruction : Instruction
  before : State

/-! ## What an instruction leaves -/

/-- An instruction that the stack does not stop is counted, and only a halt stops the machine. -/
theorem State.execute_of_fine {s : State} {i : Instruction} (fine : s.stackFault? i = none) :
    (s.execute i).1 = (if i = .hlt then .halted else .running) ∧
      (s.execute i).2.clock = s.clock + 1 ∧
      (s.execute i).2.halted = (decide (i = .hlt) || s.halted) := by
  by_cases stops : i = .hlt
  · subst stops
    exact ⟨rfl, rfl, rfl⟩
  · have running : (s.execute i).1 = .running := by
      cases h : (s.execute i).1 with
      | running => rfl
      | fault f =>
        rw [execute_fault_iff, fine] at h
        cases h
      | halted =>
        cases i with
        | hlt => exact absurd rfl stops
        | prn | ldi | alu => cases h
        | ret | push | pop =>
          simp only [execute] at h
          split at h <;> cases h
        | branch op =>
          cases op with
          | jmp | jeq | jne => cases h
          | call =>
            simp only [execute] at h
            split at h <;> cases h
    obtain ⟨clock, halted⟩ := clock_of_execute running
    refine ⟨by rw [running, if_neg stops], clock, ?_⟩
    rw [halted]
    simp [stops]

namespace Machine

variable {m : Machine} {f : Fault} {c : Completion}

/-! ## What a step completes -/

/-- The instruction that the next step completes, if it completes one. -/
def completion? (m : Machine) : Option Completion :=
  match m.step.1 with
  | .fault _ => none
  | _ => m.executed?.map fun i => ⟨i, m.state⟩

theorem completion?_of_fault (h : m.step.1 = .fault f) : m.completion? = none := by
  simp [completion?, h]

theorem completion?_of_halted (h : m.state.halted = true) : m.completion? = none := by
  simp [completion?, step_of_halted h, executed?, h]

/-- A fault is not counted, does not touch the flags and halts nothing. -/
theorem unchanged_by_fault (h : m.step.1 = .fault f) :
    m.step.2.state.clock = m.state.clock ∧ m.step.2.state.flags = m.state.flags ∧
      m.step.2.state.halted = m.state.halted := by
  have stepped : m.step = (.fault f, m.step.2) := Prod.ext h rfl
  rcases left_by_fault stepped with ⟨same, -⟩ | ⟨_, _, _, -, -, -, -, same⟩ | ⟨_, -, -, -, same⟩
  all_goals
    rw [same]
    exact ⟨rfl, rfl, rfl⟩

/-- A sink without a bound is the same behind a fault. -/
theorem sink_of_fault (open_sink : m.sink.capacity = .unlimited) (h : m.step.1 = .fault f) :
    m.step.2.sink = m.sink := by
  have stepped : m.step = (.fault f, m.step.2) := Prod.ext h rfl
  rcases left_by_fault stepped with ⟨same, -⟩ | ⟨_, line, e, -, -, -, refused, -⟩ |
    ⟨_, -, -, -, same⟩
  · rw [same]
  · have taken : (m.sink.write line).1 = .ok () := by simp [Sink.write, open_sink]
    rw [taken] at refused
    cases refused
  · rw [same]

/-- A step that completes nothing is that of a machine that has halted, or it fails. -/
theorem step_of_no_completion (h : m.completion? = none) :
    m.step = (.halted, m) ∨ ∃ f, m.step.1 = .fault f := by
  rcases m.step_cases with ⟨-, step⟩ | ⟨-, f, -, step⟩ | ⟨i, run, -⟩
  · exact Or.inl step
  · exact Or.inr ⟨f, by rw [step]⟩
  · cases answer : m.step.1 with
    | fault f => exact Or.inr ⟨f, rfl⟩
    | running | halted => simp [completion?, answer, run] at h

/-- A step that completes an instruction has found it in a machine that had not halted and was below
its limit, and has done its work and written its line. -/
theorem step_of_completion (h : m.completion? = some c) :
    c.before = m.state ∧ m.executed? = some c.instruction ∧
      m.state.stackFault? c.instruction = none ∧
      m.step.1 = (if c.instruction = .hlt then .halted else .running) ∧
      m.step.2.state = (m.state.execute c.instruction).2 ∧
      m.step.2.sink.text = m.sink.text ++ (m.state.line? c.instruction).getD "" := by
  have fine : ∀ f, m.step.1 ≠ .fault f := by
    intro f bad
    rw [completion?_of_fault bad] at h
    cases h
  have found : m.executed?.map (fun i => ⟨i, m.state⟩) = some c := by
    unfold completion? at h
    split at h
    · cases h
    · exact h
  obtain ⟨i, run, rfl⟩ := Option.map_eq_some_iff.mp found
  obtain ⟨room, sink, text, step⟩ := step_of_executed run fine
  refine ⟨rfl, run, room, ?_, ?_, ?_⟩
  · rw [step]
    exact (State.execute_of_fine room).1
  · rw [step]
    rfl
  · rw [step]
    exact text

/-- The clock counts what is completed. -/
theorem clock_of_step (m : Machine) :
    m.step.2.state.clock = m.state.clock + m.completion?.toList.length := by
  cases h : m.completion? with
  | none =>
    rcases step_of_no_completion h with step | ⟨f, fault⟩
    · rw [step]
      rfl
    · exact (unchanged_by_fault fault).1
  | some c =>
    obtain ⟨-, -, room, -, state, -⟩ := step_of_completion h
    rw [state, (State.execute_of_fine room).2.1]
    rfl

/-- Only below the limit is an instruction completed. -/
theorem clock_lt_of_completion {n : Nat} (limit : m.limit = some n) (h : m.completion? = some c) :
    m.state.clock < n := by
  obtain ⟨-, run, -⟩ := step_of_completion h
  obtain ⟨-, fetched⟩ := executed?_eq_some_iff.mp run
  apply Nat.lt_of_not_le
  intro reached
  rw [fetch_of_limit limit reached] at fetched
  cases fetched

/-- What has been completed so far, and what the next step completes. -/
def noteCompletion (log : List Completion) (m : Machine) : List Completion :=
  log ++ m.completion?.toList

/-! ## Watching a run -/

section

variable {α : Type} {see : α → Machine → α} {P : α → Machine → Prop}

/-- What each step keeps, a number of steps keeps. -/
theorem watch_keeps (kept : ∀ seen m, P seen m → P (see seen m) m.step.2) (k : Nat) (seen : α)
    (m : Machine) (holds : P seen m) : P (watch see k seen m).1 (watch see k seen m).2.2 := by
  induction k generalizing seen m with
  | zero => exact holds
  | succ k ih =>
    have next := kept seen m holds
    rcases h : m.step with ⟨answer, last⟩
    rw [h] at next
    cases answer with
    | running => simpa [watch, h] using ih (see seen m) last next
    | halted | fault => simpa [watch, h] using next

theorem executeWatched_eq_some {seen shown : α} {m last : Machine} {r : Except Fault Nat}
    (h : executeWatched see seen m = some (shown, r, last)) :
    shown = (watch see m.patience seen m).1 ∧ last = (watch see m.patience seen m).2.2 := by
  unfold executeWatched at h
  rcases watched : watch see m.patience seen m with ⟨all, answer, t⟩
  rw [watched] at h
  cases answer <;> cases h
  all_goals exact ⟨rfl, rfl⟩

/-- What each step keeps, a whole run keeps. -/
theorem executeWatched_keeps (kept : ∀ seen m, P seen m → P (see seen m) m.step.2)
    {seen shown : α} {m last : Machine} {r : Except Fault Nat}
    (h : executeWatched see seen m = some (shown, r, last)) (holds : P seen m) : P shown last := by
  obtain ⟨rfl, rfl⟩ := executeWatched_eq_some h
  exact watch_keeps kept _ seen m holds

end

theorem patience_pos (m : Machine) : 0 < m.patience := by
  unfold patience
  split
  · exact Nat.succ_pos _
  · split <;> exact Nat.succ_pos _

/-- A run of a machine that has halted ends at once. -/
theorem executeWatched_of_halted {α : Type} (see : α → Machine → α) (seen : α)
    (h : m.state.halted = true) :
    executeWatched see seen m = some (see seen m, .ok m.state.clock, m) := by
  obtain ⟨k, enough⟩ : ∃ k, m.patience = k + 1 := ⟨m.patience - 1, by have := patience_pos m; omega⟩
  simp [executeWatched, enough, watch, step_of_halted h]

end Machine

/-! ## Histories -/

/-- What a machine may be called for. -/
inductive Call
  | step
  | run
  deriving DecidableEq

inductive Reply
  | step (answer : Progress)
  | run (result : Except Fault Nat)
  deriving DecidableEq

/-- What calls have come to: the machine as it is now, all instructions completed and all replies,
the first of them first. -/
structure History where
  machine : Machine
  completed : List Completion := []
  replies : List Reply := []

namespace History

variable {h t : History} {cs : List Call}

/-- No call has been made of the machine that is about to run the program. -/
def fresh (p : Program) (limit : Option Nat) (sink : Sink) : History where
  machine := Machine.start p limit sink

/-- The history with one call more. There is none if the call is for a run that never ends. -/
def call (h : History) : Call → Option History
  | .step => some
    { machine := h.machine.step.2
      completed := h.machine.noteCompletion h.completed
      replies := h.replies ++ [.step h.machine.step.1] }
  | .run => (h.machine.executeWatched Machine.noteCompletion h.completed).map
      fun (completed, result, last) => ⟨last, completed, h.replies ++ [.run result]⟩

/-- The calls in order, each of them whatever the ones before have answered. -/
def calls (h : History) (cs : List Call) : Option History := cs.foldlM call h

@[simp] theorem calls_nil (h : History) : h.calls [] = some h := rfl

theorem calls_cons (h : History) (c : Call) (cs : List Call) :
    h.calls (c :: cs) = (h.call c).bind (·.calls cs) := rfl

/-- What each step keeps, with its completion noted, one call keeps. -/
theorem call_keeps {P : List Completion → Machine → Prop} {c : Call}
    (kept : ∀ log m, P log m → P (m.noteCompletion log) m.step.2) (h : History)
    (called : h.call c = some t) (holds : P h.completed h.machine) : P t.completed t.machine := by
  cases c with
  | step =>
    cases called
    exact kept _ _ holds
  | run =>
    obtain ⟨⟨completed, result, last⟩, ran, rfl⟩ := Option.map_eq_some_iff.mp called
    exact Machine.executeWatched_keeps kept ran holds

theorem calls_keep {P : List Completion → Machine → Prop}
    (kept : ∀ log m, P log m → P (m.noteCompletion log) m.step.2)
    (called : h.calls cs = some t) (holds : P h.completed h.machine) :
    P t.completed t.machine := by
  induction cs generalizing h with
  | nil =>
    cases called
    exact holds
  | cons c cs ih =>
    rw [calls_cons] at called
    obtain ⟨next, first, rest⟩ := Option.bind_eq_some_iff.mp called
    exact ih rest (call_keeps kept h first holds)

/-! ## Behind the halt -/

/-- The reply of a machine that has halted, at the time that its clock shows. -/
def replyAfterHalt (clock : Nat) : Call → Reply
  | .step => .step .halted
  | .run => .run (.ok clock)

theorem call_of_halted (halted : h.machine.state.halted = true) (c : Call) :
    h.call c = some { h with
      replies := h.replies ++ [replyAfterHalt h.machine.state.clock c] } := by
  have nothing : h.machine.noteCompletion h.completed = h.completed := by
    simp [Machine.noteCompletion, Machine.completion?_of_halted halted]
  cases c with
  | step => simp only [call, Machine.step_of_halted halted, nothing, replyAfterHalt]
  | run =>
    simp only [call, Machine.executeWatched_of_halted _ _ halted, nothing, replyAfterHalt,
      Option.map_some]

theorem calls_of_halted (halted : h.machine.state.halted = true) (cs : List Call) :
    h.calls cs = some { h with
      replies := h.replies ++ cs.map (replyAfterHalt h.machine.state.clock) } := by
  induction cs generalizing h with
  | nil => simp
  | cons c cs ih =>
    have rest := @ih { h with
      replies := h.replies ++ [replyAfterHalt h.machine.state.clock c] } halted
    rw [calls_cons, call_of_halted halted, Option.bind_some, rest, List.map_cons,
      List.append_assoc, List.singleton_append]

end History

end LS8
