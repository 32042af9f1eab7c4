-- A limit on the clock only cuts a run short. A run that ends below the limit is not
-- changed by a higher one, and a run that the limit has cut goes on, under a higher one,
-- from where it was cut.
import LS8.Proofs.Recurrence

namespace LS8

/-! ## What a run comes to -/

/-- The end of a run: its result, the state, the text that the run has written, and what the sink
takes from then on. -/
structure Ending where
  result : Except Fault Nat
  state : State
  output : String
  capacity : Capacity
  deriving DecidableEq

namespace Machine

/-- The end of the run from a state, into a sink that takes so much, under a limit if there is
one. There is none if the run goes on for ever. -/
def run? (s : State) (c : Capacity) (limit : Option Nat) : Option Ending :=
  (execute ⟨s, ⟨"", c⟩, limit⟩).map fun (result, last) =>
    ⟨result, last.state, last.sink.text, last.sink.capacity⟩

/-- A result with all numbers on the clock `d` later. -/
def laterResult (d : Nat) : Except Fault Nat → Except Fault Nat
  | .ok clock => .ok (clock + d)
  | .error f => .error (f.later d)

end Machine

/-- The end of the same run on a clock that is `d` later. -/
def Ending.later (d : Nat) (e : Ending) : Ending where
  result := Machine.laterResult d e.result
  state := e.state.later d
  output := e.output
  capacity := e.capacity

namespace Machine

variable {m t last : Machine} {r : Except Fault Nat} {l : Option Nat} {n : Nat}

/-! ## A later clock -/

theorem execute_shifted (d : Nat) (said : String) (m : Machine) :
    execute (m.shifted d said) =
      (execute m).map fun (r, last) => (laterResult d r, last.shifted d said) := by
  have patience : (m.shifted d said).patience = m.patience := by
    unfold Machine.patience
    cases h : m.limit with
    | none => simp only [shifted, h, Option.map_none, Sink.behind]
    | some n => simp only [shifted, h, Option.map_some, State.later, Nat.add_sub_add_right]
  unfold execute
  rw [patience, advance_shifted]
  rcases advance m.patience m with ⟨answer, last⟩
  cases answer <;> rfl

theorem run?_later (d : Nat) (s : State) (c : Capacity) (l : Option Nat) :
    run? (s.later d) c (l.map (· + d)) = (run? s c l).map (Ending.later d) := by
  have start : (⟨s.later d, ⟨"", c⟩, l.map (· + d)⟩ : Machine) =
      shifted d "" ⟨s, ⟨"", c⟩, l⟩ := rfl
  unfold run?
  rw [start, execute_shifted, Option.map_map, Option.map_map]
  rfl

/-! ## A higher limit -/

/-- The machine under another limit. -/
def limitedTo (l : Option Nat) (m : Machine) : Machine := { m with limit := l }

theorem perform_limitedTo (l : Option Nat) (m : Machine) (i : Instruction) :
    (m.limitedTo l).perform i = ((m.perform i).1, (m.perform i).2.limitedTo l) := by
  cases h : m.state.line? i with
  | none => simp only [perform, limitedTo, h, withState]
  | some line =>
    have also : (m.limitedTo l).state.line? i = some line := h
    have sink : (m.limitedTo l).sink = m.sink := rfl
    rw [perform_of_line h, perform_of_line also, sink]
    cases (m.sink.write line).1 <;> rfl

/-- A step that does not run into the limit is the same under a higher one. -/
theorem step_limitedTo (limit : m.limit = some n) (higher : ∀ k ∈ l, n ≤ k)
    (inside : m.step.1 ≠ .fault (.outOfCycles n)) :
    (m.limitedTo l).step = (m.step.1, m.step.2.limitedTo l) := by
  apply step_of_change (limitedTo l)
  · rfl
  · intro awake
    have below : m.state.clock < n := by
      apply Nat.lt_of_not_le
      intro reached
      apply inside
      rw [step_of_fetch_error awake (fetch_of_limit limit reached)]
    have fetch : m.fetch = Instruction.decode m.state.memory m.state.pc := by
      apply fetch_of_below
      intro k hk
      rw [limit] at hk
      cases hk
      exact below
    rw [fetch]
    apply fetch_of_below
    intro k hk
    exact Nat.lt_of_lt_of_le below (higher k hk)
  · intro nothing
    rfl
  · intro i run
    exact perform_limitedTo l m i

theorem step_limitedTo_of_running (limit : m.limit = some n) (higher : ∀ k ∈ l, n ≤ k)
    (step : m.step = (.running, t)) : (m.limitedTo l).step = (.running, t.limitedTo l) := by
  rw [step_limitedTo limit higher, step]
  simp [step]

/-- A run that ends inside the limit ends in the same way under a higher one. -/
theorem Ends.limitedTo (h : Ends m r last) (limit : m.limit = some n) (higher : ∀ k ∈ l, n ≤ k)
    (inside : r ≠ .error (.outOfCycles n)) : Ends (m.limitedTo l) r (last.limitedTo l) := by
  induction h with
  | @stop m last answer r step result =>
    have same : (m.limitedTo l).step = (answer, last.limitedTo l) := by
      rw [step_limitedTo limit higher, step]
      rw [step]
      rintro rfl
      cases result
      exact inside rfl
    exact .stop same result
  | @step m next last r step rest ih =>
    have same := step_limitedTo_of_running limit higher step
    exact .step same (ih ((limit_of_step step).trans limit) inside)

/-- A run that the limit cuts has come to where a higher limit lets it go on. -/
theorem Ends.advance_of_cut (h : Ends m r last) (limit : m.limit = some n)
    (higher : ∀ k ∈ l, n ≤ k) (cut : r = .error (.outOfCycles n)) :
    ∃ j, Machine.advance j (m.limitedTo l) = (.running, last.limitedTo l) := by
  induction h with
  | @stop m last answer r step result =>
    subst cut
    cases answer with
    | running | halted => cases result
    | fault f =>
      cases result
      obtain ⟨rfl, -⟩ := step_of_outOfCycles step
      exact ⟨0, rfl⟩
  | @step m next last r step rest ih =>
    obtain ⟨j, taken⟩ := ih ((limit_of_step step).trans limit) cut
    have same := step_limitedTo_of_running limit higher step
    exact ⟨j + 1, by rw [advance_of_running same, taken]⟩

theorem Ends.limit (h : Ends m r last) : last.limit = m.limit := by
  induction h with
  | stop step result => exact limit_of_step step
  | step step rest ih => exact ih.trans (limit_of_step step)

/-! ## The law -/

theorem laterResult_zero (r : Except Fault Nat) : laterResult 0 r = r := by
  cases r with
  | ok clock => rfl
  | error f => cases f <;> rfl

/-- A run writes behind what has been written before, and takes no notice of it. -/
theorem execute_eq_run? (m : Machine) :
    execute m = (run? m.state m.sink.capacity m.limit).map fun e =>
      (e.result, ⟨e.state, ⟨m.sink.text ++ e.output, e.capacity⟩, m.limit⟩) := by
  have start : m = shifted 0 m.sink.text ⟨m.state, ⟨"", m.sink.capacity⟩, m.limit⟩ := by
    simp [shifted, State.later, Sink.behind]
  conv_lhs => rw [start, execute_shifted]
  unfold run?
  cases h : execute ⟨m.state, ⟨"", m.sink.capacity⟩, m.limit⟩ with
  | none => rfl
  | some answer =>
    obtain ⟨r, last⟩ := answer
    have limit : last.limit = m.limit := (execute_eq_some_iff.mp h).limit
    simp [laterResult_zero, shifted, State.later, Sink.behind, limit]

/-- A limit only cuts a run short: with it, every run ends. Unless it was cut, the run ends in the
same way under any higher limit and under none. A run that was cut goes on, under the higher limit,
as a run from the state and into the sink where it was cut, and what that run writes comes behind
what has been written. The clock itself is only compared with the limit, so with both of them `d`
later the numbers on the clock are `d` later and all else is the same. -/
theorem a_limit_only_cuts_a_run_short (s : State) (c : Capacity) (n : Nat) (l : Option Nat)
    (higher : ∀ k ∈ l, n ≤ k) :
    ∃ e, run? s c (some n) = some e ∧
      (e.result ≠ .error (.outOfCycles n) → run? s c l = some e) ∧
      (e.result = .error (.outOfCycles n) → run? s c l =
        (run? e.state e.capacity l).map fun rest =>
          { rest with output := e.output ++ rest.output }) ∧
      ∀ d, run? (s.later d) c (l.map (· + d)) = (run? s c l).map (Ending.later d) := by
  obtain ⟨r, t, ended⟩ := execute_isSome_of_limit (m := ⟨s, ⟨"", c⟩, some n⟩) rfl
  have ends := execute_eq_some_iff.mp ended
  refine ⟨⟨r, t.state, t.sink.text, t.sink.capacity⟩, ?_, ?_, ?_, fun d => run?_later d s c l⟩
  · rw [run?, ended]
    rfl
  · intro inside
    have same := execute_eq_some_iff.mpr (ends.limitedTo rfl higher inside)
    exact congrArg (Option.map _) same
  · intro cut
    obtain ⟨j, taken⟩ := ends.advance_of_cut rfl higher cut
    have goes_on := (execute_of_running_steps taken).trans (execute_eq_run? _)
    have view := congrArg (Option.map fun (result, last) =>
      (⟨result, last.state, last.sink.text, last.sink.capacity⟩ : Ending)) goes_on
    rw [Option.map_map] at view
    exact view

/-- Here a limit of two cuts the run before the halt. Under a limit of nine the number that has been
written is not written again. -/
theorem a_cut_run_goes_on_to_its_halt :
    ∃ (s : State) (e rest : Ending), (∀ k ∈ some 9, 2 ≤ k) ∧
      run? s .unlimited (some 2) = some e ∧ e.result = .error (.outOfCycles 2) ∧
      e.output = "8\n" ∧ run? e.state e.capacity (some 9) = some rest ∧ rest.result = .ok 3 ∧
      rest.output = "System exiting...\n" ∧
      run? s .unlimited (some 9) =
        some { rest with output := "8\n" ++ "System exiting...\n" } := by
  let s := State.start ⟨[130, 0, 8, 71, 0, 1], by decide⟩
  have higher : ∀ k ∈ some 9, 2 ≤ k := by simp
  obtain ⟨e, ran, -, goes_on, -⟩ := a_limit_only_cuts_a_run_short s .unlimited 2 (some 9) higher
  have facts : (run? s .unlimited (some 2)).map (fun e => (e.result, e.output)) =
      some (.error (.outOfCycles 2), "8\n") := by decide +kernel
  have after_cut : ((run? s .unlimited (some 2)).bind fun e =>
      run? e.state e.capacity (some 9)).map (fun e => (e.result, e.output)) =
      some (.ok 3, "System exiting...\n") := by decide +kernel
  rw [ran] at facts after_cut
  simp only [Option.map_some, Option.some.injEq, Prod.mk.injEq] at facts
  simp only [Option.bind_some, Option.map_eq_some_iff, Prod.mk.injEq] at after_cut
  obtain ⟨rest, resumed, halted, notice⟩ := after_cut
  refine ⟨s, e, rest, higher, ran, facts.1, facts.2, resumed, halted, notice, ?_⟩
  rw [goes_on facts.1, resumed, facts.2, ← notice]
  rfl

end Machine

end LS8
