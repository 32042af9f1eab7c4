-- A machine that comes back to a state. The clock decides nothing but whether the limit is
-- reached, and the text that has been written decides nothing at all. So without a limit the
-- machine goes round for ever, and does and writes the same each time.
import LS8.Proofs.CycleLimit
import LS8.Proofs.MemoryAccess

namespace LS8

/-- The states have the same program counter, registers, flags and memory. -/
structure State.Alike (s t : State) : Prop where
  pc : s.pc = t.pc
  registers : s.registers = t.registers
  flags : s.flags = t.flags
  memory : s.memory = t.memory

namespace Machine

variable {m t : Machine} {i j p : Nat} {said : String}

/-! ## Shifting again and again -/

theorem shifted_zero (m : Machine) : m.shifted 0 "" = m := by
  obtain ⟨state, sink, limit⟩ := m
  simp [shifted, State.later, Sink.behind]

theorem shifted_shifted (c d : Nat) (said more : String) (m : Machine) :
    (m.shifted c said).shifted d more = m.shifted (c + d) (more ++ said) := by
  obtain ⟨state, sink, limit⟩ := m
  cases limit <;> simp [shifted, State.later, Sink.behind, String.append_assoc, Nat.add_assoc]

theorem after_shifted (d : Nat) (said : String) (m : Machine) (k : Nat) :
    (m.shifted d said).after k = (m.after k).shifted d said := by
  induction k with
  | zero => rfl
  | succ k ih =>
    rw [after_succ, after_succ, ih, step_shifted]

/-- A machine that is the same after a round, but later and behind more text, is so after each
round, and on the way too. -/
theorem after_rounds (back : m.after p = m.shifted p said) (q r : Nat) :
    m.after (q * p + r) =
      (m.after r).shifted (q * p) (String.join (List.replicate q said)) := by
  induction q with
  | zero => simp [shifted_zero]
  | succ q ih =>
    have first : (q + 1) * p + r = p + (q * p + r) := by
      rw [Nat.succ_mul]
      omega
    rw [first, after_add, back, after_shifted, ih, shifted_shifted, Nat.succ_mul,
      List.replicate_succ, String.join_cons]

/-! ## Coming back -/

/-- Machines that stand at states alike differ in the clock and the text only. -/
theorem bare_eq_of_alike (alike : m.state.Alike t.state) (halted : m.state.halted = t.state.halted)
    (limit : m.limit = t.limit) (capacity : m.sink.capacity = t.sink.capacity) :
    m.bare = t.bare := by
  obtain ⟨pc, registers, flags, memory⟩ := alike
  simp [bare, Sink.drained, pc, registers, flags, memory, halted, limit, capacity]

theorem bare_shifted (unlimited : m.limit = none) (d : Nat) (said : String) :
    (m.shifted d said).bare = m.bare := by
  simp [shifted, bare, State.later, Sink.behind, Sink.drained, unlimited]

/-- With nothing to stop it, the machine takes `p` steps and is back where it began. -/
structure Returns (m : Machine) (p : Nat) : Prop where
  unlimited : m.limit = none
  open_sink : m.sink.capacity = .unlimited
  some_steps : 0 < p
  ran : ∀ k < p, (m.after k).step.1 = .running
  back : (m.after p).state.Alike m.state

namespace Returns

theorem taken (h : m.Returns p) : advance p m = (.running, m.after p) :=
  advance_of_running_steps (advance_running_iff.mpr h.ran)

theorem bare_eq (h : m.Returns p) : (m.after p).bare = m.bare := by
  have awake : m.state.halted = false :=
    (clock_of_running (Prod.ext (h.ran 0 h.some_steps) rfl)).1
  have still_awake : (m.after p).state.halted = false := by
    obtain ⟨k, rfl⟩ : ∃ k, p = k + 1 := ⟨p - 1, by have := h.some_steps; omega⟩
    exact (clock_of_running (Prod.ext (h.ran k (Nat.lt_succ_self k)) rfl)).2.1
  apply bare_eq_of_alike h.back
  · exact still_awake.trans awake.symm
  · exact limit_after m p
  · exact (capacity_after h.open_sink p).trans h.open_sink.symm

theorem runs_on (h : m.Returns p) (k : Nat) : (m.after k).step.1 = .running := by
  have forever := runs_on_after_return h.unlimited h.some_steps h.taken h.bare_eq.symm (k + 1)
  exact advance_running_iff.mp forever k (Nat.lt_succ_self k)

/-- A round has nothing to show for itself but a later clock and the text that it wrote. -/
theorem round (h : m.Returns p) : ∃ said, m.bare.after p = m.bare.shifted p said := by
  have bare_unlimited : (m.bare.after p).limit = none := (limit_after _ p).trans h.unlimited
  have lifted : m.after p = (m.bare.after p).shifted m.state.clock m.sink.text := by
    rw [← after_shifted, shifted_bare h.unlimited]
  have clock : (m.bare.after p).state.clock = p := by
    have counted := (clock_of_advance h.taken).1
    rw [lifted] at counted
    simp only [shifted, State.later] at counted
    omega
  have same := h.bare_eq
  rw [lifted, bare_shifted bare_unlimited] at same
  refine ⟨(m.bare.after p).sink.text, ?_⟩
  conv_lhs => rw [← shifted_bare bare_unlimited, same, clock]

/-- All that is to come is the first round over and over. -/
theorem after_eq (h : m.Returns p) : ∃ said, ∀ q r, m.after (q * p + r) =
    ((m.bare.after r).shifted (q * p) (String.join (List.replicate q said))).shifted
      m.state.clock m.sink.text := by
  obtain ⟨said, round⟩ := h.round
  refine ⟨said, fun q r => ?_⟩
  rw [← after_rounds round, ← after_shifted, shifted_bare h.unlimited]

theorem state_eq (h : m.Returns p) (q r : Nat) :
    (m.after (q * p + r)).state = (m.after r).state.later (q * p) := by
  obtain ⟨said, rounds⟩ := h.after_eq
  have first := rounds 0 r
  rw [Nat.zero_mul, Nat.zero_add] at first
  rw [rounds, first]
  simp only [shifted, State.later, Nat.add_zero, Nat.add_right_comm]

theorem text_eq (h : m.Returns p) : ∃ said, ∀ q,
    (m.after (q * p)).sink.text = m.sink.text ++ String.join (List.replicate q said) := by
  obtain ⟨said, rounds⟩ := h.after_eq
  refine ⟨said, fun q => ?_⟩
  have whole := rounds q 0
  rw [Nat.add_zero] at whole
  rw [whole]
  simp [shifted, Sink.behind, after, bare, Sink.drained]

end Returns

/-! ## The law -/

/-- A machine that never stops comes to its limit, if it is given one. -/
theorem execute_limitedTo_of_endless (unlimited : m.limit = none) (endless : execute m = none)
    (n : Nat) :
    ∃ last, execute (m.limitedTo (some n)) = some (.error (.outOfCycles n), last) := by
  obtain ⟨r, last, ended⟩ := execute_isSome_of_limit (m := m.limitedTo (some n)) rfl
  by_cases cut : r = .error (.outOfCycles n)
  · exact ⟨last, by rw [ended, cut]⟩
  · have ends := (execute_eq_some_iff.mp ended).limitedTo (l := none) rfl (by simp) cut
    have same : (m.limitedTo (some n)).limitedTo none = m := by
      rw [← unlimited]
      rfl
    rw [same, ← execute_eq_some_iff, endless] at ends
    cases ends

/-- If a machine comes back to a state, it goes round for ever: no step halts or fails, each round
takes it through the same states on a later clock, and each round writes the same. So without a
limit the run never ends, and any limit is reached. -/
theorem a_repeated_state_never_stops (unlimited : m.limit = none)
    (open_sink : m.sink.capacity = .unlimited) (lt : i < j)
    (ran : ∀ k < j, (m.after k).step.1 = .running)
    (back : (m.after j).state.Alike (m.after i).state) :
    (∀ k, (m.after k).step.1 = .running) ∧
    (∀ q r, (m.after (i + q * (j - i) + r)).state =
      (m.after (i + r)).state.later (q * (j - i))) ∧
    (∃ said, ∀ q, (m.after (i + q * (j - i))).sink.text =
      (m.after i).sink.text ++ String.join (List.replicate q said)) ∧
    execute m = none ∧
    ∀ n, ∃ last, execute { m with limit := some n } = some (.error (.outOfCycles n), last) := by
  have onward : ∀ k, m.after (i + k) = (m.after i).after k := after_add m i
  have returns : (m.after i).Returns (j - i) := by
    refine ⟨(limit_after m i).trans unlimited, capacity_after open_sink i, Nat.sub_pos_of_lt lt,
      fun k inside => ?_, ?_⟩
    · rw [← onward]
      exact ran (i + k) (by omega)
    · rw [← onward, Nat.add_sub_of_le (Nat.le_of_lt lt)]
      exact back
  have running : ∀ k, (m.after k).step.1 = .running := by
    intro k
    by_cases first : k < i
    · exact ran k (Nat.lt_trans first lt)
    · have on := returns.runs_on (k - i)
      rwa [← onward, Nat.add_sub_of_le (Nat.le_of_not_lt first)] at on
  have endless : execute m = none :=
    execute_eq_none_iff.mpr fun k => advance_running_iff.mpr fun l _ => running l
  refine ⟨running, ?_, ?_, endless, execute_limitedTo_of_endless unlimited endless⟩
  · intro q r
    rw [Nat.add_assoc, onward, onward]
    exact returns.state_eq q r
  · obtain ⟨said, rounds⟩ := returns.text_eq
    exact ⟨said, fun q => by rw [onward, rounds]⟩

/-- A program that loads the address of a print, and prints it and goes back there for ever. -/
def endlessProgram : Program where
  image := [0x82, 1, 3, 0x47, 1, 0x54, 1]

/-- After three steps the machine is where it was after the first. Five hundred rounds take it
there again, and each of them has written the same line. -/
theorem a_machine_prints_for_ever : ∃ m : Machine, m.limit = none ∧
    m.sink.capacity = .unlimited ∧ (∀ k < 3, (m.after k).step.1 = .running) ∧
    (m.after 3).state.Alike (m.after 1).state ∧ (∀ k, (m.after k).step.1 = .running) ∧
    (m.after 1002).state = (m.after 2).state.later 1000 ∧
    (∀ q, (m.after (1 + q * 2)).sink.text = String.join (List.replicate q "3\n")) ∧
    ∃ last, execute { m with limit := some 1000 } = some (.error (.outOfCycles 1000), last) := by
  let m := start endlessProgram none {}
  have unlimited : m.limit = none := rfl
  have open_sink : m.sink.capacity = .unlimited := rfl
  have ran : ∀ k < 3, (m.after k).step.1 = .running := by decide +kernel
  have pc : (m.after 3).state.pc = (m.after 1).state.pc := by decide +kernel
  have registers : (m.after 3).state.registers = (m.after 1).state.registers := by decide +kernel
  have flags : (m.after 3).state.flags = (m.after 1).state.flags := by decide +kernel
  have writes_none : (m.after 1).write? = none ∧ (m.after 2).write? = none := by decide +kernel
  have silent : (m.after 1).sink.text = "" := by decide +kernel
  have line : (m.after 3).sink.text = "3\n" := by decide +kernel
  clear_value m
  have memory : (m.after 3).state.memory = (m.after 1).state.memory := by
    have first := memory_of_step (m.after 1)
    have second := memory_of_step (m.after 2)
    rw [writes_none.1] at first
    rw [writes_none.2] at second
    exact second.trans first
  have back : (m.after 3).state.Alike (m.after 1).state := ⟨pc, registers, flags, memory⟩
  obtain ⟨running, states, ⟨said, texts⟩, -, limits⟩ :=
    a_repeated_state_never_stops unlimited open_sink (show 1 < 3 by omega) ran back
  rw [silent] at texts
  have said_line : said = "3\n" := by
    have once := texts 1
    rw [line] at once
    simpa using once.symm
  refine ⟨m, unlimited, open_sink, ran, back, running, states 500 1, fun q => ?_, limits 1000⟩
  rw [texts q, said_line, String.empty_append]

end Machine

end LS8
