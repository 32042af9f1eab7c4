-- Without a limit, a machine that comes back to a state goes on for ever. There are only so
-- many states, so a run that outlasts the patience never ends, and every run that does end
-- is answered.
import LS8.Proofs.Shifted
import Mathlib.Data.Fintype.BigOperators
import Mathlib.Data.Fintype.Pigeonhole

namespace LS8

/-! ## Room in the sink -/

namespace Capacity

/-- The number of bytes that are still taken, if they are counted. -/
def room : Capacity → Nat
  | unlimited => 0
  | limited room _ => room

/-- The capacity with no room left. -/
def emptied : Capacity → Capacity
  | unlimited => unlimited
  | limited _ failure => limited 0 failure

theorem eq_of_room {a b : Capacity} (kind : a.emptied = b.emptied) (rooms : a.room = b.room) :
    a = b := by
  cases a <;> cases b <;> simp_all [emptied, room]

end Capacity

/-- Writing takes room and leaves the capacity of its kind. -/
theorem Sink.capacity_write (s : Sink) (line : String) :
    (s.write line).2.capacity.emptied = s.capacity.emptied ∧
      (s.write line).2.capacity.room ≤ s.capacity.room := by
  obtain ⟨text, capacity⟩ := s
  cases capacity with
  | unlimited => exact ⟨rfl, le_rfl⟩
  | limited room failure =>
    rcases Nat.lt_or_ge room line.length with overflows | fits
    · rw [write_of_overflows overflows]
      exact ⟨rfl, Nat.zero_le _⟩
    · rw [write_of_fits fits]
      exact ⟨rfl, Nat.sub_le _ _⟩

namespace Machine

variable {k : Nat} {m t : Machine}

/-! ## Coming back -/

/-- The machine with nothing on its clock and nothing written. -/
def bare (m : Machine) : Machine where
  state := { m.state with clock := 0 }
  sink := m.sink.drained
  limit := m.limit

theorem shifted_bare (unlimited : m.limit = none) :
    m.bare.shifted m.state.clock m.sink.text = m := by
  obtain ⟨state, sink, limit⟩ := m
  cases unlimited
  simp [shifted, bare, State.later, Sink.behind, Sink.drained]

/-- Without a limit, machines that differ in the clock and the text only run equally long. -/
theorem advance_running_iff_of_bare (unlimited : m.limit = none) (same : m.bare = t.bare) :
    (advance k m).1 = .running ↔ (advance k t).1 = .running := by
  have also : t.limit = none := by
    have limits := congrArg Machine.limit same
    exact limits.symm.trans unlimited
  rw [← shifted_bare unlimited, ← shifted_bare also, advance_shifted, advance_shifted,
    later_eq_running, later_eq_running, same]

/-- A machine that is back at the state where it was never stops. -/
theorem runs_on_after_return (unlimited : m.limit = none) (some_steps : 0 < k)
    (h : advance k m = (.running, t)) (back : m.bare = t.bare) (j : Nat) :
    (advance j m).1 = .running := by
  induction j using Nat.strong_induction_on with
  | _ j ih =>
    rcases Nat.lt_or_ge k j with beyond | within
    · obtain ⟨rest, rfl⟩ := Nat.exists_eq_add_of_lt beyond
      rw [Nat.add_assoc, advance_add h, ← advance_running_iff_of_bare unlimited back]
      exact ih (rest + 1) (by omega)
    · exact advance_running_of_le (congrArg Prod.fst h) within

/-! ## How many configurations there are -/

/-- What a running machine without a limit looks at, with so much room in its sink at most. -/
abbrev Configuration (room : Nat) : Type :=
  Fin 256 × Fin 256 × (Register → Fin 256) × (Fin 256 → Fin 256) × Fin (room + 1)

theorem card_configuration (room : Nat) :
    Fintype.card (Configuration room) = configurations * (room + 1) := by
  simp only [Configuration, configurations, Register, Fintype.card_prod, Fintype.card_fun,
    Fintype.card_fin, Nat.pow_eq, Nat.mul_assoc]

def configuration (room : Nat) (m : Machine) : Configuration room :=
  (m.state.pc.toFin, m.state.flags.bits.toFin, fun r => (m.state.get r).toFin,
    fun a => (m.state.memory.read (UInt8.ofFin a)).toFin, Fin.ofNat (room + 1) m.sink.capacity.room)

/-- Among machines that are alike in the rest, the configuration says all. -/
theorem bare_eq_of_configuration {room : Nat} (halted : m.state.halted = t.state.halted)
    (limit : m.limit = t.limit) (kind : m.sink.capacity.emptied = t.sink.capacity.emptied)
    (fits : m.sink.capacity.room ≤ room) (also_fits : t.sink.capacity.room ≤ room)
    (same : m.configuration room = t.configuration room) : m.bare = t.bare := by
  simp only [configuration, Prod.mk.injEq, UInt8.toFin_inj] at same
  obtain ⟨pc, flags, registers, memory, rooms⟩ := same
  have capacity : m.sink.capacity = t.sink.capacity := by
    refine Capacity.eq_of_room kind ?_
    have values := congrArg Fin.val rooms
    simpa [Nat.mod_eq_of_lt (Nat.lt_succ_of_le fits),
      Nat.mod_eq_of_lt (Nat.lt_succ_of_le also_fits)] using values
  have registers : m.state.registers = t.state.registers :=
    Registers.ext fun r => UInt8.toFin_inj.mp (congrFun registers r)
  have memory : m.state.memory = t.state.memory :=
    Memory.ext fun a => UInt8.toFin_inj.mp (congrFun memory a.toFin)
  have flags : m.state.flags = t.state.flags := congrArg Flags.mk flags
  simp only [bare, Sink.drained, pc, flags, registers, memory, halted, capacity, limit]

theorem capacity_step (m : Machine) :
    m.step.2.sink.capacity.emptied = m.sink.capacity.emptied ∧
      m.step.2.sink.capacity.room ≤ m.sink.capacity.room := by
  rcases m.step_cases with ⟨-, step⟩ | ⟨-, f, -, step⟩ | ⟨i, -, step⟩
  · rw [step]
    exact ⟨rfl, le_rfl⟩
  · rw [step]
    exact ⟨rfl, le_rfl⟩
  · rw [step]
    cases h : m.state.line? i with
    | none =>
      simp only [perform, h]
      exact ⟨rfl, le_rfl⟩
    | some line =>
      rw [perform_of_line h]
      cases (m.sink.write line).1 <;> exact m.sink.capacity_write line

theorem capacity_advance (k : Nat) (m : Machine) :
    (advance k m).2.sink.capacity.emptied = m.sink.capacity.emptied ∧
      (advance k m).2.sink.capacity.room ≤ m.sink.capacity.room := by
  induction k generalizing m with
  | zero => exact ⟨rfl, le_rfl⟩
  | succ k ih =>
    have first := capacity_step m
    rcases hm : m.step with ⟨answer, next⟩
    rw [hm] at first
    by_cases running : answer = .running
    · subst running
      obtain ⟨kind, room⟩ := ih next
      rw [advance_of_running hm]
      exact ⟨kind.trans first.1, room.trans first.2⟩
    · rw [advance_of_ended hm running]
      exact first

/-! ## Patience is enough -/

theorem patience_of_unlimited (unlimited : m.limit = none) :
    m.patience = configurations * (m.sink.capacity.room + 1) + 1 := by
  unfold patience
  rw [unlimited]
  cases m.sink.capacity with
  | unlimited => rfl
  | limited room failure => rfl

/-- Before a step that leaves the machine running, it is running. -/
theorem running_before {j : Nat} (h : (advance k m).1 = .running) (lt : j < k) :
    ∃ t, advance j m = (.running, t) ∧ t.state.halted = false ∧ t.limit = m.limit := by
  have so_far := advance_running_of_le h (Nat.le_of_lt lt)
  have one_more := advance_running_of_le h (Nat.succ_le_of_lt lt)
  rcases hj : advance j m with ⟨answer, t⟩
  rw [hj] at so_far
  cases so_far
  rw [advance_add hj 1, advance_one] at one_more
  have halted := (clock_of_running (Prod.ext one_more rfl)).1
  exact ⟨t, rfl, halted, (clock_of_advance hj).2⟩

/-- Of more machines than there are configurations, two share one. -/
theorem exists_return {room count : Nat} (many : configurations * (room + 1) ≤ count)
    (m : Machine) : ∃ a b, a < b ∧ b ≤ count ∧
      (advance a m).2.configuration room = (advance b m).2.configuration room := by
  have few : Fintype.card (Configuration room) < Fintype.card (Fin (count + 1)) := by
    rw [card_configuration, Fintype.card_fin]
    exact Nat.lt_succ_of_le many
  obtain ⟨a, b, ne, same⟩ := Fintype.exists_ne_map_eq_of_card_lt
    (fun j : Fin (count + 1) => (advance j m).2.configuration room) few
  rcases Nat.lt_or_gt_of_ne (Fin.val_ne_of_ne ne) with lt | gt
  · exact ⟨a, b, lt, Nat.le_of_lt_succ b.isLt, same⟩
  · exact ⟨b, a, gt, Nat.le_of_lt_succ a.isLt, same.symm⟩

/-- Without a limit, a run that outlasts the patience has come back to a configuration. -/
theorem runs_on_without_limit (unlimited : m.limit = none)
    (h : (advance m.patience m).1 = .running) (k : Nat) : (advance k m).1 = .running := by
  rw [patience_of_unlimited unlimited] at h
  obtain ⟨a, b, lt, le, same⟩ := exists_return (Nat.le_refl (configurations * (m.sink.capacity.room + 1))) m
  obtain ⟨t, ht, t_halted, t_limit⟩ := running_before h (show a < _ by omega)
  obtain ⟨u, hu, u_halted, u_limit⟩ := running_before h (show b < _ by omega)
  obtain ⟨t_kind, t_room⟩ := capacity_advance a m
  obtain ⟨u_kind, u_room⟩ := capacity_advance b m
  rw [ht] at same t_kind t_room
  rw [hu] at same u_kind u_room
  have back : t.bare = u.bare := bare_eq_of_configuration (t_halted.trans u_halted.symm)
    (t_limit.trans u_limit.symm) (t_kind.trans u_kind.symm) t_room u_room same
  have around : advance (b - a) t = (.running, u) := by
    rw [← advance_add ht, Nat.add_sub_of_le (Nat.le_of_lt lt), hu]
  have forever := runs_on_after_return (t_limit.trans unlimited) (by omega) around back
  rcases Nat.le_total k a with within | beyond
  · exact advance_running_of_le (congrArg Prod.fst ht) within
  · rw [← Nat.add_sub_of_le beyond, advance_add ht]
    exact forever _

/-- With a limit, no run outlasts the patience. -/
theorem ends_below_limit {n : Nat} (limit : m.limit = some n) :
    (advance m.patience m).1 ≠ .running := by
  intro h
  have patience : m.patience = n - m.state.clock + 1 := by
    unfold Machine.patience
    rw [limit]
  rw [patience] at h
  obtain ⟨t, ht, -⟩ := running_before h (Nat.lt_succ_self _)
  obtain ⟨clock, kept⟩ := clock_of_advance ht
  rw [advance_add ht 1, advance_one] at h
  have below := (clock_of_running (Prod.ext h rfl)).2.2.2 n (kept.trans limit)
  omega

/-- A run that outlasts the patience never ends. -/
theorem runs_on_of_patience (h : (advance m.patience m).1 = .running) (k : Nat) :
    (advance k m).1 = .running := by
  cases limit : m.limit with
  | none => exact runs_on_without_limit limit h k
  | some n => exact absurd h (ends_below_limit limit)

/-! ## Every run that ends is answered -/

theorem execute_eq (m : Machine) :
    execute m = ((advance m.patience m).1.result? (advance m.patience m).2.state.clock).map
      fun r => (r, (advance m.patience m).2) := by
  unfold execute
  rcases advance m.patience m with ⟨answer, last⟩
  cases answer <;> rfl

theorem execute_eq_some_iff {r : Except Fault Nat} {last : Machine} :
    execute m = some (r, last) ↔ Ends m r last := by
  rw [execute_eq, ends_iff_advance]
  constructor
  · intro h
    obtain ⟨r, result, same⟩ := Option.map_eq_some_iff.mp h
    cases same
    exact ⟨m.patience, _, rfl, result⟩
  · rintro ⟨k, answer, taken, result⟩
    have ended : answer ≠ .running := by
      rintro rfl
      cases result
    have enough : advance m.patience m = (answer, last) := by
      rcases Nat.le_total k m.patience with le | ge
      · exact advance_after_end taken ended le
      · rcases hp : advance m.patience m with ⟨other, t⟩
        by_cases running : other = .running
        · have on := runs_on_of_patience ((congrArg Prod.fst hp).trans running) k
          rw [taken] at on
          exact absurd on ended
        · rw [← taken, advance_after_end hp running ge]
    rw [enough, result]
    rfl

/-- There is no answer only if the run goes on for ever. -/
theorem execute_eq_none_iff : execute m = none ↔ ∀ k, (advance k m).1 = .running := by
  rw [execute_eq, Option.map_eq_none_iff]
  constructor
  · intro none k
    refine runs_on_of_patience ?_ k
    cases h : (advance m.patience m).1 with
    | running => rfl
    | halted | fault =>
      rw [h] at none
      cases none
  · intro on
    rw [on]
    rfl

/-- With a limit, every run is answered. -/
theorem execute_isSome_of_limit {n : Nat} (limit : m.limit = some n) :
    ∃ r last, execute m = some (r, last) := by
  cases h : execute m with
  | none => exact absurd (execute_eq_none_iff.mp h _) (ends_below_limit limit)
  | some answer => exact ⟨_, _, rfl⟩

/-- Steps that the machine has taken need not be taken again. -/
theorem execute_of_running_steps {j : Nat} (h : advance j m = (.running, t)) :
    execute m = execute t := by
  refine Option.ext fun answer => ?_
  obtain ⟨r, last⟩ := answer
  rw [execute_eq_some_iff, execute_eq_some_iff, ends_iff_of_advance h]

end Machine

end LS8
