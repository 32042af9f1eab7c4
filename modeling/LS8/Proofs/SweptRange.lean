-- Where the stack writes. A byte is only ever written where the stack pointer stands behind the
-- step, one below where it stood before. So whatever the instructions make of the pointer, the
-- memory outside of the range that it has swept is as it was.
import LS8.Proofs.MemoryAccess

namespace LS8.Machine

variable {m : Machine} {j k : Nat} {a : Byte}

/-! ## The range of the stack pointer -/

/-- The lowest that the stack pointer has stood before or behind one of the first `k` steps. -/
def lowest (m : Machine) : Nat → Nat
  | 0 => m.state.sp.toNat
  | k + 1 => min (m.lowest k) (m.after (k + 1)).state.sp.toNat

/-- The highest that the stack pointer has stood before or behind one of the first `k` steps. -/
def highest (m : Machine) : Nat → Nat
  | 0 => m.state.sp.toNat
  | k + 1 => max (m.highest k) (m.after (k + 1)).state.sp.toNat

theorem lowest_le (le : j ≤ k) : m.lowest k ≤ (m.after j).state.sp.toNat := by
  induction k with
  | zero =>
    obtain rfl := Nat.le_zero.mp le
    exact Nat.le_refl _
  | succ k ih =>
    unfold lowest
    rcases Nat.le_succ_iff.mp le with earlier | rfl
    · exact Nat.le_trans (Nat.min_le_left _ _) (ih earlier)
    · exact Nat.min_le_right _ _

theorem le_highest (le : j ≤ k) : (m.after j).state.sp.toNat ≤ m.highest k := by
  induction k with
  | zero =>
    obtain rfl := Nat.le_zero.mp le
    exact Nat.le_refl _
  | succ k ih =>
    unfold highest
    rcases Nat.le_succ_iff.mp le with earlier | rfl
    · exact Nat.le_trans (ih earlier) (Nat.le_max_left _ _)
    · exact Nat.le_max_right _ _

theorem exists_highest (m : Machine) (k : Nat) :
    ∃ j ≤ k, (m.after j).state.sp.toNat = m.highest k := by
  induction k with
  | zero => exact ⟨0, Nat.le_refl 0, rfl⟩
  | succ k ih =>
    obtain ⟨j, le, same⟩ := ih
    by_cases higher : (m.after (k + 1)).state.sp.toNat ≤ m.highest k
    · exact ⟨j, Nat.le_succ_of_le le, by rw [highest, Nat.max_eq_left higher, same]⟩
    · exact ⟨k + 1, Nat.le_refl _, by rw [highest, Nat.max_eq_right (by omega)]⟩

/-! ## What is left alone -/

/-- A step writes no cell but the one where the stack pointer stands behind it. -/
theorem read_step (other : a ≠ m.step.2.state.sp) :
    m.step.2.state.memory.read a = m.state.memory.read a := by
  rw [memory_of_step]
  cases write : m.write? with
  | none => rfl
  | some w =>
    obtain ⟨-, -, pointer⟩ := sp_of_step_write (Prod.eta w ▸ write)
    exact Memory.read_write_other (pointer ▸ other) _ _

/-- A step that writes lowers the stack pointer by one. -/
theorem read_step_outside
    (outside : a.toNat < m.step.2.state.sp.toNat ∨ m.state.sp.toNat ≤ a.toNat) :
    m.step.2.state.memory.read a = m.state.memory.read a := by
  rw [memory_of_step]
  cases write : m.write? with
  | none => rfl
  | some w =>
    obtain ⟨room, below, pointer⟩ := sp_of_step_write (Prod.eta w ▸ write)
    have above : m.state.sp.toNat = w.1.toNat + 1 := by
      have : m.state.sp.toNat ≠ 0 := fun zero => room (UInt8.toNat_inj.mp zero)
      have := m.state.sp.toNat_lt_256
      rw [below, UInt8.toNat_sub, UInt8.toNat_one]
      omega
    apply Memory.read_write_other
    rintro rfl
    rw [pointer] at outside
    omega

/-- The memory outside of the swept range is as it was. -/
theorem read_outside (outside : a.toNat < m.lowest k ∨ m.highest k ≤ a.toNat) :
    (m.after k).state.memory.read a = m.state.memory.read a := by
  induction k with
  | zero => rfl
  | succ k ih =>
    have below := lowest_le (m := m) (Nat.le_refl (k + 1))
    have above := le_highest (m := m) (show k ≤ k + 1 from Nat.le_succ k)
    have still_outside : a.toNat < m.lowest k ∨ m.highest k ≤ a.toNat := by
      unfold lowest highest at outside
      omega
    rw [← ih still_outside]
    apply read_step_outside
    show a.toNat < (m.after (k + 1)).state.sp.toNat ∨ _
    omega

/-! ## The law -/

/-- The memory outside of the range from the lowest to the highest place of the stack pointer is as
it was, and each step writes at most the cell where the pointer stands behind it. So a run that
never raises the pointer above its first place leaves the cells from there on alone, and no run
touches what the program put below the lowest place. -/
theorem the_stack_writes_where_it_has_been (m : Machine) (k : Nat) :
    (∀ a : Byte, a.toNat < m.lowest k ∨ m.highest k ≤ a.toNat →
      (m.after k).state.memory.read a = m.state.memory.read a) ∧
    (∀ a, a ≠ m.step.2.state.sp → m.step.2.state.memory.read a = m.state.memory.read a) ∧
    ∀ p limit sink, m = start p limit sink →
      ((∀ j ≤ k, (m.after j).state.sp ≤ 244) →
        ∀ a, 244 ≤ a → (m.after k).state.memory.read a = p.memory.read a) ∧
      ∀ a : Byte, a.toNat < m.lowest k → (m.after k).state.memory.read a = p.memory.read a := by
  refine ⟨fun a outside => read_outside outside, fun a other => read_step other, ?_⟩
  rintro p limit sink rfl
  refine ⟨fun low a reserved => ?_, fun a below => read_outside (Or.inl below)⟩
  apply read_outside
  right
  obtain ⟨j, le, same⟩ := exists_highest (start p limit sink) k
  rw [← same]
  exact Nat.le_trans (UInt8.le_iff_toNat_le.mp (low j le)) (UInt8.le_iff_toNat_le.mp reserved)

/-- A program that moves the stack pointer to 100 and pushes a nine there. -/
def movedStackProgram : Program where
  image := [0x82, 0, 9, 0x82, 7, 100, 0x45, 0]

/-- The nine is in the last cell below 100, the lowest place of the pointer, and neither the program
nor a cell from 244 on has changed. -/
theorem a_moved_stack_leaves_the_last_cells_alone :
    ∃ m : Machine, m = start movedStackProgram none {} ∧
      (∀ j ≤ 3, (m.after j).state.sp ≤ 244) ∧ m.lowest 3 = 99 ∧ m.highest 3 = 244 ∧
      (m.after 3).state.memory.read 99 = 9 ∧
      (∀ a : Byte, 244 ≤ a → (m.after 3).state.memory.read a = movedStackProgram.memory.read a) ∧
      ∀ a : Byte, a.toNat < 99 →
        (m.after 3).state.memory.read a = movedStackProgram.memory.read a := by
  let m := start movedStackProgram none {}
  have low : ∀ j ≤ 3, (m.after j).state.sp ≤ 244 := by decide +kernel
  have range : m.lowest 3 = 99 ∧ m.highest 3 = 244 := by decide +kernel
  have pushed : (m.after 3).state.memory.read 99 = 9 := by decide +kernel
  have started : m = start movedStackProgram none {} := rfl
  clear_value m
  obtain ⟨-, -, fresh⟩ := the_stack_writes_where_it_has_been m 3
  obtain ⟨reserved, below⟩ := fresh movedStackProgram none {} started
  rw [range.1] at below
  exact ⟨m, started, low, range.1, range.2, pushed, reserved low, below⟩

end LS8.Machine
