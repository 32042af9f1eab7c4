-- The discipline of the stack. A push and a call open a frame of one byte, a pop and
-- a return close one. As long as nothing else moves the stack pointer and no closing
-- is too many, every closing gets the byte of the opening that it matches.
import LS8.Proofs.Bracket
import LS8.Proofs.Running

namespace LS8

/-- The `n` bytes from an address on, going on at address 0 behind the last cell. -/
def Memory.bytesFrom (memory : Memory) (address : Byte) (n : Nat) : List Byte :=
  (List.range n).map fun k => memory.read (address + UInt8.ofNat k)

theorem Memory.bytesFrom_succ (memory : Memory) (address : Byte) (n : Nat) :
    memory.bytesFrom address (n + 1) = memory.read address :: memory.bytesFrom (address + 1) n := by
  unfold bytesFrom
  rw [List.range_succ_eq_map, List.map_cons, List.map_map]
  congr 1
  · simp
  · refine List.map_congr_left fun k _ => ?_
    have shift : address + UInt8.ofNat (k + 1) = address + 1 + UInt8.ofNat k := by
      rw [UInt8.ofNat_add, UInt8.add_comm (UInt8.ofNat k), ← UInt8.add_assoc]
      rfl
    exact congrArg memory.read shift

/-- A byte that is written in front of fewer than 256 others leaves them as they are. -/
theorem Memory.bytesFrom_write {n : Nat} (few : n < 256) (memory : Memory) (address v : Byte) :
    (memory.write address v).bytesFrom (address + 1) n = memory.bytesFrom (address + 1) n := by
  refine List.map_congr_left fun k hk => read_write_other ?_ memory v
  have lt := List.mem_range.mp hk
  intro same
  have := congrArg UInt8.toNat same
  have := address.toNat_lt_256
  simp only [UInt8.toNat_add, UInt8.toNat_ofNat', UInt8.toNat_one] at *
  omega

/-! ## What an instruction does to the stack -/

namespace Instruction

/-- Whether the instruction opens or closes a frame on the stack. -/
def bracket : Instruction → BracketKind
  | push _ => .opening
  | branch .call _ => .opening
  | pop _ => .closing
  | ret => .closing
  | _ => .neither

/-- The instruction puts a value of its own into the stack pointer. -/
def setsPointer : Instruction → Bool
  | pop r => r = Register.sp
  | ldi r _ => r = Register.sp
  | alu op a _ => op ≠ .cmp ∧ a = Register.sp
  | _ => false

/-- The byte that the instruction stores in a new frame. The stack pointer is stored as it is
once the frame is there. -/
def stored? (s : State) : Instruction → Option Byte
  | push r => some (if r = Register.sp then s.sp - 1 else s.get r)
  | branch .call _ => some (s.pc + 2)
  | _ => none

/-- The byte that the instruction has taken out of a frame, in the state behind it. -/
def delivered? (behind : State) : Instruction → Option Byte
  | pop r => some (behind.get r)
  | ret => some behind.pc
  | _ => none

end Instruction

namespace State

variable {s t base : State} {i : Instruction} {v : Byte} {values : List Byte}

theorem execute_of_opening (opens : i.bracket = .opening) (fine : s.stackFault? i = none) :
    s.sp ≠ 0 ∧ ∃ v, i.stored? s = some v ∧ (s.execute i).2.sp = s.sp - 1 ∧
      (s.execute i).2.memory = s.memory.write (s.sp - 1) v := by
  cases i with
  | push r =>
    have room : s.sp ≠ 0 := by simpa [stackFault?] using fine
    have value : s.lowered.get r = if r = Register.sp then s.sp - 1 else s.get r := get_set ..
    refine ⟨room, _, rfl, ?_⟩
    rw [execute, if_neg room, ← value]
    exact ⟨sp_lowered s, congrArg (s.memory.write · _) (sp_lowered s)⟩
  | branch op r =>
    cases op with
    | call =>
      have room : s.sp ≠ 0 := by simpa [stackFault?] using fine
      have behind : s.following (.branch .call r) = s.pc + 2 :=
        following_of_width (Opcode.width_branch _)
      refine ⟨room, _, rfl, ?_⟩
      rw [execute, if_neg room, ← behind]
      exact ⟨sp_lowered s, congrArg (s.memory.write · _) (sp_lowered s)⟩
    | _ => cases opens
  | _ => cases opens

theorem execute_of_closing (closes : i.bracket = .closing) (fine : s.stackFault? i = none)
    (hands_off : i.setsPointer = false) : (s.execute i).2.sp = s.sp + 1 ∧
      (s.execute i).2.memory = s.memory ∧ i.delivered? (s.execute i).2 = some s.top := by
  cases i with
  | ret =>
    have room : s.sp ≠ 255 := by simpa [stackFault?] using fine
    rw [execute, if_neg room]
    exact ⟨sp_raised s, rfl, rfl⟩
  | pop r =>
    have other : r ≠ Register.sp := by simpa [Instruction.setsPointer] using hands_off
    have room : (s.set r s.top).sp ≠ 255 := by simpa [stackFault?] using fine
    have moved : (s.set r s.top).raised.sp = s.sp + 1 := by rw [sp_raised, sp_set, if_neg other]
    have filled : (s.set r s.top).raised.get r = s.top := by
      rw [raised, get_set, if_neg other, get_set, if_pos rfl]
    simp only [execute, if_neg room]
    exact ⟨moved, rfl, congrArg some filled⟩
  | branch op r => cases op <;> cases closes
  | _ => cases closes

theorem execute_of_neither (plain : i.bracket = .neither) (hands_off : i.setsPointer = false) :
    (s.execute i).2.sp = s.sp ∧ (s.execute i).2.memory = s.memory := by
  cases i with
  | hlt | prn => exact ⟨rfl, rfl⟩
  | ret | push | pop => cases plain
  | ldi r v =>
    have other : r ≠ Register.sp := by simpa [Instruction.setsPointer] using hands_off
    have kept : (s.set r v).sp = s.sp := by rw [sp_set, if_neg other]
    exact ⟨kept, rfl⟩
  | alu op a b =>
    have kept : (s.set a (op.value (s.get a) (s.get b))).sp = s.sp := by
      rw [sp_set]
      split
      · rename_i same
        have compares : op = .cmp := by simpa [Instruction.setsPointer, same] using hands_off
        rw [compares, same]
        rfl
      · rfl
    exact ⟨kept, rfl⟩
  | branch op r =>
    cases op with
    | call => cases plain
    | _ => exact ⟨rfl, rfl⟩

/-! ## The frames on the stack -/

/-- The state has the values on top of the stack of the base, the first of them on top of all. The
cells from the pointer of the base on are as they were. -/
structure Stacks (base s : State) (values : List Byte) : Prop where
  pointer : s.sp.toNat + values.length = base.sp.toNat
  frames : s.memory.bytesFrom s.sp values.length = values
  untouched : ∀ a, base.sp ≤ a → s.memory.read a = base.memory.read a

theorem Stacks.refl (s : State) : Stacks s s [] := ⟨rfl, rfl, fun _ _ => rfl⟩

theorem Stacks.keep (h : Stacks base s values) (pointer : t.sp = s.sp)
    (memory : t.memory = s.memory) : Stacks base t values :=
  ⟨pointer ▸ h.pointer, pointer ▸ memory ▸ h.frames, memory ▸ h.untouched⟩

theorem Stacks.push (h : Stacks base s values) (room : s.sp ≠ 0) (pointer : t.sp = s.sp - 1)
    (memory : t.memory = s.memory.write (s.sp - 1) v) : Stacks base t (v :: values) := by
  have bound := base.sp.toNat_lt_256
  have lower : (s.sp - 1).toNat + 1 = s.sp.toNat := by
    have : s.sp.toNat ≠ 0 := fun zero => room (UInt8.toNat_inj.mp zero)
    rw [UInt8.toNat_sub, UInt8.toNat_one]
    have := s.sp.toNat_lt_256
    omega
  have back : s.sp - 1 + 1 = s.sp := UInt8.sub_add_cancel _ _
  refine ⟨?_, ?_, fun a ha => ?_⟩
  · have := h.pointer
    rw [pointer, List.length_cons]
    omega
  · have few : values.length < 256 := by
      have := h.pointer
      omega
    rw [pointer, memory, List.length_cons, Memory.bytesFrom_succ, Memory.read_write_same,
      Memory.bytesFrom_write few, back, h.frames]
  · have other : a ≠ s.sp - 1 := by
      rintro rfl
      have := h.pointer
      have := UInt8.le_iff_toNat_le.mp ha
      omega
    rw [memory, Memory.read_write_other other, h.untouched a ha]

theorem Stacks.top_eq (h : Stacks base s (v :: values)) : s.top = v := by
  have frames := h.frames
  rw [List.length_cons, Memory.bytesFrom_succ] at frames
  exact (List.cons.inj frames).1

theorem Stacks.pop (h : Stacks base s (v :: values)) (pointer : t.sp = s.sp + 1)
    (memory : t.memory = s.memory) : Stacks base t values := by
  refine ⟨?_, ?_, memory ▸ h.untouched⟩
  · have before := h.pointer
    have bound := base.sp.toNat_lt_256
    rw [List.length_cons] at before
    rw [pointer, UInt8.toNat_add, UInt8.toNat_one]
    omega
  · have frames := h.frames
    rw [List.length_cons, Memory.bytesFrom_succ] at frames
    rw [pointer, memory]
    exact (List.cons.inj frames).2

end State

/-! ## Step after step -/

namespace Machine

open BracketKind

/-- What the next step does to the nesting. -/
def bracket (m : Machine) : BracketKind := (m.executed?.map Instruction.bracket).getD .neither

/-- The byte that the next step stores in a new frame, if it opens one. -/
def stored? (m : Machine) : Option Byte := m.executed?.bind (Instruction.stored? m.state)

/-- The byte that the next step takes out of a frame, if it closes one. -/
def delivered? (m : Machine) : Option Byte :=
  m.executed?.bind (Instruction.delivered? m.step.2.state)

/-- The nesting of the steps that the machine takes. -/
def brackets (m : Machine) (k : Nat) : BracketKind := (m.after k).bracket

/-- None of the first `k` steps fails, none of them sets the stack pointer, and no closing among
them is too many. -/
structure Disciplined (m : Machine) (k : Nat) : Prop where
  fine : ∀ j < k, ∀ f, (m.after j).step.1 ≠ .fault f
  hands_off : ∀ j < k, ∀ i ∈ (m.after j).executed?, i.setsPointer = false
  nested : Nested m.brackets k

theorem ne_fault_iff {p : Progress} : (∀ f, p ≠ .fault f) ↔ p = .running ∨ p = .halted := by
  cases p <;> simp

instance (p : Progress) : Decidable (∀ f, p ≠ .fault f) := decidable_of_iff _ ne_fault_iff.symm

instance (m : Machine) (k : Nat) : Decidable (m.Disciplined k) :=
  decidable_of_iff
    ((∀ j < k, ∀ f, (m.after j).step.1 ≠ .fault f) ∧
      (∀ j < k, ∀ i ∈ (m.after j).executed?, i.setsPointer = false) ∧ Nested m.brackets k)
    ⟨fun ⟨fine, hands_off, nested⟩ => ⟨fine, hands_off, nested⟩,
      fun h => ⟨h.fine, h.hands_off, h.nested⟩⟩

variable {m : Machine} {i j k : Nat}

theorem Disciplined.mono (h : m.Disciplined k) (le : j ≤ k) : m.Disciplined j :=
  ⟨fun l hl => h.fine l (by omega), fun l hl => h.hands_off l (by omega), h.nested.mono le⟩

theorem executed_of_bracket {b : BracketKind} (h : m.bracket = b) (nests : b ≠ .neither) :
    ∃ i, m.executed? = some i ∧ i.bracket = b := by
  unfold bracket at h
  cases run : m.executed? with
  | none => exact absurd (by simpa [run] using h.symm) nests
  | some i => exact ⟨i, rfl, by simpa [run] using h⟩

theorem step_of_opening (opens : m.bracket = .opening) (fine : ∀ f, m.step.1 ≠ .fault f) :
    m.state.sp ≠ 0 ∧ ∃ v, m.stored? = some v ∧ m.step.2.state.sp = m.state.sp - 1 ∧
      m.step.2.state.memory = m.state.memory.write (m.state.sp - 1) v := by
  obtain ⟨i, run, kind⟩ := executed_of_bracket opens (by decide)
  obtain ⟨room, _, _, step⟩ := step_of_executed run fine
  rw [stored?, run, step]
  exact State.execute_of_opening kind room

theorem step_of_closing (closes : m.bracket = .closing) (fine : ∀ f, m.step.1 ≠ .fault f)
    (hands_off : ∀ i ∈ m.executed?, i.setsPointer = false) :
    m.step.2.state.sp = m.state.sp + 1 ∧ m.step.2.state.memory = m.state.memory ∧
      m.delivered? = some m.state.top := by
  obtain ⟨i, run, kind⟩ := executed_of_bracket closes (by decide)
  obtain ⟨room, _, _, step⟩ := step_of_executed run fine
  rw [delivered?, run, step]
  exact State.execute_of_closing kind room (hands_off i run)

theorem step_of_neither (plain : m.bracket = .neither) (fine : ∀ f, m.step.1 ≠ .fault f)
    (hands_off : ∀ i ∈ m.executed?, i.setsPointer = false) :
    m.step.2.state.sp = m.state.sp ∧ m.step.2.state.memory = m.state.memory := by
  rcases m.step_cases with ⟨_, step⟩ | ⟨_, f, _, step⟩ | ⟨i, run, _⟩
  · rw [step]
    exact ⟨rfl, rfl⟩
  · exact absurd (congrArg Prod.fst step) (fine f)
  · obtain ⟨_, _, _, step⟩ := step_of_executed run fine
    have kind : i.bracket = .neither := by simpa [bracket, run] using plain
    rw [step]
    exact State.execute_of_neither kind (hands_off i run)

/-- On the stack are the bytes of the openings that are pending. -/
theorem Disciplined.stacked (h : m.Disciplined k) :
    ∃ values, (pending m.brackets k).map (fun i => (m.after i).stored?) = values.map some ∧
      m.state.Stacks (m.after k).state values := by
  induction k with
  | zero => exact ⟨[], rfl, State.Stacks.refl _⟩
  | succ k ih =>
    obtain ⟨values, frames, stacked⟩ := ih (h.mono (Nat.le_succ k))
    have fine := h.fine k (Nat.lt_succ_self k)
    have hands_off := h.hands_off k (Nat.lt_succ_self k)
    cases kind : m.brackets k with
    | opening =>
      obtain ⟨room, v, stored, pointer, memory⟩ := step_of_opening kind fine
      refine ⟨v :: values, ?_, stacked.push room pointer memory⟩
      rw [pending_of_opening kind, List.map_cons, List.map_cons, stored, frames]
    | closing =>
      obtain ⟨pointer, memory, _⟩ := step_of_closing kind fine hands_off
      obtain ⟨i, rest, eq⟩ := pending_of_next_closing h.nested kind
      rw [eq] at frames
      cases values with
      | nil => cases frames
      | cons v values =>
        refine ⟨values, ?_, stacked.pop pointer memory⟩
        rw [pending_of_closing kind, eq]
        exact (List.cons.inj frames).2
    | neither =>
      obtain ⟨pointer, memory⟩ := step_of_neither kind fine hands_off
      refine ⟨values, ?_, stacked.keep pointer memory⟩
      rw [pending_of_neither kind, frames]

/-- What a match passes on: the byte that is stored is the byte that is delivered. -/
theorem Disciplined.passed_on (h : m.Disciplined k) (lt : j < k)
    (matched : Matches m.brackets i j) :
    ∃ v, (m.after i).stored? = some v ∧ (m.after j).delivered? = some v := by
  have closes : m.brackets j = .closing := matched.2.2.1
  have so_far := h.mono (Nat.le_of_lt lt)
  obtain ⟨o, rest, eq⟩ := pending_of_next_closing (h.nested.mono lt) closes
  obtain rfl : i = o := matched.unique (matches_head so_far.nested closes eq)
  obtain ⟨values, frames, stacked⟩ := so_far.stacked
  rw [eq] at frames
  cases values with
  | nil => cases frames
  | cons v values =>
    refine ⟨v, (List.cons.inj frames).1, ?_⟩
    obtain ⟨_, _, delivered⟩ := step_of_closing closes (h.fine j lt) (h.hands_off j lt)
    rw [delivered, stacked.top_eq]

/-- The stack after `k` steps of nested openings and closings. -/
structure WellNested (m : Machine) (k : Nat) : Prop where
  /-- The pointer is the first one less the openings that are not closed, with no wrapping. -/
  pointer : ((m.after k).state.sp.toNat : Int) =
    m.state.sp.toNat - (openings m.brackets k - closings m.brackets k)
  untouched : ∀ a, m.state.sp ≤ a → (m.after k).state.memory.read a = m.state.memory.read a
  /-- From the pointer up to the first one stand the bytes of the unmatched openings. -/
  frames : ((m.after k).state.memory.bytesFrom (m.after k).state.sp
      (m.state.sp.toNat - (m.after k).state.sp.toNat)).map some =
    (unmatched m.brackets k).map fun i => (m.after i).stored?
  matched : ∀ j < k, m.brackets j = .closing → ∃ i, Matches m.brackets i j
  delivered : ∀ i, ∀ j < k, Matches m.brackets i j →
    ∃ v, (m.after i).stored? = some v ∧ (m.after j).delivered? = some v
  popped : ∀ i, ∀ j < k, Matches m.brackets i j → ∀ r q,
    (m.after i).executed? = some (.push r) → (m.after j).executed? = some (.pop q) →
      (m.after (j + 1)).state.get q =
        if r = Register.sp then (m.after i).state.sp - 1 else (m.after i).state.get r
  returned : ∀ i, ∀ j < k, Matches m.brackets i j → ∀ r,
    (m.after i).executed? = some (.branch .call r) → (m.after j).executed? = some .ret →
      (m.after (j + 1)).state.pc = (m.after i).state.pc + 2
  balanced : openings m.brackets k = closings m.brackets k → (m.after k).state.sp = m.state.sp

theorem Disciplined.wellNested (h : m.Disciplined k) : m.WellNested k := by
  obtain ⟨values, frames, stacked⟩ := h.stacked
  have depth := length_pending h.nested
  have count : (pending m.brackets k).length = values.length := by
    simpa using congrArg List.length frames
  have pointer := stacked.pointer
  constructor
  case pointer => omega
  case untouched => exact stacked.untouched
  case frames =>
    rw [← pending_eq_unmatched h.nested, frames, ← pointer, Nat.add_sub_cancel_left,
      stacked.frames]
  case matched =>
    intro j lt closes
    obtain ⟨i, rest, eq⟩ := pending_of_next_closing (h.nested.mono lt) closes
    exact ⟨i, matches_head (h.nested.mono (Nat.le_of_lt lt)) closes eq⟩
  case delivered => exact fun i j lt matched => h.passed_on lt matched
  case popped =>
    intro i j lt matched r q pushes pops
    obtain ⟨v, stored, delivered⟩ := h.passed_on lt matched
    simp only [stored?, pushes] at stored
    simp only [delivered?, pops] at delivered
    exact Option.some.inj (delivered.trans stored.symm)
  case returned =>
    intro i j lt matched r calls returns
    obtain ⟨v, stored, delivered⟩ := h.passed_on lt matched
    simp only [stored?, calls] at stored
    simp only [delivered?, returns] at delivered
    exact Option.some.inj (delivered.trans stored.symm)
  case balanced =>
    intro even
    exact UInt8.toNat_inj.mp (by omega)

/-- At every point of a disciplined run, the stack is well nested. -/
theorem the_stack_is_well_nested (h : m.Disciplined k) : ∀ j ≤ k, m.WellNested j := fun _ le =>
  (h.mono le).wellNested

/-- Here a routine is called that pushes the stack pointer, pops it again and returns. -/
theorem a_called_routine_gives_the_stack_back :
    ∃ m : Machine, m.Disciplined 5 ∧ (∀ j ≤ 5, m.WellNested j) ∧
      unmatched m.brackets 3 = [2, 1] ∧ (m.after 3).state.sp = 242 ∧ Matches m.brackets 1 4 ∧
      (m.after 5).state.pc = (m.after 1).state.pc + 2 ∧ (m.after 5).state.sp = m.state.sp := by
  let m := Machine.start ⟨[130, 0, 6, 80, 0, 1, 69, 7, 70, 1, 17], by decide⟩ none {}
  have disciplined : m.Disciplined 5 := by decide +kernel
  have inside : unmatched m.brackets 3 = [2, 1] ∧ (m.after 3).state.sp = 242 := by decide +kernel
  have matched : Matches m.brackets 1 4 := by decide +kernel
  have calls : (m.after 1).executed? = some (.branch .call 0) := by decide +kernel
  have returns : (m.after 4).executed? = some .ret := by decide +kernel
  have even : openings m.brackets 5 = closings m.brackets 5 := by decide +kernel
  clear_value m
  have nested := the_stack_is_well_nested disciplined
  have whole := nested 5 le_rfl
  exact ⟨m, disciplined, nested, inside.1, inside.2, matched,
    whole.returned 1 4 (by omega) matched 0 calls returns, whole.balanced even⟩

end Machine

end LS8
