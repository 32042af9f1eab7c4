-- A listing tells what is executed. While a run meets only instructions that go on to the one
-- behind them, it stays in step with the listing: the walk over the memory and the program
-- counter pass the same addresses, and what they find there is the same.
import LS8.Proofs.Reassembly
import LS8.Proofs.Running

namespace LS8

/-! ## The end of a listing -/

namespace Program

/-- The address behind the last entry. -/
def listingEnd (p : Program) : Nat :=
  match p.listing.getLast? with
  | some line => line.1.toNat + line.2.size
  | none => 0

theorem listingEnd_eq (p : Program) : p.listingEnd = (listedBytes p.listing).length := by
  unfold listingEnd
  rw [List.getLast?_eq_getElem?]
  rcases Nat.eq_zero_or_pos p.listing.length with none_listed | some_listed
  · rw [List.length_eq_zero_iff.mp none_listed]
    rfl
  · have last : p.listing.length - 1 < p.listing.length := by omega
    have whole := listedBytes_take_succ last
    rw [Nat.sub_add_cancel some_listed, List.take_length] at whole
    rw [List.getElem?_eq_getElem last, whole, List.length_append, Entry.length_bytes,
      ← (p.address_of_entry last).1]

theorem listingEnd_le (p : Program) : p.listingEnd ≤ 256 := by
  obtain ⟨z, -, inside, whole⟩ := p.listedBytes_listing
  rw [listingEnd_eq, whole, List.length_append, List.length_replicate]
  exact inside

/-- Behind the last entry the memory is empty. -/
theorem read_listingEnd (p : Program) (inside : p.listingEnd < 256) :
    p.memory.read (UInt8.ofNat p.listingEnd) = 0 := by
  rw [← p.memory_of_listing, Memory.read_ofImage, UInt8.toNat_ofNat_of_lt' inside, listingEnd_eq]
  simp

end Program

theorem Instruction.decode_of_zero {memory : Memory} {pc : Byte} (h : memory.read pc = 0) :
    decode memory pc = .error (.unknownOpcode pc 0) := by
  have unknown : Opcode.ofByte? 0 = none := by decide
  simp only [decode, h, unknown]

/-! ## Instructions that go on to the one behind them -/

/-- The instruction goes on to the one behind it, and neither writes memory nor stops. -/
def State.goesOn (s : State) : Instruction → Bool
  | .ldi _ _ | .prn _ | .alu _ _ _ => true
  | .pop r => (s.execute (.pop r)).1 == .running
  | .branch .jeq _ => !s.flags.contains Flags.equal
  | .branch .jne _ => s.flags.contains Flags.equal
  | _ => false

theorem State.execute_of_goesOn {s : State} {i : Instruction} (h : s.goesOn i = true) :
    (s.execute i).1 = .running ∧ (s.execute i).2.pc = s.following i ∧
      (s.execute i).2.memory = s.memory := by
  cases i with
  | hlt | ret | push => cases h
  | ldi | prn | alu => exact ⟨rfl, rfl, rfl⟩
  | pop r =>
    have running : (s.execute (.pop r)).1 = .running := beq_iff_eq.mp h
    refine ⟨running, ?_⟩
    simp only [execute] at running ⊢
    split
    · rename_i empty
      simp [empty] at running
    · exact ⟨rfl, rfl⟩
  | branch op r =>
    cases op with
    | call | jmp => cases h
    | jeq =>
      have not_equal : s.flags.contains Flags.equal = false := by simpa [goesOn] using h
      simp [execute, next, not_equal]
    | jne =>
      have equal : s.flags.contains Flags.equal = true := h
      simp [execute, next, equal]

namespace Machine

variable {m : Machine} {i : Instruction} {p : Program} {address clock k : Nat}

/-! ## Runs in step with the listing -/

/-- The first `k` entries are instructions, and each of them, when its turn comes, goes on to the
one behind it. -/
def goesStraight (m : Machine) (p : Program) (k : Nat) : Prop :=
  ∀ j < k, ∃ i, p.listing[j]?.map (·.2) = some (.instruction i) ∧
    (m.after j).state.goesOn i = true

/-- The machine is about to execute the entry where it is listed, or to fail there if it is a
byte. -/
def meets (m : Machine) (line : Byte × Entry) : Prop :=
  m.state.pc = line.1 ∧
  match line.2 with
  | .instruction i => m.executed? = some i
  | .byte b => ∃ f, m.step = (.fault f, m) ∧
    (f = .unknownOpcode line.1 b ∨ (∃ index, f = .invalidRegister line.1 index) ∨
      ∃ address, f = .invalidAccess line.1 address)

/-- The machine stands at an address, with the memory as the program filled it and nothing to stop
it but the instructions. -/
structure StandsAt (m : Machine) (p : Program) (address clock : Nat) : Prop where
  pc : m.state.pc = UInt8.ofNat address
  clock : m.state.clock = clock
  memory : m.state.memory = p.memory
  halted : m.state.halted = false
  limit : m.limit = none
  sink : m.sink.capacity = .unlimited

namespace StandsAt

theorem start (p : Program) {sink : Sink} (open_sink : sink.capacity = .unlimited) :
    (Machine.start p none sink).StandsAt p 0 0 :=
  ⟨rfl, rfl, rfl, rfl, rfl, open_sink⟩

variable (at_address : m.StandsAt p address clock)
include at_address

theorem fetch : m.fetch = Instruction.decode p.memory (UInt8.ofNat address) := by
  rw [fetch_of_below (by simp [at_address.limit]), at_address.memory, at_address.pc]

/-- What is listed as an instruction is executed. -/
theorem executed (listed : Entry.read p.memory (UInt8.ofNat address) = .instruction i) :
    m.executed? = some i := by
  refine executed?_eq_some_iff.mpr ⟨at_address.halted, ?_⟩
  rw [at_address.fetch, Instruction.decode_eq_ok_iff_encode]
  exact Entry.read_eq_instruction_iff.mp listed

theorem step_of_error {f : Fault}
    (failed : Instruction.decode p.memory (UInt8.ofNat address) = .error f) :
    m.step = (.fault f, m) :=
  step_of_fetch_error at_address.halted (at_address.fetch.trans failed)

/-- The machine meets what is listed at the address where it stands. -/
theorem meets {line : Byte × Entry} (at_line : line.1 = UInt8.ofNat address)
    (listed : line.2 = Entry.read p.memory line.1) : m.meets line := by
  refine ⟨at_address.pc.trans at_line.symm, ?_⟩
  cases entry : line.2 with
  | instruction i =>
    rw [entry, at_line] at listed
    exact at_address.executed listed.symm
  | byte b =>
    rw [entry] at listed
    obtain ⟨read, f, failed⟩ := Entry.read_eq_byte_iff.mp listed.symm
    refine ⟨f, at_address.step_of_error (at_line ▸ failed), ?_⟩
    rw [← read]
    exact Instruction.decode_eq_error failed

/-- After an instruction that goes on, the machine stands behind it. -/
theorem step (listed : Entry.read p.memory (UInt8.ofNat address) = .instruction i)
    (on : m.state.goesOn i = true) :
    m.step.1 = .running ∧ m.step.2.StandsAt p (address + i.width) (clock + 1) := by
  obtain ⟨halted, fetched⟩ := executed?_eq_some_iff.mp (at_address.executed listed)
  have performed := perform_of_unlimited at_address.sink i
  obtain ⟨running, pc, memory⟩ := State.execute_of_goesOn on
  obtain ⟨counted, awake⟩ := State.clock_of_execute running
  rw [step_of_fetch_ok halted fetched, performed]
  refine ⟨running, ?_, ?_, ?_, ?_, at_address.limit, rfl⟩
  · rw [UInt8.ofNat_add, ← at_address.pc]
    exact pc
  · rw [← at_address.clock]
    exact counted
  · exact memory.trans at_address.memory
  · exact awake.trans at_address.halted

end StandsAt

/-! ## The whole run -/

/-- The entry with number `k` is what is read at the address behind the entries before it. -/
theorem read_of_entry {line : Byte × Entry} (listed : p.listing[k]? = some line) :
    line.1 = UInt8.ofNat (listedBytes (p.listing.take k)).length ∧
      line.2 = Entry.read p.memory line.1 := by
  obtain ⟨h, rfl⟩ := List.getElem?_eq_some_iff.mp listed
  obtain ⟨address, -, entry⟩ := p.address_of_entry h
  refine ⟨?_, entry⟩
  rw [← address, UInt8.ofNat_toNat]

/-- Going straight, the machine executes the entries in their order and then stands behind them. -/
theorem standsAt_of_goesStraight (h : m.StandsAt p 0 0) (straight : m.goesStraight p k) :
    (∀ j < k, ∃ i, p.listing[j]?.map (·.2) = some (.instruction i) ∧
      (m.after j).step.1 = .running ∧ (m.after j).executed? = some i) ∧
    (m.after k).StandsAt p (listedBytes (p.listing.take k)).length k := by
  induction k with
  | zero => exact ⟨fun j none_before => absurd none_before (Nat.not_lt_zero j), h⟩
  | succ k ih =>
    obtain ⟨before, here⟩ := ih fun j lt => straight j (Nat.lt_succ_of_lt lt)
    obtain ⟨i, entry, on⟩ := straight k (Nat.lt_succ_self k)
    obtain ⟨line, listed, instruction⟩ := Option.map_eq_some_iff.mp entry
    obtain ⟨address, read⟩ := read_of_entry listed
    rw [instruction, address] at read
    obtain ⟨running, there⟩ := here.step read.symm on
    refine ⟨?_, ?_⟩
    · intro j lt
      rcases Nat.lt_succ_iff_lt_or_eq.mp lt with earlier | rfl
      · exact before j earlier
      · exact ⟨i, entry, running, here.executed read.symm⟩
    · obtain ⟨inside, rfl⟩ := List.getElem?_eq_some_iff.mp listed
      rw [listedBytes_take_succ inside, List.length_append, Entry.length_bytes, instruction]
      exact there

/-- As long as a run goes straight, it executes the entries of the listing one after the other, and
the next step meets the entry behind them. Behind the last entry the run fails, unless memory ends
there: then the first entry is executed again. -/
theorem the_listing_tells_what_is_executed (p : Program) (sink : Sink)
    (open_sink : sink.capacity = .unlimited) (m : Machine) (fresh : m = start p none sink) (k : Nat)
    (straight : m.goesStraight p k) :
    k ≤ p.listing.length ∧
    (∀ j < k, ∃ i, p.listing[j]?.map (·.2) = some (.instruction i) ∧
      (m.after j).step.1 = .running ∧ (m.after j).executed? = some i) ∧
    (m.after k).state.clock = k ∧
    (∀ line ∈ p.listing[k]?, (m.after k).meets line) ∧
    (k = p.listing.length →
      (m.after k).state.pc = UInt8.ofNat p.listingEnd ∧
      p.listingEnd ≤ 256 ∧
      (p.listingEnd < 256 →
        (m.after k).step = (.fault (.unknownOpcode (UInt8.ofNat p.listingEnd) 0), m.after k)) ∧
      (p.listingEnd = 256 → ∃ line, p.listing[0]? = some line ∧ line.1 = 0 ∧
        (∃ i, line.2 = .instruction i) ∧ (m.after k).meets line)) := by
  have here_at_first : m.StandsAt p 0 0 := fresh ▸ StandsAt.start p open_sink
  obtain ⟨executed, here⟩ := standsAt_of_goesStraight here_at_first straight
  refine ⟨?_, executed, here.clock, ?_, ?_⟩
  · apply Nat.le_of_not_lt
    intro beyond
    obtain ⟨i, entry, -⟩ := straight _ beyond
    simp at entry
  · intro line listed
    obtain ⟨address, read⟩ := read_of_entry listed
    exact here.meets address read
  · rintro rfl
    rw [List.take_length, ← p.listingEnd_eq] at here
    refine ⟨here.pc, p.listingEnd_le, ?_, ?_⟩
    · intro inside
      exact here.step_of_error (Instruction.decode_of_zero (p.read_listingEnd inside))
    · intro full
      have some_listed : 0 < p.listing.length := by
        apply Nat.pos_of_ne_zero
        intro none_listed
        rw [p.listingEnd_eq, List.length_eq_zero_iff.mp none_listed] at full
        cases full
      obtain ⟨i, entry, -⟩ := straight 0 some_listed
      obtain ⟨line, listed, instruction⟩ := Option.map_eq_some_iff.mp entry
      obtain ⟨address, read⟩ := read_of_entry listed
      have first : line.1 = 0 := address
      have wrapped : (0 : Byte) = UInt8.ofNat 256 := by decide
      rw [full] at here
      exact ⟨line, listed, first, ⟨i, instruction⟩, here.meets (first.trans wrapped) read⟩

/-- A program that loads, compares, does not jump, pops and prints, with a byte behind it that is
no instruction. -/
def straightProgram : Program where
  image := [0x82, 1, 5, 0xA7, 1, 1, 0x56, 0, 0x46, 2, 0x47, 2, 0xFF]

/-- After five instructions the machine meets the byte at address 12. -/
theorem a_run_meets_the_byte_behind_five_instructions :
    ({} : Sink).capacity = .unlimited ∧
    (start straightProgram none {}).goesStraight straightProgram 5 ∧
    ((start straightProgram none {}).after 5).state.clock = 5 ∧
    ((start straightProgram none {}).after 5).meets (12, .byte 0xFF) := by
  have straight : (start straightProgram none {}).goesStraight straightProgram 5 := by
    intro j lt
    match j with
    | 0 => exact ⟨.ldi 1 5, by decide +kernel, by decide +kernel⟩
    | 1 => exact ⟨.alu .cmp 1 1, by decide +kernel, by decide +kernel⟩
    | 2 => exact ⟨.branch .jne 0, by decide +kernel, by decide +kernel⟩
    | 3 => exact ⟨.pop 2, by decide +kernel, by decide +kernel⟩
    | 4 => exact ⟨.prn 2, by decide +kernel, by decide +kernel⟩
  obtain ⟨-, -, clock, next, -⟩ :=
    the_listing_tells_what_is_executed straightProgram {} rfl _ rfl 5 straight
  exact ⟨rfl, straight, clock, next _ (by decide +kernel)⟩

end Machine

end LS8
