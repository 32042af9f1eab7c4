-- What stands in memory where an instruction is decoded. An instruction is found
-- at an address exactly when its bytes stand there, all before the end of memory.
-- Otherwise the first operand that is out of place decides the fault.
import LS8.Instruction.Decode

namespace LS8

/-- The fault of a computation that has one. -/
def faultOf {α : Type} : Except Fault α → Option Fault
  | .ok _ => none
  | .error f => some f

@[simp] theorem faultOf_map {α β : Type} (g : α → β) (x : Except Fault α) :
    faultOf (g <$> x) = faultOf x := by
  cases x <;> rfl

/-- Of two computations in a row, the first fault counts. -/
theorem faultOf_pair {α β γ : Type} (x : Except Fault α) (y : Except Fault β) (g : α → β → γ) :
    faultOf (do let a ← x; let b ← y; pure (g a b)) = (faultOf x).or (faultOf y) := by
  cases x <;> cases y <;> rfl

theorem map_eq_ok_iff {ε α β : Type} {g : α → β} {x : Except ε α} {b : β} :
    g <$> x = .ok b ↔ ∃ a, x = .ok a ∧ g a = b := by
  cases x <;> simp [Functor.map, Except.map]

theorem bind_eq_ok_iff {ε α β : Type} {x : Except ε α} {g : α → Except ε β} {b : β} :
    x >>= g = .ok b ↔ ∃ a, x = .ok a ∧ g a = .ok b := by
  cases x <;> simp [bind, Except.bind]

namespace Instruction

/-! ## One operand -/

/-- What is out of place with the operand `k` cells behind `pc`, if anything: it may stand behind
the end of memory, or it may have to name a register and not do so. -/
def operandFault? (memory : Memory) (pc : Byte) (k : Nat) (register : Bool) : Option Fault :=
  if 255 < pc.toNat + k then some (.invalidAccess pc (pc.toNat + k))
  else if register && decide (8 ≤ (memory.read (pc + UInt8.ofNat k)).toNat) then
    some (.invalidRegister pc (memory.read (pc + UInt8.ofNat k)))
  else none

variable {memory : Memory} {pc : Byte} {k : Nat}

theorem faultOf_byte : faultOf ((operandsAt memory pc).byte k) =
    operandFault? memory pc (k + 1) false := by
  unfold operandFault?
  by_cases inside : pc.toNat + (k + 1) < 256
  · simp only [operandsAt, operandAt_of_lt inside]
    simp [faultOf, show ¬255 < pc.toNat + (k + 1) by omega]
  · simp only [operandsAt, operandAt_of_le (Nat.le_of_not_lt inside)]
    simp [faultOf, show 255 < pc.toNat + (k + 1) by omega]

theorem byte_eq_ok_iff {b : Byte} : (operandsAt memory pc).byte k = .ok b ↔
    pc.toNat + (k + 1) < 256 ∧ memory.read (pc + UInt8.ofNat (k + 1)) = b := by
  by_cases inside : pc.toNat + (k + 1) < 256
  · simp [operandsAt, operandAt_of_lt inside, inside]
  · simp [operandsAt, operandAt_of_le (Nat.le_of_not_lt inside), inside]

theorem faultOf_register : faultOf ((operandsAt memory pc).register k) =
    operandFault? memory pc (k + 1) true := by
  unfold operandFault? Operands.register
  by_cases inside : pc.toNat + (k + 1) < 256
  · simp only [operandsAt, operandAt_of_lt inside, if_neg (show ¬255 < pc.toNat + (k + 1) by omega)]
    generalize memory.read (pc + UInt8.ofNat (k + 1)) = b
    rcases Nat.lt_or_ge b.toNat 8 with small | big
    · simp [Register.ofByte, faultOf, small, Nat.not_le.mpr small]
    · simp [Register.ofByte_eq_error big, faultOf, big]
  · simp only [operandsAt, operandAt_of_le (Nat.le_of_not_lt inside)]
    simp [faultOf, show 255 < pc.toNat + (k + 1) by omega]

theorem register_eq_ok_iff {r : Register} : (operandsAt memory pc).register k = .ok r ↔
    pc.toNat + (k + 1) < 256 ∧ memory.read (pc + UInt8.ofNat (k + 1)) = r.byte := by
  unfold Operands.register
  constructor
  · intro h
    split at h
    · cases h
    · rename_i b hb
      obtain ⟨inside, read⟩ := byte_eq_ok_iff.mp hb
      split at h
      · rename_i q hq
        cases h
        exact ⟨inside, read.trans (Register.ofByte_eq_ok_iff.mp hq)⟩
      · cases h
  · intro h
    rw [byte_eq_ok_iff.mpr h]
    simp

/-! ## A whole instruction -/

/-- The operands are those of the instruction. -/
def Supplies {ε : Type} (operands : Operands ε) : Instruction → Prop
  | hlt => True
  | ret => True
  | push r => operands.register 0 = .ok r
  | pop r => operands.register 0 = .ok r
  | prn r => operands.register 0 = .ok r
  | ldi r v => operands.register 0 = .ok r ∧ operands.byte 1 = .ok v
  | alu _ a b => operands.register 0 = .ok a ∧ operands.register 1 = .ok b
  | branch _ r => operands.register 0 = .ok r

theorem ofOperands_eq_ok_iff {ε : Type} {operands : Operands ε} {o : Opcode} {i : Instruction} :
    ofOperands operands o = .ok i ↔ i.opcode = o ∧ Supplies operands i := by
  constructor
  · intro h
    cases o with
    | hlt => cases h; exact ⟨rfl, trivial⟩
    | ret => cases h; exact ⟨rfl, trivial⟩
    | push | pop | prn | branch =>
      obtain ⟨r, hr, rfl⟩ := map_eq_ok_iff.mp h
      exact ⟨rfl, hr⟩
    | ldi =>
      obtain ⟨r, hr, rest⟩ := bind_eq_ok_iff.mp h
      obtain ⟨v, hv, made⟩ := bind_eq_ok_iff.mp rest
      cases made
      exact ⟨rfl, hr, hv⟩
    | alu op =>
      obtain ⟨a, ha, rest⟩ := bind_eq_ok_iff.mp h
      obtain ⟨b, hb, made⟩ := bind_eq_ok_iff.mp rest
      cases made
      exact ⟨rfl, ha, hb⟩
  · rintro ⟨rfl, h⟩
    cases i
    all_goals simp_all [ofOperands, opcode, Supplies]
    all_goals try rfl

/-- An instruction is decoded exactly where its opcode stands, with its operands behind it. -/
theorem decode_eq_ok_iff {i : Instruction} : decode memory pc = .ok i ↔
    memory.read pc = i.opcode.byte ∧ Supplies (operandsAt memory pc) i := by
  unfold decode
  split
  · rename_i unknown
    have : memory.read pc ≠ i.opcode.byte := fun same => by simp [same] at unknown
    simp [this]
  · rename_i o known
    have byte_o := Opcode.ofByte?_eq_some_iff.mp known
    rw [ofOperands_eq_ok_iff, byte_o]
    constructor
    · rintro ⟨rfl, supplied⟩
      exact ⟨rfl, supplied⟩
    · rintro ⟨same, supplied⟩
      rw [byte_o, same, Opcode.ofByte?_byte] at known
      exact ⟨Option.some.inj known, supplied⟩

/-- The operands of an opcode are looked at from left to right, and the first one that is out of
place counts. All of them name registers but the second one of a load. -/
def operandsFault? (memory : Memory) (pc op : Byte) : Option Fault :=
  (List.range' 1 (op >>> 6).toNat).findSome? fun k =>
    operandFault? memory pc k !(op == 130 && k == 2)

theorem operandsFault?_of_one {op : Byte} (count : (op >>> 6).toNat = 1) :
    operandsFault? memory pc op = operandFault? memory pc 1 true := by
  simp [operandsFault?, count]

theorem operandsFault?_of_two {op : Byte} (count : (op >>> 6).toNat = 2) :
    operandsFault? memory pc op =
      (operandFault? memory pc 1 true).or (operandFault? memory pc 2 (op != 130)) := by
  have first : (!(op == 130 && (1 : Nat) == 2)) = true := by simp
  have second : (!(op == 130 && (2 : Nat) == 2)) = (op != 130) := by simp [bne]
  simp only [operandsFault?, count, List.range'_succ, List.range'_zero, Nat.reduceAdd,
    List.findSome?_cons, List.findSome?_nil, first, second]
  cases operandFault? memory pc 1 true with
  | some f => rfl
  | none => cases operandFault? memory pc 2 (op != 130) <;> rfl

theorem faultOf_decode_of_known {o : Opcode} (known : memory.read pc = o.byte) :
    faultOf (decode memory pc) = operandsFault? memory pc o.byte := by
  have opened : decode memory pc = ofOperands (operandsAt memory pc) o := by
    simp [decode, known]
  rw [opened]
  cases o with
  | hlt => rfl
  | ret => rfl
  | push | pop | prn =>
    rw [operandsFault?_of_one (by decide), ofOperands, faultOf_map, faultOf_register]
  | ldi =>
    rw [operandsFault?_of_two (by decide), ofOperands, faultOf_pair, faultOf_register, faultOf_byte]
    rfl
  | alu op =>
    have two : ((Opcode.alu op).byte >>> 6).toNat = 2 := by cases op <;> decide
    have not_load : ((Opcode.alu op).byte != 130) = true := by cases op <;> decide
    rw [operandsFault?_of_two two, ofOperands, faultOf_pair, faultOf_register, faultOf_register,
      not_load]
  | branch op =>
    have one : ((Opcode.branch op).byte >>> 6).toNat = 1 := by cases op <;> decide
    rw [operandsFault?_of_one one, ofOperands, faultOf_map, faultOf_register]

/-- Decoding fails because of the byte at the program counter or because of an operand, and the
fault names that program counter. -/
theorem decode_eq_error {f : Fault} (h : decode memory pc = .error f) :
    f = .unknownOpcode pc (memory.read pc) ∨ (∃ index, f = .invalidRegister pc index) ∨
      ∃ address, f = .invalidAccess pc address := by
  cases known : Opcode.ofByte? (memory.read pc) with
  | none =>
    simp only [decode, known, Except.error.injEq] at h
    exact Or.inl h.symm
  | some o =>
    have byte := Opcode.ofByte?_eq_some_iff.mp known
    have found : operandsFault? memory pc o.byte = some f := by
      rw [← faultOf_decode_of_known byte, h]
      rfl
    obtain ⟨k, -, bad⟩ := List.exists_of_findSome?_eq_some found
    unfold operandFault? at bad
    split at bad
    · cases bad
      exact Or.inr (Or.inr ⟨_, rfl⟩)
    · split at bad
      · cases bad
        exact Or.inr (Or.inl ⟨_, rfl⟩)
      · cases bad

end Instruction

end LS8
