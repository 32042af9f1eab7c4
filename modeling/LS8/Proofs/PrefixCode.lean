-- The forms of the instructions in memory are a prefix code, and decoding reads it. At every
-- address there is one instruction or none: the one whose bytes stand there, all of them before
-- the end of memory. The two high bits of the first byte tell where the form ends.
import LS8.Proofs.Placement
import LS8.Proofs.StackDiscipline

namespace LS8

/-- Before the end of memory, the bytes from an address on are the cells from there on. -/
theorem Memory.bytesFrom_eq_take {memory : Memory} {pc : Byte} {n : Nat}
    (inside : pc.toNat + n ≤ 256) :
    memory.bytesFrom pc n = (memory.onward pc.toNat).take n := by
  apply List.ext_getElem?
  intro k
  unfold bytesFrom
  rw [List.getElem?_map, List.getElem?_take]
  by_cases short : k < n
  · have here : (memory.onward pc.toNat)[k]? = some (memory.read (pc + UInt8.ofNat k)) :=
      getElem?_onward.mpr ⟨by omega, rfl⟩
    rw [List.getElem?_range short, if_pos short, here]
    rfl
  · rw [List.getElem?_eq_none (by simp; omega), if_neg short]
    rfl

/-- An opcode tells in its two high bits how many bytes come behind it. -/
theorem Opcode.width_eq_shift (o : Opcode) : o.width = 1 + (o.byte >>> 6).toNat := by
  cases o with
  | alu op => cases op <;> decide
  | branch op => cases op <;> decide
  | _ => decide

namespace Instruction

variable {memory : Memory} {pc : Byte} {i j : Instruction}

/-! ## One form for each instruction -/

/-- What begins with the form of an instruction does so with no other. -/
theorem eq_of_encode_prefix {bytes : List Byte} (first : i.encode <+: bytes)
    (second : j.encode <+: bytes) : i = j := by
  -- A memory takes only so many bytes, and three of them are enough for every form.
  have front : ∀ k : Instruction, k.encode <+: bytes →
      decode (Memory.ofImage (bytes.take 3)) 0 = .ok k := by
    intro k stands
    have short : k.encode.length ≤ 3 := by
      rw [length_encode]
      exact k.width_le_three
    have fits : (bytes.take 3).length ≤ 256 := by
      rw [List.length_take]
      omega
    apply decode_eq_ok_iff_encode.mpr
    apply (List.prefix_take_iff.mpr ⟨stands, short⟩).trans
    rw [UInt8.toNat_zero, Memory.onward_ofImage fits]
    exact List.prefix_append _ _
  have same := (front i first).symm.trans (front j second)
  simpa using same

/-- No form is the beginning of another one. -/
theorem eq_of_encode_prefix_encode (h : i.encode <+: j.encode) : i = j :=
  eq_of_encode_prefix h List.prefix_rfl

/-- An instruction is decoded where its bytes stand and nowhere else. -/
theorem decode_eq_ok_iff_bytesFrom : decode memory pc = .ok i ↔
    pc.toNat + i.width ≤ 256 ∧ memory.bytesFrom pc i.width = i.encode := by
  rw [decode_eq_ok_iff_encode]
  constructor
  · intro stands
    have inside : pc.toNat + i.width ≤ 256 := by
      have room := stands.length_le
      have pos := i.width_pos
      rw [length_encode, Memory.length_onward] at room
      omega
    refine ⟨inside, ?_⟩
    rw [Memory.bytesFrom_eq_take inside, ← length_encode]
    exact (List.prefix_iff_eq_take.mp stands).symm
  · rintro ⟨inside, same⟩
    rw [← same, Memory.bytesFrom_eq_take inside]
    exact List.take_prefix _ _

/-! ## Decoding by the tables of operations -/

/-- The instruction with the given opcode, by the bits and the tables of the operations: an opcode
without a form of its own is looked up in the table of the arithmetic unit if its bit says so, and
any other one in the table of the branches. -/
def ofTables (operands : Operands Fault) (o : Opcode) : Except Fault Instruction :=
  if o ∈ [Opcode.hlt, .ret, .push, .pop, .prn, .ldi] then ofOperands operands o
  else if o.isAlu then do
    let op ← AluOp.ofByte o.byte
    let a ← operands.register 0
    let b ← operands.register 1
    pure (alu op a b)
  else do
    let op ← BranchOp.ofByte o.byte
    branch op <$> operands.register 0

/-- Decoding by the tables, with a check at the end: there is no answer if the instruction is not
as wide as the opcode that was read. -/
def decodeByTables (memory : Memory) (pc : Byte) : Option (Except Fault Instruction) :=
  match Opcode.ofByte? (memory.read pc) with
  | none => some (.error (.unknownOpcode pc (memory.read pc)))
  | some o =>
    match ofTables (operandsAt memory pc) o with
    | .error f => some (.error f)
    | .ok i => if o.width = i.width then some (.ok i) else none

/-- The tables know the opcodes that they are asked for, and no other ones are left for them. -/
theorem ofTables_eq (operands : Operands Fault) (o : Opcode) :
    ofTables operands o = ofOperands operands o := by
  unfold ofTables
  cases o with
  | alu op =>
    have unit : (Opcode.alu op).isAlu = true := by cases op <;> decide
    have known : AluOp.ofByte (Opcode.alu op).byte = .ok op := AluOp.ofByte_byte op
    rw [if_neg (by simp), if_pos unit, known]
    rfl
  | branch op =>
    have other : ¬(Opcode.branch op).isAlu = true := by cases op <;> decide
    have known : BranchOp.ofByte (Opcode.branch op).byte = .ok op := BranchOp.ofByte_byte op
    rw [if_neg (by simp), if_neg other, known]
    rfl
  | _ => simp

/-- The check at the end never fails. -/
theorem decodeByTables_eq (memory : Memory) (pc : Byte) :
    decodeByTables memory pc = some (decode memory pc) := by
  unfold decodeByTables decode
  cases Opcode.ofByte? (memory.read pc) with
  | none => rfl
  | some o =>
    simp only [ofTables_eq]
    cases made : ofOperands (operandsAt memory pc) o with
    | error f => rfl
    | ok i =>
      obtain ⟨opcode, -⟩ := ofOperands_eq_ok_iff.mp made
      have wide : o.width = i.width := by
        rw [width, opcode]
      simp [wide]

/-! ## The law -/

/-- Decoding is the inverse of encoding, at every address of every memory: an instruction is decoded
exactly where its bytes stand, all of them before the end of memory, and where decoding fails no
instruction stands. The first byte tells the width, and the width of what is decoded is always the
one that its opcode tells. No two instructions are told alike by the same bytes, and no form is the
beginning of another one. -/
theorem decoding_is_the_inverse_of_encoding (memory : Memory) (pc : Byte) (i : Instruction) :
    (decode memory pc = .ok i ↔
      pc.toNat + i.width ≤ 256 ∧ memory.bytesFrom pc i.width = i.encode) ∧
    (i.width = i.encode.length ∧ ∃ first ∈ i.encode.head?, i.width = 1 + (first >>> 6).toNat) ∧
    decodeByTables memory pc = some (decode memory pc) ∧
    (∀ (bytes : List Byte) (j : Instruction), i.encode <+: bytes → j.encode <+: bytes → i = j) ∧
    (∀ j : Instruction, i.encode <+: j.encode → i = j) ∧
    (∀ f, decode memory pc = .error f →
      ¬(pc.toNat + i.width ≤ 256 ∧ memory.bytesFrom pc i.width = i.encode)) := by
  refine ⟨decode_eq_ok_iff_bytesFrom, ⟨i.length_encode.symm, i.opcode.byte, rfl, ?_⟩,
    decodeByTables_eq memory pc, ?_, ?_, ?_⟩
  · exact i.opcode.width_eq_shift
  · intro bytes j first second
    exact eq_of_encode_prefix first second
  · intro j begins
    exact eq_of_encode_prefix_encode begins
  · intro f failed stands
    have decoded := decode_eq_ok_iff_bytesFrom.mpr stands
    rw [failed] at decoded
    cases decoded

end Instruction

end LS8
