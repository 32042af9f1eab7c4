-- Where the bytes of an instruction stand. Memory from an address on is a list of bytes
-- that ends with the last cell; an instruction is decoded there exactly when its form in
-- memory is what that list begins with.
import LS8.Program.Listing
import LS8.Proofs.Decoding

namespace LS8

theorem cons_prefix_iff {α : Type} {a : α} {rest l : List α} :
    a :: rest <+: l ↔ l[0]? = some a ∧ rest <+: l.drop 1 := by
  cases l with
  | nil => simp
  | cons b l =>
    rw [List.cons_prefix_cons]
    constructor
    · rintro ⟨rfl, h⟩
      exact ⟨rfl, h⟩
    · rintro ⟨same, h⟩
      cases same
      exact ⟨rfl, h⟩

namespace Memory

/-- The cells from an address on, up to the end of memory. -/
def onward (m : Memory) (address : Nat) : List Byte := m.cells.toList.drop address

@[simp] theorem length_onward (m : Memory) (address : Nat) :
    (m.onward address).length = 256 - address := by
  simp [onward]

theorem drop_onward (m : Memory) (address n : Nat) :
    (m.onward address).drop n = m.onward (address + n) := by
  rw [onward, onward, List.drop_drop]

/-- Two pieces stand one behind the other when each stands where it should. -/
theorem append_prefix_onward {m : Memory} {address : Nat} {front behind : List Byte} :
    front ++ behind <+: m.onward address ↔
      front <+: m.onward address ∧ behind <+: m.onward (address + front.length) := by
  rw [← drop_onward]
  constructor
  · intro h
    refine ⟨(List.prefix_append _ _).trans h, ?_⟩
    obtain ⟨rest, whole⟩ := h
    rw [← whole, List.append_assoc, List.drop_left]
    exact List.prefix_append _ _
  · rintro ⟨⟨rest, whole⟩, h⟩
    rw [← whole, List.drop_left] at h
    rwa [← whole, List.prefix_append_right_inj]

theorem getElem?_onward {m : Memory} {pc : Byte} {k : Nat} {b : Byte} :
    (m.onward pc.toNat)[k]? = some b ↔
      pc.toNat + k < 256 ∧ m.read (pc + UInt8.ofNat k) = b := by
  rw [onward, List.getElem?_drop]
  by_cases inside : pc.toNat + k < 256
  · have address : (pc + UInt8.ofNat k).toNat = pc.toNat + k := by
      simp only [UInt8.toNat_add, UInt8.toNat_ofNat']
      omega
    simp [inside, read, address]
  · simp [inside]

theorem getElem?_onward_zero {m : Memory} {pc : Byte} :
    (m.onward pc.toNat)[0]? = some (m.read pc) := by
  have first : pc + UInt8.ofNat 0 = pc := UInt8.add_zero pc
  rw [getElem?_onward, first]
  exact ⟨pc.toNat_lt_256, rfl⟩

/-- An image of a program is followed by zeros. -/
theorem onward_ofImage {image : List Byte} (fits : image.length ≤ 256) :
    (ofImage image).onward 0 = image ++ List.replicate (256 - image.length) 0 := by
  refine List.ext_getElem (by simp [fits]) fun k hk _ => ?_
  simp only [onward, List.drop_zero, ofImage, Vector.toList_ofFn, List.getElem_ofFn,
    List.getElem_append, List.getElem_replicate, List.getD_eq_getElem?_getD]
  split
  · rename_i inside
    simp [inside]
  · rename_i outside
    simp [List.getElem?_eq_none (Nat.le_of_not_lt outside)]

end Memory

namespace Instruction

variable {memory : Memory} {pc : Byte} {i : Instruction}

/-- An instruction is decoded exactly where its bytes stand, all before the end of memory. -/
theorem decode_eq_ok_iff_encode : decode memory pc = .ok i ↔
    i.encode <+: memory.onward pc.toNat := by
  have opcode : ∀ b, memory.read pc = b ↔ (memory.onward pc.toNat)[0]? = some b := by
    intro b
    rw [Memory.getElem?_onward_zero, Option.some.injEq]
  have byte : ∀ k b, (operandsAt memory pc).byte k = .ok b ↔
      (memory.onward pc.toNat)[k + 1]? = some b := fun k b => by
    rw [byte_eq_ok_iff, Memory.getElem?_onward]
  have register : ∀ k r, (operandsAt memory pc).register k = .ok r ↔
      (memory.onward pc.toNat)[k + 1]? = some (Register.byte r) := fun k r => by
    rw [register_eq_ok_iff, Memory.getElem?_onward]
  rw [decode_eq_ok_iff, opcode, encode, cons_prefix_iff]
  refine and_congr Iff.rfl ?_
  cases i with
  | hlt | ret => simp [Supplies, operandBytes]
  | push | pop | prn | branch => simp [Supplies, operandBytes, register, cons_prefix_iff]
  | ldi => simp [Supplies, operandBytes, register, byte, cons_prefix_iff]
  | alu => simp [Supplies, operandBytes, register, cons_prefix_iff]

end Instruction

end LS8
