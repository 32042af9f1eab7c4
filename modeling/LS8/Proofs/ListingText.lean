-- A listing can be read back. The mnemonic of an instruction ends at the first blank, the
-- name of a register has two characters and the number stands last, so no two entries are
-- written alike; and a line of a printed listing tells its address and its entry.
import LS8.Program.Listing
import Mathlib.Data.List.Nodup

namespace LS8

namespace Text

/-- What stands in front of the first blank. -/
def firstWord (s : String) : List Char := s.toList.takeWhile (· != ' ')

/-- The text has no blank in it. -/
def isWord (s : String) : Bool := s.toList.all (· != ' ')

theorem firstWord_of_word {w : String} (h : isWord w = true) : firstWord w = w.toList := by
  unfold firstWord
  rw [← List.append_nil w.toList, List.takeWhile_append_of_pos (List.all_eq_true.mp h),
    List.takeWhile_nil]

theorem firstWord_append {w : String} (h : isWord w = true) (rest : String) :
    firstWord (w ++ " " ++ rest) = w.toList := by
  unfold firstWord
  rw [String.append_assoc, String.toList_append,
    List.takeWhile_append_of_pos (List.all_eq_true.mp h), String.toList_append]
  exact List.append_nil _

end Text

open Text (firstWord isWord)

/-! ## Names -/

theorem Register.name_injective {a b : Register} (h : a.name = b.name) : a = b := by
  revert a b
  decide

theorem Register.length_name (r : Register) : r.name.toList.length = 2 := by
  rw [name, String.toList_ofList]
  rfl

/-- The name of a register and a comma end where they end, whatever comes behind. -/
theorem Register.name_append_inj {a b : Register} {s t : String}
    (h : a.name ++ "," ++ s = b.name ++ "," ++ t) : a = b ∧ s = t := by
  have chars := congrArg String.toList h
  simp only [String.append_assoc, String.toList_append] at chars
  obtain ⟨name, rest⟩ := List.append_inj chars (by rw [length_name, length_name])
  refine ⟨name_injective (String.toList_inj.mp name), ?_⟩
  exact String.toList_inj.mp (List.append_cancel_left rest)

namespace Opcode

theorem isWord_name (o : Opcode) : isWord o.name = true := by
  have all_words : (all.all fun o => isWord o.name) = true := by decide +kernel
  exact List.all_eq_true.mp all_words o o.mem_all

theorem name_injective {a b : Opcode} (h : a.name = b.name) : a = b := by
  have distinct : (all.map name).Nodup := by decide +kernel
  exact List.inj_on_of_nodup_map distinct a.mem_all b.mem_all h

/-- No mnemonic is the word that stands in front of a raw byte. -/
theorem name_ne_byte (o : Opcode) : o.name ≠ ".byte" := by
  have none_is : (all.all fun o => o.name != ".byte") = true := by decide +kernel
  exact bne_iff_ne.mp (List.all_eq_true.mp none_is o o.mem_all)

end Opcode

/-! ## Instructions and entries -/

namespace Instruction

theorem firstWord_text (i : Instruction) : firstWord i.text = i.opcode.name.toList := by
  unfold text
  split
  · exact Text.firstWord_of_word i.opcode.isWord_name
  · exact Text.firstWord_append i.opcode.isWord_name _

theorem opcode_of_text {i j : Instruction} (h : i.text = j.text) : i.opcode = j.opcode := by
  apply Opcode.name_injective
  apply String.toList_inj.mp
  rw [← firstWord_text, ← firstWord_text, h]

/-- No two instructions are written alike. -/
theorem text_injective {i j : Instruction} (h : i.text = j.text) : i = j := by
  have same := opcode_of_text h
  -- Only instructions of one opcode are left to be told apart, by their operands.
  cases i <;> cases j <;> try cases same
  all_goals
    simp only [text, operandTexts, opcode, String.append_right_inj, String.intercalate_singleton,
      String.intercalate_cons_cons] at h
  case hlt.hlt => rfl
  case ret.ret => rfl
  case push.push => rw [Register.name_injective h]
  case pop.pop => rw [Register.name_injective h]
  case prn.prn => rw [Register.name_injective h]
  case branch.branch => rw [Register.name_injective h]
  case alu.alu =>
    obtain ⟨first, rest⟩ := Register.name_append_inj h
    rw [first, Register.name_injective rest]
  case ldi.ldi =>
    obtain ⟨target, number⟩ := Register.name_append_inj h
    rw [target, UInt8.toNat_inj.mp (Text.decimal_inj.mp number)]

end Instruction

namespace Entry

theorem firstWord_byte (b : Byte) : firstWord (byte b).text = ".byte".toList :=
  have word : isWord ".byte" = true := by decide +kernel
  Text.firstWord_append word _

theorem text_instruction_ne_byte (i : Instruction) (b : Byte) :
    (instruction i).text ≠ (byte b).text := by
  intro h
  apply i.opcode.name_ne_byte
  apply String.toList_inj.mp
  rw [← i.firstWord_text, ← firstWord_byte b, ← h]
  rfl

/-- No two entries are written alike. -/
theorem text_injective {e f : Entry} (h : e.text = f.text) : e = f := by
  cases e with
  | instruction i =>
    cases f with
    | instruction j => rw [Instruction.text_injective h]
    | byte c => exact absurd h (text_instruction_ne_byte i c)
  | byte b =>
    cases f with
    | instruction j => exact absurd h.symm (text_instruction_ne_byte j b)
    | byte c =>
      have number : Text.decimal b.toNat = Text.decimal c.toNat :=
        (String.append_right_inj ".byte ").mp h
      rw [UInt8.toNat_inj.mp (Text.decimal_inj.mp number)]

end Entry

/-! ## Lines -/

/-- A line of a printed listing tells its address and its entry. -/
theorem listingLine_injective {a b : Byte × Entry} (h : listingLine a = listingLine b) :
    a = b := by
  have chars := congrArg String.toList h
  simp only [listingLine, String.append_assoc, String.toList_append] at chars
  have digits : ∀ c : Byte, (Text.hexByte c).toList.length = 2 := fun c => by
    rw [Text.hexByte, String.toList_ofList]
    rfl
  obtain ⟨address, rest⟩ := List.append_inj chars (by rw [digits, digits])
  have entry := String.toList_inj.mp (List.append_cancel_left rest)
  exact Prod.ext (Text.hexByte_injective (String.toList_inj.mp address)) (Entry.text_injective entry)

end LS8
