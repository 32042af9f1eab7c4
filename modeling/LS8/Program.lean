-- A program: the bytes that stand in memory from address 0 on when a run starts.
-- It is never longer than the memory.

import LS8.Memory
import LS8.Text.Quoted

namespace LS8

structure Program where
  image : List Byte
  fits : image.length ≤ 256 := by decide
  deriving DecidableEq

/-- Why no program could be made. -/
inductive ProgramError
  | tooLarge (length : Nat)
  /-- The line with this number, counted from 1, should hold a byte and does not. -/
  | invalidByte (line : Nat) (text : String)
  deriving DecidableEq

def ProgramError.message : ProgramError → String
  | .tooLarge length => "program is " ++ Text.decimal length ++ " bytes long, memory holds 256"
  | .invalidByte line text =>
    "line " ++ Text.decimal line ++ ": not a binary byte: " ++ Text.quoted text

namespace Program

def ofImage (image : List Byte) : Except ProgramError Program :=
  if h : image.length ≤ 256 then .ok ⟨image, h⟩ else .error (.tooLarge image.length)

/-- The memory when a run of the program starts. -/
def memory (p : Program) : Memory := Memory.ofImage p.image

theorem ofImage_of_le {image : List Byte} (h : image.length ≤ 256) :
    ofImage image = .ok ⟨image, h⟩ := by simp [ofImage, h]

theorem ofImage_eq_ok_iff {image : List Byte} {p : Program} :
    ofImage image = .ok p ↔ p.image = image := by
  unfold ofImage
  constructor
  · intro made
    split at made
    · cases made
      rfl
    · cases made
  · rintro rfl
    rw [dif_pos p.fits]

theorem ofImage_eq_error_iff {image : List Byte} {e : ProgramError} :
    ofImage image = .error e ↔ 256 < image.length ∧ e = .tooLarge image.length := by
  unfold ofImage
  split
  · rename_i fits
    simp [Nat.not_lt.mpr fits]
  · rename_i large
    simp [Nat.not_le.mp large, eq_comm]

end Program

end LS8
