-- The eight registers. R7 is the stack pointer: it starts at 244, so the twelve
-- cells from there to the end of memory are left alone by the stack.

import LS8.Byte
import LS8.RangeError

namespace LS8

abbrev Register := Fin 8

namespace Register

/-- The stack pointer. -/
def sp : Register := 7

def ofByte (b : Byte) : Except RangeError Register :=
  if h : b.toNat < 8 then .ok ⟨b.toNat, h⟩ else .error .register

def byte (r : Register) : Byte := UInt8.ofNat r.val

def name (r : Register) : String := String.ofList ['R', r.val.digitChar]

theorem toNat_byte (r : Register) : (byte r).toNat = r.val := by
  have := r.isLt
  simp only [byte, UInt8.toNat_ofNat']
  omega

@[simp] theorem ofByte_byte (r : Register) : ofByte (byte r) = .ok r := by
  have := r.isLt
  simp [ofByte, toNat_byte]

theorem ofByte_eq_ok_iff {b : Byte} {r : Register} : ofByte b = .ok r ↔ b = byte r := by
  constructor
  · intro h
    unfold ofByte at h
    split at h
    · cases h
      exact UInt8.toNat_inj.mp (by rw [toNat_byte])
    · cases h
  · rintro rfl
    exact ofByte_byte r

theorem ofByte_eq_error {b : Byte} (h : 8 ≤ b.toNat) : ofByte b = .error .register := by
  simp [ofByte, Nat.not_lt.mpr h]

end Register

/-! ## The register file -/

structure Registers where
  values : Vector Byte 8
  deriving DecidableEq

namespace Registers

/-- All registers start at zero but the stack pointer. -/
def initial : Registers := ⟨#v[0, 0, 0, 0, 0, 0, 0, 0xF4]⟩

def get (rs : Registers) (r : Register) : Byte := rs.values[r.val]

def set (rs : Registers) (r : Register) (v : Byte) : Registers :=
  ⟨rs.values.set r.val v r.isLt⟩

def toList (rs : Registers) : List Byte := rs.values.toList

@[ext] theorem ext {a b : Registers} (h : ∀ r, a.get r = b.get r) : a = b := by
  cases a with | mk x =>
  cases b with | mk y =>
  congr 1
  apply Vector.ext
  intro i hi
  exact h ⟨i, hi⟩

@[simp] theorem get_set_same (rs : Registers) (r : Register) (v : Byte) :
    (rs.set r v).get r = v := by
  simp [get, set]

theorem get_set_other {r q : Register} (h : q ≠ r) (rs : Registers) (v : Byte) :
    (rs.set r v).get q = rs.get q := by
  have : r.val ≠ q.val := fun e => h (Fin.ext e.symm)
  simp [get, set, this]

theorem get_set (rs : Registers) (r q : Register) (v : Byte) :
    (rs.set r v).get q = if q = r then v else rs.get q := by
  split
  · rename_i h
    rw [h, get_set_same]
  · rename_i h
    exact get_set_other h rs v

end Registers

end LS8
