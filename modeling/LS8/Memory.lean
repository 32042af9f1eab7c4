-- The memory: 256 cells of a byte each, all zero at first. An address that is a
-- byte always names a cell; any other number may name none.

import LS8.Byte
import LS8.RangeError
import LS8.Text.Numeral

namespace LS8

structure Memory where
  cells : Vector Byte 256
  deriving DecidableEq

namespace Memory

def zero : Memory := ⟨Vector.replicate 256 0⟩

/-- The memory with the bytes from address 0 on, and zeros behind them. Bytes for which there
is no cell are dropped. -/
def ofImage (image : List Byte) : Memory := ⟨Vector.ofFn fun i => image.getD i.val 0⟩

def read (m : Memory) (address : Byte) : Byte :=
  have := address.toNat_lt_256
  m.cells[address.toNat]

def write (m : Memory) (address value : Byte) : Memory :=
  ⟨m.cells.set address.toNat value address.toNat_lt_256⟩

/-- Reads at any number, which may name no cell. -/
def load (m : Memory) (address : Nat) : Except RangeError Byte :=
  match m.cells[address]? with
  | some value => .ok value
  | none => .error .memory

/-- Writes at any number, which may name no cell. -/
def store (m : Memory) (address : Nat) (value : Byte) : Except RangeError Memory :=
  if h : address < 256 then .ok ⟨m.cells.set address value h⟩ else .error .memory

/-! ## Reading what was written -/

@[ext] theorem ext {m n : Memory} (h : ∀ a, m.read a = n.read a) : m = n := by
  cases m with | mk x =>
  cases n with | mk y =>
  congr 1
  apply Vector.ext
  intro i hi
  have := h (UInt8.ofNat i)
  simpa [read, Nat.mod_eq_of_lt hi] using this

@[simp] theorem read_write_same (m : Memory) (a v : Byte) : (m.write a v).read a = v := by
  simp [read, write]

theorem read_write_other {a b : Byte} (h : b ≠ a) (m : Memory) (v : Byte) :
    (m.write a v).read b = m.read b := by
  have : a.toNat ≠ b.toNat := fun e => h (UInt8.toNat_inj.mp e.symm)
  simp [read, write, this]

theorem read_write (m : Memory) (a b v : Byte) :
    (m.write a v).read b = if b = a then v else m.read b := by
  split
  · rename_i h
    rw [h, read_write_same]
  · rename_i h
    exact read_write_other h m v

theorem read_ofImage (image : List Byte) (a : Byte) :
    (ofImage image).read a = image.getD a.toNat 0 := by
  simp [read, ofImage]

theorem load_toNat (m : Memory) (a : Byte) : m.load a.toNat = .ok (m.read a) := by
  have h := a.toNat_lt_256
  simp [load, read, h]

theorem load_of_le {n : Nat} (h : 256 ≤ n) (m : Memory) : m.load n = .error .memory := by
  simp [load, h]

theorem store_toNat (m : Memory) (a v : Byte) : m.store a.toNat v = .ok (m.write a v) := by
  have h := a.toNat_lt_256
  simp [store, write, h]

/-! ## The dump -/

/-- The cells that are not zero, by address. -/
def nonzero (m : Memory) : List (Nat × Byte) :=
  (m.cells.toList.zipIdx.filter fun cell => cell.1 != 0).map fun cell => (cell.2, cell.1)

def cellText (cell : Nat × Byte) : String :=
  Text.decimal cell.1 ++ ": " ++ Text.decimal cell.2.toNat

/-- The cells that are not zero, on one line between braces. -/
def dump (m : Memory) : String :=
  "\x7b" ++ ", ".intercalate (m.nonzero.map cellText) ++ "\x7d"

/-- The cells that are not zero, each on a line of its own between braces. -/
def dumpLines (m : Memory) : String :=
  match m.nonzero with
  | [] => "\x7b\x7d"
  | cells => "\x7b\n" ++ String.join (cells.map fun cell => "    " ++ cellText cell ++ ",\n") ++ "\x7d"

end Memory

end LS8
