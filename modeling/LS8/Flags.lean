-- The flags hold the outcome of the last comparison, one bit for each outcome.
-- Before the first comparison no bit is set.

import LS8.Byte

namespace LS8

structure Flags where
  bits : Byte
  deriving DecidableEq

namespace Flags

def none : Flags := ⟨0⟩

def equal : Flags := ⟨1⟩

def greater : Flags := ⟨2⟩

def less : Flags := ⟨4⟩

/-- The flags after comparing `a` with `b`, both unsigned. -/
def compare (a b : Byte) : Flags :=
  if a = b then equal else if b < a then greater else less

/-- Whether every bit of `asked` is set. -/
def contains (f asked : Flags) : Bool := f.bits &&& asked.bits == asked.bits

/-! ## What a comparison sets -/

theorem compare_self (a : Byte) : compare a a = equal := by simp [compare]

theorem compare_of_lt {a b : Byte} (h : a < b) : compare a b = less := by
  have ne : a ≠ b := UInt8.ne_of_lt h
  have not_gt : ¬b < a := UInt8.lt_asymm h
  simp [compare, ne, not_gt]

theorem compare_of_gt {a b : Byte} (h : b < a) : compare a b = greater := by
  have ne : a ≠ b := (UInt8.ne_of_lt h).symm
  simp [compare, ne, h]

/-- A comparison says "equal" exactly when its operands are. -/
theorem compare_contains_equal (a b : Byte) : (compare a b).contains equal = decide (a = b) := by
  by_cases h : a = b
  · subst h
    simp [compare, contains]
  · have greater_only : greater.contains equal = false := by decide
    have less_only : less.contains equal = false := by decide
    by_cases g : b < a <;> simp [compare, h, g, greater_only, less_only]

end Flags

end LS8
