-- Numbers as text: bytes in two hexadecimal digits, code points in as few as
-- they need, and the decimal numbers that a command line may give.

import LS8.Byte

namespace LS8.Text

/-! ## Writing -/

/-- The upper case hexadecimal digit of a number below 16. -/
def hexDigit (n : Nat) : Char := n.digitChar.toUpper

/-- A byte as two upper case hexadecimal digits. -/
def hexByte (b : Byte) : String :=
  String.ofList [hexDigit (b.toNat / 16), hexDigit (b.toNat % 16)]

/-- A number in lower case hexadecimal digits, without leading zeros. -/
def lowerHex (n : Nat) : String := String.ofList (Nat.toDigits 16 n)

/-- A number in decimal digits. -/
def decimal (n : Nat) : String := n.repr

/-- A number of hundredths, as two digits. -/
def twoDigits (n : Nat) : String :=
  String.ofList [(n / 10 % 10).digitChar, (n % 10).digitChar]

theorem toList_decimal (n : Nat) : (decimal n).toList = Nat.toDigits 10 n := by
  simp [decimal, Nat.repr_eq_ofList_toDigits]

theorem decimal_inj {m n : Nat} : decimal m = decimal n ↔ m = n := by
  constructor
  · intro h
    have digits : Nat.toDigits 10 m = Nat.toDigits 10 n := by
      rw [← toList_decimal, ← toList_decimal, h]
    rw [← Nat.ofDigitChars_ten_toDigits (n := m), digits, Nat.ofDigitChars_ten_toDigits]
  · rintro rfl
    rfl

theorem hexByte_injective {a b : Byte} (h : hexByte a = hexByte b) : a = b := by
  have digit : ∀ m n : Fin 16, hexDigit m = hexDigit n → m = n := by decide
  have ha := a.toNat_lt
  have hb := b.toNat_lt
  simp only [hexByte, String.ofList_inj, List.cons.injEq, and_true] at h
  have high := digit ⟨a.toNat / 16, by omega⟩ ⟨b.toNat / 16, by omega⟩ h.1
  have low := digit ⟨a.toNat % 16, by omega⟩ ⟨b.toNat % 16, by omega⟩ h.2
  simp only [Fin.mk.injEq] at high low
  apply UInt8.toNat_inj.mp
  omega

/-! ## Reading -/

/-- A number may have a plus sign. -/
def withoutPlus : List Char → List Char
  | '+' :: digits => digits
  | digits => digits

/-- A digit of a base of at most ten. -/
def isDigit (base : Nat) (c : Char) : Bool :=
  c.isDigit && decide (c.toNat - '0'.toNat < base)

/-- A number below a bound, in a base of at most ten: one or more digits, which a plus sign may
precede. -/
def unsigned? (base bound : Nat) (text : List Char) : Option Nat :=
  let digits := withoutPlus text
  if digits ≠ [] ∧ digits.all (isDigit base) ∧ Nat.ofDigitChars base digits 0 < bound then
    some (Nat.ofDigitChars base digits 0)
  else none

/-- A decimal number below 2^64. -/
def unsigned64? (text : String) : Option Nat := unsigned? 10 UInt64.size text.toList

theorem isDigit_ten (c : Char) : isDigit 10 c = c.isDigit := by
  unfold isDigit
  cases h : c.isDigit with
  | false => rfl
  | true =>
    have top : c.toNat ≤ 57 := (Char.isDigit_iff_toNat.mp h).2
    simp only [Bool.true_and, decide_eq_true_eq]
    change c.toNat - 48 < 10
    omega

theorem withoutPlus_of_digits {cs : List Char} (h : ∀ c ∈ cs, c.isDigit = true) :
    withoutPlus cs = cs := by
  unfold withoutPlus
  split
  · exact absurd (h '+' List.mem_cons_self) (by decide)
  · rfl

theorem unsigned?_lt {base bound n : Nat} {text : List Char}
    (h : unsigned? base bound text = some n) : n < bound := by
  unfold unsigned? at h
  simp only [Option.ite_none_right_eq_some] at h
  obtain ⟨⟨_, _, small⟩, value⟩ := h
  cases value
  exact small

/-- Without a sign a text is read if it has nothing but digits, has one and is not too large. -/
theorem unsigned?_of_digits {base bound : Nat} {cs : List Char} (some_digit : cs ≠ [])
    (digits : ∀ c ∈ cs, isDigit base c = true) (small : Nat.ofDigitChars base cs 0 < bound) :
    unsigned? base bound cs = some (Nat.ofDigitChars base cs 0) := by
  have unsigned : withoutPlus cs = cs := by
    refine withoutPlus_of_digits fun c hc => ?_
    have := digits c hc
    simp only [isDigit, Bool.and_eq_true] at this
    exact this.1
  unfold unsigned?
  dsimp only
  rw [unsigned]
  exact if_pos ⟨some_digit, List.all_eq_true.mpr digits, small⟩

theorem unsigned64?_lt {text : String} {n : Nat} (h : unsigned64? text = some n) :
    n < UInt64.size := unsigned?_lt h

/-- A number below 2^64 reads back from its decimal digits. -/
theorem unsigned64?_decimal {n : Nat} (h : n < UInt64.size) :
    unsigned64? (decimal n) = some n := by
  have digits : ∀ c ∈ Nat.toDigits 10 n, isDigit 10 c = true := by
    intro c hc
    rw [isDigit_ten]
    exact Nat.isDigit_of_mem_toDigits (by decide) (by decide) hc
  have small : Nat.ofDigitChars 10 (Nat.toDigits 10 n) 0 < UInt64.size := by
    rwa [Nat.ofDigitChars_ten_toDigits]
  rw [unsigned64?, toList_decimal, unsigned?_of_digits Nat.toDigits_ne_nil digits small,
    Nat.ofDigitChars_ten_toDigits]

end LS8.Text
