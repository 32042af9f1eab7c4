-- The listing of a program: its memory read as instructions, one behind the
-- other. A byte that starts no instruction is listed by itself.

import LS8.Instruction.Decode
import LS8.Program

namespace LS8

inductive Entry
  | instruction (i : Instruction)
  | byte (b : Byte)
  deriving DecidableEq

namespace Entry

/-- The number of cells that the entry stands for. -/
def size : Entry → Nat
  | instruction i => i.width
  | byte _ => 1

/-- What the cells of the entry hold. -/
def bytes : Entry → List Byte
  | instruction i => i.encode
  | byte b => [b]

def text : Entry → String
  | instruction i => i.text
  | byte b => ".byte " ++ Text.decimal b.toNat

/-- The entry at an address. -/
def read (memory : Memory) (address : Byte) : Entry :=
  match Instruction.decode memory address with
  | .ok i => instruction i
  | .error _ => byte (memory.read address)

theorem size_pos (e : Entry) : 0 < e.size := by
  cases e with
  | instruction i => exact i.width_pos
  | byte _ => exact Nat.one_pos

theorem length_bytes (e : Entry) : e.bytes.length = e.size := by
  cases e with
  | instruction i => exact i.length_encode
  | byte _ => rfl

end Entry

/-- The entries from an address up to the address `stop`, which the last one may pass. -/
def entriesFrom (memory : Memory) (stop address : Nat) : List (Byte × Entry) :=
  if address < stop then
    let entry := Entry.read memory (UInt8.ofNat address)
    (UInt8.ofNat address, entry) :: entriesFrom memory stop (address + entry.size)
  else []
termination_by stop - address
decreasing_by
  have := Entry.size_pos (Entry.read memory (UInt8.ofNat address))
  omega

/-- The entries of the program, each with its address. -/
def Program.listing (p : Program) : List (Byte × Entry) :=
  entriesFrom p.memory p.image.length 0

/-- An entry with its address as a line of a printed listing. -/
def listingLine (line : Byte × Entry) : String := Text.hexByte line.1 ++ ": " ++ line.2.text

theorem entriesFrom_of_lt {memory : Memory} {stop address : Nat} (h : address < stop) :
    entriesFrom memory stop address =
      (UInt8.ofNat address, Entry.read memory (UInt8.ofNat address)) ::
        entriesFrom memory stop
          (address + (Entry.read memory (UInt8.ofNat address)).size) := by
  rw [entriesFrom]
  simp [h]

theorem entriesFrom_of_le {memory : Memory} {stop address : Nat} (h : stop ≤ address) :
    entriesFrom memory stop address = [] := by
  rw [entriesFrom]
  simp [Nat.not_lt.mpr h]

end LS8
