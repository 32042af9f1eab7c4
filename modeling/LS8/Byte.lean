-- The byte, the one word of the machine. Each byte is the address of a cell of
-- the memory.

namespace LS8

/-- Eight bits. Sums, differences and products wrap. -/
abbrev Byte := UInt8

namespace Byte

theorem toNat_lt_256 (b : Byte) : b.toNat < 256 := b.toNat_lt

end Byte

end LS8
