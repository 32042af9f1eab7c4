-- Programs as text. A line that starts with a binary digit stands for a byte: of
-- its first eight characters, blanks at the end left out, all must be binary
-- digits. What follows them is a remark, and so is any other line.

import LS8.Program
import LS8.Text.Blank
import LS8.Text.Line
import LS8.Text.Numeral

namespace LS8.Source

def isBinaryDigit (c : Char) : Bool := c == '0' || c == '1'

/-- Whether the line stands for a byte. -/
def isSignificant (line : List Char) : Bool := line.head?.any isBinaryDigit

/-- The characters of the line that have to be binary digits. -/
def digits (line : List Char) : List Char := Text.trimEnd (line.take 8)

/-- The byte that a significant line stands for, if it is well formed. -/
def byte? (line : List Char) : Option Byte :=
  (Text.unsigned? 2 UInt8.size (digits line)).map UInt8.ofNat

/-- The bytes of the lines, of which the first has the given number. The first significant line
that is not well formed decides the error. -/
def bytes (number : Nat) : List (List Char) → Except ProgramError (List Byte)
  | [] => .ok []
  | line :: rest =>
    if isSignificant line then
      match byte? line with
      | none => .error (.invalidByte number (String.ofList line))
      | some b => (b :: ·) <$> bytes (number + 1) rest
    else
      bytes (number + 1) rest

/-- The image that a text stands for. -/
def image (text : List Char) : Except ProgramError (List Byte) := bytes 1 (Text.lines text)

end LS8.Source

namespace LS8.Program

/-- The program that a text stands for. A malformed line counts before the length does. -/
def ofText (text : String) : Except ProgramError Program := Source.image text.toList >>= ofImage

end LS8.Program
