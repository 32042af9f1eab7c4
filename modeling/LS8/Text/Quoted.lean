-- A text between double quotes, in which every character can be seen: those
-- that cannot be printed, those that leave no mark, and those that would join
-- the one before them, stand as their code point.

import LS8.Text.Combining
import LS8.Text.Ignorable
import LS8.Text.Numeral
import LS8.Text.Unprintable

namespace LS8.Text

/-- The form of a character inside the quotes. -/
def visible (c : Char) : List Char :=
  if c = '\x00' then ['\\', '0']
  else if c = '\t' then ['\\', 't']
  else if c = '\r' then ['\\', 'r']
  else if c = '\n' then ['\\', 'n']
  else if c = '\x22' then ['\\', '\x22']
  else if c = '\\' then ['\\', '\\']
  else if isCombining c || isIgnorable c || isUnprintable c then
    ['\\', 'u', '\x7b'] ++ (lowerHex c.toNat).toList ++ ['\x7d']
  else [c]

def quoted (text : String) : String :=
  String.ofList (['\x22'] ++ text.toList.flatMap visible ++ ['\x22'])

end LS8.Text
