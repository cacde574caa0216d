/-
  Air updates — quoted text in messages.

  A name in a message stands in double quotes, so that blanks at its ends and
  characters that do not show are seen.  Quotes and backslashes get a
  backslash, five control characters have letters, and any other character
  that does not show is given by its number.
-/
import AirUpdate.Bytes
import AirUpdate.Text.Printable

namespace AirUpdate.Text

/-- A number in hexadecimal, without leading zeros. -/
def hexNumber (n : Nat) : List Char :=
  Nat.toDigits 16 n

/-- A character inside quotes. -/
def quotedChar (c : Char) : List Char :=
  if c.toNat = 0 then ['\\', '0']
  else if c = '\t' then ['\\', 't']
  else if c = '\n' then ['\\', 'n']
  else if c = '\r' then ['\\', 'r']
  else if c = '\x22' then ['\\', '\x22']
  else if c = '\\' then ['\\', '\\']
  else if isPrintable c then [c]
  else ['\\', 'u', '\x7b'] ++ hexNumber c.toNat ++ ['\x7d']

def quoted (s : String) : String :=
  String.ofList ('\x22' :: s.toList.flatMap quotedChar ++ ['\x22'])

end AirUpdate.Text
