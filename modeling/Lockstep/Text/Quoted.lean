import Lockstep.Text.Printable

/-!
# Quoted text

A text between double quotes in which every line break, quote, backslash and character that is not
printable is written as an escape, so that it stays on one line.
-/

namespace Lockstep.Quoted

/-- One character within the quotes. -/
def escape (c : Char) : List Char :=
  if c = '\x00' then ['\\', '0']
  else if c = '\t' then ['\\', 't']
  else if c = '\r' then ['\\', 'r']
  else if c = '\n' then ['\\', 'n']
  else if c = '"' then ['\\', '"']
  else if c = '\\' then ['\\', '\\']
  else if Text.isPrintable c then [c]
  else ['\\', 'u', '{'] ++ Nat.toDigits 16 c.toNat ++ ['}']

def encode (s : List Char) : List Char := '"' :: s.flatMap escape ++ ['"']

end Lockstep.Quoted
