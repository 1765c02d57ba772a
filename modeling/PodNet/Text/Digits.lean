/-!
# Digits

Numbers are read digit by digit. What counts as a digit is a function, so that one reader serves
decimal and hexadecimal numbers.
-/

namespace PodNet.Text

/-- The number that digits write in a base. -/
def digitsValue (base : Nat) (digit : Char → Option Nat) (s : List Char) : Option Nat :=
  s.foldlM (fun n c => (digit c).map (n * base + ·)) 0

/-- The value of a decimal digit. -/
def decimalDigit (c : Char) : Option Nat :=
  if c.isDigit then some (c.toNat - '0'.toNat) else none

/-- The value of a hexadecimal digit. -/
def hexDigit (c : Char) : Option Nat :=
  if c.isDigit then some (c.toNat - '0'.toNat)
  else if 'a' ≤ c && c ≤ 'f' then some (c.toNat - 'a'.toNat + 10)
  else if 'A' ≤ c && c ≤ 'F' then some (c.toNat - 'A'.toNat + 10)
  else none

end PodNet.Text
