/-!
# Letters and digits of other styles

The letters and digits of ASCII exist in other styles too: wide, raised, lowered, in circles, and in
the alphabets of mathematics. In names of hosts they stand for the plain ones, in lower case, and
some characters there mean nothing at all. The tables list whole alphabets and rows of digits; letters
that exist in a style one by one are left out.
-/

namespace PodNet.Text

/-- Where an alphabet of 26 letters begins. -/
def styledAlphabets : List Nat :=
  [0x24b6, 0x24d0, 0xff21, 0xff41, 0x1d400, 0x1d41a, 0x1d434, 0x1d468, 0x1d482, 0x1d4d0, 0x1d4ea,
   0x1d51e, 0x1d552, 0x1d56c, 0x1d586, 0x1d5a0, 0x1d5ba, 0x1d5d4, 0x1d5ee, 0x1d608, 0x1d622,
   0x1d63c, 0x1d656, 0x1d670, 0x1d68a, 0x1ccd6, 0x1f130]

/-- Where a row of digits begins, how many there are, and the first of them. -/
def styledDigits : List (Nat × Nat × Nat) :=
  [(0xb2, 2, 2), (0xb9, 1, 1), (0x2070, 1, 0), (0x2074, 6, 4), (0x2080, 10, 0), (0x2460, 9, 1),
   (0x24ea, 1, 0), (0xff10, 10, 0), (0x1d7ce, 10, 0), (0x1d7d8, 10, 0), (0x1d7e2, 10, 0),
   (0x1d7ec, 10, 0), (0x1d7f6, 10, 0), (0x1ccf0, 10, 0), (0x1fbf0, 10, 0)]

/-- Full stops of other scripts and styles. -/
def styledStops : List Nat :=
  [0x2024, 0x3002, 0xfe52, 0xff0e, 0xff61]

/-- The ranges of characters that mean nothing in the name of a host. -/
def meaningless : List (Nat × Nat) :=
  [(0xad, 0xad), (0x34f, 0x34f), (0x115f, 0x1160), (0x17b4, 0x17b5), (0x180b, 0x180f),
   (0x200b, 0x200b), (0x2060, 0x2064), (0x206a, 0x206f), (0x3164, 0x3164), (0xfe00, 0xfe0f),
   (0xfeff, 0xfeff), (0xffa0, 0xffa0), (0x1bca0, 0x1bca3), (0xe0100, 0xe01ef)]

/-- The plain letter of a styled one. -/
def plainLetter? (n : Nat) : Option Char :=
  (styledAlphabets.find? fun start => start ≤ n && n < start + 26).map fun start =>
    Char.ofNat ('a'.toNat + (n - start))

/-- The plain digit of a styled one. -/
def plainDigit? (n : Nat) : Option Char :=
  (styledDigits.find? fun row => row.1 ≤ n && n < row.1 + row.2.1).map fun row =>
    Char.ofNat ('0'.toNat + row.2.2 + (n - row.1))

/-- What a character stands for in the name of a host. -/
def plain (c : Char) : List Char :=
  let n := c.toNat
  if n < 0x80 then [c.toLower]
  else if meaningless.any fun r => r.1 ≤ n && n ≤ r.2 then []
  else if styledStops.contains n then ['.']
  else [((plainLetter? n).or (plainDigit? n)).getD c]

end PodNet.Text
