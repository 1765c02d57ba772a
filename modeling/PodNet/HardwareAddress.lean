import PodNet.Text.Split

/-!
# Hardware addresses

The address of a network card has 6, 8 or 20 bytes. It is written in groups of two hexadecimal
digits, with colons or with hyphens between them, or in groups of four with dots between them.
-/

namespace PodNet.HardwareAddress

/-- Is the character an ASCII hexadecimal digit? -/
def isHexDigit (c : Char) : Bool :=
  c.isDigit || ('a' ≤ c && c ≤ 'f') || ('A' ≤ c && c ≤ 'F')

/-- Is the text a group of so many hexadecimal digits? -/
def isGroup (digits : Nat) (s : List Char) : Bool :=
  s.length == digits && s.all isHexDigit

/-- Do the characters write a hardware address? The separator is a dot if there is one, else a colon
if there is one, else a hyphen. -/
def isValidChars (s : List Char) : Bool :=
  if s.contains '.' then
    let groups := Text.pieces '.' s
    [3, 4, 10].contains groups.length && groups.all (isGroup 4)
  else
    let groups := Text.pieces (if s.contains ':' then ':' else '-') s
    [6, 8, 20].contains groups.length && groups.all (isGroup 2)

/-- Does the text write a hardware address? -/
def isValid (s : String) : Bool :=
  isValidChars s.toList

end PodNet.HardwareAddress
