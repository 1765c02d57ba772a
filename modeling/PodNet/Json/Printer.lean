import PodNet.Json.Basic
import PodNet.Decimal.Shortest

/-!
# Writing JSON

The compact form has no blanks at all. The pretty form puts every item and member on a line of its
own, indented by two spaces a level, with empty containers closed at once. Strings escape the quote,
the backslash and the controls; everything else stands for itself. Integers are written in decimal;
a double is written with the fewest digits that read back, positionally while the exponent of its
leading digit is from -5 to 15, and always so that it reads as no integer.
-/

namespace PodNet.Json

/-- The digits of a natural number. -/
def decimalDigits (n : Nat) : List Char :=
  Nat.toDigits 10 n

/-- The digits of an integer, after its sign if it is negative. -/
def intChars (n : Int) : List Char :=
  if n < 0 then '-' :: decimalDigits n.natAbs else decimalDigits n.natAbs

/-- A positive decimal, laid out. -/
def decimalChars (d : Decimal.Scientific) : List Char :=
  let digits := decimalDigits d.digits
  let lead := d.exponent + digits.length - 1
  if d.digits = 0 then ['0', '.', '0']
  else if -5 ≤ lead && lead ≤ 15 then
    if 0 ≤ d.exponent then
      digits ++ List.replicate d.exponent.toNat '0' ++ ['.', '0']
    else if 0 ≤ lead then
      digits.take (lead.toNat + 1) ++ '.' :: digits.drop (lead.toNat + 1)
    else
      ['0', '.'] ++ List.replicate (-lead - 1).toNat '0' ++ digits
  else
    let sign := if lead < 0 then '-' else '+'
    let fraction := match digits.drop 1 with
      | [] => []
      | rest => '.' :: rest
    digits.take 1 ++ fraction ++ 'e' :: sign :: decimalDigits lead.natAbs

/-- A double. -/
def floatChars (bits : UInt64) : List Char :=
  let digits := decimalChars (Decimal.Binary.ofBits bits).shortest
  if bits >>> 63 = 1 then '-' :: digits else digits

/-- A number. -/
def numberChars : Number → List Char
  | .int n => intChars n
  | .float bits => floatChars bits

/-- One hexadecimal digit, in lower case. -/
def hexDigit (n : Nat) : Char :=
  Nat.digitChar (n % 16)

/-- A character inside a string. -/
def escapedChar (c : Char) : List Char :=
  if c = '"' then ['\\', '"']
  else if c = '\\' then ['\\', '\\']
  else if c = '\x08' then ['\\', 'b']
  else if c = '\x0c' then ['\\', 'f']
  else if c = '\n' then ['\\', 'n']
  else if c = '\r' then ['\\', 'r']
  else if c = '\t' then ['\\', 't']
  else if c.toNat < 0x20 then
    ['\\', 'u', '0', '0', hexDigit (c.toNat / 16), hexDigit c.toNat]
  else [c]

/-- A string with its quotes. -/
def stringChars (s : String) : List Char :=
  '"' :: (s.toList.flatMap escapedChar ++ ['"'])

mutual

/-- The compact form of a value. -/
def compactChars : Json → List Char
  | null => ['n', 'u', 'l', 'l']
  | bool true => ['t', 'r', 'u', 'e']
  | bool false => ['f', 'a', 'l', 's', 'e']
  | num n => numberChars n
  | str s => stringChars s
  | arr items => '[' :: (compactItems items ++ [']'])
  | obj members => '\x7b' :: (compactMembers members ++ ['\x7d'])

/-- The compact form of the items of an array, with commas between them. -/
def compactItems : List Json → List Char
  | [] => []
  | [v] => compactChars v
  | v :: w :: l => compactChars v ++ ',' :: compactItems (w :: l)

/-- The compact form of the members of an object, with commas between them. -/
def compactMembers : List (String × Json) → List Char
  | [] => []
  | [(k, v)] => stringChars k ++ ':' :: compactChars v
  | (k, v) :: m :: l => stringChars k ++ ':' :: (compactChars v ++ ',' :: compactMembers (m :: l))

end

/-- A new line with the indentation of a level. -/
def newline (level : Nat) : List Char :=
  '\n' :: List.replicate (2 * level) ' '

mutual

/-- The pretty form of a value that stands on a level. -/
def prettyChars (level : Nat) : Json → List Char
  | arr [] => ['[', ']']
  | arr (v :: l) => '[' :: (prettyItems (level + 1) (v :: l) ++ newline level ++ [']'])
  | obj [] => ['\x7b', '\x7d']
  | obj (m :: l) => '\x7b' :: (prettyMembers (level + 1) (m :: l) ++ newline level ++ ['\x7d'])
  | null => compactChars null
  | bool b => compactChars (bool b)
  | num n => compactChars (num n)
  | str s => compactChars (str s)

/-- The pretty form of the items of an array. -/
def prettyItems (level : Nat) : List Json → List Char
  | [] => []
  | [v] => newline level ++ prettyChars level v
  | v :: w :: l => newline level ++ prettyChars level v ++ ',' :: prettyItems level (w :: l)

/-- The pretty form of the members of an object. -/
def prettyMembers (level : Nat) : List (String × Json) → List Char
  | [] => []
  | [(k, v)] => newline level ++ stringChars k ++ [':', ' '] ++ prettyChars level v
  | (k, v) :: m :: l =>
    newline level ++ stringChars k ++ [':', ' '] ++ prettyChars level v ++
      ',' :: prettyMembers level (m :: l)

end

/-- The text of a value without blanks. -/
def compact (v : Json) : String :=
  String.ofList (compactChars v)

/-- The text of a value with one item or member a line. -/
def pretty (v : Json) : String :=
  String.ofList (prettyChars 0 v)

end PodNet.Json
