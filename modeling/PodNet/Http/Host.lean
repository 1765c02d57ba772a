import PodNet.Text.Digits
import PodNet.Text.Split
import PodNet.Text.Styled
import PodNet.Text.Utf8

/-!
# Hosts

A host is named, or given by its number. The number may be written in one to four parts between dots,
of which each but the last is one byte and the last fills up what is left: `127.1` is `127.0.0.1`. A
part is decimal, or octal behind a zero, or hexadecimal behind `0x`.

In an address that a person wrote, a host may also be escaped, and its letters and digits may be of
another style.
-/

namespace PodNet.Http.Host

/-! ### Numbers -/

/-- The value of an octal digit. -/
def octalDigit (c : Char) : Option Nat :=
  (Text.decimalDigit c).filter fun n => n < 8

/-- One part of a number. -/
def part? : List Char → Option Nat
  | [] => none
  | '0' :: 'x' :: digits => Text.digitsValue 16 Text.hexDigit digits
  | '0' :: 'X' :: digits => Text.digitsValue 16 Text.hexDigit digits
  | '0' :: digits => Text.digitsValue 8 octalDigit digits
  | digits => Text.digitsValue 10 Text.decimalDigit digits

/-- The number of parts, given what the parts before have filled and how many more are allowed. -/
def combined? (filled : Nat) : Nat → List Nat → Option Nat
  | _, [] => none
  | 0, _ => none
  | allowed + 1, [n] =>
    let room := Nat.pow 256 (allowed + 1)
    if n < room then some (filled * room + n) else none
  | allowed + 1, n :: rest => if n < 256 then combined? (filled * 256 + n) allowed rest else none

/-- The number that is written in parts. -/
def number? (parts : List (List Char)) : Option Nat :=
  (parts.mapM part?).bind (combined? 0 4)

/-- The number of a host in the usual form: four decimal parts. -/
def dotted (n : Nat) : String :=
  Text.join "." ([n / 16777216, n / 65536 % 256, n / 256 % 256, n % 256].map toString)

/-- The usual form of the number that the characters write, if they write one; a bare `0x` is no
part here. -/
def numeric? (s : List Char) : Option String :=
  let parts := Text.pieces '.' s
  if parts.any fun p => p.map Char.toLower == ['0', 'x'] then none else (number? parts).map dotted

/-! ### Hosts of written addresses -/

/-- The bytes with escapes resolved. -/
def unescape : Bytes → Bytes
  | 0x25 :: a :: b :: rest =>
    match Text.hexDigit (Char.ofNat a.toNat), Text.hexDigit (Char.ofNat b.toNat) with
    | some x, some y => UInt8.ofNat (x * 16 + y) :: unescape rest
    | _, _ => 0x25 :: unescape (a :: b :: rest)
  | b :: rest => b :: unescape rest
  | [] => []

/-- The characters that may not stand in a host, controls and blanks aside. -/
def forbidden : List Char := "%#/:<>?@[\\]^|".toList

/-- May the character stand in a host? -/
def isAllowed (c : Char) : Bool :=
  0x20 < c.toNat && c.toNat ≠ 0x7f && !forbidden.contains c

/-- The parts that count: without an empty one at the end. -/
def countedParts (s : List Char) : List (List Char) :=
  let parts := Text.pieces '.' s
  if parts.getLast? = some [] then parts.dropLast else parts

/-- Does the last part look like a number, so that the host must be one? -/
def endsInNumber (s : List Char) : Bool :=
  (countedParts s).getLast?.any fun part =>
    !part.isEmpty && part.all Char.isDigit || (part? part).isSome

/-- The host that characters write, in lower case and with a number in the usual form. -/
def ofChars? (s : List Char) : Option String :=
  if s.head? = some '[' then
    if s.getLast? = some ']' then some (String.ofList (s.map Char.toLower)) else none
  else
    match Bytes.toString? (unescape (Bytes.ofString (String.ofList s))) with
    | none => none
    | some text =>
      let name := text.toList.flatMap Text.plain
      if name.isEmpty || !name.all isAllowed then none
      else if endsInNumber name then (number? (countedParts name)).map dotted
      else some (String.ofList name)

end PodNet.Http.Host
