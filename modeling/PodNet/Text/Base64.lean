import PodNet.Text.Blank
import PodNet.Text.Utf8

/-!
# Base64

Bytes in text: four digits of six bits each stand for three bytes. There are two ways to read it:

* `decode?` passes over blanks between digits, and the padding at the end may be left out; where it
  stands it must fill up the last four.
* `decodeStrict?` takes the one form that writing gives: padded, without blanks, and with no bit set
  beyond the last byte.
-/

namespace PodNet.Text.Base64

/-- The value of a digit. -/
def digit? (b : UInt8) : Option Nat :=
  let n := b.toNat
  if 0x41 ≤ n && n ≤ 0x5a then some (n - 0x41)
  else if 0x61 ≤ n && n ≤ 0x7a then some (n - 0x61 + 26)
  else if 0x30 ≤ n && n ≤ 0x39 then some (n - 0x30 + 52)
  else if n == 0x2b then some 62
  else if n == 0x2f then some 63
  else none

/-- Is the byte the padding? -/
def isPadding (b : UInt8) : Bool := b == 0x3d

/-- The bytes that digits stand for; a single digit at the end stands for none. -/
def pack : List Nat → Option Bytes
  | [] => some []
  | [_] => none
  | [a, b] => some [UInt8.ofNat (a * 4 + b / 16)]
  | [a, b, c] => some [UInt8.ofNat (a * 4 + b / 16), UInt8.ofNat (b % 16 * 16 + c / 4)]
  | a :: b :: c :: d :: rest =>
    (pack rest).map fun bytes =>
      UInt8.ofNat (a * 4 + b / 16) :: UInt8.ofNat (b % 16 * 16 + c / 4) ::
        UInt8.ofNat (c % 4 * 64 + d) :: bytes

/-- The text without the padding at its end. -/
def unpadded (text : Bytes) : Bytes :=
  (text.reverse.dropWhile isPadding).reverse

/-- Is the byte a blank between digits: a space, or a control from the tab to the carriage return? -/
def isGap (b : UInt8) : Bool :=
  b == 32 || (9 ≤ b && b ≤ 13)

/-- Decodes text with blanks in it, padded or not. -/
def decode? (text : Bytes) : Option Bytes :=
  let text := text.filter fun b => !isGap b
  let digits := unpadded text
  let padding := text.length - digits.length
  if padding = 0 ∨ padding ≤ 2 ∧ text.length % 4 = 0 then (digits.mapM digit?).bind pack else none

/-- Do digits leave no bit over beyond the last byte that they stand for? -/
def isExact (digits : List Nat) : Bool :=
  match digits.length % 4 with
  | 2 => digits.getLast?.all fun d => d % 16 == 0
  | 3 => digits.getLast?.all fun d => d % 4 == 0
  | _ => true

/-- Decodes text in the form that writing gives. -/
def decodeStrict? (text : Bytes) : Option Bytes :=
  let digits := unpadded text
  if text.length % 4 ≠ 0 ∨ digits.length + 2 < text.length then none
  else
    match digits.mapM digit? with
    | some values => if isExact values then pack values else none
    | none => none

end PodNet.Text.Base64
