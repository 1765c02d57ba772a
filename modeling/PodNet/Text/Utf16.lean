import PodNet.Text.Utf8

/-!
# Text in units of two bytes

A file that begins with a mark of the order of its bytes is text in units of two bytes, of which two
stand for a character beyond the first plane. A file may also begin with the same mark in UTF-8.
Without a mark it is plain UTF-8.
-/

namespace PodNet.Text

/-- The units of bytes, given the value of two bytes. -/
def units? (value : UInt8 → UInt8 → Nat) : Bytes → Option (List Nat)
  | [] => some []
  | [_] => none
  | a :: b :: rest => (units? value rest).map (value a b :: ·)

/-- The characters that units stand for. A unit from the upper half of the surrogates must be followed
by one from the lower half, which must not stand alone. -/
def charsOfUnits? : List Nat → Option (List Char)
  | [] => some []
  | n :: rest =>
    if 0xdc00 ≤ n && n ≤ 0xdfff then none
    else if 0xd800 ≤ n && n ≤ 0xdbff then
      match rest with
      | m :: rest =>
        if 0xdc00 ≤ m && m ≤ 0xdfff then
          (charsOfUnits? rest).map fun s =>
            Char.ofNat ((n - 0xd800) * 0x400 + (m - 0xdc00) + 0x10000) :: s
        else none
      | [] => none
    else (charsOfUnits? rest).map (Char.ofNat n :: ·)

/-- The text of a file, whatever mark it begins with. -/
def ofMarked? : Bytes → Option String
  | 0xff :: 0xfe :: rest =>
    ((units? (fun a b => a.toNat + 256 * b.toNat) rest).bind charsOfUnits?).map String.ofList
  | 0xfe :: 0xff :: rest =>
    ((units? (fun a b => 256 * a.toNat + b.toNat) rest).bind charsOfUnits?).map String.ofList
  | 0xef :: 0xbb :: 0xbf :: rest => Bytes.toString? rest
  | b => Bytes.toString? b

end PodNet.Text
