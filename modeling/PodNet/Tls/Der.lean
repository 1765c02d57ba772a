import PodNet.Text.Utf8

/-!
# Distinguished encoding

Certificates and keys are nested values, each with a tag, a length and content. A length has one
form only, the shortest. A reader takes values from the front of the bytes; what a value holds is
read by a reader of its own, which must use it up.
-/

namespace PodNet.Tls.Der

/-- The tags of the values that matter here. -/
inductive Tag where
  | bool
  | integer
  | bits
  | octets
  | objectId
  | sequence
  /-- A value marked by a number of its own, around another one. -/
  | marked (n : UInt8)
  deriving Repr, DecidableEq

/-- The byte that stands for a tag. -/
def Tag.byte : Tag → UInt8
  | bool => 0x01
  | integer => 0x02
  | bits => 0x03
  | octets => 0x04
  | objectId => 0x06
  | sequence => 0x30
  | marked n => 0xa0 + n

/-- A length, in the shortest form, and the bytes after it. -/
def length? : Bytes → Option (Nat × Bytes)
  | [] => none
  | b :: rest =>
    if b < 0x80 then some (b.toNat, rest)
    else
      let count := b.toNat - 0x80
      let digits := rest.take count
      let n := digits.foldl (fun n d => n * 256 + d.toNat) 0
      if count = 0 ∨ 4 < count ∨ digits.length < count ∨ digits.head? = some 0 ∨ n < 0x80 then none
      else some (n, rest.drop count)

/-- The content of a value with the tag, and the bytes after the value. -/
def value? (tag : Tag) : Bytes → Option (Bytes × Bytes)
  | [] => none
  | b :: rest =>
    if b ≠ tag.byte then none
    else
      match length? rest with
      | some (n, rest) => if rest.length < n then none else some (rest.take n, rest.drop n)
      | none => none

/-- A value whose content is read by a reader that uses it up. -/
def nested? {α : Type} (tag : Tag) (read : Bytes → Option (α × Bytes)) (b : Bytes) :
    Option (α × Bytes) := do
  let (content, rest) ← value? tag b
  match ← read content with
  | (a, []) => return (a, rest)
  | _ => none

/-- The contents of values with the tags, one after the other, and the bytes after them. -/
def values? : List Tag → Bytes → Option (List Bytes × Bytes)
  | [], b => some ([], b)
  | tag :: tags, b => do
    let (content, rest) ← value? tag b
    let (others, rest) ← values? tags rest
    return (content :: others, rest)

/-- The contents of values with one tag that fill the bytes, at most as many as the budget says. -/
def repeated? (tag : Tag) : Nat → Bytes → Option (List Bytes)
  | _, [] => some []
  | 0, _ => none
  | budget + 1, b =>
    match value? tag b with
    | some (content, rest) => (repeated? tag budget rest).map (content :: ·)
    | none => none

end PodNet.Tls.Der
